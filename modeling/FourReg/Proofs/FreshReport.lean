import FourReg.Proofs.Executions
import FourReg.Proofs.Repetition
import FourReg.Proofs.Report

/-!
# The report of a loaded machine

A report holds no pointer and no instruction, and still it says where a run came to its end when the
machine was loaded just before. A fault has set register 0 to the address of the instruction that caused
it, and its text names the first offending field of that instruction. A machine that halts has completed a
cycle before, as its program holds an instruction at the address zero; so its pointer is one ahead of
register 0, and it is outside the program.
-/

namespace FourReg

namespace Program

theorem fetch?_eq_none_iff {program : Program} {address : Word} :
    program.fetch? address = none ↔ ¬ (0 ≤ address.toInt ∧ address.toInt < program.size) := by
  unfold fetch?
  by_cases hlower : 0 ≤ address.toInt
  · rw [if_pos hlower, Array.getElem?_eq_none_iff]
    unfold size
    omega
  · simp [hlower]

theorem fetch?_zero_ne_none {program : Program} (hprogram : program.isEmpty = false) :
    program.fetch? 0 ≠ none := by
  have hsize : program.instructions.size ≠ 0 := by
    intro hzero
    rw [isEmpty, Array.isEmpty_iff_size_eq_zero.mpr hzero] at hprogram
    cases hprogram
  rw [Ne, fetch?_eq_none_iff, not_not, Int32.toInt_zero]
  unfold size
  omega

/-- An instruction that a pointer addresses stands at the index that the pointer denotes. -/
theorem exists_index_of_fetch? {program : Program} {address : Word} {instruction : Instruction}
    (hfetch : program.fetch? address = some instruction) :
    ∃ k < program.size, address.toInt = k ∧ program.instructions[k]? = some instruction := by
  obtain ⟨hlower, hupper⟩ := lt_size_of_fetch? (Option.isSome_of_eq_some hfetch)
  have hindex : address.toInt = (address.toInt.toNat : Int) := (Int.toNat_of_nonneg hlower).symm
  rw [fetch?, if_pos hlower] at hfetch
  exact ⟨_, hupper, hindex, hfetch⟩

end Program

namespace Report

theorem fault_of_ofRun? {machine : Machine} {error : MachineError} {report : Report}
    (hreport : ofRun? machine (.error error) = some report) : report.fault = some error.message := by
  unfold ofRun? at hreport
  split at hreport
  · cases hreport
  · cases hreport
    rfl

theorem ofRun?_of_not_isEmpty {machine : Machine} (hprogram : machine.program.isEmpty = false)
    (outcome : Except MachineError Nat) : ∃ report, ofRun? machine outcome = some report := by
  have hnot : ¬ machine.program.isEmpty = true := by simp [hprogram]
  unfold ofRun?
  rw [if_neg hnot]
  exact ⟨_, rfl⟩

end Report

namespace Machine

variable {program : Program} {bound : Nat}

/-- A loaded machine that is run to its end is reported on if there is anything to run. -/
theorem exists_report_of_load (hprogram : program.isEmpty = false) {reported : ReportedRun}
    (hreported : (load program).runAndReport bound = some reported) :
    ∃ run report, (load program).run bound = some run ∧ reported.report = some report ∧
      Report.ofRun? run.machine run.outcome = some report := by
  have hnot : ¬ (load program).program.isEmpty = true := by simp [load, hprogram]
  rw [runAndReport, if_neg hnot] at hreported
  obtain ⟨run, hrun, rfl⟩ := Option.map_eq_some_iff.mp hreported
  have hfinal : run.machine.program.isEmpty = false := by
    rw [program_run hrun]
    exact hprogram
  obtain ⟨report, hreport⟩ := Report.ofRun?_of_not_isEmpty hfinal run.outcome
  exact ⟨run, report, hrun, hreport, hreport⟩

/-- Where a loaded machine halts. -/
theorem halted_run_load (hprogram : program.isEmpty = false) {run : Run}
    (hrun : (load program).run bound = some run) (hhalted : run.machine.status = .halted) :
    1 ≤ run.machine.cycles ∧
      let behind := Word.wrap (run.machine.registers.values 0 + 1)
      ¬ (0 ≤ behind ∧ behind < program.size) := by
  have hreach : Reachable program run.machine := Relation.ReflTransGen.single (.run hrun)
  have hconsistent := hreach.consistent
  have hfetch := hconsistent.halted hhalted
  have hnot : run.machine.status ≠ .faulted := by simp [hhalted]
  have hcycles : 0 < run.machine.cycles := by
    by_contra hzero
    obtain ⟨hip, _⟩ := hconsistent.fresh (Nat.eq_zero_of_not_pos hzero) hnot
    rw [hip] at hfetch
    exact Program.fetch?_zero_ne_none hprogram hfetch
  refine ⟨hcycles, ?_⟩
  have hip : run.machine.ip.toInt = Word.wrap (run.machine.registers.values 0 + 1) := by
    rw [hconsistent.advanced hcycles hnot, Registers.toInt_pointer_succ]
  intro behind
  rw [show behind = run.machine.ip.toInt from hip.symm]
  exact Program.fetch?_eq_none_iff.mp hfetch

/-- What a loaded machine faults on. -/
theorem faulted_run_load {run : Run} (hrun : (load program).run bound = some run)
    (hfaulted : run.machine.status = .faulted) :
    ∃ instruction index, program.fetch? run.machine.registers.pointer = some instruction ∧
      instruction.offending? = some index ∧
      run.outcome = .error (.register (.outOfRange index)) := by
  have hstatus : (load program).status = .running := rfl
  obtain ⟨last, _, hending⟩ := run_ending hstatus hrun
  obtain ⟨instruction, index, hfetch, hoffending, houtcome, hregisters⟩ := hending.of_faulted hfaulted
  refine ⟨instruction, index, ?_, hoffending, houtcome⟩
  rw [hregisters, Registers.pointer_setPointer]
  exact hfetch

/-- The report of a loaded machine says how its run ended, and where. Of an empty program there is no
report, and the machine is left as it was. -/
theorem report_locates_end (program : Program) (bound : Nat) :
    (program.isEmpty = false →
      ∀ reported, (load program).runAndReport bound = some reported →
        ∃ report, reported.report = some report ∧
          (report.status = .halted ∨ report.status = .faulted) ∧
          (report.fault.isSome ↔ report.status = .faulted) ∧
          (report.status = .faulted →
            ∃ k < program.size, report.registers.values 0 = k ∧
              ∃ instruction index, program.instructions[k]? = some instruction ∧
                Opcode.IsOrdinal instruction.opcode ∧ instruction.offending? = some index ∧
                report.fault = some
                  ("register index " ++ Numeral.text index.toInt ++ " out of range (0 to 3)")) ∧
          (report.status = .halted →
            1 ≤ report.cycles ∧
              let behind := Word.wrap (report.registers.values 0 + 1)
              ¬ (0 ≤ behind ∧ behind < program.size))) ∧
    (program.isEmpty = true →
      ∃ reported, (load program).runAndReport bound = some reported ∧ reported.report = none ∧
        reported.machine = load program ∧ reported.machine.status = .running) := by
  refine ⟨fun hprogram reported hreported => ?_, fun hempty => ?_⟩
  · obtain ⟨run, report, hrun, hreport, hcapture⟩ := exists_report_of_load hprogram hreported
    obtain ⟨_, hstatus, hcycles, hregisters, _⟩ := Report.ofRun?_eq_some hcapture
    refine ⟨report, hreport, ?_, ?_, fun hfaulted => ?_, fun hhalted => ?_⟩
    · have hstopped := status_run hrun
      rw [← hstatus] at hstopped
      cases hreported : report.status with
      | running => exact absurd hreported hstopped
      | halted => exact Or.inl rfl
      | faulted => exact Or.inr rfl
    · have hflag := isFault_of_reported hreported hreport
      rw [Report.isFault] at hflag
      rw [hflag]
      exact and_iff_right rfl
    · rw [hstatus] at hfaulted
      obtain ⟨instruction, index, hfetch, hoffending, houtcome⟩ := faulted_run_load hrun hfaulted
      obtain ⟨k, hk, haddress, hget⟩ := Program.exists_index_of_fetch? hfetch
      rw [houtcome] at hcapture
      refine ⟨k, hk, ?_, instruction, index, hget, (Instruction.offending?_spec hoffending).1,
        hoffending, Report.fault_of_ofRun? hcapture⟩
      rw [hregisters, Registers.values_pointer, haddress]
    · rw [hstatus] at hhalted
      rw [hcycles, hregisters]
      exact halted_run_load hprogram hrun hhalted
  · have hload : (load program).program.isEmpty = true := hempty
    rw [runAndReport, if_pos hload]
    exact ⟨_, rfl, rfl, rfl, rfl⟩

/-- A fault behind a jump, a pointer that wraps to the other end of the words, and an empty program. -/
theorem report_locates_end_faultAfterJump :
    (∃ reported report, (load faultAfterJump).runAndReport 2 = some reported ∧
      reported.report = some report ∧ report.registers.values 0 = 2 ∧
      report.fault = some "register index 5 out of range (0 to 3)") ∧
    (∃ reported report, (load ⟨#[⟨4, 0, 2147483647, 0⟩]⟩).runAndReport 2 = some reported ∧
      reported.report = some report ∧ report.registers.values 0 = 2147483647 ∧
      1 ≤ report.cycles ∧ report.fault.isSome = false) ∧
    ∃ reported, (load .empty).runAndReport 0 = some reported ∧ reported.report = none := by
  refine ⟨?_, ?_, ?_⟩
  · obtain ⟨reported, report, hreported, hreport, hstatus, hpointer⟩ :
        ∃ reported report, (load faultAfterJump).runAndReport 2 = some reported ∧
          reported.report = some report ∧ report.status = .faulted ∧
          report.registers.values 0 = 2 := ⟨_, _, rfl, rfl, rfl, rfl⟩
    obtain ⟨same, hsame, _, _, hfault, _⟩ :=
      (report_locates_end faultAfterJump 2).1 rfl reported hreported
    cases hreport.symm.trans hsame
    obtain ⟨k, _, hk, instruction, index, hget, _, hoffending, htext⟩ := hfault hstatus
    obtain rfl : k = 2 := by omega
    cases hget
    cases hoffending
    exact ⟨reported, report, hreported, hreport, hpointer, htext⟩
  · obtain ⟨reported, report, hreported, hreport, hstatus, hpointer⟩ :
        ∃ reported report, (load ⟨#[⟨4, 0, 2147483647, 0⟩]⟩).runAndReport 2 = some reported ∧
          reported.report = some report ∧ report.status = .halted ∧
          report.registers.values 0 = 2147483647 := ⟨_, _, rfl, rfl, rfl, rfl⟩
    obtain ⟨same, hsame, _, hflag, _, hhalts⟩ :=
      (report_locates_end ⟨#[⟨4, 0, 2147483647, 0⟩]⟩ 2).1 rfl reported hreported
    cases hreport.symm.trans hsame
    refine ⟨reported, report, hreported, hreport, hpointer, (hhalts hstatus).1, ?_⟩
    rw [← Bool.not_eq_true, hflag, hstatus]
    decide
  · obtain ⟨reported, hreported, hnone, _⟩ := (report_locates_end .empty 0).2 rfl
    exact ⟨reported, hreported, hnone⟩

end Machine

end FourReg
