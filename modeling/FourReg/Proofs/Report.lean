import FourReg.Proofs.Run
import FourReg.Report
/-!
# Faults in reports

A report takes its fault from the outcome of the run and its status from the machine. The two agree
on a run that faults the machine. A machine that was faulted before completes no cycle, so the run on
it goes well, and the report gives the status but no fault.
-/

namespace FourReg

namespace Machine

theorem runAndReport_eq_some {machine : Machine} {bound : Nat} {reported : ReportedRun}
    {report : Report} (hreported : machine.runAndReport bound = some reported)
    (hreport : reported.report = some report) :
    machine.program.isEmpty = false ∧
      ∃ run, machine.run bound = some run ∧ reported.machine = run.machine ∧
        Report.ofRun? run.machine run.outcome = some report := by
  unfold runAndReport at hreported
  split at hreported
  · cases hreported
    cases hreport
  · rename_i hprogram
    obtain ⟨run, hrun, rfl⟩ := Option.map_eq_some_iff.mp hreported
    exact ⟨by simpa using hprogram, run, hrun, rfl, hreport⟩

end Machine

namespace Report

theorem ofRun?_eq_some {machine : Machine} {outcome : Except MachineError Nat} {report : Report}
    (hreport : ofRun? machine outcome = some report) :
    machine.program.isEmpty = false ∧ report.status = machine.status ∧
      report.cycles = machine.cycles ∧ report.registers = machine.registers ∧
      (report.isFault = true ↔ ∃ error, outcome = .error error) := by
  unfold ofRun? at hreport
  split at hreport
  · cases hreport
  · rename_i hprogram
    cases hreport
    refine ⟨by simpa using hprogram, rfl, rfl, rfl, ?_⟩
    cases outcome with
    | ok count => simp [isFault]
    | error error => simp [isFault]

theorem fault_none_eq_self_iff {report : Report} :
    { report with fault := none } = report ↔ report.isFault = false := by
  obtain ⟨status, cycles, registers, fault⟩ := report
  cases fault with
  | none => simp [isFault]
  | some message => simp [isFault]

end Report

namespace Machine

/-- A run goes wrong exactly when it takes a running machine to a faulted one. -/
theorem run_error_iff {machine : Machine} {bound : Nat} {run : Run}
    (hrun : machine.run bound = some run) :
    (∃ error, run.outcome = .error error) ↔
      machine.status = .running ∧ run.machine.status = .faulted := by
  by_cases hstatus : machine.status = .running
  · rw [faulted_run_iff hstatus hrun]
    simp [hstatus]
  · rw [run_of_stopped bound hstatus] at hrun
    cases hrun
    simp [hstatus]

theorem runAndReport_of_stopped {machine : Machine} (bound : Nat)
    (hstatus : machine.status ≠ .running) (hprogram : machine.program.isEmpty = false) :
    machine.runAndReport bound = some
      { report := some
          { status := machine.status
            cycles := machine.cycles
            registers := machine.registers
            fault := none }
        machine
        records := #[.started machine.program.size] } := by
  have hnot : ¬ machine.program.isEmpty = true := by simp [hprogram]
  rw [runAndReport, if_neg hnot, run_of_stopped bound hstatus, Option.map_some, Report.ofRun?,
    if_neg hnot]

section Reported

variable {machine : Machine} {bound : Nat} {reported : ReportedRun} {report : Report}

theorem isFault_of_reported (hreported : machine.runAndReport bound = some reported)
    (hreport : reported.report = some report) :
    report.isFault = true ↔ machine.status = .running ∧ report.status = .faulted := by
  obtain ⟨_, run, hrun, _, hcapture⟩ := runAndReport_eq_some hreported hreport
  obtain ⟨_, hstatus, _, _, hflag⟩ := Report.ofRun?_eq_some hcapture
  rw [hflag, run_error_iff hrun, hstatus]

theorem status_of_reported (hreported : machine.runAndReport bound = some reported)
    (hreport : reported.report = some report) (hstopped : machine.status ≠ .running) :
    report.status = machine.status := by
  obtain ⟨_, run, hrun, _, hcapture⟩ := runAndReport_eq_some hreported hreport
  obtain ⟨_, hstatus, _⟩ := Report.ofRun?_eq_some hcapture
  rw [run_of_stopped bound hstopped] at hrun
  cases hrun
  exact hstatus

/-- The flag and the status of a report agree unless the machine was faulted before. -/
theorem flag_agrees_iff (hreported : machine.runAndReport bound = some reported)
    (hreport : reported.report = some report) :
    (report.isFault = true ↔ report.status = .faulted) ↔ machine.status ≠ .faulted := by
  have hfault := isFault_of_reported hreported hreport
  by_cases hrunning : machine.status = .running
  · rw [hfault]
    simp [hrunning]
  · have hnot : ¬ report.isFault = true := fun hflagged => hrunning (hfault.mp hflagged).1
    rw [status_of_reported hreported hreport hrunning, iff_false_left hnot]

/-- A second report repeats the first without its fault. -/
theorem report_again (hreported : machine.runAndReport bound = some reported)
    (hreport : reported.report = some report) (again : Nat) :
    ∃ repeated, reported.machine.runAndReport again = some repeated ∧
      repeated.machine = reported.machine ∧
      repeated.report = some { report with fault := none } := by
  obtain ⟨_, run, hrun, hmachine, hcapture⟩ := runAndReport_eq_some hreported hreport
  obtain ⟨hprogram, hstatus, hcycles, hregisters, _⟩ := Report.ofRun?_eq_some hcapture
  rw [hmachine]
  refine ⟨_, runAndReport_of_stopped again (status_run hrun) hprogram, rfl, ?_⟩
  rw [hstatus, hcycles, hregisters]

theorem run_of_reported (hreported : machine.runAndReport bound = some reported)
    (hreport : reported.report = some report) {run : Run} (hrun : machine.run bound = some run) :
    run.machine.status = report.status ∧
      ((∃ error, run.outcome = .error error) ↔ report.isFault = true) := by
  obtain ⟨_, other, hother, _, hcapture⟩ := runAndReport_eq_some hreported hreport
  cases hrun.symm.trans hother
  obtain ⟨hstatus, _, _, hflag⟩ := (Report.ofRun?_eq_some hcapture).2
  exact ⟨hstatus.symm, hflag.symm⟩

theorem repeats_iff (hreported : machine.runAndReport bound = some reported)
    (hreport : reported.report = some report) :
    (∀ again repeated, reported.machine.runAndReport again = some repeated →
      repeated.report = some report) ↔ report.isFault = false := by
  have hagain := report_again hreported hreport
  rw [← Report.fault_none_eq_self_iff]
  constructor
  · intro hsame
    obtain ⟨repeated, hrepeated, _, hsecond⟩ := hagain 0
    have hequal := hsecond.symm.trans (hsame 0 repeated hrepeated)
    exact Option.some.inj hequal
  · intro hequal again repeated hrepeated
    obtain ⟨other, hother, _, hsecond⟩ := hagain again
    cases hrepeated.symm.trans hother
    rw [hsecond, hequal]

/-- A report flags a fault exactly when its run took a running machine to a faulted one. So flag and
status agree unless the machine was faulted before, and a second report is equal to the first unless
that one flags a fault. Both are so exactly when the reported status is not that of a fault. -/
theorem report_isFault_iff (hreported : machine.runAndReport bound = some reported)
    (hreport : reported.report = some report) :
    (report.isFault = true ↔ machine.status = .running ∧ report.status = .faulted) ∧
    (∀ run, machine.run bound = some run →
      run.machine.status = report.status ∧
      ((∃ error, run.outcome = .error error) ↔ report.isFault = true)) ∧
    ((report.isFault = true ↔ report.status = .faulted) ↔ machine.status ≠ .faulted) ∧
    (∀ again, ∃ repeated, reported.machine.runAndReport again = some repeated ∧
      repeated.machine = reported.machine ∧
      repeated.report = some { report with fault := none } ∧
      (repeated.report = some report ↔ report.isFault = false)) ∧
    ((report.isFault = true ↔ report.status = .faulted) ∧
      (∀ again repeated, reported.machine.runAndReport again = some repeated →
        repeated.report = some report) ↔
      report.status ≠ .faulted) := by
  have hfault := isFault_of_reported hreported hreport
  refine ⟨hfault, fun run => run_of_reported hreported hreport, flag_agrees_iff hreported hreport,
    fun again => ?_, ?_⟩
  · obtain ⟨repeated, hrepeated, hmachine, hsecond⟩ := report_again hreported hreport again
    refine ⟨repeated, hrepeated, hmachine, hsecond, ?_⟩
    rw [hsecond, Option.some.injEq, Report.fault_none_eq_self_iff]
  · rw [repeats_iff hreported hreport]
    constructor
    · intro ⟨hagree, hflag⟩ hfaulted
      rw [hagree.mpr hfaulted] at hflag
      cases hflag
    · intro hstatus
      have hflag : report.isFault = false := by
        rw [← Bool.not_eq_true, hfault]
        exact fun hboth => hstatus hboth.2
      exact ⟨by simp [hflag, hstatus], hflag⟩

end Reported

/-- A program of one instruction, which refers to register 5. -/
def faultAtOnce : Program :=
  ⟨#[⟨0, 0, 5, 1⟩]⟩

theorem report_isFault_iff_faultAtOnce :
    ∃ reported report, (load faultAtOnce).runAndReport 1 = some reported ∧
      reported.report = some report ∧ report.isFault = true ∧ report.status = .faulted ∧
      ∀ again, ∃ repeated, reported.machine.runAndReport again = some repeated ∧
        repeated.report = some { report with fault := none } := by
  obtain ⟨reported, report, hreported, hreport, hflag⟩ :
      ∃ reported report, (load faultAtOnce).runAndReport 1 = some reported ∧
        reported.report = some report ∧ report.isFault = true := ⟨_, _, rfl, rfl, rfl⟩
  obtain ⟨hfault, _, _, hagain, _⟩ := report_isFault_iff hreported hreport
  refine ⟨reported, report, hreported, hreport, hflag, (hfault.mp hflag).2, fun again => ?_⟩
  obtain ⟨repeated, hrepeated, _, hsecond, _⟩ := hagain again
  exact ⟨repeated, hrepeated, hsecond⟩

/-- The second of two reports on a fault has the status of the first and not its fault. -/
theorem second_report_loses_fault :
    ∃ first second report repeated, (load faultAtOnce).runAndReport 1 = some first ∧
      first.report = some report ∧ report.isFault = true ∧
      first.machine.runAndReport 1 = some second ∧ second.report = some repeated ∧
      repeated.status = .faulted ∧ repeated.isFault = false ∧ repeated ≠ report := by
  refine ⟨_, _, _, _, rfl, rfl, rfl, rfl, rfl, rfl, rfl, ?_⟩
  intro heq
  cases heq

end Machine

end FourReg
