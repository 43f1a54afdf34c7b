import FourReg.Proofs.Executions

/-!
# The log of a run

A run announces itself. Then each cycle logs the instruction that it fetches before it is executed, and
once more if the opcode is unknown; the last cycle logs why there is none after it. So the log has an entry
for each instruction that was executed or was found to be at fault, and it says what became of the run.

An entry is a record as it is shown, with its level and its message. The records of a cycle are told apart
by the cycle's constructors (`entries_of_execution?`), and those of a run are gathered from its cycles.
-/

namespace FourReg

def Record.entry (record : Record) : Level × String :=
  (record.level, record.message)

def Run.entries (run : Run) : List (Level × String) :=
  run.records.toList.map Record.entry

/-- How often a run went wrong, which is once if at all. -/
def Run.faults (run : Run) : Nat :=
  match run.outcome with
  | .ok _ => 0
  | .error _ => 1

/-- The opcode is not among those from 0 to 11. -/
def Instruction.Unknown (instruction : Instruction) : Prop :=
  instruction.opcode.toInt < 0 ∨ 11 < instruction.opcode.toInt

instance : DecidablePred Instruction.Unknown :=
  fun instruction => inferInstanceAs
    (Decidable (instruction.opcode.toInt < 0 ∨ 11 < instruction.opcode.toInt))

theorem Instruction.isNone_ofOrdinal?_iff {instruction : Instruction} :
    (Opcode.ofOrdinal? instruction.opcode).isNone = true ↔ instruction.Unknown := by
  rw [Option.isNone_iff_eq_none, Opcode.ofOrdinal?_eq_none_iff, Opcode.IsOrdinal, Unknown]
  omega

/-! ### The entries of the log -/

def startedEntry (size : Nat) : Level × String :=
  (.debug, "running " ++ Numeral.text size ++ " instructions")

/-- The instruction that was fetched, and the registers on which it is executed. -/
def fetchedEntry (ip : Word) (instruction : Instruction) (registers : Registers) : Level × String :=
  (.trace, "ip=" ++ Numeral.text ip.toInt ++
    " Instruction \x7b opcode: " ++ Numeral.text instruction.opcode.toInt ++
    ", a: " ++ Numeral.text instruction.a.toInt ++ ", b: " ++ Numeral.text instruction.b.toInt ++
    ", c: " ++ Numeral.text instruction.c.toInt ++ " \x7d regs=[" ++
    Numeral.text (registers.values 0) ++ " " ++ Numeral.text (registers.values 1) ++ " " ++
    Numeral.text (registers.values 2) ++ " " ++ Numeral.text (registers.values 3) ++ "]")

def skippedEntry (opcode ip : Word) : Level × String :=
  (.warn, "unknown opcode " ++ Numeral.text opcode.toInt ++ " at ip " ++ Numeral.text ip.toInt ++
    ", skipping")

def haltedEntry (ip : Word) (size cycles : Nat) : Level × String :=
  (.debug, "halted: ip " ++ Numeral.text ip.toInt ++ " outside 0.." ++ Numeral.text size ++
    " after " ++ Numeral.text cycles ++ " cycles")

def faultedEntry (ip : Word) (error : MachineError) : Level × String :=
  (.debug, "faulted at ip " ++ Numeral.text ip.toInt ++ ": " ++ error.message)

theorem entry_fetched (ip : Word) (instruction : Instruction) (registers : Registers) :
    (Record.fetched ip instruction registers).entry = fetchedEntry ip instruction registers := by
  unfold Record.entry Record.level Record.message fetchedEntry Registers.text
  simp only [Registers.join_eq, ← String.append_assoc]

namespace Execution

/-- What is logged of a completed cycle. -/
def entries (execution : Execution) : List (Level × String) :=
  fetchedEntry execution.ip execution.instruction execution.entry ::
    if execution.instruction.Unknown then
      [skippedEntry execution.instruction.opcode execution.ip]
    else []

theorem countP_entries {p : Level × String → Bool} {counted : Execution → Bool}
    (hone : ∀ execution, execution.entries.countP p = if counted execution then 1 else 0)
    (executions : List Execution) :
    (executions.flatMap entries).countP p = executions.countP counted := by
  induction executions with
  | nil => rfl
  | cons execution executions ih =>
    rw [List.flatMap_cons, List.countP_append, ih, hone, List.countP_cons, Nat.add_comm]

section Log

variable {size : Nat} (executions : List Execution) (closing : List (Level × String))

theorem countP_log {p : Level × String → Bool} {counted : Execution → Bool}
    (hone : ∀ execution, execution.entries.countP p = if counted execution then 1 else 0)
    (hstarted : ¬ p (startedEntry size) = true) :
    (startedEntry size :: executions.flatMap entries ++ closing).countP p =
      executions.countP counted + closing.countP p := by
  rw [List.cons_append, List.countP_cons_of_neg hstarted, List.countP_append, countP_entries hone]

theorem countP_trace :
    (startedEntry size :: executions.flatMap entries ++ closing).countP
        (fun entry => entry.1 = .trace) =
      executions.length + closing.countP fun entry => entry.1 = .trace := by
  have hone (execution : Execution) :
      execution.entries.countP (fun entry => entry.1 = .trace) = if true then 1 else 0 := by
    unfold entries
    split <;> simp [fetchedEntry, skippedEntry]
  rw [countP_log executions closing hone (by simp [startedEntry]), List.countP_true]

theorem countP_warn :
    (startedEntry size :: executions.flatMap entries ++ closing).countP
        (fun entry => entry.1 = .warn) =
      executions.countP (fun execution => execution.instruction.Unknown) +
        closing.countP fun entry => entry.1 = .warn := by
  refine countP_log executions closing (fun execution => ?_) (by simp [startedEntry])
  unfold entries
  split <;> simp [fetchedEntry, skippedEntry, *]

end Log

end Execution

namespace Machine

/-! ### The entries of a cycle -/

theorem entries_fetchRecords (machine : Machine) (instruction : Instruction) :
    (machine.fetchRecords instruction).map Record.entry =
      fetchedEntry machine.ip instruction (machine.registers.setPointer machine.ip) ::
        if instruction.Unknown then [skippedEntry instruction.opcode machine.ip] else [] := by
  rw [fetchRecords, List.map_cons, entry_fetched]
  by_cases hunknown : instruction.Unknown
  · rw [if_pos hunknown, if_pos (Instruction.isNone_ofOrdinal?_iff.mpr hunknown)]
    rfl
  · rw [if_neg hunknown, if_neg (mt Instruction.isNone_ofOrdinal?_iff.mp hunknown)]
    rfl

theorem entries_of_execution? {machine : Machine} {execution : Execution}
    (hexecution : machine.execution? = some execution) :
    machine.step.records.map Record.entry = execution.entries := by
  have hcycle := machine.step_cycle
  unfold execution? next at hexecution
  generalize machine.step = step at hcycle hexecution
  cases hcycle with
  | refused | halts | faults => cases hexecution
  | completes =>
    cases hexecution
    exact machine.entries_fetchRecords _

theorem StopsAfter.entries_gather {machine : Machine} {last : Nat}
    (hstops : machine.StopsAfter (last + 1)) {k : Nat} (hk : k ≤ last) :
    (gather (fun before => before.step.records) machine k).map Record.entry =
      (machine.executions k).flatMap Execution.entries := by
  induction k with
  | zero => rfl
  | succ k ih =>
    obtain ⟨execution, hexecution⟩ := hstops.exists_execution hk
    rw [executions, gather_succ_last, gather_succ_last, List.map_append, List.flatMap_append,
      ih (by omega), entries_of_execution? hexecution, hexecution, Option.toList_some,
      List.flatMap_singleton]
    rfl

/-! ### The entries of a run -/

theorem StopsAfter.records_runLoop {start bound count : Nat} {machine : Machine}
    {earlier : Array Record} {run : Run} (hstops : machine.StopsAfter count)
    (hrun : runLoop start bound machine earlier = some run) :
    run.records.toList =
      earlier.toList ++ gather (fun before => before.step.records) machine count := by
  induction count generalizing machine earlier bound with
  | zero =>
    have hstatus : machine.status ≠ .running := hstops.2
    rw [runLoop_of_stopped hstatus] at hrun
    cases hrun
    rw [gather_zero, List.append_nil]
  | succ count ih =>
    obtain ⟨hstatus, hnext⟩ := hstops.of_succ
    cases bound with
    | zero =>
      rw [runLoop_zero hstatus] at hrun
      cases hrun
    | succ bound =>
      rw [gather_succ]
      cases houtcome : machine.step.outcome with
      | error error =>
        rw [runLoop_of_error hstatus houtcome] at hrun
        cases hrun
        rw [hnext.eq_zero_of_error hstatus houtcome, gather_zero, List.append_nil,
          Array.toList_appendList]
      | ok executed =>
        rw [runLoop_of_ok hstatus houtcome] at hrun
        rw [ih hnext hrun, Array.toList_appendList, List.append_assoc]

/-- The entries of a run that stops after `count` cycles. -/
theorem StopsAfter.entries_run {machine : Machine} {count bound : Nat} {run : Run}
    (hstops : machine.StopsAfter count) (hrun : machine.run bound = some run) :
    run.entries = startedEntry machine.program.size ::
      (gather (fun before => before.step.records) machine count).map Record.entry := by
  rw [Run.entries, hstops.records_runLoop hrun]
  rfl

/-- What the log of a run holds behind its opening: what is logged of each execution, in order, and why the
run ended, if the machine was running. -/
inductive Logged (machine : Machine) (executions : List Execution) (run : Run) : Prop
  | nothing (hstatus : machine.status ≠ .running) (hnone : executions = [])
      (houtcome : run.outcome = .ok 0)
      (hentries : run.entries = [startedEntry machine.program.size])
  | halts (hstatus : machine.status = .running) (houtcome : run.outcome = .ok executions.length)
      (hentries : run.entries =
        startedEntry machine.program.size :: executions.flatMap Execution.entries ++
          [haltedEntry run.machine.ip machine.program.size run.machine.cycles])
  | faults {error : MachineError} {instruction : Instruction} (hstatus : machine.status = .running)
      (houtcome : run.outcome = .error error)
      (hfetch : machine.program.fetch? run.machine.ip = some instruction)
      (hentries : run.entries =
        startedEntry machine.program.size :: executions.flatMap Execution.entries ++
          [fetchedEntry run.machine.ip instruction run.machine.registers,
            faultedEntry run.machine.ip error])

theorem Ending.logged {machine : Machine} {last bound : Nat} {run : Run}
    (hending : machine.Ending last run) (hstops : machine.StopsAfter (last + 1))
    (hrun : machine.run bound = some run) : machine.Logged (machine.executions last) run := by
  have hprogram := program_iterate_next machine last
  have hstatus : machine.status = .running := hstops.1 0 (Nat.succ_pos last)
  have hlast := hstops.1 last (Nat.lt_succ_self last)
  have hcycles := (hstops.history le_rfl).cycles_eq
  have hentries := hstops.entries_run hrun
  rw [gather_succ_last, List.map_append, hstops.entries_gather le_rfl] at hentries
  obtain ⟨hip, hkept⟩ := hending.ip_cycles
  cases hending with
  | halts hfetch houtcome hmachine =>
    rw [hkept, hcycles, Nat.add_sub_cancel_left] at houtcome
    rw [← hprogram] at hfetch
    rw [(Cycle.halts hlast hfetch).step_eq, hprogram] at hentries
    refine .halts hstatus houtcome ?_
    rw [hentries, hip, hkept]
    rfl
  | @faults instruction index hfetch hoffending houtcome hmachine =>
    -- An instruction at fault has a known opcode, so it is not logged as skipped.
    have hknown : ¬ instruction.Unknown := by
      have hordinal := (Instruction.offending?_spec hoffending).1
      unfold Instruction.Unknown Opcode.IsOrdinal at *
      omega
    have hexecute := Instruction.execute_of_offending
      ((next^[last] machine).registers.setPointer (next^[last] machine).ip) hoffending
    rw [(Cycle.faults hlast (hprogram ▸ hfetch) hexecute).step_eq, List.map_append,
      entries_fetchRecords, if_neg hknown] at hentries
    refine .faults hstatus houtcome (hip ▸ hfetch) ?_
    rw [hentries, hmachine]
    rfl

section Logged

variable {machine : Machine} {executions : List Execution} {run : Run}
  (hlogged : machine.Logged executions run)
include hlogged

theorem Logged.countP_trace :
    run.entries.countP (fun entry => entry.1 = .trace) = executions.length + run.faults := by
  cases hlogged with
  | nothing _ hnone houtcome hentries =>
    rw [hentries, hnone, Run.faults, houtcome]
    rfl
  | halts _ houtcome hentries =>
    rw [hentries, Execution.countP_trace, Run.faults, houtcome]
    rfl
  | faults _ houtcome _ hentries =>
    rw [hentries, Execution.countP_trace, Run.faults, houtcome]
    rfl

theorem Logged.countP_warn : run.entries.countP (fun entry => entry.1 = .warn) =
    executions.countP fun execution => execution.instruction.Unknown := by
  cases hlogged with
  | nothing _ hnone _ hentries =>
    rw [hentries, hnone]
    rfl
  | halts _ _ hentries =>
    rw [hentries, Execution.countP_warn]
    rfl
  | faults _ _ _ hentries =>
    rw [hentries, Execution.countP_warn]
    rfl

end Logged

/-- The log of a run accounts for every cycle, whatever machine it is run on: it has an entry for each
execution and for a fault, and a warning for each unknown opcode that was executed. -/
theorem log_accounts_for_cycles {machine : Machine} {bound : Nat} {run : Run}
    (hrun : machine.run bound = some run) :
    ∃ count, machine.StopsAfter count ∧
      let executions := machine.executions count
      machine.Logged executions run ∧
      run.machine.cycles = machine.cycles + executions.length ∧
      run.entries.countP (fun entry => entry.1 = .trace) = executions.length + run.faults ∧
      run.entries.countP (fun entry => entry.1 = .warn) =
        executions.countP fun execution => execution.instruction.Unknown := by
  obtain ⟨count, hstops, hmachine, _⟩ := run_eq_some hrun
  suffices hsuffices : machine.Logged (machine.executions count) run ∧
      run.machine.cycles = machine.cycles + (machine.executions count).length from
    ⟨count, hstops, hsuffices.1, hsuffices.2, hsuffices.1.countP_trace, hsuffices.1.countP_warn⟩
  cases count with
  | zero =>
    have hstatus : machine.status ≠ .running := hstops.2
    have hentries := hstops.entries_run hrun
    rw [run_of_stopped bound hstatus] at hrun
    cases hrun
    exact ⟨.nothing hstatus rfl rfl hentries, rfl⟩
  | succ last =>
    have hending := hstops.ending hrun
    rw [hstops.executions_succ]
    refine ⟨hending.logged hstops hrun, ?_⟩
    rw [hending.ip_cycles.2]
    exact (hstops.history le_rfl).cycles_eq

/-- A jump over an instruction, an unknown opcode and a fault. -/
theorem log_accounts_for_cycles_fault :
    let machine := load ⟨#[⟨1, 0, 1, 0⟩, ⟨5, 9, 9, 9⟩, ⟨12, 7, 7, 7⟩, ⟨0, 0, 5, 1⟩]⟩
    let log : List (Level × String) :=
      [(.debug, "running 4 instructions"),
        (.trace, "ip=0 Instruction \x7b opcode: 1, a: 0, b: 1, c: 0 \x7d regs=[0 0 0 0]"),
        (.trace, "ip=2 Instruction \x7b opcode: 12, a: 7, b: 7, c: 7 \x7d regs=[2 0 0 0]"),
        (.warn, "unknown opcode 12 at ip 2, skipping"),
        (.trace, "ip=3 Instruction \x7b opcode: 0, a: 0, b: 5, c: 1 \x7d regs=[3 0 0 0]"),
        (.debug, "faulted at ip 3: register index 5 out of range (0 to 3)")]
    ∃ run, machine.run 3 = some run ∧ machine.Logged (machine.executions 3) run ∧
      run.entries = log ∧
      run.entries.countP (fun entry => entry.1 = .trace) = 3 ∧
      run.entries.countP (fun entry => entry.1 = .warn) = 1 := by
  intro machine log
  have hends : (machine.run 3).map (fun run => (run.faults, run.entries)) = some (1, log) := by
    decide +kernel
  obtain ⟨run, hrun, hends⟩ := Option.map_eq_some_iff.mp hends
  obtain ⟨hfaults, hentries⟩ := Prod.mk.inj hends
  obtain ⟨count, hstops, hlogged, _, htraced, hwarned⟩ := log_accounts_for_cycles hrun
  have hthree : machine.StopsAfter 3 := ⟨by decide, by decide⟩
  obtain rfl := hstops.unique hthree
  refine ⟨run, hrun, hlogged, hentries, ?_, ?_⟩
  · rw [htraced, hfaults]
    decide
  · rw [hwarned]
    decide

end Machine

end FourReg
