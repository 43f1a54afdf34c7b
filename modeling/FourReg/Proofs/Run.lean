import FourReg.Machine.Run
import FourReg.Proofs.Cycle
import Mathlib.Logic.Function.Iterate
/-!
# Runs as iterated cycles

A run is a loop with a bound and an early exit. What it leads to is said here without either: the
machine after as many cycles as it takes to stop, and the outcome of the last of them. What every
cycle preserves is therefore preserved by a run.
-/

namespace FourReg

namespace Machine

def next (machine : Machine) : Machine :=
  machine.step.machine

/-- A machine stops after `count` cycles when it is running before each of them and not after the
last. -/
def StopsAfter (machine : Machine) (count : Nat) : Prop :=
  (∀ earlier < count, (next^[earlier] machine).status = .running) ∧
    (next^[count] machine).status ≠ .running

/-- The outcome of a run that stops after `count` cycles, when `start` were completed before it. -/
def outcomeAfter (start : Nat) (machine : Machine) : Nat → Except MachineError Nat
  | 0 => .ok (machine.cycles - start)
  | count + 1 =>
    (next^[count] machine).step.outcome.map fun _ => (next^[count + 1] machine).cycles - start

/-- A running machine is faulted by a cycle exactly when the cycle goes wrong. -/
theorem faulted_next_iff {machine : Machine} (hstatus : machine.status = .running) :
    machine.next.status = .faulted ↔ ∃ error, machine.step.outcome = .error error := by
  have hcycle := machine.step_cycle
  unfold next
  generalize machine.step = step at hcycle
  cases hcycle with
  | refused hstopped => exact absurd hstatus hstopped
  | halts => simp
  | faults => simp
  | completes => simp [hstatus]

/-- A machine that goes on running has completed a well-formed instruction. -/
theorem exists_wellFormed_of_running {machine : Machine} (hstatus : machine.status = .running)
    (hnext : machine.next.status = .running) :
    ∃ instruction, machine.program.fetch? machine.ip = some instruction ∧ instruction.WellFormed := by
  have hcycle := machine.step_cycle
  unfold next at hnext
  generalize machine.step = step at hcycle hnext
  cases hcycle with
  | refused hstopped => exact absurd hstatus hstopped
  | halts | faults => cases hnext
  | completes _ hfetch hexecute => exact ⟨_, hfetch, (Instruction.execute_eq_ok hexecute).1⟩

theorem program_next (machine : Machine) : machine.next.program = machine.program := by
  have hcycle := machine.step_cycle
  unfold next
  generalize machine.step = step at hcycle
  cases hcycle <;> rfl

theorem program_iterate_next (machine : Machine) (count : Nat) :
    (next^[count] machine).program = machine.program := by
  induction count with
  | zero => rfl
  | succ count ih => rw [Function.iterate_succ_apply', program_next, ih]

theorem StopsAfter.succ {machine : Machine} {count : Nat} (hstatus : machine.status = .running)
    (hstops : machine.next.StopsAfter count) : machine.StopsAfter (count + 1) := by
  obtain ⟨hbefore, hafter⟩ := hstops
  refine ⟨?_, hafter⟩
  intro earlier hearlier
  cases earlier with
  | zero => exact hstatus
  | succ earlier => exact hbefore earlier (by omega)

theorem stopsAfter_zero {machine : Machine} (hstatus : machine.status ≠ .running) :
    machine.StopsAfter 0 :=
  ⟨fun earlier hearlier => absurd hearlier (Nat.not_lt_zero earlier), hstatus⟩

/-! ### One turn of the loop -/

section Loop

variable {start bound : Nat} {machine : Machine} {earlier : Array Record}

theorem runLoop_of_stopped (hstatus : machine.status ≠ .running) :
    runLoop start bound machine earlier =
      some { outcome := .ok (machine.cycles - start), machine, records := earlier } := by
  have hrunning : ¬ machine.isRunning = true := mt isRunning_iff.mp hstatus
  cases bound <;> rw [runLoop, if_neg hrunning]

theorem runLoop_zero (hstatus : machine.status = .running) :
    runLoop start 0 machine earlier = none := by
  rw [runLoop, if_pos (isRunning_iff.mpr hstatus)]

theorem runLoop_of_error {error : MachineError} (hstatus : machine.status = .running)
    (houtcome : machine.step.outcome = .error error) :
    runLoop start (bound + 1) machine earlier =
      some { outcome := .error error
             machine := machine.next
             records := earlier ++ machine.step.records } := by
  rw [runLoop, if_pos (isRunning_iff.mpr hstatus)]
  simp only [houtcome, next]

theorem runLoop_of_ok {executed : Option Instruction} (hstatus : machine.status = .running)
    (houtcome : machine.step.outcome = .ok executed) :
    runLoop start (bound + 1) machine earlier =
      runLoop start bound machine.next (earlier ++ machine.step.records) := by
  rw [runLoop, if_pos (isRunning_iff.mpr hstatus)]
  simp only [houtcome, next]

end Loop

/-! ### What a whole run leads to -/

/-- The machine has stopped and the last cycle decides the outcome. -/
theorem runLoop_eq_some {start bound : Nat} {machine : Machine} {earlier : Array Record} {run : Run}
    (hrun : runLoop start bound machine earlier = some run) :
    ∃ count, machine.StopsAfter count ∧ run.machine = next^[count] machine ∧
      run.outcome = machine.outcomeAfter start count := by
  induction bound generalizing machine earlier with
  | zero =>
    by_cases hstatus : machine.status = .running
    · rw [runLoop_zero hstatus] at hrun
      cases hrun
    · rw [runLoop_of_stopped hstatus] at hrun
      cases hrun
      exact ⟨0, stopsAfter_zero hstatus, rfl, rfl⟩
  | succ bound ih =>
    by_cases hstatus : machine.status = .running
    · cases houtcome : machine.step.outcome with
      | error error =>
        rw [runLoop_of_error hstatus houtcome] at hrun
        cases hrun
        -- The loop leaves without a look at the status, which the fault has changed.
        have hstopped : machine.next.status ≠ .running := by
          rw [(faulted_next_iff hstatus).mpr ⟨error, houtcome⟩]
          decide
        refine ⟨1, (stopsAfter_zero hstopped).succ hstatus, rfl, ?_⟩
        simp only [outcomeAfter, Function.iterate_zero_apply, houtcome, Except.map]
      | ok executed =>
        rw [runLoop_of_ok hstatus houtcome] at hrun
        obtain ⟨count, hstops, hmachine, hrunOutcome⟩ := ih hrun
        refine ⟨count + 1, hstops.succ hstatus, hmachine, hrunOutcome.trans ?_⟩
        -- If this was the last cycle the loop counts the cycles, else the last one is the same.
        cases count with
        | zero => simp only [outcomeAfter, Function.iterate_zero_apply, houtcome, Except.map,
            Function.iterate_succ_apply]
        | succ count => rfl
    · rw [runLoop_of_stopped hstatus] at hrun
      cases hrun
      exact ⟨0, stopsAfter_zero hstatus, rfl, rfl⟩

theorem run_eq_some {bound : Nat} {machine : Machine} {run : Run}
    (hrun : machine.run bound = some run) :
    ∃ count, machine.StopsAfter count ∧ run.machine = next^[count] machine ∧
      run.outcome = machine.outcomeAfter machine.cycles count :=
  runLoop_eq_some hrun

theorem program_run {machine : Machine} {bound : Nat} {run : Run}
    (hrun : machine.run bound = some run) : run.machine.program = machine.program := by
  obtain ⟨count, _, hmachine, _⟩ := run_eq_some hrun
  rw [hmachine, program_iterate_next]

theorem outcomeAfter_succ_eq_error_iff {start count : Nat} {machine : Machine}
    {error : MachineError} :
    machine.outcomeAfter start (count + 1) = .error error ↔
      (next^[count] machine).step.outcome = .error error := by
  cases hlast : (next^[count] machine).step.outcome with
  | error last => simp only [outcomeAfter, hlast, Except.map, Except.error.injEq]
  | ok executed => simp only [outcomeAfter, hlast, Except.map, reduceCtorEq]

theorem run_eq_error {machine : Machine} {bound : Nat} {run : Run} {error : MachineError}
    (hrun : machine.run bound = some run) (houtcome : run.outcome = .error error) :
    ∃ count, (next^[count] machine).step.outcome = .error error := by
  obtain ⟨count, _, _, hafter⟩ := run_eq_some hrun
  rw [houtcome] at hafter
  cases count with
  | zero => cases hafter
  | succ count => exact ⟨count, outcomeAfter_succ_eq_error_iff.mp hafter.symm⟩

theorem status_run {machine : Machine} {bound : Nat} {run : Run}
    (hrun : machine.run bound = some run) : run.machine.status ≠ .running := by
  obtain ⟨count, hstops, hmachine, _⟩ := run_eq_some hrun
  rw [hmachine]
  exact hstops.2

/-- A run of a running machine goes wrong exactly when it faults the machine. -/
theorem faulted_run_iff {machine : Machine} {bound : Nat} {run : Run}
    (hstatus : machine.status = .running) (hrun : machine.run bound = some run) :
    run.machine.status = .faulted ↔ ∃ error, run.outcome = .error error := by
  obtain ⟨count, hstops, hmachine, houtcome⟩ := run_eq_some hrun
  rw [hmachine, houtcome]
  cases count with
  | zero => exact absurd hstatus hstops.2
  | succ count =>
    have hlast := hstops.1 count (Nat.lt_succ_self count)
    rw [Function.iterate_succ_apply', faulted_next_iff hlast]
    simp only [outcomeAfter_succ_eq_error_iff]

theorem run_of_stopped {machine : Machine} (bound : Nat) (hstatus : machine.status ≠ .running) :
    machine.run bound =
      some { outcome := .ok 0, machine, records := #[.started machine.program.size] } := by
  rw [run, runLoop_of_stopped hstatus, Nat.sub_self]

end Machine

end FourReg
