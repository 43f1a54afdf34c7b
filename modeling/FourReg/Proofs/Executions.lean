import FourReg.Proofs.Fault
import FourReg.Proofs.Refinement
import FourReg.Proofs.Stopping
import Mathlib.Data.List.Chain

/-!
# What a run executes

A run of a running machine is a row of cycles that each complete an instruction, and one cycle more that
halts the machine or faults it (`Machine.run_ending`). Everything that is kept of a run along the way is
gathered cycle by cycle (`Machine.gather`). Of a completed cycle an `Execution` says where it took place and
what it did to the registers, and `History` is what a row of executions says about the machine that they
led to: they are linked by the pointer, which each of them takes up behind the register 0 of the one
before.
-/

namespace FourReg

namespace Machine

/-! ### Row by row -/

/-- What `emit` gives for each of the first `count` cycles, in order. -/
def gather {α : Type} (emit : Machine → List α) (machine : Machine) (count : Nat) : List α :=
  (List.range count).flatMap fun k => emit (next^[k] machine)

section Gather

variable {α β : Type} (emit : Machine → List α) (machine : Machine) (count : Nat)

@[simp] theorem gather_zero : gather emit machine 0 = [] := by
  rfl

/-- The first cycle apart from the others, as a loop goes on. -/
theorem gather_succ :
    gather emit machine (count + 1) = emit machine ++ gather emit machine.next count := by
  rw [gather, gather, List.range_succ_eq_map, List.flatMap_cons, List.flatMap_map]
  rfl

/-- The last cycle apart from the others, as an invariant goes on. -/
theorem gather_succ_last :
    gather emit machine (count + 1) = gather emit machine count ++ emit (next^[count] machine) := by
  rw [gather, gather, List.range_succ, List.flatMap_append, List.flatMap_singleton]

theorem filterMap_gather (f : α → Option β) :
    (gather emit machine count).filterMap f =
      gather (fun before => (emit before).filterMap f) machine count :=
  List.filterMap_flatMap

theorem map_gather (f : α → β) :
    (gather emit machine count).map f = gather (fun before => (emit before).map f) machine count :=
  List.map_flatMap

end Gather

end Machine

/-- A completed cycle. -/
structure Execution where
  /-- The pointer before the cycle. -/
  ip : Word
  instruction : Instruction
  /-- The registers that the instruction was executed on, of which register 0 holds the pointer. -/
  entry : Registers
  /-- The registers that it left. -/
  exit : Registers

namespace Machine

/-- The execution in the next cycle, if it completes an instruction. -/
def execution? (machine : Machine) : Option Execution :=
  match machine.step.outcome with
  | .ok (some instruction) =>
    some
      { ip := machine.ip
        instruction
        entry := machine.registers.setPointer machine.ip
        exit := machine.next.registers }
  | _ => none

/-- What is known of an execution: the instruction that was executed, and where it led to. -/
theorem execution?_eq_some {machine : Machine} {execution : Execution}
    (hexecution : machine.execution? = some execution) :
    execution.ip = machine.ip ∧ machine.program.fetch? machine.ip = some execution.instruction ∧
      execution.instruction.WellFormed ∧
      machine.next = { machine with
        registers := execution.exit
        ip := execution.exit.pointer + 1
        cycles := machine.cycles + 1 } := by
  have hcycle := machine.step_cycle
  unfold execution? next at *
  generalize machine.step = step at hcycle hexecution
  cases hcycle with
  | refused | halts | faults => cases hexecution
  | completes _ hfetch hexecute =>
    cases hexecution
    exact ⟨rfl, hfetch, (Instruction.execute_eq_ok hexecute).1, rfl⟩

/-- The executions in the first `count` cycles, in order. -/
def executions : Machine → Nat → List Execution :=
  gather fun before => before.execution?.toList

/-! ### Cycles that go on, and the one that does not -/

/-- A machine stops on a pointer that addresses no instruction, or on an offending field. -/
theorem fetch?_or_offending?_of_stops {machine : Machine} (hstatus : machine.status = .running)
    (hnext : machine.next.status ≠ .running) :
    machine.program.fetch? machine.ip = none ∨
      ∃ instruction index, machine.program.fetch? machine.ip = some instruction ∧
        instruction.offending? = some index := by
  cases hfetch : machine.program.fetch? machine.ip with
  | none => exact Or.inl rfl
  | some instruction =>
    refine Or.inr ⟨instruction, ?_⟩
    suffices hnot : ¬ instruction.WellFormed by
      obtain ⟨index, hoffending⟩ := Instruction.exists_offending?_iff.mpr hnot
      exact ⟨index, rfl, hoffending⟩
    intro hwell
    obtain ⟨after, _, hmachine, _⟩ := step_of_wellFormed hstatus hfetch hwell
    rw [next, hmachine] at hnext
    exact hnext hstatus

theorem StopsAfter.exists_wellFormed {machine : Machine} {last k : Nat}
    (hstops : machine.StopsAfter (last + 1)) (hk : k < last) :
    ∃ instruction, machine.program.fetch? (next^[k] machine).ip = some instruction ∧
      instruction.WellFormed := by
  have hnext := hstops.1 (k + 1) (Nat.succ_lt_succ hk)
  rw [Function.iterate_succ_apply'] at hnext
  rw [← program_iterate_next machine k]
  exact exists_wellFormed_of_running (hstops.1 k (by omega)) hnext

theorem StopsAfter.exists_execution {machine : Machine} {last k : Nat}
    (hstops : machine.StopsAfter (last + 1)) (hk : k < last) :
    ∃ execution, (next^[k] machine).execution? = some execution := by
  obtain ⟨instruction, hfetch, hwell⟩ := hstops.exists_wellFormed hk
  rw [← program_iterate_next machine k] at hfetch
  obtain ⟨_, houtcome, _⟩ := step_of_wellFormed (hstops.1 k (by omega)) hfetch hwell
  exact ⟨_, by rw [execution?, houtcome]⟩

/-- How a run ends whose last cycle is preceded by `last` others, which all complete an instruction. -/
inductive Ending (machine : Machine) (last : Nat) (run : Run) : Prop
  | halts (hfetch : machine.program.fetch? (next^[last] machine).ip = none)
      (houtcome : run.outcome = .ok (run.machine.cycles - machine.cycles))
      (hmachine : run.machine = { next^[last] machine with status := .halted })
  | faults {instruction : Instruction} {index : Word}
      (hfetch : machine.program.fetch? (next^[last] machine).ip = some instruction)
      (hoffending : instruction.offending? = some index)
      (houtcome : run.outcome = .error (.register (.outOfRange index)))
      (hmachine : run.machine = { next^[last] machine with
        registers := (next^[last] machine).registers.setPointer (next^[last] machine).ip
        status := .faulted })

section Ending

variable {machine : Machine} {last : Nat} {run : Run} (hending : machine.Ending last run)
include hending

theorem Ending.halted_or_faulted :
    run.machine.status = .halted ∨ run.machine.status = .faulted := by
  cases hending with
  | halts _ _ hmachine => exact Or.inl (congrArg status hmachine)
  | faults _ _ _ hmachine => exact Or.inr (congrArg status hmachine)

/-- Neither way to stop moves the pointer or counts as a cycle. -/
theorem Ending.ip_cycles : run.machine.ip = (next^[last] machine).ip ∧
    run.machine.cycles = (next^[last] machine).cycles := by
  cases hending with
  | halts _ _ hmachine =>
    rw [hmachine]
    exact ⟨rfl, rfl⟩
  | faults _ _ _ hmachine =>
    rw [hmachine]
    exact ⟨rfl, rfl⟩

theorem Ending.of_halted (hhalted : run.machine.status = .halted) :
    machine.program.fetch? (next^[last] machine).ip = none ∧
      run.machine.registers = (next^[last] machine).registers := by
  cases hending with
  | halts hfetch _ hmachine => exact ⟨hfetch, by rw [hmachine]⟩
  | faults _ _ _ hmachine =>
    rw [hmachine] at hhalted
    cases hhalted

theorem Ending.of_faulted (hfaulted : run.machine.status = .faulted) :
    ∃ instruction index, machine.program.fetch? (next^[last] machine).ip = some instruction ∧
      instruction.offending? = some index ∧
      run.outcome = .error (.register (.outOfRange index)) ∧
      run.machine.registers =
        (next^[last] machine).registers.setPointer (next^[last] machine).ip := by
  cases hending with
  | halts _ _ hmachine =>
    rw [hmachine] at hfaulted
    cases hfaulted
  | faults hfetch hoffending houtcome hmachine =>
    exact ⟨_, _, hfetch, hoffending, houtcome, by rw [hmachine]⟩

end Ending

theorem StopsAfter.ending {machine : Machine} {last bound : Nat} {run : Run}
    (hstops : machine.StopsAfter (last + 1)) (hrun : machine.run bound = some run) :
    machine.Ending last run := by
  obtain ⟨hmachine, houtcome⟩ := hstops.run_eq hrun
  rw [outcomeAfter, ← hmachine] at houtcome
  have hstatus := hstops.1 last (Nat.lt_succ_self last)
  have hstopped := hstops.2
  rw [Function.iterate_succ_apply'] at hmachine hstopped
  have hprogram := program_iterate_next machine last
  rcases fetch?_or_offending?_of_stops hstatus hstopped with
    hfetch | ⟨instruction, index, hfetch, hoffending⟩
  · obtain ⟨hnone, hafter⟩ := step_of_outside hstatus hfetch
    rw [hnone] at houtcome
    exact .halts (hprogram ▸ hfetch) houtcome (hmachine.trans hafter)
  · obtain ⟨herror, hafter⟩ := step_of_offending hstatus hfetch hoffending
    rw [herror] at houtcome
    exact .faults (hprogram ▸ hfetch) hoffending houtcome (hmachine.trans hafter)

/-- What the run of a running machine can come to. -/
theorem run_ending {machine : Machine} {bound : Nat} {run : Run}
    (hstatus : machine.status = .running) (hrun : machine.run bound = some run) :
    ∃ last, machine.StopsAfter (last + 1) ∧ machine.Ending last run := by
  obtain ⟨count, hstops, _⟩ := run_eq_some hrun
  cases count with
  | zero => exact absurd hstatus hstops.2
  | succ last => exact ⟨last, hstops, hstops.ending hrun⟩

/-! ### Histories -/

/-- What the executions that led from `start` to `machine` say about the two. -/
structure History (start : Machine) (executions : List Execution) (machine : Machine) : Prop where
  cycles_eq : machine.cycles = start.cycles + executions.length
  /-- They executed well-formed instructions of the program. -/
  executed : ∀ execution ∈ executions,
    start.program.fetch? execution.ip = some execution.instruction ∧
      execution.instruction.WellFormed
  first : ∀ execution ∈ executions.head?, execution.ip = start.ip
  linked : executions.IsChain fun earlier later => later.ip = earlier.exit.pointer + 1
  /-- The machine goes on behind the last of them. -/
  last : ∀ execution ∈ executions.getLast?,
    machine.registers = execution.exit ∧ machine.ip = execution.exit.pointer + 1
  fresh : executions = [] → machine = start

theorem history_nil (start : Machine) : History start [] start where
  cycles_eq := rfl
  executed := by simp
  first := by simp
  linked := .nil
  last := by simp
  fresh _ := rfl

/-- A cycle that completes an instruction continues the history. -/
theorem History.next {start machine : Machine} {executions : List Execution} {execution : Execution}
    (hhistory : History start executions machine) (hprogram : machine.program = start.program)
    (hexecution : machine.execution? = some execution) :
    History start (executions ++ [execution]) machine.next := by
  obtain ⟨hip, hfetch, hwell, hnext⟩ := execution?_eq_some hexecution
  rw [hnext]
  exact {
    cycles_eq := by
      rw [List.length_append, List.length_singleton, ← Nat.add_assoc, ← hhistory.cycles_eq]
    executed := by
      intro earlier hmem
      rcases List.mem_append.mp hmem with hearlier | hlast
      · exact hhistory.executed earlier hearlier
      · obtain rfl := List.mem_singleton.mp hlast
        rw [hip, ← hprogram]
        exact ⟨hfetch, hwell⟩
    first := by
      intro first hmem
      cases executions with
      | nil =>
        cases hmem
        rw [hip, hhistory.fresh rfl]
      | cons => exact hhistory.first first hmem
    linked := by
      refine List.isChain_append.mpr ⟨hhistory.linked, .singleton _, ?_⟩
      intro earlier hearlier later hlater
      cases hlater
      rw [hip]
      exact (hhistory.last earlier hearlier).2
    last := by
      intro last hmem
      rw [List.getLast?_concat] at hmem
      cases hmem
      exact ⟨rfl, rfl⟩
    fresh := fun hnil => absurd hnil (by simp) }

theorem StopsAfter.history {start : Machine} {last : Nat} (hstops : start.StopsAfter (last + 1))
    {k : Nat} (hk : k ≤ last) : History start (start.executions k) (next^[k] start) := by
  induction k with
  | zero => exact history_nil start
  | succ k ih =>
    obtain ⟨execution, hexecution⟩ := hstops.exists_execution hk
    have hhistory := (ih (by omega)).next (program_iterate_next start k) hexecution
    rw [executions, gather_succ_last, hexecution, Function.iterate_succ_apply']
    exact hhistory

/-- The cycle that stops the machine executes nothing. -/
theorem StopsAfter.executions_succ {machine : Machine} {last : Nat}
    (hstops : machine.StopsAfter (last + 1)) :
    machine.executions (last + 1) = machine.executions last := by
  have hnone : (next^[last] machine).execution? = none := by
    unfold execution?
    rcases hstops.last_cycle with houtcome | ⟨error, houtcome⟩
    · rw [houtcome]
    · rw [houtcome]
  rw [executions, gather_succ_last, hnone, Option.toList_none, List.append_nil]

end Machine

end FourReg
