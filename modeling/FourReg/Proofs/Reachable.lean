import FourReg.Proofs.Run
import Mathlib.Logic.Relation
/-!
# Reachable machines

A machine that was loaded with a program is stepped, run and reset in any order. Along the way the
instruction pointer and register 0 are out of step in three different ways: both are zero before the
first cycle, the pointer is one ahead after a completed cycle, and they are equal after a fault.
`Consistent` says which one holds when, and what a stopped machine tells about the instruction at its
pointer. It holds of every reachable machine.
-/

namespace FourReg

namespace Machine

/-- What a client can do to a machine: a cycle, a run that stops, or a reset. -/
inductive Call (machine : Machine) : Machine → Prop
  | step : Call machine machine.step.machine
  | run {bound : Nat} {run : Run} (hrun : machine.run bound = some run) : Call machine run.machine
  | reset : Call machine machine.reset

/-- The machines that any number of calls, in any order, make of one loaded with `program`. -/
def Reachable (program : Program) : Machine → Prop :=
  Relation.ReflTransGen Call (load program)

/-- What is kept by a cycle and restored by a reset holds of every reachable machine: a run is a
number of cycles. -/
theorem Reachable.induct {program : Program} {property : Machine → Prop}
    (hload : property (load program))
    (hnext : ∀ machine, property machine → property machine.next)
    (hreset : ∀ machine, property machine → property machine.reset)
    {machine : Machine} (hreach : Reachable program machine) : property machine := by
  induction hreach with
  | refl => exact hload
  | tail _ hcall ih =>
    cases hcall with
    | step => exact hnext _ ih
    | run hrun =>
      obtain ⟨count, _, hmachine, _⟩ := run_eq_some hrun
      rw [hmachine]
      exact Function.Iterate.rec property ih hnext count
    | reset => exact hreset _ ih

theorem Reachable.iterate_next {program : Program} {machine : Machine}
    (hreach : Reachable program machine) (count : Nat) :
    Reachable program (next^[count] machine) :=
  Function.Iterate.rec (Reachable program) hreach (fun _ hbefore => hbefore.tail .step) count

/-- How pointer, registers, status, cycle count and program of a machine hang together. -/
structure Consistent (program : Program) (machine : Machine) : Prop where
  program_eq : machine.program = program
  /-- Before the first cycle nothing has moved. -/
  fresh : machine.cycles = 0 → machine.status ≠ .faulted →
    machine.ip = 0 ∧ machine.registers = .zero
  /-- After a completed cycle the pointer is one ahead of register 0, which wraps. -/
  advanced : 0 < machine.cycles → machine.status ≠ .faulted →
    machine.ip = machine.registers.pointer + 1
  halted : machine.status = .halted → program.fetch? machine.ip = none
  /-- A fault is caused by a register reference of the instruction at the pointer, to which
  register 0 was set. -/
  faulted : machine.status = .faulted →
    machine.registers.pointer = machine.ip ∧
      ∃ instruction, program.fetch? machine.ip = some instruction ∧
        Opcode.IsOrdinal instruction.opcode ∧
          ∃ index ∈ instruction.indices, ¬ Registers.InRange index

theorem consistent_load (program : Program) : Consistent program (load program) where
  program_eq := rfl
  fresh _ _ := ⟨rfl, rfl⟩
  advanced hcycles := absurd hcycles (Nat.lt_irrefl 0)
  halted hstatus := by cases hstatus
  faulted hstatus := by cases hstatus

theorem Consistent.next {program : Program} {machine : Machine}
    (hconsistent : Consistent program machine) : Consistent program machine.next := by
  have hprogram := hconsistent.program_eq
  have hcycle := machine.step_cycle
  unfold Machine.next
  generalize machine.step = step at hcycle
  cases hcycle with
  | refused => exact hconsistent
  | halts hstatus hfetch =>
    have hnot : machine.status ≠ .faulted := by
      rw [hstatus]
      decide
    exact {
      program_eq := hprogram
      fresh := fun hcycles _ => hconsistent.fresh hcycles hnot
      advanced := fun hcycles _ => hconsistent.advanced hcycles hnot
      halted := fun _ => hprogram ▸ hfetch
      faulted := fun hfaulted => by cases hfaulted }
  | @faults instruction error hstatus hfetch hexecute =>
    obtain ⟨index, hoffending, _⟩ := Instruction.execute_eq_error_iff.mp hexecute
    obtain ⟨hordinal, hmem, hrange⟩ := Instruction.offending?_spec hoffending
    exact {
      program_eq := hprogram
      fresh := fun _ hnot => absurd rfl hnot
      advanced := fun _ hnot => absurd rfl hnot
      halted := fun hhalted => by cases hhalted
      faulted := fun _ =>
        ⟨Registers.pointer_setPointer _ _, instruction, hprogram ▸ hfetch, hordinal, index, hmem,
          hrange⟩ }
  | completes hstatus =>
    exact {
      program_eq := hprogram
      fresh := fun hcycles => absurd hcycles (Nat.succ_ne_zero _)
      advanced := fun _ _ => rfl
      halted := fun hhalted => by
        rw [hstatus] at hhalted
        cases hhalted
      faulted := fun hfaulted => by
        rw [hstatus] at hfaulted
        cases hfaulted }

theorem Consistent.reset {program : Program} {machine : Machine}
    (hconsistent : Consistent program machine) : Consistent program machine.reset := by
  rw [reset_eq_load, hconsistent.program_eq]
  exact consistent_load program

theorem Reachable.consistent {program : Program} {machine : Machine}
    (hreach : Reachable program machine) : Consistent program machine :=
  hreach.induct (consistent_load program) (fun _ => Consistent.next) fun _ => Consistent.reset

/-- Every reachable machine is consistent, and once it has stopped neither a cycle nor a run changes
it any more. -/
theorem reachable_consistent_and_absorbing {program : Program} {machine : Machine}
    (hreach : Reachable program machine) :
    Consistent program machine ∧
      (machine.status ≠ .running →
        machine.step.outcome = .error (.notRunning machine.status) ∧
          machine.step.machine = machine ∧
          ∀ bound, ∃ run, machine.run bound = some run ∧ run.machine = machine) := by
  refine ⟨hreach.consistent, fun hstatus => ?_⟩
  rw [step_of_stopped hstatus]
  exact ⟨rfl, rfl, fun bound => ⟨_, run_of_stopped bound hstatus, rfl⟩⟩

/-- A jump over the second instruction, and a fault of the third. -/
def faultAfterJump : Program :=
  ⟨#[⟨1, 0, 1, 0⟩, ⟨1, 0, 0, 1⟩, ⟨0, 0, 5, 1⟩]⟩

theorem faultAfterJump_consistent :
    let machine := (load faultAfterJump).step.machine.reset.step.machine.step.machine
    Reachable faultAfterJump machine ∧ machine.status = .faulted ∧ machine.ip = 2 ∧
      Consistent faultAfterJump machine ∧ machine.step.outcome = .error (.notRunning .faulted) := by
  intro machine
  have hreach : Reachable faultAfterJump machine :=
    (((Relation.ReflTransGen.refl.tail .step).tail .reset).tail .step).tail .step
  have hstatus : machine.status = .faulted := by decide
  obtain ⟨hconsistent, habsorbing⟩ := reachable_consistent_and_absorbing hreach
  obtain ⟨houtcome, _⟩ := habsorbing (by rw [hstatus]; decide)
  exact ⟨hreach, hstatus, by decide, hconsistent, by rw [houtcome, hstatus]⟩

end Machine

end FourReg
