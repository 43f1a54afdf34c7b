import FourReg.Proofs.Reachable
/-!
# Faults

A fault depends on the instruction alone: a cycle goes wrong exactly on an instruction that is not
well-formed, with its first offending field, and leaves everything but register 0 and the status as
it was. So no program of well-formed instructions can fault, wherever it jumps to.
-/

namespace FourReg

namespace Program

def WellFormed (program : Program) : Prop :=
  ∀ instruction ∈ program.instructions, instruction.WellFormed

instance : DecidablePred WellFormed :=
  fun program => inferInstanceAs
    (Decidable (∀ instruction ∈ program.instructions, instruction.WellFormed))

theorem mem_of_fetch? {program : Program} {address : Word} {instruction : Instruction}
    (hfetch : program.fetch? address = some instruction) : instruction ∈ program.instructions := by
  unfold fetch? at hfetch
  split at hfetch
  · exact Array.mem_of_getElem? hfetch
  · cases hfetch

end Program

namespace Machine

theorem error_step_iff {machine : Machine} {instruction : Instruction}
    (hstatus : machine.status = .running)
    (hfetch : machine.program.fetch? machine.ip = some instruction) {error : MachineError} :
    machine.step.outcome = .error error ↔
      ∃ index, instruction.offending? = some index ∧ error = .register (.outOfRange index) := by
  constructor
  · intro herror
    by_cases hwell : instruction.WellFormed
    · obtain ⟨after, houtcome, _⟩ := step_of_wellFormed hstatus hfetch hwell
      rw [houtcome] at herror
      cases herror
    · obtain ⟨index, hoffending⟩ := Instruction.exists_offending?_iff.mpr hwell
      rw [(step_of_offending hstatus hfetch hoffending).1] at herror
      cases herror
      exact ⟨index, hoffending, rfl⟩
  · rintro ⟨index, hoffending, rfl⟩
    exact (step_of_offending hstatus hfetch hoffending).1

theorem faulted_of_register_error {machine : Machine} {error : RegisterError}
    (houtcome : machine.step.outcome = .error (.register error)) :
    machine.next.status = .faulted := by
  have hcycle := machine.step_cycle
  unfold next
  generalize machine.step = step at hcycle houtcome
  cases hcycle with
  | refused | halts | completes => cases houtcome
  | faults => rfl

theorem Reachable.not_faulted {program : Program} (hwell : program.WellFormed) {machine : Machine}
    (hreach : Reachable program machine) : machine.status ≠ .faulted := by
  intro hfaulted
  obtain ⟨_, instruction, hfetch, hordinal, index, hmem, hrange⟩ :=
    hreach.consistent.faulted hfaulted
  exact hrange (hwell instruction (Program.mem_of_fetch? hfetch) hordinal index hmem)

/-- A machine with a program of well-formed instructions stops only where it can fetch none. -/
theorem Reachable.fetch?_of_stopped {program : Program} (hwell : program.WellFormed)
    {machine : Machine} (hreach : Reachable program machine) (hstopped : machine.status ≠ .running) :
    program.fetch? machine.ip = none := by
  apply hreach.consistent.halted
  cases hstatus : machine.status with
  | running => exact absurd hstatus hstopped
  | halted => rfl
  | faulted => exact absurd hstatus (hreach.not_faulted hwell)

theorem Reachable.step_ne_register_error {program : Program} (hwell : program.WellFormed)
    {machine : Machine} (hreach : Reachable program machine) (error : RegisterError) :
    machine.step.outcome ≠ .error (.register error) := by
  intro houtcome
  have hnext : Reachable program machine.next := hreach.tail .step
  exact hnext.not_faulted hwell (faulted_of_register_error houtcome)

/-- A cycle of a running machine goes wrong exactly on an instruction that is not well-formed, with
its first offending field, and then leaves all but register 0 and the status as it was. Hence no
call on a program of well-formed instructions goes wrong, in whatever order the calls are made. -/
theorem fault_iff_not_wellFormed :
    (∀ (machine : Machine) (instruction : Instruction), machine.status = .running →
      machine.program.fetch? machine.ip = some instruction →
        ((∃ error, machine.step.outcome = .error error) ↔ ¬ instruction.WellFormed) ∧
        ∀ error, machine.step.outcome = .error error →
          (∃ index, instruction.offending? = some index ∧ error = .register (.outOfRange index)) ∧
          let after := machine.step.machine
          after.registers.pointer = machine.ip ∧
          (∀ index : Int, index ≠ 0 →
            after.registers.values index = machine.registers.values index) ∧
          after.ip = machine.ip ∧ after.cycles = machine.cycles ∧
          after.program = machine.program ∧ after.status = .faulted) ∧
    ∀ program : Program, program.WellFormed → ∀ machine : Machine, Reachable program machine →
      machine.status ≠ .faulted ∧
      ∀ error : RegisterError, machine.step.outcome ≠ .error (.register error) ∧
        ∀ bound run, machine.run bound = some run → run.outcome ≠ .error (.register error) := by
  refine ⟨fun machine instruction hstatus hfetch => ⟨?_, fun error herror => ?_⟩,
    fun program hwell machine hreach => ⟨hreach.not_faulted hwell, fun error =>
      ⟨hreach.step_ne_register_error hwell error, fun bound run hrun houtcome => ?_⟩⟩⟩
  · rw [← Instruction.exists_offending?_iff]
    simp only [error_step_iff hstatus hfetch]
    constructor
    · intro ⟨_, index, hoffending, _⟩
      exact ⟨index, hoffending⟩
    · intro ⟨index, hoffending⟩
      exact ⟨_, index, hoffending, rfl⟩
  · obtain ⟨index, hoffending, rfl⟩ := (error_step_iff hstatus hfetch).mp herror
    refine ⟨⟨index, hoffending, rfl⟩, ?_⟩
    rw [(step_of_offending hstatus hfetch hoffending).2]
    refine ⟨Registers.pointer_setPointer _ _, ?_, rfl, rfl, rfl, rfl⟩
    intro index hindex
    rw [Registers.values_setPointer]
    exact Function.update_of_ne hindex _ _
  · obtain ⟨count, hcount⟩ := run_eq_error hrun houtcome
    exact (hreach.iterate_next count).step_ne_register_error hwell error hcount

theorem fault_iff_not_wellFormed_at :
    let faulting := (load faultAfterJump).step.machine
    let circling : Program := ⟨#[⟨4, 0, -1, 0⟩]⟩
    faulting.status = .running ∧ faulting.program.fetch? faulting.ip = some ⟨0, 0, 5, 1⟩ ∧
      faulting.step.outcome = .error (.register (.outOfRange 5)) ∧
      faulting.step.machine.registers.pointer = 2 ∧
      circling.WellFormed ∧ (load circling).step.machine.status ≠ .faulted := by
  intro faulting circling
  have hstatus : faulting.status = .running := by decide
  have hfetch : faulting.program.fetch? faulting.ip = some ⟨0, 0, 5, 1⟩ := by decide
  have hwell : circling.WellFormed := by decide
  obtain ⟨hfault, hfree⟩ := fault_iff_not_wellFormed
  obtain ⟨hiff, hspec⟩ := hfault faulting ⟨0, 0, 5, 1⟩ hstatus hfetch
  obtain ⟨error, herror⟩ := hiff.mpr (by decide)
  obtain ⟨⟨index, hoffending, rfl⟩, hpointer, _⟩ := hspec error herror
  cases hoffending
  exact ⟨hstatus, hfetch, herror, hpointer, hwell,
    (hfree circling hwell _ (Relation.ReflTransGen.refl.tail .step)).1⟩

end Machine

end FourReg
