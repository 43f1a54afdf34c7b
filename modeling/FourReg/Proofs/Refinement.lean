import FourReg.Proofs.Cycle
/-!
# Cycles over the integers

A completed cycle, read over the integers: the pointer is stored in register 0, the instruction has
its effect, and the pointer continues behind what register 0 holds then. Operands that read register
0 see the pointer, and a destination of 0 is a jump. Both the result and the new pointer wrap.

The count of cycles grows by one. A machine that counts in 64 bits wraps it, too.
-/

namespace FourReg

namespace Machine

variable {Count : Type} [Counter Count] {machine : Machine Count}

theorem step_of_outside (hstatus : machine.status = .running)
    (hfetch : machine.program.fetch? machine.ip = none) :
    machine.step.outcome = .ok none ∧
      machine.step.machine = { machine with status := .halted } := by
  rw [(Cycle.halts hstatus hfetch).step_eq]
  exact ⟨rfl, rfl⟩

theorem wellFormed_of_ne_error {instruction : Instruction}
    (hstatus : machine.status = .running)
    (hfetch : machine.program.fetch? machine.ip = some instruction)
    (hcompletes : ∀ error, machine.step.outcome ≠ .error error) : instruction.WellFormed := by
  by_contra hnot
  obtain ⟨index, hoffending⟩ := Instruction.exists_offending?_iff.mpr hnot
  exact hcompletes _ (step_of_offending hstatus hfetch hoffending).1

/-- A cycle of a running machine that does not go wrong has the effect of its instruction over the
integers, and its count is the next one, which in 64 bits is zero after the last. A pointer that
addresses no instruction halts the machine and changes nothing else. -/
theorem step_refines_integers (hstatus : machine.status = .running) :
    (∀ instruction, machine.program.fetch? machine.ip = some instruction →
      (∀ error, machine.step.outcome ≠ .error error) →
        let r := Function.update machine.registers.values 0 machine.ip.toInt
        let after := machine.step.machine
        machine.step.outcome = .ok (some instruction) ∧
        after.registers.values = instruction.effect r ∧
        after.ip.toInt = Word.wrap (after.registers.values 0 + 1) ∧
        after.cycles = Counter.next machine.cycles ∧
        after.status = .running ∧ after.program = machine.program) ∧
    (machine.program.fetch? machine.ip = none →
      machine.step.outcome = .ok none ∧
        machine.step.machine = { machine with status := .halted }) ∧
    (∀ count : Nat, Counter.next count = count + 1) ∧
    ∀ count : UInt64, (Counter.next count).toNat = (count.toNat + 1) % 2 ^ 64 := by
  refine ⟨fun instruction hfetch hcompletes => ?_, step_of_outside hstatus, fun _ => rfl,
    fun count => UInt64.toNat_add count 1⟩
  have hwell := wellFormed_of_ne_error hstatus hfetch hcompletes
  obtain ⟨after, hexecuted, hmachine, hvalues⟩ := step_of_wellFormed hstatus hfetch hwell
  rw [hmachine]
  exact ⟨hexecuted, hvalues, after.toInt_pointer_succ, rfl, hstatus, rfl⟩

/-- A product beyond the range of words as the target of a jump, before the last count and with it. -/
theorem step_refines_integers_at :
    let machine (cycles : UInt64) : Machine UInt64 :=
      { registers := .ofWords 9 2147483647 0 5, program := ⟨#[⟨3, 1, 2, 0⟩]⟩, ip := 0,
        status := .running, cycles }
    let after := (machine 41).step.machine
    let last := (machine 18446744073709551615).step.machine
    (machine 41).step.outcome = .ok (some ⟨3, 1, 2, 0⟩) ∧ after.registers.values 0 = -2 ∧
      after.registers.values 3 = 5 ∧ after.ip.toInt = -1 ∧ after.cycles.toNat = 42 ∧
      last.ip.toInt = -1 ∧ last.cycles.toNat = 0 := by
  intro machine after last
  have hcompletes (cycles : UInt64) : ∀ error, (machine cycles).step.outcome ≠ .error error := by
    intro error herror
    cases herror
  have hstatus (cycles : UInt64) : (machine cycles).status = .running := rfl
  have hfetch (cycles : UInt64) :
      (machine cycles).program.fetch? (machine cycles).ip = some ⟨3, 1, 2, 0⟩ := rfl
  obtain ⟨hcompleted, _, _, hcount⟩ := step_refines_integers (hstatus 41)
  obtain ⟨houtcome, hvalues, hip, hcycles, _⟩ := hcompleted _ (hfetch 41) (hcompletes 41)
  obtain ⟨_, hlastValues, hlastIp, hlastCycles, _⟩ :=
    (step_refines_integers (hstatus 18446744073709551615)).1 _ (hfetch _) (hcompletes _)
  refine ⟨houtcome, ?_, ?_, ?_, ?_, ?_, ?_⟩
  · rw [hvalues]
    decide +kernel
  · rw [hvalues]
    decide +kernel
  · rw [hip, hvalues]
    decide +kernel
  · rw [hcycles, hcount]
    rfl
  · rw [hlastIp, hlastValues]
    decide +kernel
  · rw [hlastCycles, hcount]
    decide +kernel

end Machine

end FourReg
