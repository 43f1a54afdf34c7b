import FourReg.Machine.Basic
import FourReg.Proofs.Integers
/-!
# What a cycle can do

A cycle is refused by a machine that has stopped; otherwise it halts the machine, faults it or
completes. `Cycle` has one constructor for each and every proof about a cycle is by cases on it, or
goes by a constructor whose conditions are known. `Machine.step` is opened here only, in `step_cycle`
and `Cycle.step_eq`.
-/

namespace FourReg

variable {Count : Type}

def Machine.fetchRecords (machine : Machine Count) (instruction : Instruction) : List Record :=
  .fetched machine.ip instruction (machine.registers.setPointer machine.ip) ::
    if (Opcode.ofOrdinal? instruction.opcode).isNone then
      [.skipped instruction.opcode machine.ip]
    else []

inductive Cycle [Counter Count] (machine : Machine Count) : Step Count → Prop
  | refused (hstatus : machine.status ≠ .running) :
    Cycle machine
      { outcome := .error (.notRunning machine.status), machine, records := [] }
  | halts (hstatus : machine.status = .running)
      (hfetch : machine.program.fetch? machine.ip = none) :
    Cycle machine
      { outcome := .ok none
        machine := { machine with status := .halted }
        records := [.halted machine.ip machine.program.size (Counter.toNat machine.cycles)] }
  | faults {instruction : Instruction} {error : RegisterError}
      (hstatus : machine.status = .running)
      (hfetch : machine.program.fetch? machine.ip = some instruction)
      (hexecute : instruction.execute (machine.registers.setPointer machine.ip) = .error error) :
    Cycle machine
      { outcome := .error (.register error)
        machine := { machine with
          registers := machine.registers.setPointer machine.ip, status := .faulted }
        records := machine.fetchRecords instruction ++ [.faulted machine.ip error] }
  | completes {instruction : Instruction} {after : Registers}
      (hstatus : machine.status = .running)
      (hfetch : machine.program.fetch? machine.ip = some instruction)
      (hexecute : instruction.execute (machine.registers.setPointer machine.ip) = .ok after) :
    Cycle machine
      { outcome := .ok (some instruction)
        machine := { machine with
          registers := after, ip := after.pointer + 1, cycles := Counter.next machine.cycles }
        records := machine.fetchRecords instruction }

namespace Machine

theorem step_cycle [Counter Count] (machine : Machine Count) : Cycle machine machine.step := by
  unfold step
  by_cases hstatus : machine.status = .running
  · rw [if_neg (not_not_intro hstatus)]
    cases hfetch : machine.program.fetch? machine.ip with
    | none => exact .halts hstatus hfetch
    | some instruction =>
      dsimp only
      cases hexecute : instruction.execute (machine.registers.setPointer machine.ip) with
      | error error => exact .faults hstatus hfetch hexecute
      | ok after => exact .completes hstatus hfetch hexecute
  · rw [if_pos hstatus]
    exact .refused hstatus

end Machine

/-- A machine has only one cycle before it. -/
theorem Cycle.step_eq [Counter Count] {machine : Machine Count} {step : Step Count}
    (hcycle : Cycle machine step) : machine.step = step := by
  cases hcycle with
  | refused hstatus => simp [Machine.step, hstatus]
  | halts hstatus hfetch => simp [Machine.step, hstatus, hfetch]
  | faults hstatus hfetch hexecute =>
    simp [Machine.step, hstatus, hfetch, hexecute, Machine.fetchRecords]
  | completes hstatus hfetch hexecute =>
    simp [Machine.step, hstatus, hfetch, hexecute, Machine.fetchRecords]

namespace Machine

theorem isRunning_iff {machine : Machine} : machine.isRunning = true ↔ machine.status = .running := by
  simp [isRunning]

/-- A machine that has stopped refuses a cycle and stays as it is. -/
theorem step_of_stopped [Counter Count] {machine : Machine Count} (hstatus : machine.status ≠ .running) :
    machine.step = { outcome := .error (.notRunning machine.status), machine, records := [] } :=
  (Cycle.refused hstatus).step_eq

/-- A running machine is faulted by an instruction with an offending field. Register 0 was set to
the pointer before, and nothing else moves. -/
theorem step_of_offending [Counter Count] {machine : Machine Count} {instruction : Instruction} {index : Word}
    (hstatus : machine.status = .running)
    (hfetch : machine.program.fetch? machine.ip = some instruction)
    (hoffending : instruction.offending? = some index) :
    machine.step.outcome = .error (.register (.outOfRange index)) ∧
      machine.step.machine = { machine with
        registers := machine.registers.setPointer machine.ip, status := .faulted } := by
  have hexecute := Instruction.execute_of_offending
    (machine.registers.setPointer machine.ip) hoffending
  rw [(Cycle.faults hstatus hfetch hexecute).step_eq]
  exact ⟨rfl, rfl⟩

/-- A running machine completes a well-formed instruction, with its effect over the integers on the
registers, of which register 0 was set to the pointer before. -/
theorem step_of_wellFormed [Counter Count] {machine : Machine Count} {instruction : Instruction}
    (hstatus : machine.status = .running)
    (hfetch : machine.program.fetch? machine.ip = some instruction)
    (hwell : instruction.WellFormed) :
    ∃ after, machine.step.outcome = .ok (some instruction) ∧
      machine.step.machine = { machine with
        registers := after, ip := after.pointer + 1, cycles := Counter.next machine.cycles } ∧
      after.values =
        instruction.effect (Function.update machine.registers.values 0 machine.ip.toInt) := by
  obtain ⟨after, hexecute, hvalues⟩ := Instruction.execute_of_wellFormed
    (machine.registers.setPointer machine.ip) hwell
  rw [Registers.values_setPointer] at hvalues
  rw [(Cycle.completes hstatus hfetch hexecute).step_eq]
  exact ⟨after, rfl, rfl, hvalues⟩

end Machine

end FourReg
