import FourReg.Proofs.Reachable
import FourReg.Proofs.Writes
import FourReg.Report

/-!
# A reset erases the past

The register file of a machine is open to writes from outside, between any two calls. They put
register 0 out of step with the pointer, so what is known of machines that are only called does not
hold any more. Still no call and no write changes the program (`Change.program_eq`), and a reset sets
all that there is besides. So it leads back to the machine that was loaded, from wherever it is
called.
-/

namespace FourReg

namespace Machine

/-- A machine after a write to its registers, which leaves everything else as it was. -/
def writeRegisters (machine : Machine) (write : Registers.Write) : Machine :=
  { machine with registers := machine.registers.write write }

/-- What can happen to a machine: a call, or a write to its registers. -/
inductive Change (machine : Machine) : Machine → Prop
  | call {after : Machine} (hcall : Call machine after) : Change machine after
  | write (write : Registers.Write) : Change machine (machine.writeRegisters write)

/-- The machines that any number of calls and writes, in any order, make of one loaded with
`program`. -/
def Changed (program : Program) : Machine → Prop :=
  Relation.ReflTransGen Change (load program)

theorem Change.program_eq {machine after : Machine} (hchange : Change machine after) :
    after.program = machine.program := by
  cases hchange with
  | call hcall =>
    cases hcall with
    | step => exact program_next machine
    | run hrun => exact program_run hrun
    | reset => rfl
  | write => rfl

theorem Changed.program_eq {program : Program} {machine : Machine}
    (hchanged : Changed program machine) : machine.program = program := by
  induction hchanged with
  | refl => rfl
  | tail _ hchange ih => rw [hchange.program_eq, ih]

theorem Changed.reset_eq_load {program : Program} {machine : Machine}
    (hchanged : Changed program machine) : machine.reset = load program := by
  rw [Machine.reset_eq_load, hchanged.program_eq]

/-- Whatever was called on a machine and written to its registers, after a reset it is the machine
that was loaded, and runs and is reported on like that one. -/
theorem reset_erases_past {program : Program} {machine : Machine}
    (hchanged : Changed program machine) :
    machine.reset = load program ∧
      ∀ bound, machine.reset.run bound = (load program).run bound ∧
        machine.reset.runAndReport bound = (load program).runAndReport bound := by
  rw [hchanged.reset_eq_load]
  exact ⟨rfl, fun bound => ⟨rfl, rfl⟩⟩

/-- A run that faulted, and three writes behind it, the second of them refused. -/
theorem reset_erases_past_fault :
    let faulted := (load faultAfterJump).next.next
    let machine := ((faulted.writeRegisters (.set 2 (-7))).writeRegisters (.set 4 1)).writeRegisters
      (.setPointer 9)
    faulted.status = .faulted ∧ Changed faultAfterJump machine ∧
      machine.registers = .ofWords 9 0 (-7) 0 ∧ machine.reset = load faultAfterJump ∧
      ∃ reported report, machine.reset.runAndReport 2 = some reported ∧
        reported.report = some report ∧
        report.fault = some "register index 5 out of range (0 to 3)" := by
  intro faulted machine
  have hrun : ∃ run, (load faultAfterJump).run 2 = some run ∧ run.machine = faulted := ⟨_, rfl, rfl⟩
  obtain ⟨run, hrun, hfaulted⟩ := hrun
  have hchanged : Changed faultAfterJump machine := by
    have hcall : Changed faultAfterJump faulted :=
      hfaulted ▸ Relation.ReflTransGen.single (.call (.run hrun))
    exact ((hcall.tail (.write _)).tail (.write _)).tail (.write _)
  obtain ⟨hreset, hsame⟩ := reset_erases_past hchanged
  refine ⟨by decide, hchanged, by decide, hreset, ?_⟩
  rw [(hsame 2).2]
  exact ⟨_, _, rfl, rfl, rfl⟩

end Machine

end FourReg
