import FourReg.Machine.Record
/-!
# The machine and its cycle

A machine holds its registers, its program, the instruction pointer, a status and a count of the
cycles it completed. `Machine.step` is one cycle: store the pointer in register 0, execute the
instruction it addresses, and continue after the address that register 0 holds then. Writing
register 0 is therefore how a program jumps.

A pointer that addresses no instruction halts the machine, and a register reference out of range
faults it; a machine that stopped is only started again by `Machine.reset`.

What the count of cycles is kept in is left open. In a word of 64 bits it starts again at zero when it
is exhausted; a natural number is never exhausted, and what is said about whole runs is said about
machines that count in these.
-/

namespace FourReg

inductive Status
  | running
  /-- The pointer left the program. -/
  | halted
  /-- An instruction referred to a register out of range. -/
  | faulted
deriving DecidableEq

namespace Status

def all : List Status :=
  [running, halted, faulted]

def name : Status → String
  | running => "Running"
  | halted => "Halted"
  | faulted => "Faulted"

end Status

inductive MachineError
  /-- The machine had stopped before. -/
  | notRunning (status : Status)
  /-- The instruction refers to a register out of range. -/
  | register (error : RegisterError)
deriving DecidableEq

def MachineError.message : MachineError → String
  | notRunning status => "CPU not running: " ++ status.name
  | register error => error.message

/-- What cycles can be counted in. -/
class Counter (Count : Type) where
  /-- The count after one more cycle. -/
  next : Count → Count
  /-- The number that is written for a count. -/
  toNat : Count → Nat

instance : Counter Nat where
  next count := count + 1
  toNat count := count

/-- In 64 bits the count wraps. -/
instance : Counter UInt64 where
  next count := count + 1
  toNat := UInt64.toNat

structure Machine (Count : Type := Nat) where
  registers : Registers
  program : Program
  ip : Word
  status : Status
  cycles : Count
deriving DecidableEq

structure Step (Count : Type := Nat) where
  /-- The instruction that was executed, none if the machine halted instead, or what went wrong. -/
  outcome : Except MachineError (Option Instruction)
  machine : Machine Count
  records : List Record

namespace Machine

/-- A machine about to run `program` from its first instruction, with all registers zero. -/
def load (program : Program) : Machine :=
  { registers := .zero, program, ip := 0, status := .running, cycles := 0 }

/-- The machine in the state in which its program was loaded. -/
def reset (machine : Machine) : Machine :=
  { machine with registers := .zero, ip := 0, status := .running, cycles := 0 }

theorem reset_eq_load (machine : Machine) : machine.reset = load machine.program := by
  rfl

def isRunning (machine : Machine) : Bool :=
  machine.status == .running

/-- One cycle. On a fault register 0 keeps the pointer that was stored in it, and neither the
pointer nor the cycle count moves; a machine that halts or has stopped keeps its registers. -/
def step {Count : Type} [Counter Count] (machine : Machine Count) : Step Count :=
  if machine.status ≠ .running then
    { outcome := .error (.notRunning machine.status), machine, records := [] }
  else
    match machine.program.fetch? machine.ip with
    | none =>
      { outcome := .ok none
        machine := { machine with status := .halted }
        records :=
          [.halted machine.ip machine.program.size (Counter.toNat machine.cycles)] }
    | some instruction =>
      let entry := machine.registers.setPointer machine.ip
      let fetched : Record := .fetched machine.ip instruction entry
      let skipped : List Record :=
        if (Opcode.ofOrdinal? instruction.opcode).isNone then
          [.skipped instruction.opcode machine.ip]
        else []
      match instruction.execute entry with
      | .error error =>
        { outcome := .error (.register error)
          machine := { machine with registers := entry, status := .faulted }
          records := fetched :: (skipped ++ [.faulted machine.ip error]) }
      | .ok registers =>
        { outcome := .ok (some instruction)
          machine := { machine with
            registers, ip := registers.pointer + 1, cycles := Counter.next machine.cycles }
          records := fetched :: skipped }

/-- Up to `limit` cycles, fewer if the machine stops: what each of them leads to, in order. -/
def steps : Nat → Machine → List Step
  | 0, _ => []
  | limit + 1, machine =>
    if machine.isRunning then
      let step := machine.step
      step :: steps limit step.machine
    else []

end Machine

end FourReg
