import FourReg.Instruction
/-!
# Programs

A program is a fixed sequence of instructions. The instruction pointer is a word, which may be
negative or beyond the end; `Program.fetch?` says which pointers address an instruction.
-/

namespace FourReg

/-- A program is a fixed sequence of instructions, addressed from zero. -/
structure Program where
  instructions : Array Instruction
deriving DecidableEq

namespace Program

def empty : Program :=
  ⟨#[]⟩

def size (program : Program) : Nat :=
  program.instructions.size

def isEmpty (program : Program) : Bool :=
  program.instructions.isEmpty

/-- The instruction at an address; a negative address holds none. -/
def fetch? (program : Program) (address : Word) : Option Instruction :=
  if 0 ≤ address.toInt then program.instructions[address.toInt.toNat]? else none

end Program

end FourReg
