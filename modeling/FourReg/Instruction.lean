import FourReg.Registers
/-!
# Instructions

An instruction is four words: an opcode and the fields `A`, `B` and `C`. A known opcode stores the
result of its operation in register `C`; an unknown one does nothing.
-/

namespace FourReg

structure Instruction where
  opcode : Word
  a : Word
  b : Word
  c : Word
deriving DecidableEq

namespace Instruction

/-- What an instruction does to the registers. The operands are read before `C` is looked at, so of
several register references out of range the first in the order `A`, `B`, `C` is reported. -/
def execute (instruction : Instruction) (registers : Registers) : Except RegisterError Registers :=
  match Opcode.ofOrdinal? instruction.opcode with
  | none => .ok registers
  | some opcode => do
    let (first, second) ← opcode.mode.operands registers instruction.a instruction.b
    registers.set instruction.c (opcode.operation.apply first second)

end Instruction

end FourReg
