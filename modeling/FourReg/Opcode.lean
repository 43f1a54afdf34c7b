import FourReg.Text.Numeral
/-!
# Opcodes

Twelve opcodes, each a fixed pair of an operation and an addressing mode. `setr` and `seti` both
copy the second operand, so `setr` stores the literal `B` and `seti` the register that `B` names.

An instruction holds its opcode as a word. `Opcode.ofOrdinal?` is the opcode that a word stands
for, if any, and is inverse to `Opcode.ordinal`.
-/

namespace FourReg

/-- Which of the fields `A` and `B` name a register; the other one is the operand itself. -/
inductive AddressMode
  /-- Both fields name registers. -/
  | regReg
  /-- `A` names a register and `B` is a literal. -/
  | regImm
  /-- `A` is a literal and `B` names a register. -/
  | immReg
deriving DecidableEq

namespace AddressMode

def all : List AddressMode :=
  [regReg, regImm, immReg]

def name : AddressMode → String
  | regReg => "RegReg"
  | regImm => "RegImm"
  | immReg => "ImmReg"

end AddressMode

/-- What is computed from the two operands. -/
inductive Operation
  | add
  | mul
  /-- The second operand, whatever the first. -/
  | copy
  /-- One if the first operand is the greater, else zero. -/
  | greaterThan
  /-- One if the operands are equal, else zero. -/
  | equal
deriving DecidableEq

namespace Operation

def all : List Operation :=
  [add, mul, copy, greaterThan, equal]

def name : Operation → String
  | add => "Add"
  | mul => "Mul"
  | copy => "Copy"
  | greaterThan => "GreaterThan"
  | equal => "Equal"

/-- The result of an operation; sums and products wrap. -/
def apply : Operation → Word → Word → Word
  | add, first, second => first + second
  | mul, first, second => first * second
  | copy, _, second => second
  | greaterThan, first, second => if second < first then 1 else 0
  | equal, first, second => if first = second then 1 else 0

end Operation

/-- The opcodes, named by their mnemonics. -/
inductive Opcode
  | addr | addi | mulr | muli | setr | seti | gtir | gtri | gtrr | eqir | eqri | eqrr
deriving DecidableEq

structure UnknownOpcode where
  ordinal : Word
deriving DecidableEq

def UnknownOpcode.message (unknown : UnknownOpcode) : String :=
  "unknown opcode: " ++ Numeral.text unknown.ordinal.toInt

namespace Opcode

/-- All opcodes, in the order of their ordinals. -/
def all : List Opcode :=
  [addr, addi, mulr, muli, setr, seti, gtir, gtri, gtrr, eqir, eqri, eqrr]

/-- The word that stands for an opcode in an instruction. -/
def ordinal : Opcode → Word
  | addr => 0 | addi => 1 | mulr => 2 | muli => 3 | setr => 4 | seti => 5
  | gtir => 6 | gtri => 7 | gtrr => 8 | eqir => 9 | eqri => 10 | eqrr => 11

def mnemonic : Opcode → String
  | addr => "addr" | addi => "addi" | mulr => "mulr" | muli => "muli"
  | setr => "setr" | seti => "seti" | gtir => "gtir" | gtri => "gtri"
  | gtrr => "gtrr" | eqir => "eqir" | eqri => "eqri" | eqrr => "eqrr"

/-- The name of an opcode, which is its mnemonic with a capital. -/
def name : Opcode → String
  | addr => "Addr" | addi => "Addi" | mulr => "Mulr" | muli => "Muli"
  | setr => "Setr" | seti => "Seti" | gtir => "Gtir" | gtri => "Gtri"
  | gtrr => "Gtrr" | eqir => "Eqir" | eqri => "Eqri" | eqrr => "Eqrr"

def operation : Opcode → Operation
  | addr | addi => .add
  | mulr | muli => .mul
  | setr | seti => .copy
  | gtir | gtri | gtrr => .greaterThan
  | eqir | eqri | eqrr => .equal

def mode : Opcode → AddressMode
  | addr | mulr | gtrr | eqrr => .regReg
  | addi | muli | setr | gtri | eqri => .regImm
  | seti | gtir | eqir => .immReg

def ofOrdinal? (word : Word) : Option Opcode :=
  all.find? fun opcode => opcode.ordinal == word

/-- The opcode that a mnemonic names. Letters count without their case, and only the ASCII letters
have one. -/
def ofMnemonic? (name : List Char) : Option Opcode :=
  all.find? fun opcode => opcode.mnemonic.toList == name.map Char.toLower

def decode (word : Word) : Except UnknownOpcode (Operation × AddressMode) :=
  match ofOrdinal? word with
  | some opcode => .ok (opcode.operation, opcode.mode)
  | none => .error ⟨word⟩

@[simp] theorem ofOrdinal?_ordinal (opcode : Opcode) : ofOrdinal? opcode.ordinal = some opcode := by
  cases opcode <;> rfl

theorem ofOrdinal?_eq_some_iff {word : Word} {opcode : Opcode} :
    ofOrdinal? word = some opcode ↔ opcode.ordinal = word := by
  constructor
  · intro h
    simpa using List.find?_some h
  · rintro rfl
    exact ofOrdinal?_ordinal opcode

end Opcode

end FourReg
