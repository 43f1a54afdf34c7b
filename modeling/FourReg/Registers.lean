import FourReg.Opcode
/-!
# The register file

Four words. An index is a word too, so every access is checked: `Registers.slot?` is the one place
that says which indices are in range. Register 0 is where a program finds the instruction pointer,
and where it can change it.
-/

namespace FourReg

structure Registers where
  slots : Vector Word 4
deriving DecidableEq

inductive RegisterError
  /-- The index is none of 0, 1, 2 and 3. -/
  | outOfRange (index : Word)
deriving DecidableEq

def RegisterError.message : RegisterError → String
  | .outOfRange index => "register index " ++ Numeral.text index.toInt ++ " out of range (0 to 3)"

namespace Registers

def zero : Registers :=
  ⟨Vector.replicate 4 0⟩

def ofWords (r0 r1 r2 r3 : Word) : Registers :=
  ⟨#v[r0, r1, r2, r3]⟩

def toList (registers : Registers) : List Word :=
  registers.slots.toList

def slot? (index : Word) : Option (Fin 4) :=
  if h : 0 ≤ index.toInt ∧ index.toInt < 4 then some ⟨index.toInt.toNat, by omega⟩ else none

def get (registers : Registers) (index : Word) : Except RegisterError Word :=
  match slot? index with
  | some slot => .ok registers.slots[slot]
  | none => .error (.outOfRange index)

def set (registers : Registers) (index value : Word) : Except RegisterError Registers :=
  match slot? index with
  | some slot => .ok ⟨registers.slots.set slot value⟩
  | none => .error (.outOfRange index)

def pointer (registers : Registers) : Word :=
  registers.slots[0]

def setPointer (registers : Registers) (value : Word) : Registers :=
  ⟨registers.slots.set 0 value⟩

/-- The four words as numerals, in register order, with `separator` between them. -/
def join (separator : String) (registers : Registers) : String :=
  separator.intercalate (registers.toList.map fun word => Numeral.text word.toInt)

def text (registers : Registers) : String :=
  registers.join " "

end Registers

/-- The two operands that a mode picks from the registers and the fields `A` and `B`. Of two
register references out of range the one in `A` is reported. -/
def AddressMode.operands (mode : AddressMode) (registers : Registers) (a b : Word) :
    Except RegisterError (Word × Word) :=
  match mode with
  | .regReg => do return (← registers.get a, ← registers.get b)
  | .regImm => do return (← registers.get a, b)
  | .immReg => do return (a, ← registers.get b)

end FourReg
