import FourReg.Machine.Run
/-!
# Listings

Instructions in readable form: the mnemonic, the two operands, an arrow and the destination. An `r`
before a number marks it as the name of a register, so the role of each field can be seen. An
instruction with an unknown opcode is listed by its four numbers. A trace line shows a completed
cycle in the same form.
-/

namespace FourReg

def literalText (word : Word) : String :=
  Numeral.text word.toInt

def registerText (index : Word) : String :=
  "r" ++ Numeral.text index.toInt

/-- The two operands in the roles that a mode gives them. -/
def AddressMode.operandTexts : AddressMode → Word → Word → String × String
  | .regReg, a, b => (registerText a, registerText b)
  | .regImm, a, b => (registerText a, literalText b)
  | .immReg, a, b => (literalText a, registerText b)

def Instruction.listing (instruction : Instruction) : String :=
  match Opcode.ofOrdinal? instruction.opcode with
  | none =>
    "??? " ++ literalText instruction.opcode ++ " " ++ literalText instruction.a ++ " " ++
      literalText instruction.b ++ " " ++ literalText instruction.c
  | some opcode =>
    let (first, second) := opcode.mode.operandTexts instruction.a instruction.b
    opcode.mnemonic ++ " " ++ first ++ " " ++ second ++ " -> " ++ registerText instruction.c

/-- The line for the instruction at an address, with the line feed. -/
def Instruction.listingLine (address : Nat) (instruction : Instruction) : String :=
  Numeral.padded 3 address ++ ": " ++ instruction.listing ++ "\n"

/-- A program as one line per instruction, in order, each with its address. -/
def Program.listing (program : Program) : String :=
  String.join ((program.instructions.toList.zipIdx).map fun entry => entry.1.listingLine entry.2)

/-- The text of a trace line: the address, the instruction and the registers afterwards. -/
def TraceLine.text (line : TraceLine) : String :=
  let listing := line.instruction.listing
  Numeral.padded 3 line.ip.toInt ++ ": " ++
    String.ofList (listing.toList ++ List.replicate (24 - listing.length) ' ') ++
    " regs=[" ++ line.registers.join ", " ++ "]"

end FourReg
