import FourReg.Assembly.SourceError
import FourReg.Program
import FourReg.Text.Blank
import FourReg.Text.Utf8
/-!
# Program text

One instruction a line: a mnemonic or an opcode number, then the fields `A`, `B` and `C`, with
white space between them. Blank lines and lines that start with a semicolon say nothing, and a line
`run` ends the program. Lines are read one after the other, so nothing after the end of the program
or after the first bad line is looked at.
-/

namespace FourReg

/-- The opcode word that the first field of a line denotes: a mnemonic, or a literal. -/
def Opcode.ofField (field : List Char) : Except LineError Word :=
  match Opcode.ofMnemonic? field with
  | some opcode => .ok opcode.ordinal
  | none =>
    match Numeral.toWord? field with
    | some word => .ok word
    | none => .error (.invalidField .opcode field)

/-- The word that a field denotes, which has to be a literal. -/
def Word.ofField (name : FieldName) (field : List Char) : Except LineError Word :=
  match Numeral.toWord? field with
  | some word => .ok word
  | none => .error (.invalidField name field)

/-- The instruction that a line denotes. Of several bad fields the first is reported. -/
def Instruction.ofLine (line : List Char) : Except LineError Instruction :=
  match fields line with
  | [opcode, a, b, c] => do
    let opcode ← Opcode.ofField opcode
    let a ← Word.ofField .a a
    let b ← Word.ofField .b b
    let c ← Word.ofField .c c
    return { opcode, a, b, c }
  | found => .error (.fieldCount found.length)

/-- What a line of program text says. -/
inductive Line
  /-- The program ends here. -/
  | finish
  /-- Nothing: the line is blank or a comment. -/
  | silent
  | instruction (instruction : Instruction)
deriving DecidableEq

/-- What a line says, apart from the white space at its ends. -/
def Line.ofText (text : List Char) : Except LineError Line :=
  let content := trim text
  if content = ['r', 'u', 'n'] then .ok .finish
  else if content.isEmpty || content.head? == some ';' then .ok .silent
  else (Instruction.ofLine content).map Line.instruction

namespace Program

/-- Reads the lines from the one numbered `number` on, behind the instructions `earlier`. A line
that is no text is `none`. -/
def ofLines (number : Nat) (earlier : Array Instruction) :
    List (Option (List Char)) → Except SourceError Program
  | [] => .ok ⟨earlier⟩
  | none :: _ => .error (.unreadable .notText)
  | some text :: rest =>
    match Line.ofText text with
    | .error cause => .error (.malformed number cause)
    | .ok .finish => .ok ⟨earlier⟩
    | .ok .silent => ofLines (number + 1) earlier rest
    | .ok (.instruction instruction) => ofLines (number + 1) (earlier.push instruction) rest

/-- The program that a stream of bytes denotes. Its lines end at line feeds. -/
def ofBytes (bytes : List UInt8) : Except SourceError Program :=
  ofLines 1 #[] ((bytes.splitOn 0x0A).map Utf8.decode?)

/-- The program that an input denotes: the one that its bytes denote, if they can be read. -/
def ofInput : Except ReadError (List UInt8) → Except SourceError Program
  | .ok bytes => ofBytes bytes
  | .error cause => .error (.unreadable cause)

/-- The program that a text denotes: the one that its bytes denote. -/
def ofText (text : String) : Except SourceError Program :=
  ofBytes (Utf8.encode text.toList)

end Program

end FourReg
