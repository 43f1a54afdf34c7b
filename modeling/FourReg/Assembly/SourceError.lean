import FourReg.Text.Numeral
import FourReg.Text.Quoted
/-!
# What can be wrong with program text

A line that is no instruction is reported with the first thing wrong with it and its number; text
that cannot be read at all is reported without one.
-/

namespace FourReg

/-- Why the text of a program could not be read. -/
inductive ReadError
  /-- A line is not valid UTF-8. -/
  | notText
  | notFound
  /-- The path names a directory. -/
  | isDirectory
  /-- The path goes through something that is not a directory. -/
  | notDirectory
  /-- Anything else, such as a permission that is missing, as the system describes it. -/
  | other (description : String)
deriving DecidableEq

def ReadError.message : ReadError → String
  | notText => "stream did not contain valid UTF-8"
  | notFound => "No such file or directory (os error 2)"
  | isDirectory => "Is a directory (os error 21)"
  | notDirectory => "Not a directory (os error 20)"
  | other description => description

inductive FieldName
  | opcode | a | b | c
deriving DecidableEq

def FieldName.text : FieldName → String
  | opcode => "opcode"
  | a => "A"
  | b => "B"
  | c => "C"

inductive LineError
  /-- It has `found` fields and not four. -/
  | fieldCount (found : Nat)
  /-- The field `name` does not read as it should. -/
  | invalidField (name : FieldName) (field : List Char)
deriving DecidableEq

def LineError.message : LineError → String
  | fieldCount found => "expected 4 fields, found " ++ Numeral.text found
  | invalidField name field =>
    "invalid " ++ name.text ++ " field: " ++ String.ofList (Quoted.encode Quoted.isHidden field)

inductive SourceError
  | unreadable (cause : ReadError)
  /-- The line of this number, counted from one, is no instruction. -/
  | malformed (line : Nat) (cause : LineError)
deriving DecidableEq

def SourceError.message : SourceError → String
  | unreadable cause => "I/O error: " ++ cause.message
  | malformed line cause =>
    "parse error on line " ++ Numeral.text line ++ ": " ++ cause.message

end FourReg
