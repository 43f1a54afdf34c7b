import FourReg.Json.Basic
import FourReg.Json.Literal
/-!
# Documents of known shape

How values of known types are built from documents and back. A record is an object with its fields
in any order, or an array of all fields in the order of their declaration; an alternative without
content is its name, or an object that maps its name to null.
-/

namespace FourReg.Json

def ofInt (value : Int) : Json :=
  .number (Numeral.chars value)

def ofText (text : String) : Json :=
  .string (encodeString text.toList)

def ofFields (fields : List (String × Json)) : Json :=
  .object (fields.map fun field => (encodeString field.1.toList, field.2))

def toInt? : Json → Option Int
  | .number literal => integer? literal
  | _ => none

def toWord? (document : Json) : Option Word :=
  document.toInt?.bind Word.ofInt?

/-- The count that a document stands for, which takes at most 64 bits. -/
def toCount? (document : Json) : Option Nat := do
  let value ← document.toInt?
  if 0 ≤ value ∧ value < UInt64.size then some value.toNat else none

def toText? : Json → Option String
  | .string literal => (decodeString? literal).map String.ofList
  | _ => none

def toList? : Json → Option (List Json)
  | .array items => some items
  | _ => none

/-- The value of a field among the members of an object, none inside if it is missing. A repeated
field is an error; keys that are no text have to be excluded before. -/
def field? (members : List (List Char × Json)) (name : String) : Option (Option Json) :=
  match members.filter fun member => member.1 == name.toList with
  | [] => some none
  | [(_, value)] => some (some value)
  | _ => none

/-- The values of the fields of a record, in the order of `names`. Members of other names are
ignored, but their keys have to be texts. -/
def fields? (names : List String) : Json → Option (List (Option Json))
  | .array items => if items.length = names.length then some (items.map some) else none
  | .object members => do
    let members ← members.mapM fun member =>
      (decodeString? member.1).map fun key => (key, member.2)
    names.mapM (field? members)
  | _ => none

/-- The alternative that a document names. -/
def alternative? {α : Type} (all : List α) (name : α → String) : Json → Option α
  | .string literal => do
    let text ← decodeString? literal
    all.find? fun value => (name value).toList == text
  | .object [(key, .null)] => do
    let text ← decodeString? key
    all.find? fun value => (name value).toList == text
  | _ => none

end FourReg.Json
