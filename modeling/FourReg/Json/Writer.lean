import FourReg.Json.Basic
import FourReg.Json.Literal
/-!
# Writing JSON

A document is written in one of two layouts: compact, without any white space, or indented, with
every item and member on a line of its own. An array or object without content has no inner line in
either.
-/

namespace FourReg.Json

/-- The white space of a layout. -/
structure Layout where
  /-- What is written before something that is nested this deep. -/
  lineBreak : Nat → List Char
  /-- What is written between the colon of a member and its value. -/
  afterColon : List Char

namespace Layout

def compact : Layout :=
  { lineBreak := fun _ => [], afterColon := [] }

def indented : Layout :=
  { lineBreak := fun depth => '\n' :: List.replicate (2 * depth) ' ', afterColon := [' '] }

end Layout

mutual

/-- The text of a document that is nested `depth` deep. -/
def write (layout : Layout) (depth : Nat) : Json → List Char
  | .null => ['n', 'u', 'l', 'l']
  | .bool true => ['t', 'r', 'u', 'e']
  | .bool false => ['f', 'a', 'l', 's', 'e']
  | .number literal => literal
  | .string literal => ['"'] ++ literal ++ ['"']
  | .array [] => ['[', ']']
  | .array (item :: items) =>
    ['['] ++ layout.lineBreak (depth + 1) ++ write layout (depth + 1) item ++
      writeItems layout depth items
  | .object [] => ['{', '}']
  | .object ((key, value) :: members) =>
    ['{'] ++ layout.lineBreak (depth + 1) ++ (['"'] ++ key ++ ['"', ':'] ++ layout.afterColon ++
      write layout (depth + 1) value) ++ writeMembers layout depth members

/-- The text behind an item of an array, with the items that follow it. -/
def writeItems (layout : Layout) (depth : Nat) : List Json → List Char
  | [] => layout.lineBreak depth ++ [']']
  | item :: items =>
    [','] ++ layout.lineBreak (depth + 1) ++ write layout (depth + 1) item ++
      writeItems layout depth items

/-- The text behind a member of an object, with the members that follow it. -/
def writeMembers (layout : Layout) (depth : Nat) : List (List Char × Json) → List Char
  | [] => layout.lineBreak depth ++ ['}']
  | (key, value) :: members =>
    [','] ++ layout.lineBreak (depth + 1) ++ (['"'] ++ key ++ ['"', ':'] ++ layout.afterColon ++
      write layout (depth + 1) value) ++ writeMembers layout depth members

end

def compact (document : Json) : String :=
  String.ofList (document.write .compact 0)

def indented (document : Json) : String :=
  String.ofList (document.write .indented 0)

end FourReg.Json
