import FourReg.Json.Basic
import FourReg.Json.Literal
/-!
# Reading JSON

Every value takes at least one character, so the nesting and the number of values are bounded by the
length of the text. The readers recurse on such a bound; `Json.read?` supplies one that suffices.
-/

namespace FourReg.Json

def isSpace (c : Char) : Bool :=
  c == ' ' || c == '\n' || c == '\r' || c == '\t'

def skipSpace (text : List Char) : List Char :=
  text.dropWhile isSpace

mutual

/-- Reads a value, after white space, and gives the rest of the text with it. -/
def readValue? : Nat → List Char → Option (Json × List Char)
  | 0, _ => none
  | bound + 1, text =>
    match skipSpace text with
    | 'n' :: 'u' :: 'l' :: 'l' :: rest => some (.null, rest)
    | 't' :: 'r' :: 'u' :: 'e' :: rest => some (.bool true, rest)
    | 'f' :: 'a' :: 'l' :: 's' :: 'e' :: rest => some (.bool false, rest)
    | '"' :: rest => do
      let (literal, rest) ← scanString? rest
      return (.string literal, rest)
    | '[' :: rest =>
      match skipSpace rest with
      | ']' :: rest => some (.array [], rest)
      | rest => do
        let (items, rest) ← readItems? bound rest
        return (.array items, rest)
    | '{' :: rest =>
      match skipSpace rest with
      | '}' :: rest => some (.object [], rest)
      | rest => do
        let (members, rest) ← readMembers? bound rest
        return (.object members, rest)
    | rest =>
      let literal := rest.takeWhile isNumberChar
      if isNumber literal then some (.number literal, rest.dropWhile isNumberChar) else none

/-- Reads one or more items of an array and its closing bracket. -/
def readItems? : Nat → List Char → Option (List Json × List Char)
  | 0, _ => none
  | bound + 1, text => do
    let (item, rest) ← readValue? bound text
    match skipSpace rest with
    | ',' :: rest => do
      let (items, rest) ← readItems? bound rest
      return (item :: items, rest)
    | ']' :: rest => return ([item], rest)
    | _ => none

/-- Reads one or more members of an object and its closing brace. -/
def readMembers? : Nat → List Char → Option (List (List Char × Json) × List Char)
  | 0, _ => none
  | bound + 1, text =>
    match skipSpace text with
    | '"' :: rest => do
      let (key, rest) ← scanString? rest
      match skipSpace rest with
      | ':' :: rest => do
        let (value, rest) ← readValue? bound rest
        match skipSpace rest with
        | ',' :: rest => do
          let (members, rest) ← readMembers? bound rest
          return ((key, value) :: members, rest)
        | '}' :: rest => return ([(key, value)], rest)
        | _ => none
      | _ => none
    | _ => none

end

/-- The document that a text holds, with nothing but white space around it. -/
def read? (text : List Char) : Option Json := do
  let (document, rest) ← readValue? (2 * text.length + 2) text
  if (skipSpace rest).isEmpty then some document else none

end FourReg.Json
