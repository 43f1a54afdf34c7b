/-!
# JSON documents

A document as its syntax tree. Numbers and strings are kept as they are written, so that nothing is
lost before it is known what they stand for: a number may be meant as an integer, and a string may
hold escapes that stand for no text.
-/

namespace FourReg

/-- A JSON document. The literal of a string is what stands between its quotes. -/
inductive Json
  | null
  | bool (value : Bool)
  | number (literal : List Char)
  | string (literal : List Char)
  | array (items : List Json)
  /-- The members in the order in which they are written, each with the literal of its key. -/
  | object (members : List (List Char × Json))

end FourReg
