import FourReg.Text.Numeral
/-!
# JSON literals

The literals of strings and numbers, and what they stand for.

A string literal holds characters and escapes. An escape `\u` gives a unit of UTF-16, so a
character beyond the basic plane takes two of them, and half of such a pair alone stands for no
text. A number literal stands for an integer if it has neither fraction nor exponent and is not a
negative zero.
-/

namespace FourReg.Json

/-- The value of a hexadecimal digit of either case. -/
def hexValue? (c : Char) : Option Nat :=
  if '0' ≤ c ∧ c ≤ '9' then some (c.toNat - '0'.toNat)
  else if 'a' ≤ c ∧ c ≤ 'f' then some (c.toNat - 'a'.toNat + 10)
  else if 'A' ≤ c ∧ c ≤ 'F' then some (c.toNat - 'A'.toNat + 10)
  else none

/-- The number that four hexadecimal digits write. -/
def hexUnit? (h₃ h₂ h₁ h₀ : Char) : Option Nat := do
  let d₃ ← hexValue? h₃
  let d₂ ← hexValue? h₂
  let d₁ ← hexValue? h₁
  let d₀ ← hexValue? h₀
  return ((d₃ * 16 + d₂) * 16 + d₁) * 16 + d₀

/-- The character that a letter stands for behind a backslash. -/
def shortEscape? : Char → Option Char
  | '"' => some '"'
  | '\\' => some '\\'
  | '/' => some '/'
  | 'b' => some '\x08'
  | 'f' => some '\x0C'
  | 'n' => some '\n'
  | 'r' => some '\r'
  | 't' => some '\t'
  | _ => none

/-- Splits text behind an opening quote into the string literal and what follows its closing quote.
A literal holds no control character below U+0020 and only complete escapes. -/
def scanString? : List Char → Option (List Char × List Char)
  | [] => none
  | '"' :: rest => some ([], rest)
  | '\\' :: 'u' :: h₃ :: h₂ :: h₁ :: h₀ :: rest => do
    let _ ← hexUnit? h₃ h₂ h₁ h₀
    let (literal, after) ← scanString? rest
    return ('\\' :: 'u' :: h₃ :: h₂ :: h₁ :: h₀ :: literal, after)
  | '\\' :: letter :: rest => do
    let _ ← shortEscape? letter
    let (literal, after) ← scanString? rest
    return ('\\' :: letter :: literal, after)
  | c :: rest =>
    if c.toNat < 0x20 then none
    else do
      let (literal, after) ← scanString? rest
      return (c :: literal, after)

/-- Whether a unit of UTF-16 is the first half of a pair. -/
def isHighHalf (unit : Nat) : Bool :=
  0xD800 ≤ unit && unit < 0xDC00

/-- Whether a unit of UTF-16 is the second half of a pair. -/
def isLowHalf (unit : Nat) : Bool :=
  0xDC00 ≤ unit && unit < 0xE000

/-- The text that a string literal stands for, none if an escape gives half a pair alone. -/
def decodeString? : List Char → Option (List Char)
  | [] => some []
  | '\\' :: 'u' :: h₃ :: h₂ :: h₁ :: h₀ :: rest => do
    let unit ← hexUnit? h₃ h₂ h₁ h₀
    if isHighHalf unit then
      match rest with
      | '\\' :: 'u' :: l₃ :: l₂ :: l₁ :: l₀ :: rest => do
        let low ← hexUnit? l₃ l₂ l₁ l₀
        if isLowHalf low then do
          let text ← decodeString? rest
          return Char.ofNat (0x10000 + (unit - 0xD800) * 0x400 + (low - 0xDC00)) :: text
        else none
      | _ => none
    else if isLowHalf unit then none
    else do
      let text ← decodeString? rest
      return Char.ofNat unit :: text
  | '\\' :: letter :: rest => do
    let c ← shortEscape? letter
    let text ← decodeString? rest
    return c :: text
  | c :: rest => do
    let text ← decodeString? rest
    return c :: text

/-- What is written for a character in a string literal: quotes, backslashes and the controls below
U+0020 are escaped, and everything else stands for itself. -/
def escape (c : Char) : List Char :=
  if c = '"' then ['\\', '"']
  else if c = '\\' then ['\\', '\\']
  else if c = '\x08' then ['\\', 'b']
  else if c = '\x0C' then ['\\', 'f']
  else if c = '\n' then ['\\', 'n']
  else if c = '\r' then ['\\', 'r']
  else if c = '\t' then ['\\', 't']
  else if c.toNat < 0x20 then
    ['\\', 'u', '0', '0', Nat.digitChar (c.toNat / 16), Nat.digitChar (c.toNat % 16)]
  else [c]

def encodeString (text : List Char) : List Char :=
  text.flatMap escape

/-- Whether a character can stand in a number literal. -/
def isNumberChar (c : Char) : Bool :=
  c.isDigit || c == '-' || c == '+' || c == '.' || c == 'e' || c == 'E'

/-- One or more digits and nothing else. -/
def isDigits (literal : List Char) : Bool :=
  !literal.isEmpty && literal.all Char.isDigit

/-- Whether the text behind the mantissa of a number is no exponent or a complete one. -/
def isExponent : List Char → Bool
  | [] => true
  | mark :: '+' :: digits => (mark == 'e' || mark == 'E') && isDigits digits
  | mark :: '-' :: digits => (mark == 'e' || mark == 'E') && isDigits digits
  | mark :: digits => (mark == 'e' || mark == 'E') && isDigits digits

/-- Whether the text behind the whole part of a number is a fraction and an exponent, each of which
may be missing. -/
def isNumberTail : List Char → Bool
  | '.' :: rest =>
    !(rest.takeWhile Char.isDigit).isEmpty && isExponent (rest.dropWhile Char.isDigit)
  | rest => isExponent rest

/-- Whether a text without a sign is a number literal: a zero or digits that start with another
one, then a fraction and an exponent, each of which may be missing. -/
def isUnsigned : List Char → Bool
  | '0' :: rest => isNumberTail rest
  | c :: rest => c.isDigit && isNumberTail (rest.dropWhile Char.isDigit)
  | [] => false

def isNumber : List Char → Bool
  | '-' :: rest => isUnsigned rest
  | literal => isUnsigned literal

def integer? : List Char → Option Int
  | ['-', '0'] => none
  | '-' :: digits => (Numeral.magnitude? digits).map fun magnitude => -(magnitude : Int)
  | digits => (Numeral.magnitude? digits).map fun magnitude => (magnitude : Int)

end FourReg.Json
