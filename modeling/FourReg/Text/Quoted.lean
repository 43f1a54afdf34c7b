import FourReg.Text.Unprintable
/-!
# Quoted text

Text between double quotes that stays on one line and shows every character. A quote and a
backslash are written behind a backslash, four controls have a letter of their own, and any other
character that would not be seen as itself is written by its code point.

Which characters are written by code point is a parameter, beyond the controls, which always are:
the text can be read back whatever is chosen for it.
-/

namespace FourReg.Quoted

/-- Whether a character is one of the sixty-five control characters. -/
def isControl (c : Char) : Bool :=
  c.toNat < 0x20 || (0x7F ≤ c.toNat && c.toNat < 0xA0)

/-- A character written by its code point, in lower-case hexadecimal without leading zeros. -/
def codePoint (c : Char) : List Char :=
  ['\\', 'u', '{'] ++ Nat.toDigits 16 c.toNat ++ ['}']

def escape (hidden : Char → Bool) (c : Char) : List Char :=
  if c = '\x00' then ['\\', '0']
  else if c = '\t' then ['\\', 't']
  else if c = '\r' then ['\\', 'r']
  else if c = '\n' then ['\\', 'n']
  else if c = '"' then ['\\', '"']
  else if c = '\\' then ['\\', '\\']
  else if isControl c || hidden c then codePoint c
  else [c]

/-- The text in quotes, with the characters that satisfy `hidden` written by code point. -/
def encode (hidden : Char → Bool) (text : List Char) : List Char :=
  ['"'] ++ text.flatMap (escape hidden) ++ ['"']

/-- The characters that are not seen as themselves: those that print nothing or are passed over, and
the marks that are displayed on the character before them. A sound mark with a place of its own is
seen. -/
def isHidden (c : Char) : Bool :=
  isUnprintable c || isDefaultIgnorable c || (isGraphemeExtend c && !isHalfwidthSoundMark c)

end FourReg.Quoted
