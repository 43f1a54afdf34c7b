import FourReg.Word
/-!
# Decimal numerals

How integers are written (a minus sign where needed, no leading zeros) and how integer literals are
read (one optional sign of either kind, then one or more ASCII digits, leading zeros allowed).
Reading undoes writing: `Numeral.toInt?_chars`.
-/

namespace FourReg.Numeral

/-- The decimal numeral of an integer: a minus sign for a negative one, then its digits. -/
def chars : Int → List Char
  | .ofNat magnitude => Nat.toDigits 10 magnitude
  | .negSucc pred => '-' :: Nat.toDigits 10 (pred + 1)

/-- The decimal numeral of an integer as a string. -/
def text (value : Int) : String :=
  String.ofList (chars value)

/-- The numeral of an integer with zeros between its sign and its digits, so that all of it takes
at least `width` characters. -/
def padded (width : Nat) (value : Int) : String :=
  let digits := Nat.toDigits 10 value.natAbs
  let sign := if value < 0 then ['-'] else []
  String.ofList (sign ++ (List.replicate (width - (sign.length + digits.length)) '0' ++ digits))

/-- The number written by one or more ASCII digits. -/
def magnitude? (digits : List Char) : Option Nat :=
  if digits ≠ [] ∧ digits.all Char.isDigit then some (Nat.ofDigitChars 10 digits 0) else none

/-- The integer that a literal denotes: at most one sign, then one or more ASCII digits. -/
def toInt? : List Char → Option Int
  | '-' :: digits => (magnitude? digits).map fun magnitude => -(magnitude : Int)
  | '+' :: digits => (magnitude? digits).map fun magnitude => (magnitude : Int)
  | digits => (magnitude? digits).map fun magnitude => (magnitude : Int)

/-- The word that a literal denotes; a literal outside the signed 32-bit range denotes none. -/
def toWord? (literal : List Char) : Option Word :=
  (toInt? literal).bind Word.ofInt?

@[simp] theorem magnitude?_toDigits (magnitude : Nat) :
    magnitude? (Nat.toDigits 10 magnitude) = some magnitude := by
  have digits : (Nat.toDigits 10 magnitude).all Char.isDigit := by
    rw [List.all_eq_true]
    exact fun c hc => Nat.isDigit_of_mem_toDigits (by decide) (by decide) hc
  simp [magnitude?, digits, Nat.toDigits_ne_nil, Nat.ofDigitChars_ten_toDigits]

/-- A literal without a sign is read as its digits alone. -/
theorem toInt?_of_isDigit {c : Char} (digits : List Char) (isDigit : c.isDigit) :
    toInt? (c :: digits) = (magnitude? (c :: digits)).map fun magnitude => (magnitude : Int) := by
  unfold toInt?
  split
  · rename_i h; cases h; exact absurd isDigit (by decide)
  · rename_i h; cases h; exact absurd isDigit (by decide)
  · rfl

@[simp] theorem toInt?_chars (value : Int) : toInt? (chars value) = some value := by
  cases value with
  | ofNat magnitude =>
    cases shape : Nat.toDigits 10 magnitude with
    | nil => exact absurd shape Nat.toDigits_ne_nil
    | cons c digits =>
      have isDigit : c.isDigit :=
        Nat.isDigit_of_mem_toDigits (b := 10) (n := magnitude) (by decide) (by decide)
          (by rw [shape]; exact List.mem_cons_self)
      rw [chars, shape, toInt?_of_isDigit digits isDigit, ← shape, magnitude?_toDigits]
      rfl
  | negSucc pred =>
    rw [chars, toInt?, magnitude?_toDigits]
    rfl

@[simp] theorem toWord?_chars (word : Word) : toWord? (chars word.toInt) = some word := by
  simp [toWord?]

end FourReg.Numeral
