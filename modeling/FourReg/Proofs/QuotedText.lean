import FourReg.Json.LiteralLemmas
import FourReg.Text.Quoted

/-!
# Quoted text is read back

Text between quotes tells what was quoted, whatever that holds: quotes, backslashes, or what looks like
an escape. This does not depend on which characters are written by their code points, beyond the
controls, and none of these is left in it.

The reader goes through quoted text by one character at a time and only remembers where it is: in plain
text, behind a backslash, or within a code point, with the number that the digits make so far. So there
is one equation for each way in which a character is written, and the text follows by induction.
-/

namespace FourReg.Quoted

/-! ### The reader -/

/-- Where a reader of quoted text is. -/
inductive Place
  | plain
  /-- Behind a backslash. -/
  | escape
  /-- Behind the letter that announces a code point. -/
  | brace
  /-- Within the braces, behind digits of this value, or behind none. -/
  | code (value : Option Nat)

/-- The character that a letter stands for behind a backslash. -/
def shortEscape? : Char → Option Char
  | '0' => some '\x00'
  | 't' => some '\t'
  | 'r' => some '\r'
  | 'n' => some '\n'
  | '"' => some '"'
  | '\\' => some '\\'
  | _ => none

/-- The character of a code point; the halves of pairs are none. -/
def ofCode? (code : Nat) : Option Char :=
  if code.isValidChar then some (Char.ofNat code) else none

/-- Reads from a place in quoted text up to the closing quote, which has to be the end. -/
def decodeFrom? : Place → List Char → Option (List Char)
  | _, [] => none
  | .plain, '"' :: rest => if rest.isEmpty then some [] else none
  | .plain, '\\' :: rest => decodeFrom? .escape rest
  | .plain, c :: rest => (decodeFrom? .plain rest).map (c :: ·)
  | .escape, 'u' :: rest => decodeFrom? .brace rest
  | .escape, letter :: rest => do
    let c ← shortEscape? letter
    (decodeFrom? .plain rest).map (c :: ·)
  | .brace, '{' :: rest => decodeFrom? (.code none) rest
  | .brace, _ :: _ => none
  | .code (some value), '}' :: rest => do
    let c ← ofCode? value
    (decodeFrom? .plain rest).map (c :: ·)
  | .code value, digit :: rest => do
    let d ← Json.hexValue? digit
    decodeFrom? (.code (some (value.getD 0 * 16 + d))) rest

/-- The text that stands between two quotes, with its escapes undone. -/
def decode? : List Char → Option (List Char)
  | '"' :: rest => decodeFrom? .plain rest
  | _ => none

/-! ### One character -/

/-- A character is written as a backslash with a letter, by its code point, or as itself, which is then
no quote, backslash or control. -/
theorem escape_cases (hidden : Char → Bool) (c : Char) :
    (∃ letter, shortEscape? letter = some c ∧ isControl letter = false ∧
      escape hidden c = ['\\', letter]) ∨
    escape hidden c = codePoint c ∨
    (c ≠ '"' ∧ c ≠ '\\' ∧ isControl c = false ∧ escape hidden c = [c]) := by
  by_cases short : c ∈ ['\x00', '\t', '\r', '\n', '"', '\\']
  · left
    simp only [List.mem_cons, List.not_mem_nil, or_false] at short
    rcases short with rfl | rfl | rfl | rfl | rfl | rfl
    · exact ⟨'0', rfl, rfl, rfl⟩
    · exact ⟨'t', rfl, rfl, rfl⟩
    · exact ⟨'r', rfl, rfl, rfl⟩
    · exact ⟨'n', rfl, rfl, rfl⟩
    · exact ⟨'"', rfl, rfl, rfl⟩
    · exact ⟨'\\', rfl, rfl, rfl⟩
  · right
    simp only [List.mem_cons, List.not_mem_nil, or_false, not_or] at short
    obtain ⟨hnul, htab, hreturn, hfeed, hquote, hbackslash⟩ := short
    have hescape : escape hidden c = if isControl c || hidden c then codePoint c else [c] := by
      simp [escape, hnul, htab, hreturn, hfeed, hquote, hbackslash]
    rw [hescape]
    by_cases hcode : (isControl c || hidden c) = true
    · exact Or.inl (if_pos hcode)
    · refine Or.inr ⟨hquote, hbackslash, ?_, if_neg hcode⟩
      simp only [Bool.or_eq_true, not_or, Bool.not_eq_true] at hcode
      exact hcode.1

theorem decodeFrom?_plain {c : Char} (hquote : c ≠ '"') (hbackslash : c ≠ '\\') (rest : List Char) :
    decodeFrom? .plain (c :: rest) = (decodeFrom? .plain rest).map (c :: ·) := by
  rw [decodeFrom?]
  · exact fun heq => hquote heq
  · exact fun heq => hbackslash heq

theorem decodeFrom?_short {letter c : Char} (hletter : shortEscape? letter = some c)
    (rest : List Char) :
    decodeFrom? .plain ('\\' :: letter :: rest) = (decodeFrom? .plain rest).map (c :: ·) := by
  have hne : letter ≠ 'u' := by
    rintro rfl
    cases hletter
  rw [decodeFrom?, decodeFrom?, hletter]
  · rfl
  · exact fun heq => hne heq

theorem decodeFrom?_digit {digit : Char} {d : Nat} (hdigit : Json.hexValue? digit = some d)
    (value : Option Nat) (rest : List Char) :
    decodeFrom? (.code value) (digit :: rest) =
      decodeFrom? (.code (some (value.getD 0 * 16 + d))) rest := by
  have hne : digit ≠ '}' := by
    rintro rfl
    cases hdigit
  rw [decodeFrom?, hdigit]
  · rfl
  · exact fun _ _ heq => hne heq

/-- The digits of a number are read as that number. -/
theorem decodeFrom?_toDigits (code : Nat) (rest : List Char) :
    decodeFrom? (.code none) (Nat.toDigits 16 code ++ rest) =
      decodeFrom? (.code (some code)) rest := by
  induction code using Nat.strongRecOn generalizing rest with
  | ind code ih =>
    by_cases hlt : code < 16
    · rw [Nat.toDigits_of_lt_base hlt, List.singleton_append,
        decodeFrom?_digit (Json.hexValue?_digitChar hlt)]
      simp
    · have hlast := Json.hexValue?_digitChar (Nat.mod_lt code (by decide : 16 > 0))
      rw [Nat.toDigits_of_base_le (by decide) (by omega), List.append_assoc, List.singleton_append,
        ih (code / 16) (by omega), decodeFrom?_digit hlast, Option.getD_some, Nat.div_add_mod']

theorem ofCode?_toNat (c : Char) : ofCode? c.toNat = some c := by
  have hvalid : c.toNat.isValidChar := c.valid
  rw [ofCode?, if_pos hvalid, Char.ofNat_toNat]

theorem decodeFrom?_codePoint (c : Char) (rest : List Char) :
    decodeFrom? .plain (codePoint c ++ rest) = (decodeFrom? .plain rest).map (c :: ·) := by
  calc decodeFrom? .plain (codePoint c ++ rest)
      = decodeFrom? (.code none) (Nat.toDigits 16 c.toNat ++ '}' :: rest) := by
        simp [codePoint, decodeFrom?]
    _ = decodeFrom? (.code (some c.toNat)) ('}' :: rest) := decodeFrom?_toDigits _ _
    _ = (decodeFrom? .plain rest).map (c :: ·) := by
        rw [decodeFrom?, ofCode?_toNat]
        rfl

theorem decodeFrom?_escape (hidden : Char → Bool) (c : Char) (rest : List Char) :
    decodeFrom? .plain (escape hidden c ++ rest) = (decodeFrom? .plain rest).map (c :: ·) := by
  rcases escape_cases hidden c with ⟨letter, hletter, _, heq⟩ | heq | ⟨hquote, hbackslash, _, heq⟩
  · rw [heq]
    exact decodeFrom?_short hletter rest
  · rw [heq]
    exact decodeFrom?_codePoint c rest
  · rw [heq]
    exact decodeFrom?_plain hquote hbackslash rest

/-! ### Whole texts -/

/-- Text is read back from its quotation. -/
theorem decode?_encode (hidden : Char → Bool) (text : List Char) :
    decode? (encode hidden text) = some text := by
  have hread : decodeFrom? .plain (text.flatMap (escape hidden) ++ ['"']) = some text := by
    induction text with
    | nil => rfl
    | cons c text ih =>
      rw [List.flatMap_cons, List.append_assoc, decodeFrom?_escape, ih, Option.map_some]
  exact hread

theorem exists_digitChar_of_mem_toDigits {c : Char} {code : Nat} (hc : c ∈ Nat.toDigits 16 code) :
    ∃ d < 16, c = Nat.digitChar d := by
  induction code using Nat.strongRecOn with
  | ind code ih =>
    by_cases hlt : code < 16
    · rw [Nat.toDigits_of_lt_base hlt, List.mem_singleton] at hc
      exact ⟨code, hlt, hc⟩
    · rw [Nat.toDigits_of_base_le (by decide) (by omega), List.mem_append, List.mem_singleton] at hc
      rcases hc with hc | hc
      · exact ih (code / 16) (by omega) hc
      · exact ⟨_, Nat.mod_lt code (by decide), hc⟩

theorem not_isControl_digitChar : ∀ d < 16, isControl (Nat.digitChar d) = false := by
  decide

theorem not_isControl_of_mem_codePoint (written : Char) :
    ∀ c ∈ codePoint written, isControl c = false := by
  intro c hc
  simp only [codePoint, List.mem_append, List.mem_cons, List.not_mem_nil, or_false] at hc
  rcases hc with ((rfl | rfl | rfl) | hc) | rfl
  · rfl
  · rfl
  · rfl
  · obtain ⟨d, hd, rfl⟩ := exists_digitChar_of_mem_toDigits hc
    exact not_isControl_digitChar d hd
  · rfl

/-- There is no control in quoted text. -/
theorem not_isControl_of_mem_encode (hidden : Char → Bool) (text : List Char) :
    ∀ c ∈ encode hidden text, isControl c = false := by
  have hescape (written : Char) : ∀ c ∈ escape hidden written, isControl c = false := by
    rcases escape_cases hidden written with ⟨letter, _, hletter, heq⟩ | heq | ⟨_, _, hplain, heq⟩
    · rw [heq]
      simpa using ⟨rfl, hletter⟩
    · rw [heq]
      exact not_isControl_of_mem_codePoint written
    · rw [heq]
      simpa using hplain
  unfold encode
  rw [List.forall_mem_append, List.forall_mem_append, List.forall_mem_flatMap]
  exact ⟨⟨List.forall_mem_singleton.mpr rfl, fun written _ => hescape written⟩,
    List.forall_mem_singleton.mpr rfl⟩

end FourReg.Quoted
