import FourReg.Json.Literal
/-!
# Laws of JSON string literals

A text can be read back from its literal: `decodeString?_encodeString` says that the literal stands
for the text, and `scanString?_encodeString` that the literal is found in front of a closing quote,
whatever follows it.
-/

namespace FourReg.Json

/-- The digit of a number below sixteen has that number for its value. -/
theorem hexValue?_digitChar {n : Nat} (h : n < 16) : hexValue? (Nat.digitChar n) = some n := by
  match n, h with
  | 0, _ | 1, _ | 2, _ | 3, _ | 4, _ | 5, _ | 6, _ | 7, _ | 8, _ | 9, _ | 10, _ | 11, _ | 12, _
  | 13, _ | 14, _ | 15, _ => decide
  | _ + 16, h => exact absurd h (by omega)

/-- The four digits written for a control character give its code point. -/
theorem hexUnit?_control {c : Char} (control : c.toNat < 0x20) :
    hexUnit? '0' '0' (Nat.digitChar (c.toNat / 16)) (Nat.digitChar (c.toNat % 16))
      = some c.toNat := by
  have high := hexValue?_digitChar (n := c.toNat / 16) (by omega)
  have low := hexValue?_digitChar (n := c.toNat % 16) (by omega)
  have zero : hexValue? '0' = some 0 := by decide
  simp [hexUnit?, zero, high, low]
  omega

private theorem ne_u_of_shortEscape? {letter c : Char} (h : shortEscape? letter = some c) :
    letter ≠ 'u' := by
  rintro rfl
  have none_u : shortEscape? 'u' = none := by decide
  rw [none_u] at h
  cases h

/-! ### Decoding, one element at a time -/

theorem decodeString?_plain {c : Char} (rest : List Char) (backslash : c ≠ '\\') :
    decodeString? (c :: rest) = (decodeString? rest).map (c :: ·) := by
  rw [decodeString?.eq_def]
  split
  · contradiction
  · rename_i heq; cases heq; exact absurd rfl backslash
  · rename_i heq; cases heq; exact absurd rfl backslash
  · rename_i heq; cases heq; cases decodeString? rest <;> rfl

theorem decodeString?_short {letter c : Char} (rest : List Char)
    (h : shortEscape? letter = some c) :
    decodeString? ('\\' :: letter :: rest) = (decodeString? rest).map (c :: ·) := by
  rw [decodeString?]
  · rw [h]
    cases decodeString? rest <;> rfl
  · rintro _ _ _ _ _ rfl
    exact absurd rfl (ne_u_of_shortEscape? h)

theorem decodeString?_unit {h₃ h₂ h₁ h₀ : Char} {unit : Nat} (rest : List Char)
    (h : hexUnit? h₃ h₂ h₁ h₀ = some unit) (below : unit < 0xD800) :
    decodeString? ('\\' :: 'u' :: h₃ :: h₂ :: h₁ :: h₀ :: rest)
      = (decodeString? rest).map (Char.ofNat unit :: ·) := by
  have notHigh : isHighHalf unit = false := by simp [isHighHalf]; omega
  have notLow : isLowHalf unit = false := by simp [isLowHalf]; omega
  rw [decodeString?, h]
  simp only [Option.bind_eq_bind, Option.bind_some, notHigh, notLow, Bool.false_eq_true, if_false]
  cases decodeString? rest <;> rfl

/-! ### Scanning, one element at a time -/

theorem scanString?_plain {c : Char} (rest : List Char) (quote : c ≠ '"') (backslash : c ≠ '\\')
    (visible : 0x20 ≤ c.toNat) :
    scanString? (c :: rest) = (scanString? rest).map fun found => (c :: found.1, found.2) := by
  rw [scanString?.eq_def]
  split
  · contradiction
  · rename_i heq; cases heq; exact absurd rfl quote
  · rename_i heq; cases heq; exact absurd rfl backslash
  · rename_i heq; cases heq; exact absurd rfl backslash
  · rename_i heq
    cases heq
    rw [if_neg (Nat.not_lt.mpr visible)]
    cases scanString? rest <;> rfl

theorem scanString?_short {letter c : Char} (rest : List Char)
    (h : shortEscape? letter = some c) :
    scanString? ('\\' :: letter :: rest)
      = (scanString? rest).map fun found => ('\\' :: letter :: found.1, found.2) := by
  rw [scanString?]
  · rw [h]
    cases scanString? rest <;> rfl
  · rintro _ _ _ _ _ rfl
    exact absurd rfl (ne_u_of_shortEscape? h)

theorem scanString?_unit {h₃ h₂ h₁ h₀ : Char} {unit : Nat} (rest : List Char)
    (h : hexUnit? h₃ h₂ h₁ h₀ = some unit) :
    scanString? ('\\' :: 'u' :: h₃ :: h₂ :: h₁ :: h₀ :: rest)
      = (scanString? rest).map fun found =>
          ('\\' :: 'u' :: h₃ :: h₂ :: h₁ :: h₀ :: found.1, found.2) := by
  rw [scanString?, h]
  cases scanString? rest <;> rfl

/-! ### Whole literals -/

/-- What is written for a character is a backslash with a letter, an escape of a unit below the
halves of pairs, or the character itself, which is then no quote, backslash or control. -/
theorem escape_cases (c : Char) :
    (∃ letter, shortEscape? letter = some c ∧ escape c = ['\\', letter]) ∨
    (∃ h₃ h₂ h₁ h₀, hexUnit? h₃ h₂ h₁ h₀ = some c.toNat ∧ c.toNat < 0xD800 ∧
      escape c = ['\\', 'u', h₃, h₂, h₁, h₀]) ∨
    (c ≠ '"' ∧ c ≠ '\\' ∧ 0x20 ≤ c.toNat ∧ escape c = [c]) := by
  by_cases short : c ∈ ['"', '\\', '\x08', '\x0C', '\n', '\r', '\t']
  · left
    simp only [List.mem_cons, List.not_mem_nil, or_false] at short
    rcases short with rfl | rfl | rfl | rfl | rfl | rfl | rfl
    · exact ⟨'"', rfl, rfl⟩
    · exact ⟨'\\', rfl, rfl⟩
    · exact ⟨'b', rfl, rfl⟩
    · exact ⟨'f', rfl, rfl⟩
    · exact ⟨'n', rfl, rfl⟩
    · exact ⟨'r', rfl, rfl⟩
    · exact ⟨'t', rfl, rfl⟩
  · right
    simp only [List.mem_cons, List.not_mem_nil, or_false, not_or] at short
    obtain ⟨quote, backslash, back, feed, line, carriage, tab⟩ := short
    by_cases control : c.toNat < 0x20
    · left
      refine ⟨_, _, _, _, hexUnit?_control control, by omega, ?_⟩
      simp [escape, quote, backslash, back, feed, line, carriage, tab, control]
    · right
      refine ⟨quote, backslash, by omega, ?_⟩
      simp [escape, quote, backslash, back, feed, line, carriage, tab, control]

theorem decodeString?_escape (c : Char) (rest : List Char) :
    decodeString? (escape c ++ rest) = (decodeString? rest).map (c :: ·) := by
  rcases escape_cases c with ⟨letter, h, eq⟩ | ⟨_, _, _, _, h, below, eq⟩ | ⟨_, backslash, _, eq⟩
  · rw [eq]
    exact decodeString?_short rest h
  · rw [eq]
    simpa using decodeString?_unit rest h below
  · rw [eq]
    exact decodeString?_plain rest backslash

theorem scanString?_escape (c : Char) (rest : List Char) :
    scanString? (escape c ++ rest)
      = (scanString? rest).map fun found => (escape c ++ found.1, found.2) := by
  rcases escape_cases c with
    ⟨letter, h, eq⟩ | ⟨_, _, _, _, h, _, eq⟩ | ⟨quote, backslash, visible, eq⟩
  · rw [eq]
    exact scanString?_short rest h
  · rw [eq]
    exact scanString?_unit rest h
  · rw [eq]
    exact scanString?_plain rest quote backslash visible

@[simp] theorem decodeString?_encodeString (text : List Char) :
    decodeString? (encodeString text) = some text := by
  unfold encodeString
  induction text with
  | nil => rfl
  | cons c rest ih => rw [List.flatMap_cons, decodeString?_escape, ih, Option.map_some]

/-- The literal of a text is found in front of the closing quote. -/
theorem scanString?_encodeString (text rest : List Char) :
    scanString? (encodeString text ++ '"' :: rest) = some (encodeString text, rest) := by
  unfold encodeString
  induction text with
  | nil => rfl
  | cons c text ih =>
    rw [List.flatMap_cons, List.append_assoc, scanString?_escape, ih, Option.map_some]

end FourReg.Json
