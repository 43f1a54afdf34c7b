import FourReg.Assembly.Source
import FourReg.Proofs.Fields
import Mathlib

/-!
# What fields denote

Literals and mnemonics as they are described, without the readers. A literal is at most one sign and
then digits, any number of them zeros in front; it denotes a word if its value is that of one. A
mnemonic is spelled letter by letter, each in either case. No field is both, because a mnemonic begins
with a letter and a literal does not. Either is a word, with no white space in it.
-/

namespace FourReg

def IsDigits (digits : List Char) : Prop :=
  digits ≠ [] ∧ ∀ c ∈ digits, c.isDigit = true

/-- The literals of an integer. -/
inductive Literal : List Char → Int → Prop
  | unsigned {digits : List Char} (hdigits : IsDigits digits) :
    Literal digits (Nat.ofDigitChars 10 digits 0)
  | plus {digits : List Char} (hdigits : IsDigits digits) :
    Literal ('+' :: digits) (Nat.ofDigitChars 10 digits 0)
  | minus {digits : List Char} (hdigits : IsDigits digits) :
    Literal ('-' :: digits) (-(Nat.ofDigitChars 10 digits 0 : Int))

namespace Numeral

theorem magnitude?_of_isDigits {digits : List Char} (hdigits : IsDigits digits) :
    magnitude? digits = some (Nat.ofDigitChars 10 digits 0) := by
  obtain ⟨hne, hchars⟩ := hdigits
  exact if_pos ⟨hne, List.all_eq_true.mpr hchars⟩

theorem magnitude?_eq_some {digits : List Char} {magnitude : Nat}
    (hmagnitude : magnitude? digits = some magnitude) :
    IsDigits digits ∧ Nat.ofDigitChars 10 digits 0 = magnitude := by
  unfold magnitude? at hmagnitude
  split at hmagnitude
  · rename_i hdigits
    exact ⟨⟨hdigits.1, List.all_eq_true.mp hdigits.2⟩, Option.some.inj hmagnitude⟩
  · cases hmagnitude

theorem toInt?_of_literal {field : List Char} {value : Int} (hliteral : Literal field value) :
    toInt? field = some value := by
  cases hliteral with
  | unsigned hdigits =>
    cases field with
    | nil => exact absurd rfl hdigits.1
    | cons c rest =>
      rw [toInt?_of_isDigit rest (hdigits.2 c List.mem_cons_self), magnitude?_of_isDigits hdigits]
      rfl
  | plus hdigits =>
    rw [toInt?, magnitude?_of_isDigits hdigits]
    rfl
  | minus hdigits =>
    rw [toInt?, magnitude?_of_isDigits hdigits]
    rfl

theorem isDigits_of_signed {digits : List Char} {signed : Int → Int} {value : Int}
    (hvalue : (magnitude? digits >>= fun magnitude => pure (magnitude : Int)).map signed =
      some value) :
    IsDigits digits ∧ signed (Nat.ofDigitChars 10 digits 0) = value := by
  cases hmagnitude : magnitude? digits with
  | none =>
    rw [hmagnitude] at hvalue
    cases hvalue
  | some magnitude =>
    obtain ⟨hdigits, rfl⟩ := magnitude?_eq_some hmagnitude
    rw [hmagnitude] at hvalue
    exact ⟨hdigits, Option.some.inj hvalue⟩

theorem literal_of_toInt? {field : List Char} {value : Int} (hvalue : toInt? field = some value) :
    Literal field value := by
  unfold toInt? at hvalue
  split at hvalue <;> obtain ⟨hdigits, rfl⟩ := isDigits_of_signed hvalue
  · exact .minus hdigits
  · exact .plus hdigits
  · exact .unsigned hdigits

theorem toWord?_eq_some_iff {field : List Char} {word : Word} :
    toWord? field = some word ↔ Literal field word.toInt := by
  rw [toWord?, Option.bind_eq_some_iff]
  simp only [Word.ofInt?_eq_some_iff]
  constructor
  · intro hvalue
    obtain ⟨value, hvalue, rfl⟩ := hvalue
    exact literal_of_toInt? hvalue
  · intro hliteral
    exact ⟨word.toInt, toInt?_of_literal hliteral, rfl⟩

end Numeral

theorem isDigits_toDigits (magnitude : Nat) : IsDigits (Nat.toDigits 10 magnitude) :=
  ⟨Nat.toDigits_ne_nil, fun _ hc => Nat.isDigit_of_mem_toDigits (by decide) (by decide) hc⟩

theorem isDigits_zeros_append (zeros magnitude : Nat) :
    IsDigits (List.replicate zeros '0' ++ Nat.toDigits 10 magnitude) := by
  obtain ⟨hne, hdigits⟩ := isDigits_toDigits magnitude
  refine ⟨List.append_ne_nil_of_right_ne_nil _ hne, fun c hc => ?_⟩
  rcases List.mem_append.mp hc with hc | hc
  · rw [List.eq_of_mem_replicate hc]
    rfl
  · exact hdigits c hc

theorem ofDigitChars_zeros_append (zeros magnitude : Nat) :
    Nat.ofDigitChars 10 (List.replicate zeros '0' ++ Nat.toDigits 10 magnitude) 0 = magnitude := by
  rw [Nat.ofDigitChars_append, Nat.ofDigitChars_replicate_zero, Nat.mul_zero,
    Nat.ofDigitChars_ten_toDigits]

theorem literal_chars (value : Int) : Literal (Numeral.chars value) value :=
  Numeral.literal_of_toInt? (Numeral.toInt?_chars value)

theorem not_isBlank_of_isAlphanum {c : Char} (hc : c.isAlphanum = true) : isBlank c = false := by
  simp only [Char.isAlphanum, Char.isAlpha, Char.isUpper, Char.isLower, Char.isDigit,
    Bool.or_eq_true, Bool.and_eq_true, decide_eq_true_eq, ge_iff_le, UInt32.le_iff_toNat_le,
    Char.reduceVal, UInt32.reduceToNat] at hc
  simp only [isBlank, Char.toNat, Bool.or_eq_false_iff, Bool.and_eq_false_iff,
    decide_eq_false_iff_not, beq_eq_false_iff_ne]
  omega

theorem IsDigits.isWord {digits : List Char} (hdigits : IsDigits digits) : IsWord digits := by
  obtain ⟨hne, hchars⟩ := hdigits
  refine ⟨hne, fun c hc => not_isBlank_of_isAlphanum ?_⟩
  rw [Char.isAlphanum, hchars c hc, Bool.or_true]

theorem Literal.isWord {field : List Char} {value : Int} (hliteral : Literal field value) :
    IsWord field := by
  cases hliteral with
  | unsigned hdigits => exact hdigits.isWord
  | plus hdigits => exact .cons rfl hdigits.isWord
  | minus hdigits => exact .cons rfl hdigits.isWord

theorem not_isAlpha_of_isDigit {c : Char} (hdigit : c.isDigit = true) : c.isAlpha = false := by
  grind [Char.isDigit, Char.isAlpha, Char.isUpper, Char.isLower]

theorem Literal.exists_head {field : List Char} {value : Int} (hliteral : Literal field value) :
    ∃ c rest, field = c :: rest ∧ c.isAlpha = false ∧ c ≠ ';' := by
  cases hliteral with
  | unsigned hdigits =>
    obtain ⟨hne, hchars⟩ := hdigits
    cases field with
    | nil => exact absurd rfl hne
    | cons c rest =>
      have hdigit := hchars c List.mem_cons_self
      refine ⟨c, rest, rfl, not_isAlpha_of_isDigit hdigit, ?_⟩
      intro hc
      rw [hc] at hdigit
      cases hdigit
  | plus => exact ⟨_, _, rfl, rfl, by decide⟩
  | minus => exact ⟨_, _, rfl, rfl, by decide⟩

/-! ### Mnemonics -/

theorem toLower_eq_iff {c letter : Char} (hletter : ¬ letter.isUpper = true) :
    c.toLower = letter ↔ c = letter ∨ c = letter.toUpper := by
  constructor
  · intro hc
    by_cases hupper : c.isUpper = true
    · right
      have hsame := Char.toUpper_eq_of_not_isLower (Char.not_isLower_of_isUpper hupper)
      rw [← hc, Char.toUpper_toLower_eq_toUpper, hsame]
    · rw [Char.toLower_eq_of_not_isUpper hupper] at hc
      exact Or.inl hc
  · intro hc
    have hsame := Char.toLower_eq_of_not_isUpper hletter
    rcases hc with rfl | rfl
    · exact hsame
    · rw [Char.toLower_toUpper_eq_toLower, hsame]

/-- A field spells an opcode when it is the mnemonic of the opcode, every letter in either case. -/
def Spells (opcode : Opcode) (field : List Char) : Prop :=
  List.Forall₂ (fun c letter => c = letter ∨ c = letter.toUpper) field opcode.mnemonic.toList

namespace Opcode

theorem isLower_of_mem_mnemonic (opcode : Opcode) :
    ∀ letter ∈ opcode.mnemonic.toList, letter.isLower = true := by
  cases opcode <;> simp [mnemonic]

theorem map_toLower_eq_iff {letters field : List Char}
    (hletters : ∀ letter ∈ letters, ¬ letter.isUpper = true) :
    field.map Char.toLower = letters ↔
      List.Forall₂ (fun c letter => c = letter ∨ c = letter.toUpper) field letters := by
  induction letters generalizing field with
  | nil => simp
  | cons letter letters ih =>
    have hletter := hletters letter List.mem_cons_self
    have hothers := fun other hother => hletters other (List.mem_cons_of_mem letter hother)
    cases field with
    | nil => simp
    | cons c field =>
      rw [List.map_cons, List.cons.injEq, List.forall₂_cons, toLower_eq_iff hletter, ih hothers]

theorem spells_iff {opcode : Opcode} {field : List Char} :
    Spells opcode field ↔ field.map Char.toLower = opcode.mnemonic.toList := by
  refine (map_toLower_eq_iff fun letter hletter => ?_).symm
  exact Char.not_isUpper_of_isLower (opcode.isLower_of_mem_mnemonic letter hletter)

theorem ofMnemonic?_eq_some_iff {field : List Char} {opcode : Opcode} :
    ofMnemonic? field = some opcode ↔ Spells opcode field := by
  rw [spells_iff]
  unfold ofMnemonic?
  constructor
  · intro hfind
    have hsame := List.find?_some hfind
    exact (beq_iff_eq.mp hsame).symm
  · intro hsame
    rw [hsame]
    -- The first opcode with a given mnemonic is the one that it was taken from.
    cases opcode <;> rfl

theorem exists_mnemonic_head (opcode : Opcode) :
    ∃ letter rest, opcode.mnemonic.toList = letter :: rest ∧ letter.isLower = true := by
  cases opcode <;> exact ⟨_, _, rfl, rfl⟩

end Opcode

theorem Spells.exists_head {opcode : Opcode} {field : List Char} (hspells : Spells opcode field) :
    ∃ c rest, field = c :: rest ∧ c.isAlpha = true := by
  obtain ⟨letter, letters, hmnemonic, hlower⟩ := opcode.exists_mnemonic_head
  rw [Opcode.spells_iff, hmnemonic, List.map_eq_cons_iff] at hspells
  obtain ⟨c, rest, hfield, hc, _⟩ := hspells
  refine ⟨c, rest, hfield, ?_⟩
  rw [← Char.isLower_toLower_eq_isAlpha, hc, hlower]

theorem Spells.isWord {opcode : Opcode} {field : List Char} (hspells : Spells opcode field) :
    IsWord field := by
  obtain ⟨first, rest, hfield, _⟩ := hspells.exists_head
  refine ⟨by simp [hfield], fun c hc => not_isBlank_of_isAlphanum ?_⟩
  have hletter : c.toLower ∈ opcode.mnemonic.toList := by
    rw [← Opcode.spells_iff.mp hspells]
    exact List.mem_map_of_mem hc
  have halpha := opcode.isLower_of_mem_mnemonic _ hletter
  rw [Char.isLower_toLower_eq_isAlpha] at halpha
  rw [Char.isAlphanum, halpha, Bool.true_or]

theorem Literal.not_spells {field : List Char} {value : Int} (hliteral : Literal field value)
    (opcode : Opcode) : ¬ Spells opcode field := by
  intro hspells
  obtain ⟨c, rest, rfl, hnot, _⟩ := hliteral.exists_head
  obtain ⟨_, _, hsame, halpha⟩ := hspells.exists_head
  cases hsame
  rw [hnot] at halpha
  cases halpha

/-- The word that the first field of an instruction denotes: an opcode by its mnemonic, or any word by
a literal. -/
inductive OpcodeField (field : List Char) : Word → Prop
  | mnemonic {opcode : Opcode} (hspells : Spells opcode field) : OpcodeField field opcode.ordinal
  | literal {word : Word} (hliteral : Literal field word.toInt) : OpcodeField field word

theorem OpcodeField.isWord {field : List Char} {word : Word} (hfield : OpcodeField field word) :
    IsWord field := by
  cases hfield with
  | mnemonic hspells => exact hspells.isWord
  | literal hliteral => exact hliteral.isWord

theorem Opcode.ofField_eq_ok_iff {field : List Char} {word : Word} :
    ofField field = .ok word ↔ OpcodeField field word := by
  unfold ofField
  cases hname : ofMnemonic? field with
  | some opcode =>
    have hspells := ofMnemonic?_eq_some_iff.mp hname
    simp only [Except.ok.injEq]
    constructor
    · intro hword
      rw [← hword]
      exact .mnemonic hspells
    · intro hfield
      cases hfield with
      | mnemonic hother =>
        rw [ofMnemonic?_eq_some_iff.mpr hother] at hname
        cases hname
        rfl
      | literal hliteral => exact absurd hspells (hliteral.not_spells opcode)
  | none =>
    dsimp only
    constructor
    · intro hword
      cases hliteral : Numeral.toWord? field with
      | none =>
        rw [hliteral] at hword
        cases hword
      | some other =>
        rw [hliteral] at hword
        cases hword
        exact .literal (Numeral.toWord?_eq_some_iff.mp hliteral)
    · intro hfield
      cases hfield with
      | mnemonic hspells =>
        rw [ofMnemonic?_eq_some_iff.mpr hspells] at hname
        cases hname
      | literal hliteral => rw [Numeral.toWord?_eq_some_iff.mpr hliteral]

theorem Word.ofField_eq_ok_iff {name : FieldName} {field : List Char} {word : Word} :
    ofField name field = .ok word ↔ Literal field word.toInt := by
  rw [← Numeral.toWord?_eq_some_iff]
  unfold ofField
  cases Numeral.toWord? field with
  | none => simp
  | some other => simp

theorem OpcodeField.exists_head {field : List Char} {word : Word} (hfield : OpcodeField field word) :
    ∃ c rest, field = c :: rest ∧ c ≠ ';' := by
  cases hfield with
  | mnemonic hspells =>
    obtain ⟨c, rest, hcons, halpha⟩ := hspells.exists_head
    refine ⟨c, rest, hcons, fun hc => ?_⟩
    rw [hc] at halpha
    cases halpha
  | literal hliteral =>
    obtain ⟨c, rest, hcons, _, hc⟩ := hliteral.exists_head
    exact ⟨c, rest, hcons, hc⟩

end FourReg
