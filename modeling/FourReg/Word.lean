/-!
# Machine words

Registers, instruction fields and the instruction pointer all hold signed 32-bit words. Arithmetic
on them wraps modulo `2 ^ 32`; `Word.ofInt?` is the checked way in from the integers.
-/

namespace FourReg

abbrev Word := Int32

/-- The word that denotes `value`, when `value` lies in the signed 32-bit range. -/
def Word.ofInt? (value : Int) : Option Word :=
  if Int32.minValue.toInt ≤ value ∧ value ≤ Int32.maxValue.toInt then some (Int32.ofInt value)
  else none

theorem Word.ofInt?_eq_some_iff {value : Int} {word : Word} :
    Word.ofInt? value = some word ↔ word.toInt = value := by
  unfold Word.ofInt?
  constructor
  · intro h
    split at h
    · rename_i inRange
      cases h
      obtain ⟨lower, upper⟩ := inRange
      rw [Int32.toInt_minValue] at lower
      rw [Int32.toInt_maxValue] at upper
      exact Int32.toInt_ofInt_of_le lower (Int.lt_of_le_sub_one upper)
    · cases h
  · rintro rfl
    rw [if_pos ⟨word.minValue_le_toInt, word.toInt_le⟩, Int32.ofInt_toInt]

@[simp] theorem Word.ofInt?_toInt (word : Word) : Word.ofInt? word.toInt = some word :=
  Word.ofInt?_eq_some_iff.mpr rfl

end FourReg
