import FourReg.Registers
import Mathlib.Logic.Function.Basic
/-!
# Checked register access

What the register file is to the rest of the proofs: a function from integers to integers, of which
the indices 0 to 3 are checked on every access. Reading and storing go through `values`, so no proof
elsewhere looks into the vector of slots.
-/

namespace FourReg

namespace Registers

/-- An index names a register when it is one of 0, 1, 2 and 3. -/
def InRange (index : Word) : Prop :=
  0 ≤ index.toInt ∧ index.toInt ≤ 3

instance : DecidablePred InRange :=
  fun index => inferInstanceAs (Decidable (0 ≤ index.toInt ∧ index.toInt ≤ 3))

/-- The contents of the registers as integers. Zero stands at every index that names none. -/
def values (registers : Registers) (index : Int) : Int :=
  if h : 0 ≤ index ∧ index ≤ 3 then registers.slots[index.toNat].toInt else 0

theorem inRange_iff_mem {index : Word} : InRange index ↔ index.toInt ∈ [0, 1, 2, 3] := by
  unfold InRange
  simp only [List.mem_cons, List.not_mem_nil, or_false]
  omega

theorem slot?_of_inRange {index : Word} (hrange : InRange index) :
    ∃ slot : Fin 4, slot? index = some slot ∧ slot.val = index.toInt.toNat := by
  obtain ⟨hlower, hupper⟩ := hrange
  exact ⟨⟨index.toInt.toNat, by omega⟩, dif_pos ⟨hlower, by omega⟩, rfl⟩

theorem slot?_of_not_inRange {index : Word} (hrange : ¬ InRange index) : slot? index = none := by
  apply dif_neg
  intro ⟨hlower, hupper⟩
  exact hrange ⟨hlower, by omega⟩

theorem get_of_inRange (registers : Registers) {index : Word} (hrange : InRange index) :
    ∃ word, registers.get index = .ok word ∧ word.toInt = registers.values index.toInt := by
  obtain ⟨slot, hslot, hval⟩ := slot?_of_inRange hrange
  refine ⟨registers.slots[slot], by rw [get, hslot], ?_⟩
  obtain ⟨hlower, hupper⟩ := hrange
  rw [values, dif_pos ⟨hlower, hupper⟩]
  simp only [Fin.getElem_fin, hval]

theorem get_of_not_inRange (registers : Registers) {index : Word} (hrange : ¬ InRange index) :
    registers.get index = .error (.outOfRange index) := by
  rw [get, slot?_of_not_inRange hrange]

theorem get_eq_ok_iff {registers : Registers} {index word : Word} :
    registers.get index = .ok word ↔
      InRange index ∧ word.toInt = registers.values index.toInt := by
  by_cases hrange : InRange index
  · obtain ⟨found, hfound, hvalue⟩ := registers.get_of_inRange hrange
    rw [hfound, ← hvalue, Except.ok.injEq, Int32.toInt_inj, eq_comm]
    exact (and_iff_right hrange).symm
  · simp [get_of_not_inRange registers hrange, hrange]

theorem get_eq_error_iff {registers : Registers} {index : Word} {error : RegisterError} :
    registers.get index = .error error ↔ ¬ InRange index ∧ error = .outOfRange index := by
  by_cases hrange : InRange index
  · obtain ⟨found, hfound, _⟩ := registers.get_of_inRange hrange
    simp [hfound, hrange]
  · simp [get_of_not_inRange registers hrange, hrange, eq_comm]

/-- A read depends on the value at its index and on nothing else. -/
theorem get_congr {registers other : Registers} {index : Word}
    (hvalue : registers.values index.toInt = other.values index.toInt) :
    registers.get index = other.get index := by
  cases hget : other.get index with
  | error error => exact get_eq_error_iff.mpr (get_eq_error_iff.mp hget)
  | ok word =>
    obtain ⟨hrange, hword⟩ := get_eq_ok_iff.mp hget
    exact get_eq_ok_iff.mpr ⟨hrange, hword.trans hvalue.symm⟩

theorem values_set_slot (registers : Registers) (slot : Fin 4) (value : Word) :
    (Registers.mk (registers.slots.set slot.val value slot.isLt)).values =
      Function.update registers.values slot.val value.toInt := by
  funext index
  by_cases heq : index = slot.val
  · subst heq
    have hslot := slot.isLt
    rw [Function.update_self, values, dif_pos (by omega)]
    simp
  · rw [Function.update_of_ne heq, values, values]
    by_cases hrange : 0 ≤ index ∧ index ≤ 3
    · rw [dif_pos hrange, dif_pos hrange, Vector.getElem_set_ne]
      omega
    · rw [dif_neg hrange, dif_neg hrange]

theorem set_of_inRange (registers : Registers) {index : Word} (value : Word)
    (hrange : InRange index) :
    ∃ after, registers.set index value = .ok after ∧
      after.values = Function.update registers.values index.toInt value.toInt := by
  obtain ⟨slot, hslot, hval⟩ := slot?_of_inRange hrange
  refine ⟨⟨registers.slots.set slot value⟩, by rw [set, hslot], ?_⟩
  have hindex : (slot.val : Int) = index.toInt := by
    have hlower := hrange.1
    omega
  rw [values_set_slot, hindex]

theorem set_of_not_inRange (registers : Registers) {index : Word} (value : Word)
    (hrange : ¬ InRange index) : registers.set index value = .error (.outOfRange index) := by
  rw [set, slot?_of_not_inRange hrange]

theorem set_eq_error_iff {registers : Registers} {index value : Word} {error : RegisterError} :
    registers.set index value = .error error ↔ ¬ InRange index ∧ error = .outOfRange index := by
  by_cases hrange : InRange index
  · obtain ⟨after, hafter, _⟩ := registers.set_of_inRange value hrange
    simp [hafter, hrange]
  · simp [set_of_not_inRange registers value hrange, hrange, eq_comm]

theorem values_of_set {registers after : Registers} {index value : Word}
    (hset : registers.set index value = .ok after) :
    after.values = Function.update registers.values index.toInt value.toInt := by
  by_cases hrange : InRange index
  · obtain ⟨other, hother, hvalues⟩ := registers.set_of_inRange value hrange
    cases hother.symm.trans hset
    exact hvalues
  · cases (registers.set_of_not_inRange value hrange).symm.trans hset

/-- A read behind a write finds what was written, and at every other index what was there before. -/
theorem get_of_set {registers after : Registers} {target value : Word}
    (hset : registers.set target value = .ok after) (index : Word) :
    after.get index = if target = index then .ok value else registers.get index := by
  have hvalues := values_of_set hset
  have hrange : InRange target := by
    by_contra hnot
    cases (registers.set_of_not_inRange value hnot).symm.trans hset
  by_cases htarget : target = index
  · subst htarget
    rw [if_pos rfl]
    exact get_eq_ok_iff.mpr ⟨hrange, by rw [hvalues, Function.update_self]⟩
  · have hne : index.toInt ≠ target.toInt := by
      intro heq
      exact htarget (Int32.toInt_inj.mp heq).symm
    rw [if_neg htarget]
    exact get_congr (by rw [hvalues, Function.update_of_ne hne])

theorem values_setPointer (registers : Registers) (value : Word) :
    (registers.setPointer value).values = Function.update registers.values 0 value.toInt :=
  registers.values_set_slot ⟨0, by decide⟩ value

theorem values_pointer (registers : Registers) : registers.values 0 = registers.pointer.toInt := by
  rfl

theorem get_zero (registers : Registers) : registers.get 0 = .ok registers.pointer :=
  get_eq_ok_iff.mpr ⟨by decide, registers.values_pointer.symm⟩

theorem values_zero : zero.values = fun _ => 0 := by
  funext index
  unfold values
  split
  · simp [zero]
  · rfl

theorem eq_of_values_eq {registers other : Registers}
    (hvalues : ∀ index ∈ [0, 1, 2, 3], registers.values index = other.values index) :
    registers = other := by
  apply congrArg Registers.mk
  ext k hk
  have hvalue := hvalues k (by simp; omega)
  rw [values, values, dif_pos (by omega), dif_pos (by omega)] at hvalue
  exact Int32.toInt_inj.mp hvalue

/-- How the registers are written: their four values, in order. -/
theorem join_eq (separator : String) (registers : Registers) :
    registers.join separator =
      Numeral.text (registers.values 0) ++ separator ++ Numeral.text (registers.values 1) ++
        separator ++ Numeral.text (registers.values 2) ++ separator ++
          Numeral.text (registers.values 3) := by
  obtain ⟨⟨⟨words⟩, hlength⟩⟩ := registers
  match words, hlength with
  | [_, _, _, _], _ => rfl

@[simp] theorem pointer_setPointer (registers : Registers) (value : Word) :
    (registers.setPointer value).pointer = value := by
  simp [pointer, setPointer]

end Registers

end FourReg
