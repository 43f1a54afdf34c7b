import FourReg.Instruction
import FourReg.Proofs.Access
import Mathlib.Tactic.IntervalCases
/-!
# Register references of an instruction

Which fields of an instruction are register indices is fixed by its opcode: the mode says it of `A`
and `B`, and `C` always is one. An instruction of which all references are in range is well-formed,
and so is one without a known opcode, which refers to nothing. Execution fails exactly on the others
and names the first offending field, whatever the registers hold.
-/

namespace FourReg

/-- The words 0 to 11 are the ordinals of the opcodes. -/
def Opcode.IsOrdinal (word : Word) : Prop :=
  0 ≤ word.toInt ∧ word.toInt ≤ 11

instance : DecidablePred Opcode.IsOrdinal :=
  fun word => inferInstanceAs (Decidable (0 ≤ word.toInt ∧ word.toInt ≤ 11))

theorem Opcode.isOrdinal_ordinal (opcode : Opcode) : IsOrdinal opcode.ordinal := by
  cases opcode <;> decide

theorem Opcode.exists_ordinal_eq {word : Word} (hordinal : IsOrdinal word) :
    ∃ opcode : Opcode, opcode.ordinal = word := by
  obtain ⟨hlower, hupper⟩ := hordinal
  have hword : Int32.ofInt word.toInt = word := Int32.ofInt_toInt word
  generalize word.toInt = value at hlower hupper hword
  subst hword
  interval_cases value
  -- Twelve values are left, in the order of the opcodes.
  exacts [⟨addr, rfl⟩, ⟨addi, rfl⟩, ⟨mulr, rfl⟩, ⟨muli, rfl⟩, ⟨setr, rfl⟩, ⟨seti, rfl⟩,
    ⟨gtir, rfl⟩, ⟨gtri, rfl⟩, ⟨gtrr, rfl⟩, ⟨eqir, rfl⟩, ⟨eqri, rfl⟩, ⟨eqrr, rfl⟩]

theorem Opcode.isSome_ofOrdinal?_iff {word : Word} :
    (ofOrdinal? word).isSome ↔ IsOrdinal word := by
  constructor
  · intro hsome
    obtain ⟨opcode, hopcode⟩ := Option.isSome_iff_exists.mp hsome
    rw [← ofOrdinal?_eq_some_iff.mp hopcode]
    exact opcode.isOrdinal_ordinal
  · intro hordinal
    obtain ⟨opcode, rfl⟩ := exists_ordinal_eq hordinal
    rw [ofOrdinal?_ordinal, Option.isSome_some]

theorem Opcode.ofOrdinal?_eq_none_iff {word : Word} :
    ofOrdinal? word = none ↔ ¬ IsOrdinal word := by
  rw [← isSome_ofOrdinal?_iff, Option.not_isSome_iff_eq_none]

/-- The fields among `A` and `B` that a mode uses as register indices, in this order. -/
def AddressMode.sources (mode : AddressMode) (a b : Word) : List Word :=
  match mode with
  | .regReg => [a, b]
  | .regImm => [a]
  | .immReg => [b]

namespace Instruction

open Registers

/-- The fields that an instruction uses as register indices, in the order `A`, `B`, `C`. -/
def indices (instruction : Instruction) : List Word :=
  match Opcode.ofOrdinal? instruction.opcode with
  | none => []
  | some opcode => opcode.mode.sources instruction.a instruction.b ++ [instruction.c]

/-- The first of the fields used as register indices that names no register. -/
def offending? (instruction : Instruction) : Option Word :=
  instruction.indices.find? fun index => ¬ InRange index

/-- An instruction is well-formed when every field that a known opcode uses as a register index
names a register. -/
def WellFormed (instruction : Instruction) : Prop :=
  Opcode.IsOrdinal instruction.opcode → ∀ index ∈ instruction.indices, InRange index

theorem isOrdinal_of_mem_indices {instruction : Instruction} {index : Word}
    (hmem : index ∈ instruction.indices) : Opcode.IsOrdinal instruction.opcode := by
  rw [← Opcode.isSome_ofOrdinal?_iff]
  cases hopcode : Opcode.ofOrdinal? instruction.opcode with
  | none =>
    rw [indices, hopcode] at hmem
    cases hmem
  | some opcode => rfl

theorem offending?_eq_none_iff {instruction : Instruction} :
    instruction.offending? = none ↔ instruction.WellFormed := by
  simp only [offending?, List.find?_eq_none, decide_eq_true_eq, not_not]
  constructor
  · intro hall _
    exact hall
  · intro hwell index hmem
    exact hwell (isOrdinal_of_mem_indices hmem) index hmem

-- Not by the quantifier over words, which would be decided by going through all of them.
instance : DecidablePred WellFormed :=
  fun instruction => decidable_of_iff (instruction.offending? = none) offending?_eq_none_iff

theorem exists_offending?_iff {instruction : Instruction} :
    (∃ index, instruction.offending? = some index) ↔ ¬ instruction.WellFormed := by
  rw [← offending?_eq_none_iff, ← Option.ne_none_iff_exists']

theorem offending?_spec {instruction : Instruction} {index : Word}
    (hoffending : instruction.offending? = some index) :
    Opcode.IsOrdinal instruction.opcode ∧ index ∈ instruction.indices ∧ ¬ InRange index := by
  have hmem := List.mem_of_find?_eq_some hoffending
  have hrange := List.find?_some hoffending
  exact ⟨isOrdinal_of_mem_indices hmem, hmem, of_decide_eq_true hrange⟩

end Instruction

end FourReg
