import FourReg.Text.Utf8
import Mathlib.Tactic.SplitIfs

/-!
# Lines of encoded text

Program text is cut into lines as bytes, before it is decoded. No character but the line feed has
the byte of a line feed in its encoding, so this is the same as cutting the text into lines and
encoding each of them.
-/

namespace FourReg

theorem splitOn_append_of_not_mem {α : Type} [BEq α] [LawfulBEq α] {separator : α} {front : List α}
    (hfront : separator ∉ front) (back : List α) :
    (front ++ back).splitOn separator = (back.splitOn separator).modifyHead (front ++ ·) := by
  induction front with
  | nil =>
    rw [List.nil_append]
    cases back.splitOn separator <;> rfl
  | cons first front ih =>
    rw [List.mem_cons, not_or] at hfront
    obtain ⟨hfirst, hfront⟩ := hfront
    have hne : ¬ (first == separator) = true := by
      simpa using Ne.symm hfirst
    rw [List.cons_append, List.splitOn_cons_eq_if_modifyHead, if_neg hne, ih hfront,
      List.modifyHead_modifyHead]
    rfl

/-- Lines that each end at a separator, with nothing behind the last. -/
theorem splitOn_flatMap_append_singleton {α : Type} [BEq α] [LawfulBEq α] {separator : α}
    {lines : List (List α)} (hlines : ∀ line ∈ lines, separator ∉ line) :
    (lines.flatMap (· ++ [separator])).splitOn separator = lines ++ [[]] := by
  induction lines with
  | nil => rfl
  | cons line lines ih =>
    obtain ⟨hline, hrest⟩ := List.forall_mem_cons.mp hlines
    rw [List.flatMap_cons, List.append_assoc, List.singleton_append,
      List.splitOn_append_cons_self_of_not_mem hline, ih hrest]
    rfl

namespace Utf8

theorem lineFeed_mem_encodeChar_iff {c : Char} : 0x0A ∈ String.utf8EncodeChar c ↔ c = '\n' := by
  have hchar : c = '\n' ↔ c.val.toNat = 10 := by
    rw [← Char.val_inj, ← UInt32.toNat_inj]
    rfl
  rw [hchar]
  unfold String.utf8EncodeChar
  dsimp only
  generalize c.val.toNat = v
  -- The bytes of a code point that takes more than one all have their highest bit set.
  split_ifs <;>
    simp only [List.mem_cons, List.not_mem_nil, or_false, ← UInt8.toNat_inj, UInt8.toNat_ofNat',
      UInt8.toNat_ofNat] <;>
    omega

theorem encodeChar_lineFeed : String.utf8EncodeChar '\n' = [0x0A] := by
  rfl

theorem encode_cons (c : Char) (text : List Char) :
    encode (c :: text) = String.utf8EncodeChar c ++ encode text :=
  rfl

theorem splitOn_encode (text : List Char) :
    (encode text).splitOn 0x0A = (text.splitOn '\n').map encode := by
  induction text with
  | nil => rfl
  | cons c text ih =>
    rw [encode_cons, List.splitOn_cons_eq_if_modifyHead]
    by_cases hc : c = '\n'
    · subst hc
      rw [if_pos (beq_self_eq_true _), encodeChar_lineFeed, List.singleton_append,
        List.splitOn_cons_eq_if_modifyHead, if_pos (beq_self_eq_true _), ih]
      rfl
    · have hbyte : 0x0A ∉ String.utf8EncodeChar c := mt lineFeed_mem_encodeChar_iff.mp hc
      rw [if_neg (by simpa using hc), splitOn_append_of_not_mem hbyte, ih]
      cases text.splitOn '\n' <;> rfl

/-- The pieces between the line feeds of an encoded text are texts, and they decode to its lines. -/
theorem map_decode?_splitOn_encode (text : List Char) :
    ((encode text).splitOn 0x0A).map decode? = (text.splitOn '\n').map some := by
  rw [splitOn_encode, List.map_map]
  exact List.map_congr_left fun line _ => decode?_encode line

end Utf8

end FourReg
