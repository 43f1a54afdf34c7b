import FourReg.Proofs.Access
import FourReg.Proofs.Listing

/-!
# The text of a trace line

A trace line shows an address, the instruction there and the four registers. All of this is read back from
its text, so no other line has the same.

The text is seen as its words, like a line of program text. The first is the address with a colon behind
it and the last four hold a register each, so that those between are the tokens of the listed
instruction, however many blanks fill up its column.
-/

namespace FourReg

namespace Numeral

theorem chars_injective : Function.Injective chars := by
  intro value other hchars
  apply Option.some.inj
  rw [← toInt?_chars value, hchars, toInt?_chars]

theorem literal_padded (width : Nat) (value : Int) :
    Literal (padded width value).toList value := by
  have hliteral (zeros : Nat) := isDigits_zeros_append zeros value.natAbs
  unfold padded
  rw [String.toList_ofList]
  by_cases hnegative : value < 0
  · have hminus := Literal.minus (hliteral (width - (1 + (Nat.toDigits 10 value.natAbs).length)))
    rw [ofDigitChars_zeros_append, Int.ofNat_natAbs_of_nonpos (by omega), Int.neg_neg] at hminus
    rwa [if_pos hnegative]
  · have hunsigned := Literal.unsigned (hliteral (width - (Nat.toDigits 10 value.natAbs).length))
    rw [ofDigitChars_zeros_append, Int.natAbs_of_nonneg (by omega)] at hunsigned
    rw [if_neg hnegative, List.length_nil, Nat.zero_add]
    exact hunsigned

theorem padded_injective (width : Nat) : Function.Injective (padded width) := by
  intro value other hpadded
  apply Option.some.inj
  rw [← toInt?_of_literal (literal_padded width value), hpadded,
    toInt?_of_literal (literal_padded width other)]

end Numeral

namespace Registers

/-- The words for the registers, in brackets and with commas between. -/
def words (registers : Registers) : List (List Char) :=
  [['r', 'e', 'g', 's', '=', '['] ++ Numeral.chars (registers.values 0) ++ [','],
    Numeral.chars (registers.values 1) ++ [','], Numeral.chars (registers.values 2) ++ [','],
    Numeral.chars (registers.values 3) ++ [']']]

theorem length_words (registers : Registers) : registers.words.length = 4 := by
  rfl

theorem isWord_of_mem_words (registers : Registers) : ∀ word ∈ registers.words, IsWord word := by
  have hnumeral (value : Int) {c : Char} (hc : isBlank c = false) :
      IsWord (Numeral.chars value ++ [c]) :=
    (literal_chars value).isWord.append (List.forall_mem_singleton.mpr hc)
  have hbracket : IsWord ['r', 'e', 'g', 's', '=', '['] := by simp [IsWord, isBlank]
  have hfirst := hbracket.append (hnumeral (registers.values 0) (c := ',') rfl).2
  rw [← List.append_assoc] at hfirst
  unfold words
  simp only [List.forall_mem_cons, List.not_mem_nil, false_imp_iff, implies_true, and_true]
  exact ⟨hfirst, hnumeral _ rfl, hnumeral _ rfl, hnumeral _ rfl⟩

theorem words_injective : Function.Injective words := by
  intro registers other hwords
  simp only [words, List.cons.injEq, List.append_cancel_left_eq, List.append_cancel_right_eq,
    and_true] at hwords
  obtain ⟨hfirst, hsecond, hthird, hfourth⟩ := hwords
  apply eq_of_values_eq
  simp only [List.forall_mem_cons, List.not_mem_nil, false_imp_iff, implies_true, and_true]
  exact ⟨Numeral.chars_injective hfirst, Numeral.chars_injective hsecond,
    Numeral.chars_injective hthird, Numeral.chars_injective hfourth⟩

theorem toList_bracketed (registers : Registers) :
    ("regs=[" ++ registers.join ", " ++ "]").toList = [' '].intercalate registers.words := by
  rw [join_eq]
  simp [words, List.intercalate, Numeral.text]

end Registers

namespace TraceLine

/-- A trace line as it is printed: the address, of three characters at least, the listed instruction in
a column of 24 characters at least, and the registers. -/
def printed (line : TraceLine) : String :=
  let listing := line.instruction.listing
  Numeral.padded 3 line.ip.toInt ++ ": " ++
    String.ofList (listing.toList ++ List.replicate (24 - listing.length) ' ') ++
    " regs=[" ++ Numeral.text (line.registers.values 0) ++ ", " ++
    Numeral.text (line.registers.values 1) ++ ", " ++ Numeral.text (line.registers.values 2) ++
    ", " ++ Numeral.text (line.registers.values 3) ++ "]"

theorem text_eq_printed (line : TraceLine) : line.text = line.printed := by
  unfold text printed
  simp only [Registers.join_eq, ← String.append_assoc]

/-- The words of a trace line. -/
def words (line : TraceLine) : List (List Char) :=
  ((Numeral.padded 3 line.ip.toInt).toList ++ [':']) ::
    (line.instruction.tokens ++ line.registers.words)

theorem fields_text (line : TraceLine) : fields line.text.toList = line.words := by
  let fill := List.replicate (24 - line.instruction.listing.length) ' '
  have hfill : Blank fill := by
    intro c hc
    rw [List.eq_of_mem_replicate hc]
    rfl
  have haddress : IsWord ((Numeral.padded 3 line.ip.toInt).toList ++ [':']) :=
    (Numeral.literal_padded 3 line.ip.toInt).isWord.append (List.forall_mem_singleton.mpr rfl)
  have htokens := fields_intercalate line.instruction.isWord_of_mem_tokens
  have hregisters := fields_intercalate line.registers.isWord_of_mem_words
  have htext : line.text.toList =
      ((Numeral.padded 3 line.ip.toInt).toList ++ [':']) ++ ' ' ::
        (line.instruction.listing.toList ++ fill ++ ' ' ::
          ("regs=[" ++ line.registers.join ", " ++ "]").toList) := by
    simp [text, fill]
  rw [htext, fields_append_cons (c := ' ') rfl, fields_append_cons (c := ' ') rfl,
    fields_append_blank _ hfill, fields_of_isWord haddress, Instruction.toList_listing, htokens,
    Registers.toList_bracketed, hregisters]
  rfl

theorem words_injective : Function.Injective words := by
  intro line other hwords
  obtain ⟨haddress, hrest⟩ := List.cons.inj hwords
  obtain ⟨htokens, hregisters⟩ := List.append_inj' hrest (by simp only [Registers.length_words])
  have hip := Numeral.padded_injective 3 (String.toList_inj.mp (List.append_cancel_right haddress))
  obtain ⟨ip, instruction, registers⟩ := line
  obtain rfl := Int32.toInt_inj.mp hip
  obtain rfl := Instruction.tokens_injective htokens
  obtain rfl := Registers.words_injective hregisters
  rfl

theorem printed_injective : Function.Injective printed := by
  intro line other hprinted
  apply words_injective
  rw [← fields_text, text_eq_printed, hprinted, ← text_eq_printed, fields_text]

end TraceLine

end FourReg
