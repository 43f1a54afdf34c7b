import FourReg.Assembly.Listing
import FourReg.Proofs.Grammar

/-!
# Listings read back

A listing is not program text: its lines begin with addresses, and marks show the roles of the
fields. With the addresses and the marks taken out (`unmark`) it is, and it reads as the program that
was listed. So no two programs have the same listing.

A line of a listing is seen as its tokens. Taking the marks out of them leaves the four fields of the
instruction, each in a form that denotes it, with a single blank between two.
-/

namespace FourReg

/-! ### Taking the marks out -/

/-- What follows the first colon with a blank behind it, or the whole line if there is none. -/
def afterAddress (line : List Char) : List Char :=
  (go line).getD line
where
  go : List Char → Option (List Char)
    | [] => none
    | ':' :: ' ' :: rest => some rest
    | _ :: rest => go rest

/-- The tokens of a listing that stand for no field. -/
def isMark (token : List Char) : Bool :=
  token == ['-', '>'] || token == ['?', '?', '?']

def withoutRegisterMark : List Char → List Char
  | 'r' :: digits => digits
  | token => token

/-- The fields in the tokens of a line: the first as it is, the others without the letter that marks
a register. -/
def unmarkTokens (tokens : List (List Char)) : List (List Char) :=
  match tokens.filter fun token => !isMark token with
  | [] => []
  | opcode :: operands => opcode :: operands.map withoutRegisterMark

def unmarkLine (line : List Char) : List Char :=
  [' '].intercalate (unmarkTokens ((afterAddress line).splitOn ' '))

/-- A listing without its addresses and marks, line by line. -/
def unmark (listing : String) : String :=
  String.ofList (['\n'].intercalate ((listing.toList.splitOn '\n').map unmarkLine))

theorem isWord_of_isMark {token : List Char} (hmark : isMark token = true) : IsWord token := by
  simp only [isMark, Bool.or_eq_true, beq_iff_eq] at hmark
  rcases hmark with rfl | rfl <;> simp [IsWord, isBlank]

theorem afterAddress_append {address : List Char} (haddress : IsDigits address) (rest : List Char) :
    afterAddress (address ++ ':' :: ' ' :: rest) = rest := by
  have hdigits := haddress.2
  clear haddress
  have hgo : afterAddress.go (address ++ ':' :: ' ' :: rest) = some rest := by
    induction address with
    | nil => rfl
    | cons c address ih =>
      obtain ⟨hc, hrest⟩ := List.forall_mem_cons.mp hdigits
      rw [List.cons_append, afterAddress.go, ih hrest]
      intro other hcolon
      rw [hcolon] at hc
      cases hc
  rw [afterAddress, hgo]
  rfl

/-! ### Tokens -/

/-- A token for a field: its numeral, with or without the letter that marks a register. -/
inductive FieldToken (word : Word) : List Char → Prop
  | literal : FieldToken word (Numeral.chars word.toInt)
  | register : FieldToken word ('r' :: Numeral.chars word.toInt)

theorem FieldToken.isWord {word : Word} {token : List Char} (htoken : FieldToken word token) :
    IsWord token := by
  have hword := (literal_chars word.toInt).isWord
  cases htoken with
  | literal => exact hword
  | register => exact hword.cons rfl

theorem Literal.isMark_eq_false {field : List Char} {value : Int} (hliteral : Literal field value) :
    isMark field = false := by
  have hvalue := Numeral.toInt?_of_literal hliteral
  simp only [isMark, Bool.or_eq_false_iff, beq_eq_false_iff_ne]
  constructor <;>
  · intro hfield
    rw [hfield] at hvalue
    cases hvalue

theorem FieldToken.isMark_eq_false {word : Word} {token : List Char}
    (htoken : FieldToken word token) : isMark token = false := by
  cases htoken with
  | literal => exact (literal_chars word.toInt).isMark_eq_false
  | register => rfl

theorem FieldToken.withoutRegisterMark_eq {word : Word} {token : List Char}
    (htoken : FieldToken word token) : withoutRegisterMark token = Numeral.chars word.toInt := by
  cases htoken with
  | literal =>
    obtain ⟨c, rest, hchars, halpha, _⟩ := (literal_chars word.toInt).exists_head
    rw [hchars]
    unfold withoutRegisterMark
    split
    · rename_i hcons
      cases hcons
      cases halpha
    · rfl
  | register => rfl

theorem fieldToken_literalText (word : Word) : FieldToken word (literalText word).toList := by
  rw [literalText, Numeral.text, String.toList_ofList]
  exact .literal

theorem fieldToken_registerText (word : Word) : FieldToken word (registerText word).toList := by
  rw [registerText, Numeral.text, String.toList_append, String.toList_ofList, String.toList_ofList]
  exact .register

theorem AddressMode.fieldToken_operandTexts (mode : AddressMode) (a b : Word) :
    FieldToken a (mode.operandTexts a b).1.toList ∧
      FieldToken b (mode.operandTexts a b).2.toList := by
  cases mode with
  | regReg => exact ⟨fieldToken_registerText a, fieldToken_registerText b⟩
  | regImm => exact ⟨fieldToken_registerText a, fieldToken_literalText b⟩
  | immReg => exact ⟨fieldToken_literalText a, fieldToken_registerText b⟩

namespace Instruction

/-- The token for the opcode: its mnemonic, or the numeral of an unknown one. -/
def opcodeToken (instruction : Instruction) : List Char :=
  match Opcode.ofOrdinal? instruction.opcode with
  | none => Numeral.chars instruction.opcode.toInt
  | some opcode => opcode.mnemonic.toList

/-- The fields of an instruction without marks. -/
def plainTokens (instruction : Instruction) : List (List Char) :=
  [instruction.opcodeToken, Numeral.chars instruction.a.toInt, Numeral.chars instruction.b.toInt,
    Numeral.chars instruction.c.toInt]

theorem opcodeField_opcodeToken (instruction : Instruction) :
    OpcodeField instruction.opcodeToken instruction.opcode := by
  unfold opcodeToken
  split
  · exact .literal (literal_chars _)
  · rename_i opcode hopcode
    have hspells : Spells opcode opcode.mnemonic.toList :=
      List.forall₂_same.mpr fun letter _ => Or.inl rfl
    rw [← Opcode.ofOrdinal?_eq_some_iff.mp hopcode]
    exact .mnemonic hspells

theorem isMark_opcodeToken (instruction : Instruction) : isMark instruction.opcodeToken = false := by
  unfold opcodeToken
  split
  · exact (literal_chars _).isMark_eq_false
  · rename_i opcode _
    cases opcode <;> rfl

/-- The tokens of a listed instruction. -/
def tokens (instruction : Instruction) : List (List Char) :=
  match Opcode.ofOrdinal? instruction.opcode with
  | none =>
    [['?', '?', '?'], instruction.opcodeToken, (literalText instruction.a).toList,
      (literalText instruction.b).toList, (literalText instruction.c).toList]
  | some opcode =>
    let (first, second) := opcode.mode.operandTexts instruction.a instruction.b
    [instruction.opcodeToken, first.toList, second.toList, ['-', '>'],
      (registerText instruction.c).toList]

theorem toList_listing (instruction : Instruction) :
    instruction.listing.toList = [' '].intercalate instruction.tokens := by
  unfold listing tokens opcodeToken
  cases Opcode.ofOrdinal? instruction.opcode with
  | none => simp [List.intercalate, literalText, Numeral.text]
  | some opcode => simp [List.intercalate]

theorem isWord_of_mem_tokens (instruction : Instruction) :
    ∀ token ∈ instruction.tokens, IsWord token := by
  have hopcode := instruction.opcodeField_opcodeToken.isWord
  unfold tokens
  cases Opcode.ofOrdinal? instruction.opcode with
  | none =>
    have ha := (fieldToken_literalText instruction.a).isWord
    have hb := (fieldToken_literalText instruction.b).isWord
    have hc := (fieldToken_literalText instruction.c).isWord
    have hmark : IsWord ['?', '?', '?'] := isWord_of_isMark rfl
    simp [hopcode, ha, hb, hc, hmark]
  | some opcode =>
    obtain ⟨ha, hb⟩ := opcode.mode.fieldToken_operandTexts instruction.a instruction.b
    have hc := (fieldToken_registerText instruction.c).isWord
    have hmark : IsWord ['-', '>'] := isWord_of_isMark rfl
    simp [hopcode, ha.isWord, hb.isWord, hc, hmark]

theorem unmarkTokens_tokens (instruction : Instruction) :
    unmarkTokens instruction.tokens = instruction.plainTokens := by
  have hopcode := instruction.isMark_opcodeToken
  unfold tokens
  cases Opcode.ofOrdinal? instruction.opcode with
  | none =>
    have ha := fieldToken_literalText instruction.a
    have hb := fieldToken_literalText instruction.b
    have hc := fieldToken_literalText instruction.c
    have hmark : isMark ['?', '?', '?'] = true := rfl
    simp [unmarkTokens, hmark, hopcode, ha.isMark_eq_false, hb.isMark_eq_false,
      hc.isMark_eq_false, ha.withoutRegisterMark_eq, hb.withoutRegisterMark_eq,
      hc.withoutRegisterMark_eq, plainTokens]
  | some opcode =>
    obtain ⟨ha, hb⟩ := opcode.mode.fieldToken_operandTexts instruction.a instruction.b
    have hc := fieldToken_registerText instruction.c
    have hmark : isMark ['-', '>'] = true := rfl
    simp [unmarkTokens, hmark, hopcode, ha.isMark_eq_false, hb.isMark_eq_false,
      hc.isMark_eq_false, ha.withoutRegisterMark_eq, hb.withoutRegisterMark_eq,
      hc.withoutRegisterMark_eq, plainTokens]

/-! ### Lines -/

/-- The line of a listing for the instruction at an address, without its line feed. -/
def listedLine (address : Nat) (instruction : Instruction) : List Char :=
  (Numeral.padded 3 address).toList ++ ':' :: ' ' :: instruction.listing.toList

/-- The line of program text that is left without the address and the marks. -/
def plainLine (instruction : Instruction) : List Char :=
  [' '].intercalate instruction.plainTokens

theorem toList_listingLine (address : Nat) (instruction : Instruction) :
    (instruction.listingLine address).toList = instruction.listedLine address ++ ['\n'] := by
  simp [listingLine, listedLine]

theorem isDigits_padded (width address : Nat) : IsDigits (Numeral.padded width address).toList := by
  have hsign : ¬ (address : Int) < 0 := by omega
  unfold Numeral.padded
  rw [if_neg hsign, String.toList_ofList]
  exact isDigits_zeros_append _ _

theorem oneLine_listedLine (address : Nat) (instruction : Instruction) :
    '\n' ∉ instruction.listedLine address := by
  have haddress := (isDigits_padded 3 address).isWord.oneLine
  have hlisting := oneLine_intercalate instruction.isWord_of_mem_tokens
  rw [← toList_listing] at hlisting
  simp [listedLine, haddress, hlisting]

/-- The tokens of a listed instruction can be told apart. -/
theorem splitOn_listing (instruction : Instruction) :
    instruction.listing.toList.splitOn ' ' = instruction.tokens := by
  have hne : instruction.tokens ≠ [] := by
    unfold tokens
    split <;> exact List.cons_ne_nil _ _
  rw [toList_listing, splitOn_intercalate_words instruction.isWord_of_mem_tokens hne]

theorem unmarkLine_listedLine (address : Nat) (instruction : Instruction) :
    unmarkLine (instruction.listedLine address) = instruction.plainLine := by
  rw [unmarkLine, listedLine, afterAddress_append (isDigits_padded 3 address), splitOn_listing,
    unmarkTokens_tokens]
  rfl

theorem isWord_of_mem_plainTokens (instruction : Instruction) :
    ∀ token ∈ instruction.plainTokens, IsWord token := by
  have hopcode := instruction.opcodeField_opcodeToken.isWord
  have ha := (literal_chars instruction.a.toInt).isWord
  have hb := (literal_chars instruction.b.toInt).isWord
  have hc := (literal_chars instruction.c.toInt).isWord
  simp [plainTokens, hopcode, ha, hb, hc]

theorem instructionLine_plainLine (instruction : Instruction) :
    InstructionLine instruction.plainLine instruction := by
  have hspaced := fields_eq_iff.mp (fields_intercalate instruction.isWord_of_mem_plainTokens)
  exact ⟨_, _, _, _, hspaced, instruction.opcodeField_opcodeToken, literal_chars _, literal_chars _,
    literal_chars _⟩

theorem tokens_injective : Function.Injective tokens := by
  intro instruction other htokens
  have hread := ofLine_eq_ok_iff.mpr instruction.instructionLine_plainLine
  rw [plainLine, ← unmarkTokens_tokens, htokens, unmarkTokens_tokens, ← plainLine,
    ofLine_eq_ok_iff.mpr other.instructionLine_plainLine] at hread
  cases hread
  rfl

end Instruction

/-! ### Programs -/

namespace Program

/-- The lines of a listing, one for each instruction, in order. -/
def listedLines (program : Program) : List (List Char) :=
  program.instructions.toList.zipIdx.map fun entry => entry.1.listedLine entry.2

theorem toList_listing (program : Program) :
    program.listing.toList = program.listedLines.flatMap (· ++ ['\n']) := by
  unfold listing listedLines
  rw [String.toList_join, List.flatMap_map, List.flatMap_map]
  apply List.flatMap_congr
  intro entry _
  exact entry.1.toList_listingLine entry.2

theorem splitOn_listing (program : Program) :
    program.listing.toList.splitOn '\n' = program.listedLines ++ [[]] := by
  have hone : ∀ line ∈ program.listedLines, '\n' ∉ line := by
    unfold listedLines
    exact List.forall_mem_map.mpr fun entry _ => entry.1.oneLine_listedLine entry.2
  rw [toList_listing, splitOn_flatMap_append_singleton hone]

theorem map_unmarkLine_listedLines (program : Program) :
    program.listedLines.map unmarkLine = program.instructions.toList.map Instruction.plainLine := by
  have hentries := List.zipIdx_map_fst 0 program.instructions.toList
  calc program.listedLines.map unmarkLine
      = (program.instructions.toList.zipIdx.map Prod.fst).map Instruction.plainLine := by
        simp only [listedLines, List.map_map, Function.comp_def, Instruction.unmarkLine_listedLine]
    _ = program.instructions.toList.map Instruction.plainLine := by rw [hentries]

theorem toList_unmark_listing (program : Program) :
    (unmark program.listing).toList =
      ['\n'].intercalate (program.instructions.toList.map Instruction.plainLine ++ [[]]) := by
  rw [unmark, String.toList_ofList, splitOn_listing, List.map_append, map_unmarkLine_listedLines]
  rfl

theorem denotes_unmark_listing (program : Program) :
    Denotes (Utf8.encode (unmark program.listing).toList) program.instructions.toList := by
  have hone : ∀ line ∈ program.instructions.toList.map Instruction.plainLine, '\n' ∉ line :=
    List.forall_mem_map.mpr fun instruction _ =>
      oneLine_intercalate instruction.isWord_of_mem_plainTokens
  have hall : ∀ line ∈ program.instructions.toList.map Instruction.plainLine ++ [[]],
      '\n' ∉ line :=
    List.forall_mem_append.mpr ⟨hone, by simp⟩
  -- The line feed at the end of the listing leaves an empty line, which is blank.
  have hlast : Body [Utf8.encode []] [] := .silent (Or.inl blank_nil) .nil
  have hbody :=
    (body_map Instruction.instructionLine_plainLine program.instructions.toList).append hlast
  rw [List.append_nil] at hbody
  unfold Denotes
  rw [toList_unmark_listing, Utf8.splitOn_encode,
    List.splitOn_intercalate '\n' hall (List.append_ne_nil_of_right_ne_nil _ (by simp)),
    List.map_append]
  exact hbody.linesDenote

theorem ofText_unmark_listing (program : Program) :
    ofText (unmark program.listing) = .ok program :=
  ofBytes_eq_ok_iff.mpr program.denotes_unmark_listing

theorem listing_injective : Function.Injective listing := by
  intro program other hlisting
  have hread := program.ofText_unmark_listing
  rw [hlisting, ofText_unmark_listing] at hread
  cases hread
  rfl

/-- A listing without its addresses and marks is a text of the program that was listed. So a listing
tells its program, and it has one line for each instruction, in order, and nothing after the last. -/
theorem unmarked_listing_reads_back :
    (∀ program : Program, ofText (unmark program.listing) = .ok program) ∧
      Function.Injective listing ∧
      ∀ program : Program, program.listing.toList.splitOn '\n' =
        (program.instructions.toList.zipIdx.map fun entry => entry.1.listedLine entry.2) ++ [[]] := by
  refine ⟨fun program => ?_, listing_injective, fun program => ?_⟩
  · exact program.ofText_unmark_listing
  · exact program.splitOn_listing

example :
    unmark "000: addi r0 5 -> r1\n001: ??? 40 1 -2 3\n" = "addi 0 5 1\n40 1 -2 3\n" := by
  decide +kernel

end Program

end FourReg
