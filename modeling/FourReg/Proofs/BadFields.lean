import FourReg.Proofs.Grammar
import FourReg.Proofs.QuotedText

/-!
# Instruction lines and what is wrong with them

What the reader makes of a line of any words. Four words are asked for, and each place asks something
of the word in it (`FieldName.Reads`): a mnemonic or a literal of the first, a literal of the others. The
words are looked at from left to right, so the report is on the first that is not what its place asks
for.

The reader takes the same look at each of the named fields in turn (`map_words_ofLine`). Which failure
it reports is then a fact about such rows of looks, by one induction (`mapM_eq_error_iff`).
-/

namespace FourReg

section Rows

variable {ε α β : Type} {action : α → Except ε β} {cause : ε}

theorem mapM_cons_eq_error_iff {first : α} {items : List α} :
    (first :: items).mapM action = .error cause ↔ action first = .error cause ∨
      (∃ value, action first = .ok value) ∧ items.mapM action = .error cause := by
  rw [List.mapM_cons]
  cases action first with
  | error early => simp [bind, Except.bind]
  | ok value => cases items.mapM action <;> simp [bind, Except.bind, pure, Except.pure]

/-- A row of actions fails at the first that does, and with its error. -/
theorem mapM_eq_error_iff {items : List α} :
    items.mapM action = .error cause ↔ ∃ before item after, items = before ++ item :: after ∧
      (∀ earlier ∈ before, ∃ value, action earlier = .ok value) ∧ action item = .error cause := by
  induction items with
  | nil => simp [pure, Except.pure]
  | cons first items ih =>
    rw [mapM_cons_eq_error_iff, ih]
    constructor
    · rintro (hfirst | ⟨hfirst, before, item, after, rfl, hbefore, hitem⟩)
      · exact ⟨[], first, items, rfl, by simp, hfirst⟩
      · exact ⟨first :: before, item, after, rfl, List.forall_mem_cons.mpr ⟨hfirst, hbefore⟩, hitem⟩
    · intro ⟨before, item, after, hitems, hbefore, hitem⟩
      cases before with
      | nil =>
        cases hitems
        exact Or.inl hitem
      | cons other before =>
        cases hitems
        obtain ⟨hfirst, hbefore⟩ := List.forall_mem_cons.mp hbefore
        exact Or.inr ⟨hfirst, before, item, after, rfl, hbefore, hitem⟩

end Rows

/-! ### One field -/

namespace FieldName

/-- The fields of an instruction in their order on a line. -/
def all : List FieldName :=
  [opcode, a, b, c]

/-- What a field of this name denotes. -/
def Reads : FieldName → List Char → Word → Prop
  | opcode, field, word => OpcodeField field word
  | a, field, word | b, field, word | c, field, word => Literal field word.toInt

/-- The look that the reader takes at a field of this name. -/
def look : FieldName → List Char → Except LineError Word
  | opcode => Opcode.ofField
  | a => Word.ofField a
  | b => Word.ofField b
  | c => Word.ofField c

variable {name : FieldName} {field : List Char} {word : Word} {cause : LineError}

theorem look_eq_ok_iff : name.look field = .ok word ↔ name.Reads field word := by
  cases name with
  | opcode => exact Opcode.ofField_eq_ok_iff
  | a | b | c => exact Word.ofField_eq_ok_iff

/-- A look that fails reports the field that it was taken at. -/
theorem eq_of_look_eq_error (hlook : name.look field = .error cause) :
    cause = .invalidField name field := by
  cases name with
  | opcode =>
    simp only [look, Opcode.ofField] at hlook
    grind
  | a | b | c =>
    simp only [look, Word.ofField] at hlook
    grind

theorem look_eq_error_iff : name.look field = .error cause ↔
    (¬ ∃ word, name.Reads field word) ∧ cause = .invalidField name field := by
  constructor
  · intro hlook
    refine ⟨fun ⟨word, hreads⟩ => ?_, eq_of_look_eq_error hlook⟩
    cases hlook.symm.trans (look_eq_ok_iff.mpr hreads)
  · intro ⟨hnot, hcause⟩
    cases hlook : name.look field with
    | ok word => exact absurd ⟨word, look_eq_ok_iff.mp hlook⟩ hnot
    | error other => rw [eq_of_look_eq_error hlook, hcause]

end FieldName

/-- Of the words of a line the first that is not what its place asks for, and the name of that
place. -/
def FirstBad (words : List (List Char)) (name : FieldName) (field : List Char) : Prop :=
  ∃ before after, FieldName.all.zip words = before ++ (name, field) :: after ∧
    (∀ earlier ∈ before, ∃ word, earlier.1.Reads earlier.2 word) ∧
    ¬ ∃ word, name.Reads field word

/-- The literals of words are those of the integers in the range of words. -/
theorem exists_word_literal_iff {field : List Char} :
    (∃ word : Word, Literal field word.toInt) ↔
      ∃ value, Literal field value ∧ -2 ^ 31 ≤ value ∧ value < 2 ^ 31 := by
  constructor
  · intro ⟨word, hliteral⟩
    exact ⟨word.toInt, hliteral, word.le_toInt, word.toInt_lt⟩
  · intro ⟨value, hliteral, hlower, hupper⟩
    refine ⟨Int32.ofInt value, ?_⟩
    rwa [Int32.toInt_ofInt_of_le hlower hupper]

theorem Spells.unique {first second : Opcode} {field : List Char} (hfirst : Spells first field)
    (hsecond : Spells second field) : first = second := by
  rw [← Opcode.ofMnemonic?_eq_some_iff] at hfirst hsecond
  exact Option.some.inj (hfirst.symm.trans hsecond)

/-! ### One line -/

namespace Instruction

def words (instruction : Instruction) : List Word :=
  [instruction.opcode, instruction.a, instruction.b, instruction.c]

section Four

variable {line opcode a b c : List Char}

/-- The words of the instruction on a line of four fields come of one look at each of them. -/
theorem map_words_ofLine (hfields : fields line = [opcode, a, b, c]) :
    (ofLine line).map words =
      (FieldName.all.zip [opcode, a, b, c]).mapM fun named => named.1.look named.2 := by
  unfold ofLine
  rw [hfields]
  simp only [FieldName.all, List.zip_cons_cons, List.zip_nil_right, List.mapM_cons, List.mapM_nil,
    FieldName.look]
  cases Opcode.ofField opcode with
  | error => rfl
  | ok =>
    cases Word.ofField .a a with
    | error => rfl
    | ok =>
      cases Word.ofField .b b with
      | error => rfl
      | ok => cases Word.ofField .c c <;> rfl

theorem ofLine_eq_error_iff (hfields : fields line = [opcode, a, b, c]) {cause : LineError} :
    ofLine line = .error cause ↔
      ∃ name field, FirstBad [opcode, a, b, c] name field ∧ cause = .invalidField name field := by
  have hmap : ofLine line = .error cause ↔ (ofLine line).map words = .error cause := by
    cases ofLine line with
    | error other => simp [Except.map]
    | ok instruction => exact ⟨nofun, nofun⟩
  rw [hmap, map_words_ofLine hfields, mapM_eq_error_iff]
  simp only [FieldName.look_eq_ok_iff, FieldName.look_eq_error_iff]
  constructor
  · intro ⟨before, ⟨name, field⟩, after, hzip, hbefore, hnot, hcause⟩
    exact ⟨name, field, ⟨before, after, hzip, hbefore, hnot⟩, hcause⟩
  · intro ⟨name, field, ⟨before, after, hzip, hbefore, hnot⟩, hcause⟩
    exact ⟨before, (name, field), after, hzip, hbefore, hnot, hcause⟩

theorem ofLine_eq_ok_iff_of_fields (hfields : fields line = [opcode, a, b, c])
    {instruction : Instruction} :
    ofLine line = .ok instruction ↔ OpcodeField opcode instruction.opcode ∧
      Literal a instruction.a.toInt ∧ Literal b instruction.b.toInt ∧
      Literal c instruction.c.toInt := by
  rw [ofLine_eq_ok_iff]
  constructor
  · intro ⟨opcode, a, b, c, hspaced, hread⟩
    cases hfields.symm.trans (fields_of_spaced hspaced)
    exact hread
  · exact fun hread => ⟨opcode, a, b, c, fields_eq_iff.mp hfields, hread⟩

end Four

theorem ofLine_of_length_ne {line : List Char} (hlength : (fields line).length ≠ 4) :
    ofLine line = .error (.fieldCount (fields line).length) := by
  unfold ofLine
  split
  · rename_i hfields
    rw [hfields] at hlength
    exact absurd rfl hlength
  · rfl

/-- The words of an instruction in decimal, with a blank between two. -/
def numerals (instruction : Instruction) : List Char :=
  [' '].intercalate (instruction.words.map fun word => Numeral.chars word.toInt)

theorem ofLine_numerals (instruction : Instruction) :
    ofLine instruction.numerals = .ok instruction := by
  have hwords : ∀ field ∈ instruction.words.map fun word => Numeral.chars word.toInt,
      IsWord field := by
    intro field hfield
    obtain ⟨word, _, rfl⟩ := List.mem_map.mp hfield
    exact (literal_chars word.toInt).isWord
  refine (ofLine_eq_ok_iff_of_fields (fields_intercalate hwords)).mpr ⟨.literal ?_, ?_, ?_, ?_⟩ <;>
    exact literal_chars _

theorem mapError_eq_ok_iff {line : List Char} {number : Nat} {instruction : Instruction} :
    (ofLine line).mapError (SourceError.malformed number) = .ok instruction ↔
      ofLine line = .ok instruction := by
  cases ofLine line with
  | error cause => exact ⟨nofun, nofun⟩
  | ok other => simp [Except.mapError]

theorem mapError_eq_error_iff {line : List Char} {number : Nat} {error : SourceError} :
    (ofLine line).mapError (SourceError.malformed number) = .error error ↔
      ∃ cause, ofLine line = .error cause ∧ error = .malformed number cause := by
  cases ofLine line with
  | error cause => simp [Except.mapError, eq_comm]
  | ok other => simp [Except.mapError]

/-- A line that is read on its own, as the one of a given number. It consists of certain words. If
these are not four, their number is the error. If they are four, the line is an instruction exactly
when each of them denotes a word in its place, and the instruction holds these words; the errors of the
other lines each name the first word that does not, and quote it, so that it is read back from the
message. No word is both a mnemonic and a literal, none is two mnemonics, and the numerals of any four
words read back as these. -/
theorem ofLine_exact (line : List Char) (number : Nat) :
    let read := (ofLine line).mapError (SourceError.malformed number)
    (∃ words, (∀ others, Spaced others line ↔ others = words) ∧
      (words.length ≠ 4 → read = .error (.malformed number (.fieldCount words.length))) ∧
      ∀ opcode a b c, words = [opcode, a, b, c] →
        (∀ instruction, read = .ok instruction ↔ OpcodeField opcode instruction.opcode ∧
          Literal a instruction.a.toInt ∧ Literal b instruction.b.toInt ∧
          Literal c instruction.c.toInt) ∧
        ∀ error, read = .error error ↔ ∃ name field, FirstBad words name field ∧
          error = .malformed number (.invalidField name field)) ∧
    ((∀ found : Nat, (LineError.fieldCount found).message =
        "expected 4 fields, found " ++ Numeral.text found ∧
          Numeral.toInt? (Numeral.text found).toList = some (found : Int)) ∧
      (∀ name field, (LineError.invalidField name field).message =
        "invalid " ++ name.text ++ " field: " ++
          String.ofList (Quoted.encode Quoted.isHidden field)) ∧
      (∀ field, Quoted.decode? (Quoted.encode Quoted.isHidden field) = some field) ∧
      FieldName.all.map FieldName.text = ["opcode", "A", "B", "C"]) ∧
    (∀ field, (∃ word : Word, Literal field word.toInt) ↔
      ∃ value, Literal field value ∧ -2 ^ 31 ≤ value ∧ value < 2 ^ 31) ∧
    (∀ field opcode value, ¬ (Spells opcode field ∧ Literal field value)) ∧
    (∀ field first second, Spells first field → Spells second field → first = second) ∧
    ∀ instruction, ofLine instruction.numerals = .ok instruction := by
  intro read
  refine ⟨⟨fields line, fun others => ?_, fun hlength => ?_, ?_⟩, ?_,
    fun field => exists_word_literal_iff, ?_, ?_, ofLine_numerals⟩
  · rw [← fields_eq_iff, eq_comm]
  · exact mapError_eq_error_iff.mpr ⟨_, ofLine_of_length_ne hlength, rfl⟩
  · intro opcode a b c hfields
    refine ⟨fun instruction => ?_, fun error => ?_⟩
    · exact mapError_eq_ok_iff.trans (ofLine_eq_ok_iff_of_fields hfields)
    · simp only [read, mapError_eq_error_iff, ofLine_eq_error_iff hfields, hfields]
      constructor
      · intro ⟨cause, ⟨name, field, hbad, hcause⟩, herror⟩
        rw [hcause] at herror
        exact ⟨name, field, hbad, herror⟩
      · intro ⟨name, field, hbad, herror⟩
        exact ⟨_, ⟨name, field, hbad, rfl⟩, herror⟩
  · refine ⟨fun found => ⟨rfl, ?_⟩, fun _ _ => rfl, Quoted.decode?_encode Quoted.isHidden, rfl⟩
    rw [Numeral.text, String.toList_ofList, Numeral.toInt?_chars]
  · intro field opcode value ⟨hspells, hliteral⟩
    exact hliteral.not_spells opcode hspells
  · exact fun field first second hfirst hsecond => hfirst.unique hsecond

/-- Three lines with the number seven: an instruction, one with two bad fields, and one that is too
short. -/
theorem ofLine_exact_seventh :
    let read (line : String) := (ofLine line.toList).mapError (SourceError.malformed 7)
    let badB : SourceError := .malformed 7 (.invalidField .b "2147483648".toList)
    let tooShort : SourceError := .malformed 7 (.fieldCount 3)
    read "\tEqIr -2147483648  +007 0\r" = .ok ⟨9, -2147483648, 7, 0⟩ ∧
      read "addi 1 2147483648 x" = .error badB ∧
      badB.message = "parse error on line 7: invalid B field: \"2147483648\"" ∧
      read "; 1 2" = .error tooShort ∧
      tooShort.message = "parse error on line 7: expected 4 fields, found 3" := by
  intro read badB tooShort
  refine ⟨?_, ?_, by decide +kernel, ?_, by decide +kernel⟩
  · obtain ⟨⟨words, hwords, _, hfour⟩, _⟩ := ofLine_exact "\tEqIr -2147483648  +007 0\r".toList 7
    have hfields : fields "\tEqIr -2147483648  +007 0\r".toList =
      ["EqIr".toList, "-2147483648".toList, "+007".toList, "0".toList] := by decide +kernel
    have hsame := ((hwords _).mp (fields_eq_iff.mp hfields)).symm
    refine ((hfour _ _ _ _ hsame).1 _).mpr ⟨Opcode.ofField_eq_ok_iff.mp ?_, ?_⟩
    · decide +kernel
    · simp only [← Numeral.toWord?_eq_some_iff]
      decide +kernel
  · obtain ⟨⟨words, hwords, _, hfour⟩, _⟩ := ofLine_exact "addi 1 2147483648 x".toList 7
    have hfields : fields "addi 1 2147483648 x".toList =
      ["addi".toList, "1".toList, "2147483648".toList, "x".toList] := by decide +kernel
    obtain rfl := ((hwords _).mp (fields_eq_iff.mp hfields)).symm
    refine ((hfour _ _ _ _ rfl).2 _).mpr ⟨_, _, ⟨[(.opcode, _), (.a, _)], _, rfl, ?_, ?_⟩, rfl⟩
    · simp only [List.forall_mem_cons, List.not_mem_nil, false_imp_iff, implies_true, and_true,
        ← FieldName.look_eq_ok_iff]
      exact ⟨⟨1, by decide +kernel⟩, ⟨1, by decide +kernel⟩⟩
    · simp only [FieldName.Reads, ← Numeral.toWord?_eq_some_iff]
      rintro ⟨word, hword⟩
      have hnone : Numeral.toWord? "2147483648".toList = none := by decide +kernel
      cases hnone.symm.trans hword
  · obtain ⟨⟨words, hwords, hlength, _⟩, _⟩ := ofLine_exact "; 1 2".toList 7
    have hfields : fields "; 1 2".toList = [[';'], ['1'], ['2']] := by decide +kernel
    obtain rfl := ((hwords _).mp (fields_eq_iff.mp hfields)).symm
    exact hlength (by decide)

end Instruction

end FourReg
