import FourReg.Proofs.Grammar

/-!
# Ways to write a program

A program has many texts. A literal may have a plus sign and leading zeros, a known opcode may be
written by its mnemonic with any of its letters as capitals, and any white space may stand around the
fields. Silent lines may stand between the instructions, and a line `run` may end the text, with any
bytes after it. A `Layout` is one choice of all this, whatever the program, and all of its choices read
back as the program: the lines that it writes are lines of the grammar, and the rest follows.
-/

namespace FourReg

/-! ### White space -/

/-- White space within a line. -/
structure Gap where
  text : List Char
  blank : Blank text
  oneLine : '\n' ∉ text

def Gap.none : Gap where
  text := []
  blank := blank_nil
  oneLine := List.not_mem_nil

/-- White space between two fields. -/
structure Separator extends Gap where
  nonempty : text ≠ []

def Separator.single : Separator where
  text := [' ']
  blank := List.forall_mem_singleton.mpr rfl
  oneLine := by decide
  nonempty := List.cons_ne_nil _ _

theorem Separator.head?_append (separator : Separator) (rest : List Char) :
    ∀ c ∈ (separator.text ++ rest).head?, isBlank c = true := by
  have hblank := separator.blank
  intro c hc
  cases htext : separator.text with
  | nil => exact absurd htext separator.nonempty
  | cons first text =>
    rw [htext] at hblank hc
    cases hc
    exact (blank_cons hblank).1

/-! ### Fields -/

/-- How a literal is written: with a plus sign unless it is negative, and with leading zeros. -/
structure LiteralStyle where
  plus : Bool
  zeros : Nat

def LiteralStyle.decimal : LiteralStyle where
  plus := false
  zeros := 0

def LiteralStyle.field (style : LiteralStyle) (word : Word) : List Char :=
  let digits := List.replicate style.zeros '0' ++ Nat.toDigits 10 word.toInt.natAbs
  if word.toInt < 0 then '-' :: digits else if style.plus then '+' :: digits else digits

/-- How an opcode is written: by its mnemonic with capitals at some places, or as a literal. -/
inductive OpcodeStyle
  | mnemonic (capital : Nat → Bool)
  | literal (style : LiteralStyle)

/-- An unknown opcode has no mnemonic, so it is a literal in any style. -/
def OpcodeStyle.field : OpcodeStyle → Word → List Char
  | mnemonic capital, word =>
    match Opcode.ofOrdinal? word with
    | some opcode =>
      opcode.mnemonic.toList.mapIdx fun place letter =>
        if capital place then letter.toUpper else letter
    | none => Numeral.chars word.toInt
  | literal style, word => style.field word

theorem LiteralStyle.literal_field (style : LiteralStyle) (word : Word) :
    Literal (style.field word) word.toInt := by
  have hdigits := isDigits_zeros_append style.zeros word.toInt.natAbs
  have hvalue := ofDigitChars_zeros_append style.zeros word.toInt.natAbs
  unfold field
  dsimp only
  split
  · have hliteral := Literal.minus hdigits
    rwa [hvalue, Int.ofNat_natAbs_of_nonpos (by omega), Int.neg_neg] at hliteral
  · have hnatAbs : (word.toInt.natAbs : Int) = word.toInt := Int.natAbs_of_nonneg (by omega)
    split
    · have hliteral := Literal.plus hdigits
      rwa [hvalue, hnatAbs] at hliteral
    · have hliteral := Literal.unsigned hdigits
      rwa [hvalue, hnatAbs] at hliteral

theorem spells_capitals (opcode : Opcode) (capital : Nat → Bool) :
    Spells opcode (opcode.mnemonic.toList.mapIdx fun place letter =>
      if capital place then letter.toUpper else letter) := by
  unfold Spells
  rw [List.forall₂_iff_get]
  refine ⟨List.length_mapIdx, fun place _ _ => ?_⟩
  simp only [List.get_eq_getElem, List.getElem_mapIdx]
  split
  · exact Or.inr rfl
  · exact Or.inl rfl

theorem OpcodeStyle.opcodeField_field (style : OpcodeStyle) (word : Word) :
    OpcodeField (style.field word) word := by
  cases style with
  | mnemonic capital =>
    unfold field
    dsimp only
    split
    · rename_i opcode hopcode
      have hspelled := OpcodeField.mnemonic (spells_capitals opcode capital)
      rwa [Opcode.ofOrdinal?_eq_some_iff.mp hopcode] at hspelled
    · exact .literal (literal_chars word.toInt)
  | literal style => exact .literal (style.literal_field word)

/-! ### Lines -/

/-- A line that says nothing. -/
inductive SilentLine
  | blank (gap : Gap)
  | comment (indent : Gap) (text : List Char) (oneLine : '\n' ∉ text)

def SilentLine.text : SilentLine → List Char
  | blank gap => gap.text
  | comment indent text _ => indent.text ++ ';' :: text

theorem SilentLine.silent_text (line : SilentLine) : Blank line.text ∨ Comment line.text := by
  cases line with
  | blank gap => exact Or.inl gap.blank
  | comment indent text _ => exact Or.inr ⟨indent.text, text, indent.blank, rfl⟩

theorem SilentLine.oneLine (line : SilentLine) : '\n' ∉ line.text := by
  cases line with
  | blank gap => exact gap.oneLine
  | comment indent comment hone => simp [SilentLine.text, indent.oneLine, hone]

/-- How an instruction is written. -/
structure InstructionStyle where
  indent : Gap
  opcode : OpcodeStyle
  afterOpcode : Separator
  a : LiteralStyle
  afterA : Separator
  b : LiteralStyle
  afterB : Separator
  c : LiteralStyle
  trailing : Gap

def InstructionStyle.text (style : InstructionStyle) (instruction : Instruction) : List Char :=
  style.indent.text ++ style.opcode.field instruction.opcode ++
    (style.afterOpcode.text ++ style.a.field instruction.a ++
      (style.afterA.text ++ style.b.field instruction.b ++
        (style.afterB.text ++ style.c.field instruction.c ++ style.trailing.text)))

theorem InstructionStyle.instructionLine_text (style : InstructionStyle)
    (instruction : Instruction) : InstructionLine (style.text instruction) instruction := by
  have hopcode := style.opcode.opcodeField_field instruction.opcode
  have ha := style.a.literal_field instruction.a
  have hb := style.b.literal_field instruction.b
  have hc := style.c.literal_field instruction.c
  refine ⟨_, _, _, _, ?_, hopcode, ha, hb, hc⟩
  refine .word style.indent.blank hopcode.isWord ?_ ?_
  · rw [List.append_assoc]
    exact style.afterOpcode.head?_append _
  refine .word style.afterOpcode.blank ha.isWord ?_ ?_
  · rw [List.append_assoc]
    exact style.afterA.head?_append _
  refine .word style.afterA.blank hb.isWord ?_ ?_
  · rw [List.append_assoc]
    exact style.afterB.head?_append _
  refine .word style.afterB.blank hc.isWord ?_ (.blank style.trailing.blank)
  exact fun c hc => style.trailing.blank c (List.mem_of_head? hc)

theorem InstructionStyle.oneLine (style : InstructionStyle) (instruction : Instruction) :
    '\n' ∉ style.text instruction := by
  have hopcode := (style.opcode.opcodeField_field instruction.opcode).isWord.oneLine
  have ha := (style.a.literal_field instruction.a).isWord.oneLine
  have hb := (style.b.literal_field instruction.b).isWord.oneLine
  have hc := (style.c.literal_field instruction.c).isWord.oneLine
  simp only [text, List.mem_append, not_or]
  exact ⟨⟨style.indent.oneLine, hopcode⟩, ⟨style.afterOpcode.oneLine, ha⟩,
    ⟨style.afterA.oneLine, hb⟩, ⟨style.afterB.oneLine, hc⟩, style.trailing.oneLine⟩

/-! ### Programs -/

/-- How the text of a program ends: with the input, or with a line `run` and any bytes behind it. -/
inductive Ending
  | endOfInput
  | run (left right : Gap) (rest : Option (List UInt8))

namespace Ending

/-- The line that ends the program. -/
def lines : Ending → List (List Char)
  | endOfInput => []
  | run left right _ => [left.text ++ ['r', 'u', 'n'] ++ right.text]

/-- What comes after the line that ends the program. -/
def bytes : Ending → List UInt8
  | endOfInput | run _ _ none => []
  | run _ _ (some rest) => 0x0A :: rest

def bytesLines : Ending → List (List UInt8)
  | endOfInput | run _ _ none => []
  | run _ _ (some rest) => rest.splitOn 0x0A

theorem splitOn_append_bytes (ending : Ending) (front : List UInt8) :
    (front ++ ending.bytes).splitOn 0x0A = front.splitOn 0x0A ++ ending.bytesLines := by
  cases ending with
  | endOfInput => simp [bytes, bytesLines]
  | run left right rest =>
    cases rest with
    | none => simp [bytes, bytesLines]
    | some rest => exact List.splitOn_append_cons_self front rest

theorem bytesLines_of_lines_eq_nil {ending : Ending} (hlines : ending.lines = []) :
    ending.bytesLines = [] := by
  cases ending with
  | endOfInput => rfl
  | run left right rest => cases hlines

theorem oneLine (ending : Ending) : ∀ line ∈ ending.lines, '\n' ∉ line := by
  cases ending with
  | endOfInput => simp [lines]
  | run left right rest => simp [lines, left.oneLine, right.oneLine]

theorem endsProgram_of_mem_head? (ending : Ending) :
    ∀ line ∈ (ending.lines.map Utf8.encode ++ ending.bytesLines).head?, EndsProgram line := by
  cases ending with
  | endOfInput => simp [lines, bytesLines]
  | run left right rest =>
    intro line hline
    cases hline
    exact endsProgram_encode_iff.mpr ⟨left.text, right.text, left.blank, right.blank, rfl⟩

end Ending

/-- How a program is written: the silent lines in front of each instruction and after the last, the
style of each instruction, and how the text ends. -/
structure Layout where
  before : Nat → List SilentLine
  style : Nat → InstructionStyle
  after : List SilentLine
  ending : Ending

namespace Layout

/-- The lines for the instructions from the one numbered `number` on. -/
def lines (layout : Layout) (number : Nat) : List Instruction → List (List Char)
  | [] => layout.after.map SilentLine.text
  | instruction :: rest =>
    (layout.before number).map SilentLine.text ++
      (layout.style number).text instruction :: layout.lines (number + 1) rest

/-- The bytes of a program in a layout. -/
def render (layout : Layout) (program : Program) : List UInt8 :=
  let lines := layout.lines 0 program.instructions.toList ++ layout.ending.lines
  Utf8.encode (['\n'].intercalate lines) ++ layout.ending.bytes

theorem body_silent (silent : List SilentLine) :
    Body ((silent.map SilentLine.text).map Utf8.encode) [] := by
  induction silent with
  | nil => exact .nil
  | cons line silent ih => exact .silent line.silent_text ih

theorem body_lines (layout : Layout) (number : Nat) (instructions : List Instruction) :
    Body ((layout.lines number instructions).map Utf8.encode) instructions := by
  induction instructions generalizing number with
  | nil => exact body_silent layout.after
  | cons instruction rest ih =>
    rw [lines, List.map_append]
    exact (body_silent _).append
      (.instruction ((layout.style number).instructionLine_text instruction) (ih (number + 1)))

theorem oneLine (layout : Layout) (number : Nat) (instructions : List Instruction) :
    ∀ line ∈ layout.lines number instructions, '\n' ∉ line := by
  have hsilent (silent : List SilentLine) : ∀ line ∈ silent.map SilentLine.text, '\n' ∉ line :=
    List.forall_mem_map.mpr fun line _ => line.oneLine
  induction instructions generalizing number with
  | nil => exact hsilent layout.after
  | cons instruction rest ih =>
    rw [lines, List.forall_mem_append, List.forall_mem_cons]
    exact ⟨hsilent _, (layout.style number).oneLine instruction, ih (number + 1)⟩

theorem denotes_render (layout : Layout) (program : Program) :
    Denotes (layout.render program) program.instructions.toList := by
  have hbody := layout.body_lines 0 program.instructions.toList
  have hone := layout.oneLine 0 program.instructions.toList
  unfold Denotes render
  rw [layout.ending.splitOn_append_bytes, Utf8.splitOn_encode]
  generalize layout.lines 0 program.instructions.toList = lines at hbody hone
  by_cases hlines : lines ++ layout.ending.lines = []
  · obtain ⟨hnone, hending⟩ := List.append_eq_nil_iff.mp hlines
    rw [hnone] at hbody
    rw [hlines, Ending.bytesLines_of_lines_eq_nil hending]
    -- An empty text is still one line, and that line is blank.
    exact (Body.silent (Or.inl blank_nil) hbody).linesDenote
  · have hall : ∀ line ∈ lines ++ layout.ending.lines, '\n' ∉ line :=
      List.forall_mem_append.mpr ⟨hone, layout.ending.oneLine⟩
    rw [List.splitOn_intercalate '\n' hall hlines, List.map_append, List.append_assoc]
    exact hbody.linesDenote_append layout.ending.endsProgram_of_mem_head?

theorem ofBytes_render (layout : Layout) (program : Program) :
    Program.ofBytes (layout.render program) = .ok program :=
  Program.ofBytes_eq_ok_iff.mpr (layout.denotes_render program)

end Layout

/-- The reader accepts the bytes of the grammar and reads them as what they denote; in particular a
program reads back from its text in every layout. -/
theorem Program.reads_grammar_and_layouts :
    (∀ bytes program, ofBytes bytes = .ok program ↔ Denotes bytes program.instructions.toList) ∧
      ∀ (layout : Layout) program, ofBytes (layout.render program) = .ok program := by
  refine ⟨fun bytes program => ofBytes_eq_ok_iff, fun layout program => ?_⟩
  exact layout.ofBytes_render program

/-- A line for each instruction, with its mnemonic if it has one and one blank between two fields. -/
def Layout.plain : Layout where
  before _ := []
  style _ := {
    indent := .none
    opcode := .mnemonic fun _ => false
    afterOpcode := .single
    a := .decimal
    afterA := .single
    b := .decimal
    afterB := .single
    c := .decimal
    trailing := .none }
  after := [.blank .none]
  ending := .endOfInput

example :
    Layout.plain.render ⟨#[⟨2, -1, 2, 3⟩, ⟨12, 0, 0, 0⟩]⟩ =
      Utf8.encode "mulr -1 2 3\n12 0 0 0\n".toList := by
  decide +kernel

example :
    Program.ofText "; two instructions\n\tMulR -1 +02 003 \n\n12 0 0 0\n run\nnothing to read" =
      .ok ⟨#[⟨2, -1, 2, 3⟩, ⟨12, 0, 0, 0⟩]⟩ := by
  decide +kernel

end FourReg
