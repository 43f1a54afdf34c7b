import FourReg.Proofs.Denotation
import FourReg.Proofs.Fields
import FourReg.Proofs.Lines

/-!
# The grammar of program text

Which bytes are a program, and which program, said without the reader. The stream is cut at its line
feeds. Up to the first line that is text and reads `run`, every line is text and either silent or an
instruction, and the instructions in their order are the program (`Denotes`). What comes after that
line is not looked at.

The reader agrees with this line by line (`Line.ofText_eq_ok_iff`), because no line can say two things.
`Program.ofBytes_eq_ok_iff` then follows by one induction in each direction, over the lines of the body
and over the lines that the reader goes through.
-/

namespace FourReg

theorem bind_eq_ok {ε α β : Type} {action : Except ε α} {next : α → Except ε β} {result : β} :
    (action >>= next) = .ok result ↔ ∃ value, action = .ok value ∧ next value = .ok result := by
  cases action with
  | error cause =>
    constructor
    · intro hresult
      cases hresult
    · intro ⟨_, hvalue, _⟩
      cases hvalue
  | ok value =>
    constructor
    · exact fun hresult => ⟨value, rfl, hresult⟩
    · intro ⟨_, hvalue, hresult⟩
      cases hvalue
      exact hresult

/-! ### Lines -/

/-- A comment has a semicolon as its first character that is not white space. -/
def Comment (line : List Char) : Prop :=
  ∃ indent text, Blank indent ∧ line = indent ++ ';' :: text

/-- The line that ends a program. -/
def RunLine (line : List Char) : Prop :=
  ∃ left right, Blank left ∧ Blank right ∧ line = left ++ ['r', 'u', 'n'] ++ right

/-- A line of four fields, the first of them for the opcode. -/
def InstructionLine (line : List Char) (instruction : Instruction) : Prop :=
  ∃ opcode a b c, Spaced [opcode, a, b, c] line ∧ OpcodeField opcode instruction.opcode ∧
    Literal a instruction.a.toInt ∧ Literal b instruction.b.toInt ∧ Literal c instruction.c.toInt

theorem isWord_run : IsWord ['r', 'u', 'n'] := by
  refine ⟨List.cons_ne_nil _ _, fun c hc => ?_⟩
  simp only [List.mem_cons, List.not_mem_nil, or_false] at hc
  rcases hc with rfl | rfl | rfl <;> rfl

theorem trim_eq_run_iff {line : List Char} : trim line = ['r', 'u', 'n'] ↔ RunLine line :=
  trim_eq_word_iff isWord_run

theorem Instruction.ofLine_eq_ok_iff {line : List Char} {instruction : Instruction} :
    ofLine line = .ok instruction ↔ InstructionLine line instruction := by
  unfold ofLine
  constructor
  · intro hline
    split at hline
    · rename_i opcode a b c hfields
      obtain ⟨opcodeWord, hopcode, hline⟩ := bind_eq_ok.mp hline
      obtain ⟨aWord, ha, hline⟩ := bind_eq_ok.mp hline
      obtain ⟨bWord, hb, hline⟩ := bind_eq_ok.mp hline
      obtain ⟨cWord, hc, hline⟩ := bind_eq_ok.mp hline
      cases hline
      exact ⟨opcode, a, b, c, fields_eq_iff.mp hfields, Opcode.ofField_eq_ok_iff.mp hopcode,
        Word.ofField_eq_ok_iff.mp ha, Word.ofField_eq_ok_iff.mp hb, Word.ofField_eq_ok_iff.mp hc⟩
    · cases hline
  · intro ⟨opcode, a, b, c, hspaced, hopcode, ha, hb, hc⟩
    rw [fields_of_spaced hspaced]
    dsimp only
    rw [Opcode.ofField_eq_ok_iff.mpr hopcode, Word.ofField_eq_ok_iff.mpr ha,
      Word.ofField_eq_ok_iff.mpr hb, Word.ofField_eq_ok_iff.mpr hc]
    rfl

theorem Instruction.ofLine_trim (line : List Char) : ofLine (trim line) = ofLine line := by
  unfold ofLine
  rw [fields_trim]

/-- A silent line trims to nothing or to a text that begins with a semicolon. -/
theorem not_silent_of_head? {line : List Char} {c : Char} (hhead : (trim line).head? = some c)
    (hc : c ≠ ';') : ¬ (Blank line ∨ Comment line) := by
  intro hsilent
  rcases hsilent with hblank | hcomment
  · rw [trim_of_blank hblank] at hhead
    cases hhead
  · rw [(head?_trim_iff (by rfl)).mpr hcomment] at hhead
    exact hc (Option.some.inj hhead).symm

theorem InstructionLine.not_silent {line : List Char} {instruction : Instruction}
    (hline : InstructionLine line instruction) : ¬ (Blank line ∨ Comment line) := by
  obtain ⟨opcode, a, b, c, hspaced, hopcode, _⟩ := hline
  obtain ⟨first, rest, hcons, hfirst⟩ := hopcode.exists_head
  have hhead := hspaced.head?_trim
  rw [hcons] at hhead
  exact not_silent_of_head? hhead hfirst

theorem InstructionLine.not_run {line : List Char} {instruction : Instruction}
    (hline : InstructionLine line instruction) : ¬ RunLine line := by
  obtain ⟨opcode, a, b, c, hspaced, _⟩ := hline
  intro hrun
  have hfields := fields_trim line
  rw [trim_eq_run_iff.mpr hrun, fields_of_isWord isWord_run, fields_of_spaced hspaced] at hfields
  cases hfields

theorem RunLine.not_silent {line : List Char} (hrun : RunLine line) :
    ¬ (Blank line ∨ Comment line) := by
  have hhead := congrArg List.head? (trim_eq_run_iff.mpr hrun)
  exact not_silent_of_head? hhead (by decide)

namespace Line

theorem silent_test_iff {text : List Char} :
    ((trim text).isEmpty || (trim text).head? == some ';') = true ↔ Blank text ∨ Comment text := by
  rw [Bool.or_eq_true, List.isEmpty_iff, trim_eq_nil_iff, beq_iff_eq, head?_trim_iff (by rfl)]
  rfl

theorem ofText_of_runLine {text : List Char} (hrun : RunLine text) : ofText text = .ok .finish :=
  if_pos (trim_eq_run_iff.mpr hrun)

theorem ofText_of_silent {text : List Char} (hsilent : Blank text ∨ Comment text) :
    ofText text = .ok .silent := by
  have hrun : ¬ trim text = ['r', 'u', 'n'] :=
    fun htrim => (trim_eq_run_iff.mp htrim).not_silent hsilent
  exact (if_neg hrun).trans (if_pos (silent_test_iff.mpr hsilent))

theorem ofText_of_other {text : List Char} (hrun : ¬ RunLine text)
    (hsilent : ¬ (Blank text ∨ Comment text)) :
    ofText text = (Instruction.ofLine text).map Line.instruction := by
  unfold ofText
  dsimp only
  rw [if_neg (mt trim_eq_run_iff.mp hrun), if_neg (mt silent_test_iff.mp hsilent),
    Instruction.ofLine_trim]

theorem ofText_of_instructionLine {text : List Char} {instruction : Instruction}
    (hline : InstructionLine text instruction) : ofText text = .ok (.instruction instruction) := by
  rw [ofText_of_other hline.not_run hline.not_silent, Instruction.ofLine_eq_ok_iff.mpr hline]
  rfl

/-- What a line says, in the terms of the grammar. -/
inductive Says (text : List Char) : Line → Prop
  | finish (hrun : RunLine text) : Says text .finish
  | silent (hsilent : Blank text ∨ Comment text) : Says text .silent
  | instruction {instruction : Instruction} (hline : InstructionLine text instruction) :
    Says text (.instruction instruction)

theorem ofText_eq_ok_iff {text : List Char} {line : Line} :
    ofText text = .ok line ↔ Says text line := by
  constructor
  · intro hline
    by_cases hrun : RunLine text
    · cases (ofText_of_runLine hrun).symm.trans hline
      exact .finish hrun
    by_cases hsilent : Blank text ∨ Comment text
    · cases (ofText_of_silent hsilent).symm.trans hline
      exact .silent hsilent
    rw [ofText_of_other hrun hsilent] at hline
    cases hinstruction : Instruction.ofLine text with
    | error cause =>
      rw [hinstruction] at hline
      cases hline
    | ok instruction =>
      rw [hinstruction] at hline
      cases hline
      exact .instruction (Instruction.ofLine_eq_ok_iff.mp hinstruction)
  · intro hsays
    cases hsays with
    | finish hrun => exact ofText_of_runLine hrun
    | silent hsilent => exact ofText_of_silent hsilent
    | instruction hline => exact ofText_of_instructionLine hline

end Line

/-! ### Programs -/

/-- A line of bytes that is text and ends the program. -/
def EndsProgram (line : List UInt8) : Prop :=
  ∃ text, line = Utf8.encode text ∧ RunLine text

/-- Lines of bytes, each of them text and either silent or an instruction, with the instructions. -/
inductive Body : List (List UInt8) → List Instruction → Prop
  | nil : Body [] []
  | silent {text : List Char} {lines : List (List UInt8)} {instructions : List Instruction}
      (hsilent : Blank text ∨ Comment text) (hrest : Body lines instructions) :
    Body (Utf8.encode text :: lines) instructions
  | instruction {text : List Char} {instruction : Instruction} {lines : List (List UInt8)}
      {instructions : List Instruction} (hline : InstructionLine text instruction)
      (hrest : Body lines instructions) :
    Body (Utf8.encode text :: lines) (instruction :: instructions)

/-- The instructions that lines denote: those of the lines in front of the first that ends the
program, if one does. -/
def LinesDenote (lines : List (List UInt8)) (instructions : List Instruction) : Prop :=
  ∃ body tail, lines = body ++ tail ∧ (∀ line ∈ body, ¬ EndsProgram line) ∧
    (∀ line ∈ tail.head?, EndsProgram line) ∧ Body body instructions

/-- The instructions that a stream of bytes denotes. -/
def Denotes (bytes : List UInt8) (instructions : List Instruction) : Prop :=
  LinesDenote (bytes.splitOn 0x0A) instructions

theorem endsProgram_encode_iff {text : List Char} :
    EndsProgram (Utf8.encode text) ↔ RunLine text := by
  constructor
  · intro ⟨other, hencode, hrun⟩
    have hdecode := Utf8.decode?_eq_some_iff.mpr hencode
    rw [Utf8.decode?_encode] at hdecode
    cases hdecode
    exact hrun
  · exact fun hrun => ⟨text, rfl, hrun⟩

theorem Body.not_endsProgram {body : List (List UInt8)} {instructions : List Instruction}
    (hbody : Body body instructions) : ∀ line ∈ body, ¬ EndsProgram line := by
  induction hbody with
  | nil =>
    intro line hline
    cases hline
  | silent hsilent _ ih =>
    refine List.forall_mem_cons.mpr ⟨?_, ih⟩
    rw [endsProgram_encode_iff]
    exact fun hrun => hrun.not_silent hsilent
  | instruction hline _ ih =>
    refine List.forall_mem_cons.mpr ⟨?_, ih⟩
    rw [endsProgram_encode_iff]
    exact hline.not_run

theorem Body.append {front back : List (List UInt8)} {earlier later : List Instruction}
    (hfront : Body front earlier) (hback : Body back later) :
    Body (front ++ back) (earlier ++ later) := by
  induction hfront with
  | nil => exact hback
  | silent hsilent _ ih => exact .silent hsilent ih
  | instruction hline _ ih => exact .instruction hline ih

theorem Body.linesDenote_append {body tail : List (List UInt8)} {instructions : List Instruction}
    (hbody : Body body instructions) (htail : ∀ line ∈ tail.head?, EndsProgram line) :
    LinesDenote (body ++ tail) instructions :=
  ⟨body, tail, rfl, hbody.not_endsProgram, htail, hbody⟩

/-- A body up to the end of the input. -/
theorem Body.linesDenote {body : List (List UInt8)} {instructions : List Instruction}
    (hbody : Body body instructions) : LinesDenote body instructions := by
  have hdenote : LinesDenote (body ++ []) instructions := hbody.linesDenote_append (by simp)
  rwa [List.append_nil] at hdenote

namespace LinesDenote

variable {text : List Char} {lines : List (List UInt8)} {instructions : List Instruction}

theorem run (hrun : RunLine text) (lines : List (List UInt8)) :
    LinesDenote (Utf8.encode text :: lines) [] := by
  refine Body.nil.linesDenote_append fun line hline => ?_
  cases hline
  exact endsProgram_encode_iff.mpr hrun

theorem silent (hsilent : Blank text ∨ Comment text) (hdenote : LinesDenote lines instructions) :
    LinesDenote (Utf8.encode text :: lines) instructions := by
  obtain ⟨body, tail, rfl, _, htail, hbody⟩ := hdenote
  exact (Body.silent hsilent hbody).linesDenote_append htail

theorem instruction {instruction : Instruction} (hline : InstructionLine text instruction)
    (hdenote : LinesDenote lines instructions) :
    LinesDenote (Utf8.encode text :: lines) (instruction :: instructions) := by
  obtain ⟨body, tail, rfl, _, htail, hbody⟩ := hdenote
  exact (Body.instruction hline hbody).linesDenote_append htail

end LinesDenote

theorem body_map {line : Instruction → List Char}
    (hline : ∀ instruction, InstructionLine (line instruction) instruction)
    (instructions : List Instruction) :
    Body ((instructions.map line).map Utf8.encode) instructions := by
  induction instructions with
  | nil => exact .nil
  | cons instruction instructions ih => exact .instruction (hline instruction) ih

namespace Program

/-! One turn of the reader for each kind of line. -/

theorem ofLines_silent {text : List Char} (hsilent : Blank text ∨ Comment text) (number : Nat)
    (earlier : Array Instruction) (rest : List (Option (List Char))) :
    ofLines number earlier (some text :: rest) = ofLines (number + 1) earlier rest := by
  rw [ofLines, Line.ofText_of_silent hsilent]

theorem ofLines_instruction {text : List Char} {instruction : Instruction}
    (hline : InstructionLine text instruction) (number : Nat) (earlier : Array Instruction)
    (rest : List (Option (List Char))) :
    ofLines number earlier (some text :: rest) =
      ofLines (number + 1) (earlier.push instruction) rest := by
  rw [ofLines, Line.ofText_of_instructionLine hline]

theorem ofLines_run {text : List Char} (hrun : RunLine text) (number : Nat)
    (earlier : Array Instruction) (rest : List (Option (List Char))) :
    ofLines number earlier (some text :: rest) = .ok ⟨earlier⟩ := by
  rw [ofLines, Line.ofText_of_runLine hrun]

/-- The lines of a body are read one after the other, and what they denote is added. -/
theorem ofLines_body_append {body : List (List UInt8)} {instructions : List Instruction}
    (hbody : Body body instructions) (number : Nat) (earlier : Array Instruction)
    (tail : List (List UInt8)) :
    ofLines number earlier ((body ++ tail).map Utf8.decode?) =
      ofLines (number + body.length) (earlier ++ instructions) (tail.map Utf8.decode?) := by
  induction hbody generalizing number earlier with
  | nil => simp
  | silent hsilent _ ih =>
    rw [List.cons_append, List.map_cons, Utf8.decode?_encode, ofLines_silent hsilent, ih,
      List.length_cons]
    congr 1
    omega
  | instruction hline _ ih =>
    rw [List.cons_append, List.map_cons, Utf8.decode?_encode, ofLines_instruction hline, ih,
      List.length_cons, ← Array.appendList_cons]
    congr 1
    omega

theorem ofLines_of_denote {lines : List (List UInt8)} {instructions : List Instruction}
    (hdenote : LinesDenote lines instructions) (number : Nat) (earlier : Array Instruction) :
    ofLines number earlier (lines.map Utf8.decode?) = .ok ⟨earlier ++ instructions⟩ := by
  obtain ⟨body, tail, rfl, _, htail, hbody⟩ := hdenote
  rw [ofLines_body_append hbody]
  cases tail with
  | nil => rfl
  | cons line tail =>
    obtain ⟨text, rfl, hrun⟩ := htail line rfl
    rw [List.map_cons, Utf8.decode?_encode, ofLines_run hrun]

/-- The reader goes through a body and stops where the grammar does. -/
theorem exists_denote_of_ofLines {lines : List (List UInt8)} {number : Nat}
    {earlier : Array Instruction} {program : Program}
    (hread : ofLines number earlier (lines.map Utf8.decode?) = .ok program) :
    ∃ instructions, LinesDenote lines instructions ∧
      program.instructions = earlier ++ instructions := by
  induction lines generalizing number earlier with
  | nil =>
    cases hread
    exact ⟨[], Body.nil.linesDenote, by simp⟩
  | cons line lines ih =>
    rw [List.map_cons] at hread
    cases hdecode : Utf8.decode? line with
    | none =>
      rw [hdecode] at hread
      cases hread
    | some text =>
      obtain rfl := Utf8.decode?_eq_some_iff.mp hdecode
      rw [hdecode, ofLines] at hread
      cases hsaid : Line.ofText text with
      | error cause =>
        rw [hsaid] at hread
        cases hread
      | ok said =>
        rw [hsaid] at hread
        cases Line.ofText_eq_ok_iff.mp hsaid with
        | finish hrun =>
          cases hread
          exact ⟨[], .run hrun lines, by simp⟩
        | silent hsilent =>
          obtain ⟨instructions, hdenote, hprogram⟩ := ih hread
          exact ⟨instructions, hdenote.silent hsilent, hprogram⟩
        | @instruction instruction hline =>
          obtain ⟨instructions, hdenote, hprogram⟩ := ih hread
          refine ⟨instruction :: instructions, hdenote.instruction hline, ?_⟩
          rw [hprogram, Array.appendList_cons]

/-- The reader accepts the streams of bytes that denote instructions, as what they denote. -/
theorem ofBytes_eq_ok_iff {bytes : List UInt8} {program : Program} :
    ofBytes bytes = .ok program ↔ Denotes bytes program.instructions.toList := by
  constructor
  · intro hread
    obtain ⟨instructions, hdenote, hprogram⟩ := exists_denote_of_ofLines hread
    have hlist : program.instructions.toList = instructions := by simp [hprogram]
    rw [hlist]
    exact hdenote
  · intro hdenote
    rw [ofBytes, ofLines_of_denote hdenote]
    simp

end Program

end FourReg
