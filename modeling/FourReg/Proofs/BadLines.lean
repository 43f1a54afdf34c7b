import FourReg.Proofs.Grammar

/-!
# The first bad line

Of a stream that is no program the first bad line is reported. A line is passed if it is text and says
nothing or is an instruction; the reader goes on from such a line, whatever it has read so far. At a line
that ends the program it stops without an error. Any other line is bad: it is no text, or it is text
that should be an instruction and is none (`BadLine`). There is no fourth kind
(`ends_or_passed_or_bad`), so an error is that of a bad line behind passed ones, and its number is one
more than theirs.
-/

namespace FourReg

/-- A line that a program goes on from: text that does not end it, and is silent or an instruction. -/
def Passed (line : List UInt8) : Prop :=
  ∃ text, line = Utf8.encode text ∧ ¬ RunLine text ∧
    (Blank text ∨ Comment text ∨ ∃ instruction, InstructionLine text instruction)

/-- The line of this number, counted from one, if all lines in front of it are passed. -/
def Reaches (bytes : List UInt8) (number : Nat) (line : List UInt8) : Prop :=
  ∃ body tail, bytes.splitOn 0x0A = body ++ line :: tail ∧ number = body.length + 1 ∧
    ∀ other ∈ body, Passed other

/-- A line that a program cannot have, with the error for it under its number. -/
inductive BadLine (number : Nat) : List UInt8 → SourceError → Prop
  | notText {line : List UInt8} (hline : ∀ text, line ≠ Utf8.encode text) :
    BadLine number line (.unreadable .notText)
  | malformed {text : List Char} {cause : LineError} (hrun : ¬ RunLine text)
      (hsilent : ¬ (Blank text ∨ Comment text))
      (hcause : Instruction.ofLine (trim text) = .error cause) :
    BadLine number (Utf8.encode text) (.malformed number cause)

theorem Passed.not_endsProgram {line : List UInt8} (hpassed : Passed line) : ¬ EndsProgram line := by
  obtain ⟨text, rfl, hrun, _⟩ := hpassed
  exact mt endsProgram_encode_iff.mp hrun

theorem ends_or_passed_or_bad (number : Nat) (line : List UInt8) :
    EndsProgram line ∨ Passed line ∨ ∃ error, BadLine number line error := by
  by_cases htext : ∃ text, line = Utf8.encode text
  · obtain ⟨text, rfl⟩ := htext
    by_cases hrun : RunLine text
    · exact Or.inl ⟨text, rfl, hrun⟩
    refine Or.inr ?_
    by_cases hsilent : Blank text ∨ Comment text
    · exact Or.inl ⟨text, rfl, hrun, hsilent.imp_right Or.inl⟩
    cases hread : Instruction.ofLine (trim text) with
    | error cause => exact Or.inr ⟨_, .malformed hrun hsilent hread⟩
    | ok instruction =>
      rw [Instruction.ofLine_trim, Instruction.ofLine_eq_ok_iff] at hread
      exact Or.inl ⟨text, rfl, hrun, Or.inr (Or.inr ⟨instruction, hread⟩)⟩
  · exact Or.inr (Or.inr ⟨_, .notText (not_exists.mp htext)⟩)

namespace Program

/-! ### One turn of the reader -/

theorem ofLines_ends {line : List UInt8} (hends : EndsProgram line) (number : Nat)
    (earlier : Array Instruction) (rest : List (Option (List Char))) :
    ofLines number earlier (Utf8.decode? line :: rest) = .ok ⟨earlier⟩ := by
  obtain ⟨text, rfl, hrun⟩ := hends
  rw [Utf8.decode?_encode, ofLines_run hrun]

theorem exists_ofLines_passed {line : List UInt8} (hpassed : Passed line) (number : Nat)
    (earlier : Array Instruction) : ∃ longer, ∀ rest,
      ofLines number earlier (Utf8.decode? line :: rest) = ofLines (number + 1) longer rest := by
  obtain ⟨text, rfl, _, hsilent⟩ := hpassed
  rw [Utf8.decode?_encode]
  rcases hsilent with hblank | hcomment | ⟨instruction, hline⟩
  · exact ⟨earlier, ofLines_silent (Or.inl hblank) number earlier⟩
  · exact ⟨earlier, ofLines_silent (Or.inr hcomment) number earlier⟩
  · exact ⟨earlier.push instruction, ofLines_instruction hline number earlier⟩

theorem ofLines_bad {number : Nat} {line : List UInt8} {error : SourceError}
    (hbad : BadLine number line error) (earlier : Array Instruction)
    (rest : List (Option (List Char))) :
    ofLines number earlier (Utf8.decode? line :: rest) = .error error := by
  cases hbad with
  | notText hline =>
    have hdecode : Utf8.decode? line = none :=
      Option.eq_none_iff_forall_ne_some.mpr fun text htext =>
        hline text (Utf8.decode?_eq_some_iff.mp htext)
    rw [hdecode, ofLines]
  | malformed hrun hsilent hcause =>
    rw [Instruction.ofLine_trim] at hcause
    rw [Utf8.decode?_encode, ofLines, Line.ofText_of_other hrun hsilent, hcause]
    rfl

/-! ### All turns -/

theorem ofLines_of_bad {body : List (List UInt8)} (hbody : ∀ other ∈ body, Passed other)
    {number : Nat} {line : List UInt8} {error : SourceError}
    (hbad : BadLine (number + body.length) line error) (earlier : Array Instruction)
    (tail : List (List UInt8)) :
    ofLines number earlier ((body ++ line :: tail).map Utf8.decode?) = .error error := by
  induction body generalizing number earlier with
  | nil => exact ofLines_bad hbad earlier _
  | cons first body ih =>
    obtain ⟨hfirst, hbody⟩ := List.forall_mem_cons.mp hbody
    obtain ⟨longer, hturn⟩ := exists_ofLines_passed hfirst number earlier
    rw [List.length_cons, Nat.add_comm body.length, ← Nat.add_assoc] at hbad
    exact (hturn _).trans (ih hbody hbad longer)

theorem exists_bad_of_ofLines {lines : List (List UInt8)} {number : Nat}
    {earlier : Array Instruction} {error : SourceError}
    (hread : ofLines number earlier (lines.map Utf8.decode?) = .error error) :
    ∃ body line tail, lines = body ++ line :: tail ∧ (∀ other ∈ body, Passed other) ∧
      BadLine (number + body.length) line error := by
  induction lines generalizing number earlier with
  | nil => cases hread
  | cons line lines ih =>
    rw [List.map_cons] at hread
    rcases ends_or_passed_or_bad number line with hends | hpassed | ⟨other, hbad⟩
    · rw [ofLines_ends hends] at hread
      cases hread
    · obtain ⟨longer, hturn⟩ := exists_ofLines_passed hpassed number earlier
      obtain ⟨body, last, tail, rfl, hbody, hbad⟩ := ih ((hturn _).symm.trans hread)
      refine ⟨line :: body, last, tail, rfl, List.forall_mem_cons.mpr ⟨hpassed, hbody⟩, ?_⟩
      rwa [List.length_cons, Nat.add_comm body.length, ← Nat.add_assoc]
    · cases (ofLines_bad hbad earlier _).symm.trans hread
      exact ⟨[], line, lines, rfl, by simp, hbad⟩

/-- The errors of a stream are those of a bad line that only passed lines are in front of. -/
theorem ofBytes_eq_error_iff {bytes : List UInt8} {error : SourceError} :
    ofBytes bytes = .error error ↔
      ∃ number line, Reaches bytes number line ∧ BadLine number line error := by
  constructor
  · intro hread
    obtain ⟨body, line, tail, hlines, hbody, hbad⟩ := exists_bad_of_ofLines hread
    rw [Nat.add_comm] at hbad
    exact ⟨body.length + 1, line, ⟨body, tail, hlines, rfl, hbody⟩, hbad⟩
  · intro ⟨number, line, ⟨body, tail, hlines, hnumber, hbody⟩, hbad⟩
    rw [hnumber, Nat.add_comm] at hbad
    rw [ofBytes, hlines, ofLines_of_bad hbody hbad]

theorem ofBytes_eq_malformed_iff {bytes : List UInt8} {number : Nat} {cause : LineError} :
    ofBytes bytes = .error (.malformed number cause) ↔
      ∃ text, Reaches bytes number (Utf8.encode text) ∧ ¬ RunLine text ∧
        ¬ (Blank text ∨ Comment text) ∧ Instruction.ofLine (trim text) = .error cause := by
  rw [ofBytes_eq_error_iff]
  constructor
  · intro ⟨_, _, hreaches, hbad⟩
    cases hbad with
    | malformed hrun hsilent hcause => exact ⟨_, hreaches, hrun, hsilent, hcause⟩
  · intro ⟨text, hreaches, hrun, hsilent, hcause⟩
    exact ⟨number, _, hreaches, .malformed hrun hsilent hcause⟩

theorem ofBytes_eq_unreadable_iff {bytes : List UInt8} {cause : ReadError} :
    ofBytes bytes = .error (.unreadable cause) ↔ cause = .notText ∧
      ∃ number line, Reaches bytes number line ∧ ∀ text, line ≠ Utf8.encode text := by
  rw [ofBytes_eq_error_iff]
  constructor
  · intro ⟨number, line, hreaches, hbad⟩
    cases hbad with
    | notText hline => exact ⟨rfl, number, line, hreaches, hline⟩
  · intro ⟨hcause, number, line, hreaches, hline⟩
    rw [hcause]
    exact ⟨number, line, hreaches, .notText hline⟩

/-- A stream is reported with a number and a message exactly when all lines in front of the one of
this number are passed, and that one is text which is neither the end of the program nor silent, and no
instruction for the reason in the message. It is reported as no text exactly when, behind passed lines
only, there is a line that is none. -/
theorem ofBytes_reports_first_bad_line (bytes : List UInt8) :
    (∀ number message,
      (∃ cause, ofBytes bytes = .error (.malformed number cause) ∧ cause.message = message) ↔
        ∃ text, Reaches bytes number (Utf8.encode text) ∧ ¬ RunLine text ∧
          ¬ (Blank text ∨ Comment text) ∧
          ∃ cause, Instruction.ofLine (trim text) = .error cause ∧ cause.message = message) ∧
    ((∃ cause, ofBytes bytes = .error (.unreadable cause) ∧
        cause.message = "stream did not contain valid UTF-8") ↔
      ∃ number line, Reaches bytes number line ∧ ∀ text, line ≠ Utf8.encode text) := by
  constructor
  · intro number message
    constructor
    · intro ⟨cause, hread, hmessage⟩
      obtain ⟨text, hreaches, hrun, hsilent, hcause⟩ := ofBytes_eq_malformed_iff.mp hread
      exact ⟨text, hreaches, hrun, hsilent, cause, hcause, hmessage⟩
    · intro ⟨text, hreaches, hrun, hsilent, cause, hcause, hmessage⟩
      exact ⟨cause, ofBytes_eq_malformed_iff.mpr ⟨text, hreaches, hrun, hsilent, hcause⟩, hmessage⟩
  · constructor
    · intro ⟨cause, hread, _⟩
      exact (ofBytes_eq_unreadable_iff.mp hread).2
    · exact fun hline => ⟨.notText, ofBytes_eq_unreadable_iff.mpr ⟨rfl, hline⟩, rfl⟩

example : ofBytes (Utf8.encode "; two fields\n\n1 2\nx\n".toList ++ [0xFF]) =
    .error (.malformed 3 (.fieldCount 2)) := by
  decide +kernel

end Program

end FourReg
