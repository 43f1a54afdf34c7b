import FourReg.Proofs.BadFields
import FourReg.Proofs.Spacing

/-!
# Text by its numbered lines

The reader decodes bytes, counts lines and collects instructions in one loop. A text in memory is read
in stages instead, none of which sees a byte: its lines are numbered from one, those from the first line
`run` on are left out, then the silent ones, and each of the others is read on its own. That the stages
agree with the loop is one induction over the lines (`Program.ofLines_eq`). No stage can fail for want of
text, because the pieces between the line feeds of an encoded text are the encodings of its lines.
-/

namespace FourReg

instance : DecidablePred Blank :=
  fun _ => decidable_of_iff _ trim_eq_nil_iff

instance : DecidablePred Comment :=
  fun _ => decidable_of_iff _ (head?_trim_iff (c := ';') (by rfl))

instance : DecidablePred RunLine :=
  fun _ => decidable_of_iff _ trim_eq_run_iff

/-! ### The stages -/

/-- The lines in front of the first that ends the program, or all of them, each with its number. -/
def numberedBody (number : Nat) (lines : List (List Char)) : List (List Char × Nat) :=
  (lines.zipIdx number).takeWhile fun entry => ¬ RunLine entry.1

/-- The instruction on a numbered line, or what is wrong with it. -/
def Instruction.ofNumbered (entry : List Char × Nat) : Except SourceError Instruction :=
  (ofLine entry.1).mapError (SourceError.malformed entry.2)

/-- The instructions on numbered lines, of which the silent ones hold none. -/
def instructionsOf (entries : List (List Char × Nat)) : Except SourceError (List Instruction) :=
  (entries.filter fun entry => ¬ (Blank entry.1 ∨ Comment entry.1)).mapM Instruction.ofNumbered

section Turns

variable {line : List Char} (number : Nat)

theorem numberedBody_of_runLine (hrun : RunLine line) (lines : List (List Char)) :
    numberedBody number (line :: lines) = [] := by
  rw [numberedBody, List.zipIdx_cons, List.takeWhile_cons_of_neg (by simpa using hrun)]

theorem numberedBody_of_not_runLine (hrun : ¬ RunLine line) (lines : List (List Char)) :
    numberedBody number (line :: lines) = (line, number) :: numberedBody (number + 1) lines := by
  rw [numberedBody, List.zipIdx_cons, List.takeWhile_cons_of_pos (by simpa using hrun)]
  rfl

theorem instructionsOf_of_silent (hsilent : Blank line ∨ Comment line)
    (entries : List (List Char × Nat)) :
    instructionsOf ((line, number) :: entries) = instructionsOf entries := by
  rw [instructionsOf, List.filter_cons_of_neg (by simpa [or_iff_not_imp_left] using hsilent)]
  rfl

theorem instructionsOf_of_not_silent (hsilent : ¬ (Blank line ∨ Comment line))
    (entries : List (List Char × Nat)) :
    instructionsOf ((line, number) :: entries) = do
      let instruction ← Instruction.ofNumbered (line, number)
      let instructions ← instructionsOf entries
      return instruction :: instructions := by
  rw [instructionsOf, List.filter_cons_of_pos (by simpa using hsilent), List.mapM_cons]
  rfl

end Turns

/-- A row of lines is refused only for one of its lines, under the number of this one. -/
theorem exists_malformed_of_instructionsOf {entries : List (List Char × Nat)} {error : SourceError}
    (herror : instructionsOf entries = .error error) :
    ∃ number cause, error = .malformed number cause := by
  obtain ⟨_, ⟨line, number⟩, _, _, _, hline⟩ := mapM_eq_error_iff.mp herror
  obtain ⟨cause, _, rfl⟩ := Instruction.mapError_eq_error_iff.mp hline
  exact ⟨number, cause, rfl⟩

namespace Program

/-- The loop and the stages come to the same, whatever lines and instructions were in front. -/
theorem ofLines_eq (lines : List (List Char)) (number : Nat) (earlier : Array Instruction) :
    ofLines number earlier (lines.map some) =
      (instructionsOf (numberedBody number lines)).map fun instructions => ⟨earlier ++ instructions⟩ := by
  induction lines generalizing number earlier with
  | nil => simp [ofLines, numberedBody, instructionsOf, Except.map, pure, Except.pure]
  | cons line lines ih =>
    rw [List.map_cons]
    by_cases hrun : RunLine line
    · rw [ofLines_run hrun, numberedBody_of_runLine number hrun]
      simp [instructionsOf, Except.map, pure, Except.pure]
    rw [numberedBody_of_not_runLine number hrun]
    by_cases hsilent : Blank line ∨ Comment line
    · rw [ofLines_silent hsilent, instructionsOf_of_silent number hsilent, ih]
    · rw [ofLines, Line.ofText_of_other hrun hsilent, instructionsOf_of_not_silent number hsilent,
        Instruction.ofNumbered]
      cases Instruction.ofLine line with
      | error cause => rfl
      | ok instruction =>
        refine (ih (number + 1) (earlier.push instruction)).trans ?_
        cases instructionsOf (numberedBody (number + 1) lines) with
        | error error => rfl
        | ok instructions => exact congrArg (fun read => Except.ok (mk read)) Array.appendList_cons.symm

end Program

/-- The bytes that the reader is given for a text are those of its encoding. -/
theorem Utf8.encode_toList (text : String) : encode text.toList = text.toUTF8.data.toList := by
  have harray : (encode text.toList).toByteArray = text.toUTF8 := by
    rw [toByteArray_encode, String.utf8Encode_toList, String.toUTF8]
  rw [← harray, List.data_toByteArray]

namespace Program

theorem ofText_eq (text : String) :
    ofText text = (instructionsOf (numberedBody 1 (text.toList.splitOn '\n'))).map
      fun instructions => ⟨instructions.toArray⟩ := by
  rw [ofText, ofBytes_encode, ofLines_eq]
  simp only [List.toArray_appendList, List.nil_append]

/-- A text is never refused as no text. It is read by its lines, which are cut at the line feeds and
numbered from one: up to the first that ends the program, and without the silent ones, each is an
instruction of the program, or the first that is none is reported with its number. The pieces that
the line feeds of the encoded text leave are text themselves, and decode to these lines. -/
theorem ofText_reads_numbered_lines (text : String) :
    (∀ cause, ofText text ≠ .error (.unreadable cause)) ∧
    ofText text = (instructionsOf (numberedBody 1 (text.toList.splitOn '\n'))).map
      (fun instructions => ⟨instructions.toArray⟩) ∧
    (text.toUTF8.data.toList.splitOn 0x0A).map Utf8.decode? =
      (text.toList.splitOn '\n').map some := by
  refine ⟨fun cause hread => ?_, ofText_eq text, ?_⟩
  · rw [ofText_eq] at hread
    cases hlines : instructionsOf (numberedBody 1 (text.toList.splitOn '\n')) with
    | error error =>
      obtain ⟨number, other, rfl⟩ := exists_malformed_of_instructionsOf hlines
      rw [hlines] at hread
      cases hread
    | ok instructions =>
      rw [hlines] at hread
      cases hread
  · rw [← Utf8.encode_toList, Utf8.map_decode?_splitOn_encode]

example : ofText "; \u00e9\n\u3000addi 0 1 1\u2003\nadd\u0301 0 0 0\nrun" =
    .error (.malformed 3 (.invalidField .opcode "add\u0301".toList)) := by
  decide +kernel

end Program

end FourReg
