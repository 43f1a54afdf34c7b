import FourReg.Proofs.BadLines

/-!
# Program text in two parts

A text that is cut behind a line feed can be read in two parts. The reader either ends within the
first part, at a line that ends the program or at a bad one, and then takes no notice of what follows;
or it goes through all lines of the first part and reads the second as it would alone, with the
instructions found so far in front and the line numbers moved on (`ofLines_append_cases`,
`ofLines_behind`). Every line counts, the blank ones and the comments as well, so the numbers move on
by the line feeds of the first part.
-/

namespace FourReg

theorem length_splitOn {α : Type} [BEq α] (separator : α) (items : List α) :
    (items.splitOn separator).length = items.count separator + 1 := by
  induction items with
  | nil => rfl
  | cons first items ih =>
    rw [List.splitOn_cons_eq_if_modifyHead, List.count_cons]
    split
    · rw [List.length_cons, ih]
    · rw [List.length_modifyHead, ih, Nat.add_zero]

/-- Bytes that are empty or end at a line feed are whole lines, of which each has one line feed. -/
theorem exists_whole_lines {front : List UInt8}
    (hwhole : front = [] ∨ front.getLast? = some 0x0A) :
    ∃ lines, lines.length = front.count 0x0A ∧
      ∀ back, (front ++ back).splitOn 0x0A = lines ++ back.splitOn 0x0A := by
  rcases hwhole with rfl | hlast
  · exact ⟨[], rfl, fun back => rfl⟩
  · obtain ⟨start, rfl⟩ := List.getLast?_eq_some_iff.mp hlast
    refine ⟨start.splitOn 0x0A, ?_, fun back => ?_⟩
    · rw [length_splitOn, List.count_append, List.count_singleton_self]
    · rw [List.append_assoc, List.singleton_append]
      exact List.splitOn_append_cons_self start back

theorem endsProgram_iff {line : List UInt8} :
    EndsProgram line ↔ (Utf8.decode? line).any fun text => trim text = ['r', 'u', 'n'] := by
  simp only [EndsProgram, Option.any_eq_true, decide_eq_true_eq, trim_eq_run_iff,
    Utf8.decode?_eq_some_iff]

instance : DecidablePred EndsProgram :=
  fun _ => decidable_of_iff _ endsProgram_iff.symm

theorem not_endsProgram_nil : ¬ EndsProgram [] := by
  have hblank : ¬ RunLine [] := fun hrun => hrun.not_silent (Or.inl blank_nil)
  exact fun hends => hblank (endsProgram_encode_iff.mp hends)

/-- An error behind other lines: a bad line has the number that it has among all of them. -/
def SourceError.behind (count : Nat) : SourceError → SourceError
  | unreadable cause => unreadable cause
  | malformed line cause => malformed (line + count) cause

/-- A program behind other instructions. -/
def Program.behind (earlier : Array Instruction) (program : Program) : Program :=
  ⟨earlier ++ program.instructions⟩

namespace Program

/-- What the reader makes of lines behind others: where it began shows only in the numbers of bad
lines and in the instructions in front. -/
theorem ofLines_behind (count number : Nat) (before earlier : Array Instruction)
    (lines : List (Option (List Char))) :
    ofLines (number + count) (before ++ earlier) lines =
      match ofLines number earlier lines with
      | .ok program => .ok (program.behind before)
      | .error error => .error (error.behind count) := by
  induction lines generalizing number earlier with
  | nil => rfl
  | cons line lines ih =>
    cases line with
    | none => rfl
    | some text =>
      rw [ofLines, ofLines, Nat.add_right_comm]
      rcases Line.ofText text with cause | said
      · rfl
      · cases said with
        | finish => rfl
        | silent => exact ih (number + 1) earlier
        | instruction instruction =>
          show ofLines (number + 1 + count) ((before ++ earlier).push instruction) lines = _
          rw [Array.push_append]
          exact ih (number + 1) (earlier.push instruction)

/-- At a line the reader ends, whatever follows it, or goes on. It ends well only at a line that ends
the program, and it does not go on from one. -/
theorem ofLines_cons_cases (number : Nat) (earlier : Array Instruction) (line : List UInt8) :
    (∃ result, (∀ rest, ofLines number earlier (Utf8.decode? line :: rest) = result) ∧
      ∀ program, result = .ok program → EndsProgram line) ∨
    (∃ longer, (∀ rest, ofLines number earlier (Utf8.decode? line :: rest) =
        ofLines (number + 1) longer rest) ∧ ¬ EndsProgram line) := by
  rcases ends_or_passed_or_bad number line with hends | hpassed | ⟨error, hbad⟩
  · exact Or.inl ⟨_, ofLines_ends hends number earlier, fun _ _ => hends⟩
  · obtain ⟨longer, hturn⟩ := exists_ofLines_passed hpassed number earlier
    exact Or.inr ⟨longer, hturn, hpassed.not_endsProgram⟩
  · exact Or.inl ⟨_, ofLines_bad hbad earlier, by simp⟩

/-- The reader ends within some lines, whatever follows them, or goes through all of them. It ends
well only if one of them ends the program, and it goes through them only if none does. -/
theorem ofLines_append_cases (number : Nat) (earlier : Array Instruction)
    (front : List (List UInt8)) :
    (∃ result, (∀ back, ofLines number earlier ((front ++ back).map Utf8.decode?) = result) ∧
      ∀ program, result = .ok program → ∃ line ∈ front, EndsProgram line) ∨
    (∃ longer, (∀ back, ofLines number earlier ((front ++ back).map Utf8.decode?) =
        ofLines (number + front.length) longer (back.map Utf8.decode?)) ∧
      ∀ line ∈ front, ¬ EndsProgram line) := by
  induction front generalizing number earlier with
  | nil => exact Or.inr ⟨earlier, fun back => rfl, by simp⟩
  | cons line front ih =>
    rcases ofLines_cons_cases number earlier line with ⟨result, hresult, hends⟩ | ⟨next, hnext, hline⟩
    · refine Or.inl ⟨result, fun back => hresult _, fun program hprogram => ?_⟩
      exact ⟨line, List.mem_cons_self, hends program hprogram⟩
    have hturn (back : List (List UInt8)) :
        ofLines number earlier ((line :: front ++ back).map Utf8.decode?) =
          ofLines (number + 1) next ((front ++ back).map Utf8.decode?) := hnext _
    rcases ih (number + 1) next with ⟨result, hresult, hends⟩ | ⟨longer, hlonger, hfront⟩
    · refine Or.inl ⟨result, fun back => (hturn back).trans (hresult back), fun program hprogram => ?_⟩
      obtain ⟨other, hother, hrun⟩ := hends program hprogram
      exact ⟨other, List.mem_cons_of_mem line hother, hrun⟩
    · refine Or.inr ⟨longer, fun back => ?_, List.forall_mem_cons.mpr ⟨hline, hfront⟩⟩
      rw [hturn, hlonger, List.length_cons, Nat.add_assoc, Nat.add_comm 1]

/-- The two ways to read a text of which the first part are whole lines. -/
theorem ofBytes_append_cases {front : List UInt8}
    (hwhole : front = [] ∨ front.getLast? = some 0x0A) :
    ((∀ back, ofBytes (front ++ back) = ofBytes front) ∧
      ∀ program, ofBytes front = .ok program → ∃ line ∈ front.splitOn 0x0A, EndsProgram line) ∨
    (∃ program, ofBytes front = .ok program ∧ (∀ line ∈ front.splitOn 0x0A, ¬ EndsProgram line) ∧
      ∀ back, ofBytes (front ++ back) =
        match ofBytes back with
        | .ok rest => .ok (rest.behind program.instructions)
        | .error error => .error (error.behind (front.count 0x0A))) := by
  obtain ⟨lines, hlength, hlines⟩ := exists_whole_lines hwhole
  have hjoined (back : List UInt8) : ofBytes (front ++ back) =
      ofLines 1 #[] ((lines ++ back.splitOn 0x0A).map Utf8.decode?) := by
    rw [ofBytes, hlines]
  have halone : ofBytes front = ofLines 1 #[] ((lines ++ [[]]).map Utf8.decode?) := by
    simpa using hjoined []
  have hmem (line : List UInt8) : line ∈ front.splitOn 0x0A ↔ line ∈ lines ∨ line = [] := by
    have hfront : front.splitOn 0x0A = lines ++ [[]] := by simpa using hlines []
    simp [hfront]
  rcases ofLines_append_cases 1 #[] lines with ⟨result, hresult, hends⟩ | ⟨longer, hlonger, hnone⟩
  · rw [hresult] at halone
    refine Or.inl ⟨fun back => by rw [hjoined, hresult, halone], fun program hprogram => ?_⟩
    obtain ⟨line, hline, hrun⟩ := hends program (halone.symm.trans hprogram)
    exact ⟨line, (hmem line).mpr (Or.inl hline), hrun⟩
  · rw [hlonger] at halone
    refine Or.inr ⟨⟨longer⟩, halone, fun line hline => ?_, fun back => ?_⟩
    · rcases (hmem line).mp hline with hline | rfl
      · exact hnone line hline
      · exact not_endsProgram_nil
    · have hread := ofLines_behind (front.count 0x0A) 1 longer #[]
        ((back.splitOn 0x0A).map Utf8.decode?)
      rw [Array.append_empty] at hread
      rw [hjoined, hlonger, hlength, hread]
      rfl

/-- Text behind whole lines is not read when the reader ends within these lines, with an error or
where the program ends. Else it is read as it would be alone, and what it denotes is added to the
instructions in front; an error in it is the same but for the number of its line, which moves on by
the line feeds in front. -/
theorem ofBytes_append {front : List UInt8} (hwhole : front = [] ∨ front.getLast? = some 0x0A)
    (back : List UInt8) :
    (∀ error, ofBytes front = .error error → ofBytes (front ++ back) = .error error) ∧
    ∀ program, ofBytes front = .ok program →
      ((∃ line ∈ front.splitOn 0x0A, EndsProgram line) → ofBytes (front ++ back) = .ok program) ∧
      ((∀ line ∈ front.splitOn 0x0A, ¬ EndsProgram line) →
        (∀ rest, ofBytes back = .ok rest →
          ofBytes (front ++ back) = .ok ⟨program.instructions ++ rest.instructions⟩) ∧
        (∀ cause, ofBytes back = .error (.unreadable cause) →
          ofBytes (front ++ back) = .error (.unreadable cause)) ∧
        ∀ line cause, ofBytes back = .error (.malformed line cause) →
          ofBytes (front ++ back) = .error (.malformed (line + front.count 0x0A) cause)) := by
  rcases ofBytes_append_cases hwhole with ⟨hsame, hends⟩ | ⟨found, hfront, hnone, hbehind⟩
  · rw [hsame]
    refine ⟨fun error herror => herror, fun program hprogram => ⟨fun _ => hprogram, fun hnot => ?_⟩⟩
    obtain ⟨line, hline, hrun⟩ := hends program hprogram
    exact absurd hrun (hnot line hline)
  · rw [hfront, hbehind]
    refine ⟨nofun, fun program hprogram => ?_⟩
    obtain rfl := Except.ok.inj hprogram
    refine ⟨fun ⟨line, hline, hrun⟩ => absurd hrun (hnone line hline), fun _ => ⟨?_, ?_, ?_⟩⟩
    · intro rest hback
      rw [hback]
      rfl
    · intro cause hback
      rw [hback]
      rfl
    · intro line cause hback
      rw [hback]
      rfl

/-- A comment and an instruction in front of a bad line, which is the third of all. -/
theorem ofBytes_append_badLine :
    let front := Utf8.encode "; a counter\naddi 1 1 1\n".toList
    let back := Utf8.encode "eqri 1 x 2\nrun\n".toList
    ofBytes back = .error (.malformed 1 (.invalidField .b ['x'])) ∧
      ofBytes (front ++ back) = .error (.malformed 3 (.invalidField .b ['x'])) := by
  intro front back
  have hfront : ofBytes front = .ok ⟨#[⟨1, 1, 1, 1⟩]⟩ := by decide +kernel
  have hback : ofBytes back = .error (.malformed 1 (.invalidField .b ['x'])) := by decide +kernel
  have hnone : ∀ line ∈ front.splitOn 0x0A, ¬ EndsProgram line := by decide +kernel
  have hlast : front.getLast? = some 0x0A := by decide +kernel
  obtain ⟨_, hread⟩ := ofBytes_append (Or.inr hlast) back
  obtain ⟨_, _, hmalformed⟩ := (hread _ hfront).2 hnone
  have hcount : front.count 0x0A = 2 := by decide +kernel
  refine ⟨hback, ?_⟩
  simpa only [hcount] using hmalformed 1 _ hback

end Program

end FourReg
