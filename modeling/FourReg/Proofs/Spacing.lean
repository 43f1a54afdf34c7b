import FourReg.Proofs.Grammar

/-!
# White space in program text

The reader takes no more from a line than its fields. It looks at a line in two ways, trimmed and cut
into fields, and the trimmed line is asked for nothing that the fields do not tell: whether it is `run`,
and what its first character is, if it has one (`head?_trim_eq`). So lines with the same fields say the
same (`Line.ofText_congr`), and texts with the same fields on every line are read alike, with the same
numbers for their lines (`ofLines_congr`). Beyond its last line a text counts as one of blank lines.
-/

namespace FourReg

/-! ### Lines with the same fields -/

theorem head?_trim_eq (line : List Char) :
    (trim line).head? = (fields line).head?.bind List.head? := by
  obtain ⟨words, hspaced⟩ := exists_spaced line
  rw [fields_of_spaced hspaced]
  cases words with
  | nil =>
    cases hspaced with
    | blank hgap => rw [trim_of_blank hgap]; rfl
  | cons word words => exact hspaced.head?_trim

theorem silent_iff_head? {line : List Char} :
    Blank line ∨ Comment line ↔ (trim line).head? = none ∨ (trim line).head? = some ';' := by
  rw [List.head?_eq_none_iff, trim_eq_nil_iff, head?_trim_iff (by rfl)]
  rfl

theorem runLine_iff_fields {line : List Char} : RunLine line ↔ fields line = [['r', 'u', 'n']] := by
  constructor
  · intro hrun
    rw [← fields_trim, trim_eq_run_iff.mpr hrun, fields_of_isWord isWord_run]
  · intro hfields
    cases fields_eq_iff.mp hfields with
    | @word left _ right _ hleft _ _ hothers =>
      cases hothers with
      | blank hright => exact ⟨left, right, hleft, hright, rfl⟩

section Congr

variable {left right : List Char}

theorem runLine_congr (hfields : fields left = fields right) : RunLine left ↔ RunLine right := by
  rw [runLine_iff_fields, runLine_iff_fields, hfields]

theorem silent_congr (hfields : fields left = fields right) :
    Blank left ∨ Comment left ↔ Blank right ∨ Comment right := by
  rw [silent_iff_head?, silent_iff_head?, head?_trim_eq, head?_trim_eq, hfields]

theorem Instruction.ofLine_congr (hfields : fields left = fields right) :
    ofLine left = ofLine right := by
  unfold ofLine
  rw [hfields]

theorem Line.ofText_congr (hfields : fields left = fields right) : ofText left = ofText right := by
  by_cases hrun : RunLine left
  · rw [ofText_of_runLine hrun, ofText_of_runLine ((runLine_congr hfields).mp hrun)]
  by_cases hsilent : Blank left ∨ Comment left
  · rw [ofText_of_silent hsilent, ofText_of_silent ((silent_congr hfields).mp hsilent)]
  rw [ofText_of_other hrun hsilent, Instruction.ofLine_congr hfields,
    ofText_of_other (mt (runLine_congr hfields).mpr hrun) (mt (silent_congr hfields).mpr hsilent)]

end Congr

theorem fields_eq_nil_iff {line : List Char} : fields line = [] ↔ Blank line := by
  refine ⟨fun hfields => ?_, fields_of_blank⟩
  cases fields_eq_iff.mp hfields with
  | blank hgap => exact hgap

/-! ### Lists of lines -/

/-- The same fields on every line; behind the last line of either there are none. -/
def SameFields (left right : List (List Char)) : Prop :=
  ∀ i, fields (left.getD i []) = fields (right.getD i [])

namespace SameFields

variable {line other : List Char} {left right lines : List (List Char)}

theorem iff_head_tail : SameFields left right ↔
    fields (left.headD []) = fields (right.headD []) ∧ SameFields left.tail right.tail := by
  have hhead (lines : List (List Char)) : lines.getD 0 [] = lines.headD [] := by
    cases lines <;> rfl
  have htail (lines : List (List Char)) (i : Nat) : lines.getD (i + 1) [] = lines.tail.getD i [] := by
    cases lines <;> rfl
  constructor
  · intro hsame
    refine ⟨?_, fun i => ?_⟩
    · rw [← hhead, ← hhead, hsame]
    · rw [← htail, ← htail, hsame]
  · intro ⟨hline, hsame⟩ i
    cases i with
    | zero => rw [hhead, hhead, hline]
    | succ i => rw [htail, htail, hsame]

theorem cons_iff : SameFields (line :: left) (other :: right) ↔
    fields line = fields other ∧ SameFields left right :=
  iff_head_tail

theorem nil_cons_iff : SameFields [] (line :: lines) ↔ Blank line ∧ SameFields [] lines := by
  rw [iff_head_tail, ← fields_eq_nil_iff, eq_comm]
  rfl

theorem symm (hsame : SameFields left right) : SameFields right left :=
  fun i => (hsame i).symm

theorem trans (hleft : SameFields left lines) (hright : SameFields lines right) :
    SameFields left right :=
  fun i => (hleft i).trans (hright i)

theorem of_forall₂ (hlines : List.Forall₂ (fun line other => fields line = fields other) left right) :
    SameFields left right := by
  induction hlines with
  | nil => exact fun i => rfl
  | cons hline _ ih => exact cons_iff.mpr ⟨hline, ih⟩

theorem append_blank (lines : List (List Char)) : SameFields lines (lines ++ [[]]) := by
  induction lines with
  | nil => exact nil_cons_iff.mpr ⟨blank_nil, fun i => rfl⟩
  | cons line lines ih => exact cons_iff.mpr ⟨rfl, ih⟩

end SameFields

namespace Program

theorem ofLines_of_blank {lines : List (List Char)} (hblank : SameFields [] lines) (number : Nat)
    (earlier : Array Instruction) : ofLines number earlier (lines.map some) = .ok ⟨earlier⟩ := by
  induction lines generalizing number with
  | nil => rfl
  | cons line lines ih =>
    obtain ⟨hline, hlines⟩ := SameFields.nil_cons_iff.mp hblank
    rw [List.map_cons, ofLines_silent (Or.inl hline), ih hlines]

theorem ofLines_congr {left right : List (List Char)} (hsame : SameFields left right) (number : Nat)
    (earlier : Array Instruction) :
    ofLines number earlier (left.map some) = ofLines number earlier (right.map some) := by
  induction left generalizing right number earlier with
  | nil => exact (ofLines_of_blank hsame number earlier).symm
  | cons line left ih =>
    cases right with
    | nil => exact ofLines_of_blank hsame.symm number earlier
    | cons other right =>
      obtain ⟨hline, hlines⟩ := SameFields.cons_iff.mp hsame
      rw [List.map_cons, List.map_cons, ofLines, ofLines, Line.ofText_congr hline]
      cases Line.ofText other with
      | error cause => rfl
      | ok said =>
        cases said with
        | finish => rfl
        | silent => exact ih hlines (number + 1) earlier
        | instruction instruction => exact ih hlines (number + 1) (earlier.push instruction)

/-- The bytes of a text are read line by line of the text. -/
theorem ofBytes_encode (text : List Char) :
    ofBytes (Utf8.encode text) = ofLines 1 #[] ((text.splitOn '\n').map some) := by
  rw [ofBytes, Utf8.map_decode?_splitOn_encode]

theorem ofBytes_congr {left right : List Char}
    (hsame : SameFields (left.splitOn '\n') (right.splitOn '\n')) :
    ofBytes (Utf8.encode left) = ofBytes (Utf8.encode right) := by
  rw [ofBytes_encode, ofBytes_encode, ofLines_congr hsame]

end Program

/-! ### Changes of white space -/

/-- The text with every line feed behind a carriage return. -/
def withCarriageReturns (text : List Char) : List Char :=
  text.flatMap fun c => if c = '\n' then ['\r', '\n'] else [c]

/-- The other line is this one with more white space at its end. -/
def Trailed (line other : List Char) : Prop :=
  ∃ gap, Blank gap ∧ other = line ++ gap

/-- The other text is this one with more white space at the ends of its lines. -/
def TrailedLines (text other : List Char) : Prop :=
  List.Forall₂ Trailed (text.splitOn '\n') (other.splitOn '\n')

theorem Trailed.refl (line : List Char) : Trailed line line :=
  ⟨[], blank_nil, (List.append_nil line).symm⟩

theorem Trailed.fields_eq {line other : List Char} (htrailed : Trailed line other) :
    fields line = fields other := by
  obtain ⟨gap, hgap, rfl⟩ := htrailed
  exact (fields_append_blank line hgap).symm

theorem trailed_singleton {c : Char} (hc : isBlank c = true) : Trailed [] [c] :=
  ⟨[c], by simpa [Blank] using hc, rfl⟩

namespace TrailedLines

variable {text other : List Char}

theorem sameFields (htrailed : TrailedLines text other) :
    SameFields (text.splitOn '\n') (other.splitOn '\n') :=
  .of_forall₂ (htrailed.imp fun _ _ hline => hline.fields_eq)

/-- A character in front of a text ends a line or is in front of the first one. -/
theorem cons (c : Char) (htrailed : TrailedLines text other) :
    TrailedLines (c :: text) (c :: other) := by
  unfold TrailedLines at htrailed ⊢
  rw [List.splitOn_cons_eq_if_modifyHead, List.splitOn_cons_eq_if_modifyHead]
  generalize text.splitOn '\n' = lines at htrailed ⊢
  generalize other.splitOn '\n' = others at htrailed ⊢
  split
  · exact .cons (.refl []) htrailed
  · cases htrailed with
    | nil => exact .nil
    | cons hline hlines =>
      obtain ⟨gap, hgap, rfl⟩ := hline
      exact .cons ⟨gap, hgap, rfl⟩ hlines

end TrailedLines

theorem trailedLines_withCarriageReturns (text : List Char) :
    TrailedLines text (withCarriageReturns text) := by
  induction text with
  | nil => exact List.Forall₂.cons (.refl []) .nil
  | cons c text ih =>
    rw [withCarriageReturns, List.flatMap_cons]
    by_cases hc : c = '\n'
    · rw [if_pos hc, hc]
      exact List.Forall₂.cons (trailed_singleton rfl) ih
    · rw [if_neg hc]
      exact ih.cons c

theorem trailedLines_append_singleton (text : List Char) {c : Char} (hc : isBlank c = true)
    (hline : c ≠ '\n') : TrailedLines text (text ++ [c]) := by
  induction text with
  | nil =>
    have hlines : [c].splitOn '\n' = [[c]] := by simp [List.splitOn_cons_eq_if_modifyHead, hline]
    unfold TrailedLines
    rw [List.nil_append, hlines]
    exact .cons (trailed_singleton hc) .nil
  | cons first text ih => exact ih.cons first

theorem sameFields_append_blank (text : List Char) {gap : List Char} (hgap : Blank gap) :
    SameFields (text.splitOn '\n') ((text ++ gap).splitOn '\n') := by
  induction gap generalizing text with
  | nil =>
    rw [List.append_nil]
    exact fun i => rfl
  | cons c gap ih =>
    obtain ⟨hc, hrest⟩ := blank_cons hgap
    have hone : SameFields (text.splitOn '\n') ((text ++ [c]).splitOn '\n') := by
      by_cases hline : c = '\n'
      · rw [hline, List.splitOn_append_cons_self]
        exact .append_blank _
      · exact (trailedLines_append_singleton text hc hline).sameFields
    have hothers := ih (text ++ [c]) hrest
    rw [List.append_assoc, List.singleton_append] at hothers
    exact hone.trans hothers

/-- Two lines of the same words, with any white space but line feeds around and between them. -/
structure Respaced (line other : List Char) : Prop where
  oneLine : '\n' ∉ line
  oneLine_other : '\n' ∉ other
  sameWords : ∃ words, Spaced words line ∧ Spaced words other

theorem Respaced.fields_eq {line other : List Char} (hline : Respaced line other) :
    fields line = fields other := by
  obtain ⟨words, hspaced, hother⟩ := hline.sameWords
  rw [fields_of_spaced hspaced, fields_of_spaced hother]

theorem oneLine_of_respaced {lines others : List (List Char)}
    (hlines : List.Forall₂ Respaced lines others) :
    (∀ line ∈ lines, '\n' ∉ line) ∧ ∀ line ∈ others, '\n' ∉ line := by
  induction hlines with
  | nil => simp
  | cons hline _ ih =>
    exact ⟨List.forall_mem_cons.mpr ⟨hline.oneLine, ih.1⟩,
      List.forall_mem_cons.mpr ⟨hline.oneLine_other, ih.2⟩⟩

theorem sameFields_of_respaced {lines others : List (List Char)}
    (hlines : List.Forall₂ Respaced lines others) :
    SameFields ((['\n'].intercalate lines).splitOn '\n')
      ((['\n'].intercalate others).splitOn '\n') := by
  obtain ⟨hleft, hright⟩ := oneLine_of_respaced hlines
  have hsame := SameFields.of_forall₂ (hlines.imp fun _ _ hline => hline.fields_eq)
  cases hlines with
  | nil => exact fun i => rfl
  | cons =>
    rwa [List.splitOn_intercalate _ hleft (List.cons_ne_nil _ _),
      List.splitOn_intercalate _ hright (List.cons_ne_nil _ _)]

namespace Program

/-- Texts with the same fields on every line are read alike: as the same program, or with the same error
on the line of the same number. Behind the last line of the shorter text the other may have lines without
fields. So nothing depends on carriage returns in front of the line feeds, on white space at the end of the
text, or on how the words of each line are spaced. -/
theorem ofBytes_sees_fields (left right : List Char) :
    (SameFields (left.splitOn '\n') (right.splitOn '\n') →
      ofBytes (Utf8.encode left) = ofBytes (Utf8.encode right)) ∧
    ofBytes (Utf8.encode (withCarriageReturns left)) = ofBytes (Utf8.encode left) ∧
    (∀ gap, Blank gap → ofBytes (Utf8.encode (left ++ gap)) = ofBytes (Utf8.encode left)) ∧
    ∀ lines others, List.Forall₂ Respaced lines others →
      ofBytes (Utf8.encode (['\n'].intercalate lines)) =
        ofBytes (Utf8.encode (['\n'].intercalate others)) := by
  refine ⟨ofBytes_congr, ?_, fun gap hgap => ?_, fun lines others hlines => ?_⟩
  · exact ofBytes_congr (trailedLines_withCarriageReturns left).sameFields.symm
  · exact ofBytes_congr (sameFields_append_blank left hgap).symm
  · exact ofBytes_congr (sameFields_of_respaced hlines)

/-- An instruction, a comment and a bad line, and the same indented and spaced in another way, with
carriage returns and a line without fields behind them. -/
theorem ofBytes_sees_fields_badLine :
    let left := "addi 1 2 3\n; x\n9 0 q".toList
    let right := "\taddi  1\u00A02 3\r\n   ;\tx\r\n9 0\u2003q \r\n\r\n".toList
    ofBytes (Utf8.encode left) = .error (.malformed 3 (.fieldCount 3)) ∧
      ofBytes (Utf8.encode left) = ofBytes (Utf8.encode right) := by
  intro left right
  refine ⟨by decide +kernel, (ofBytes_sees_fields left right).1 ?_⟩
  have hleft : left.splitOn '\n' = ["addi 1 2 3".toList, "; x".toList, "9 0 q".toList] := by
    decide +kernel
  have hright : right.splitOn '\n' = ["\taddi  1\u00A02 3\r".toList, "   ;\tx\r".toList,
    "9 0\u2003q \r".toList, "\r".toList, []] := by decide +kernel
  rw [hleft, hright]
  simp only [SameFields.cons_iff, SameFields.nil_cons_iff]
  refine ⟨by decide +kernel, by decide +kernel, by decide +kernel, ?_, blank_nil, fun i => rfl⟩
  exact fields_eq_nil_iff.mp (by decide +kernel)

end Program

end FourReg
