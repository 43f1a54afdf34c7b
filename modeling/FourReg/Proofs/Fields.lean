import FourReg.Text.Blank
import Mathlib.Data.List.DropRight

/-!
# Words and white space

What it means to trim a line and to split it into fields, said without either. A line either is
blank or has a first character that is not, and its fields are the words that it consists of, with
white space between and around them (`Spaced`). The equation behind all of this is that a line can be
split at any blank in it: `fields_append_cons`.
-/

namespace FourReg

/-- Text of nothing but white space. -/
def Blank (text : List Char) : Prop :=
  ∀ c ∈ text, isBlank c = true

theorem blank_nil : Blank [] := by
  intro c hc
  cases hc

theorem blank_cons {c : Char} {text : List Char} (hblank : Blank (c :: text)) :
    isBlank c = true ∧ Blank text :=
  ⟨hblank c List.mem_cons_self, fun other hother => hblank other (List.mem_cons_of_mem c hother)⟩

theorem Blank.append {left right : List Char} (hleft : Blank left) (hright : Blank right) :
    Blank (left ++ right) := by
  intro c hc
  rcases List.mem_append.mp hc with hc | hc
  · exact hleft c hc
  · exact hright c hc

theorem blank_or_exists (line : List Char) :
    Blank line ∨ ∃ indent c rest, Blank indent ∧ isBlank c = false ∧ line = indent ++ c :: rest := by
  induction line with
  | nil => exact Or.inl blank_nil
  | cons first line ih =>
    cases hfirst : isBlank first with
    | false => exact Or.inr ⟨[], first, line, blank_nil, hfirst, rfl⟩
    | true =>
      have hone : Blank [first] := by simpa [Blank] using hfirst
      rcases ih with hline | ⟨indent, c, rest, hindent, hc, rfl⟩
      · exact Or.inl (hone.append hline)
      · exact Or.inr ⟨first :: indent, c, rest, hone.append hindent, hc, rfl⟩

/-! ### Trimming -/

theorem trim_of_blank {line : List Char} (hline : Blank line) : trim line = [] := by
  rw [trim, List.dropWhile_eq_nil_iff.mpr hline]
  rfl

theorem rdropWhile_cons_of_not {c : Char} (hc : isBlank c = false) (rest : List Char) :
    (c :: rest).rdropWhile isBlank = c :: rest.rdropWhile isBlank := by
  unfold List.rdropWhile
  rw [List.reverse_cons, List.dropWhile_append]
  split
  · rename_i hempty
    rw [List.isEmpty_iff.mp hempty]
    simp [hc]
  · simp

theorem rdropWhile_append_of_blank (line : List Char) {trailing : List Char}
    (htrailing : Blank trailing) :
    (line ++ trailing).rdropWhile isBlank = line.rdropWhile isBlank := by
  unfold List.rdropWhile
  rw [List.reverse_append, List.dropWhile_append_of_pos]
  intro c hc
  exact htrailing c (List.mem_reverse.mp hc)

/-- What is left of a line that is not blank begins with its first character that is not. -/
theorem trim_append_cons {indent : List Char} {c : Char} (hindent : Blank indent)
    (hc : isBlank c = false) (rest : List Char) :
    trim (indent ++ c :: rest) = c :: rest.rdropWhile isBlank := by
  have hdrop : (indent ++ c :: rest).dropWhile isBlank = c :: rest := by
    rw [List.dropWhile_append_of_pos hindent, List.dropWhile_cons_of_neg (by simp [hc])]
  rw [trim, hdrop]
  exact rdropWhile_cons_of_not hc rest

theorem exists_append_trim (line : List Char) :
    ∃ left right, Blank left ∧ Blank right ∧ line = left ++ trim line ++ right := by
  rcases blank_or_exists line with hline | ⟨indent, c, rest, hindent, hc, rfl⟩
  · refine ⟨line, [], hline, blank_nil, ?_⟩
    simp [trim_of_blank hline]
  · refine ⟨indent, rest.rtakeWhile isBlank, hindent, ?_, ?_⟩
    · intro other hother
      exact List.mem_rtakeWhile_imp hother
    · rw [trim_append_cons hindent hc]
      simp [List.rdropWhile_append_rtakeWhile]

theorem trim_eq_nil_iff {line : List Char} : trim line = [] ↔ Blank line := by
  refine ⟨fun htrim => ?_, trim_of_blank⟩
  obtain ⟨left, right, hleft, hright, hline⟩ := exists_append_trim line
  rw [hline, htrim, List.append_nil]
  exact hleft.append hright

theorem head?_trim_iff {line : List Char} {c : Char} (hc : isBlank c = false) :
    (trim line).head? = some c ↔ ∃ indent rest, Blank indent ∧ line = indent ++ c :: rest := by
  constructor
  · intro hhead
    obtain ⟨rest, hrest⟩ := List.head?_eq_some_iff.mp hhead
    obtain ⟨left, right, hleft, _, hline⟩ := exists_append_trim line
    refine ⟨left, rest ++ right, hleft, ?_⟩
    rw [hline, hrest]
    simp
  · intro ⟨indent, rest, hindent, hline⟩
    rw [hline, trim_append_cons hindent hc]
    rfl

/-! ### Fields -/

theorem fields_append_cons {c : Char} (hc : isBlank c = true) (front back : List Char) :
    fields (front ++ c :: back) = fields front ++ fields back := by
  unfold fields
  rw [List.splitOnP_append_cons front back hc, List.filter_append]

theorem fields_nil : fields [] = [] := by
  rfl

theorem fields_append_of_blank {gap : List Char} (hgap : Blank gap) (line : List Char) :
    fields (gap ++ line) = fields line := by
  induction gap with
  | nil => rfl
  | cons c gap ih =>
    obtain ⟨hc, hgap⟩ := blank_cons hgap
    have hfirst := fields_append_cons hc [] (gap ++ line)
    rw [List.nil_append, fields_nil, List.nil_append] at hfirst
    rw [List.cons_append, hfirst, ih hgap]

theorem fields_of_blank {gap : List Char} (hgap : Blank gap) : fields gap = [] := by
  have hfields := fields_append_of_blank hgap []
  rwa [List.append_nil] at hfields

theorem fields_append_blank (line : List Char) {gap : List Char} (hgap : Blank gap) :
    fields (line ++ gap) = fields line := by
  cases gap with
  | nil => rw [List.append_nil]
  | cons c gap =>
    obtain ⟨hc, hgap⟩ := blank_cons hgap
    rw [fields_append_cons hc, fields_of_blank hgap, List.append_nil]

theorem fields_trim (line : List Char) : fields (trim line) = fields line := by
  obtain ⟨left, right, hleft, hright, hline⟩ := exists_append_trim line
  conv_rhs => rw [hline]
  rw [List.append_assoc, fields_append_of_blank hleft, fields_append_blank _ hright]

/-- A word is not empty and has no white space in it. -/
def IsWord (word : List Char) : Prop :=
  word ≠ [] ∧ ∀ c ∈ word, isBlank c = false

theorem IsWord.cons {c : Char} {word : List Char} (hc : isBlank c = false) (hword : IsWord word) :
    IsWord (c :: word) :=
  ⟨List.cons_ne_nil _ _, List.forall_mem_cons.mpr ⟨hc, hword.2⟩⟩

theorem IsWord.append {word rest : List Char} (hword : IsWord word)
    (hrest : ∀ c ∈ rest, isBlank c = false) : IsWord (word ++ rest) :=
  ⟨List.append_ne_nil_of_left_ne_nil hword.1 rest, List.forall_mem_append.mpr ⟨hword.2, hrest⟩⟩

theorem IsWord.oneLine {word : List Char} (hword : IsWord word) : '\n' ∉ word := by
  intro hline
  cases hword.2 '\n' hline

/-- A line trims to a word when it is that word but for white space at its ends. -/
theorem trim_eq_word_iff {line word : List Char} (hword : IsWord word) :
    trim line = word ↔ ∃ left right, Blank left ∧ Blank right ∧ line = left ++ word ++ right := by
  constructor
  · intro htrim
    rw [← htrim]
    exact exists_append_trim line
  · intro ⟨left, right, hleft, hright, hline⟩
    obtain ⟨hne, hchars⟩ := hword
    cases word with
    | nil => exact absurd rfl hne
    | cons c word =>
      have hc := hchars c List.mem_cons_self
      have hlast : (c :: word).rdropWhile isBlank = c :: word := by
        rw [List.rdropWhile_eq_self_iff]
        intro hcons
        simp [hchars _ (List.getLast_mem hcons)]
      rw [hline, List.append_assoc, List.cons_append, trim_append_cons hleft hc,
        rdropWhile_append_of_blank word hright, ← rdropWhile_cons_of_not hc, hlast]

theorem fields_of_isWord {word : List Char} (hword : IsWord word) : fields word = [word] := by
  obtain ⟨hne, hchars⟩ := hword
  rw [fields, List.splitOnP_eq_singleton hchars]
  simp [hne]

/-- Words in a row, with one blank between two, are the fields of that line. -/
theorem fields_intercalate {words : List (List Char)} (hwords : ∀ word ∈ words, IsWord word) :
    fields ([' '].intercalate words) = words := by
  induction words with
  | nil => rfl
  | cons word words ih =>
    obtain ⟨hword, hrest⟩ := List.forall_mem_cons.mp hwords
    cases words with
    | nil => rw [List.intercalate_singleton, fields_of_isWord hword]
    | cons next words =>
      rw [List.intercalate_cons_cons, List.append_assoc, List.singleton_append,
        fields_append_cons (by rfl), fields_of_isWord hword, ih hrest]
      rfl

theorem oneLine_intercalate {words : List (List Char)} (hwords : ∀ word ∈ words, IsWord word) :
    '\n' ∉ [' '].intercalate words := by
  induction words with
  | nil => simp [List.intercalate]
  | cons word words ih =>
    obtain ⟨hword, hrest⟩ := List.forall_mem_cons.mp hwords
    cases words with
    | nil =>
      rw [List.intercalate_singleton]
      exact hword.oneLine
    | cons next words =>
      rw [List.intercalate_cons_cons]
      simp [hword.oneLine, ih hrest]

/-- No word has a blank in it, so words with one blank between two can be told apart at the blanks. -/
theorem splitOn_intercalate_words {words : List (List Char)}
    (hwords : ∀ word ∈ words, IsWord word) (hne : words ≠ []) :
    ([' '].intercalate words).splitOn ' ' = words := by
  have hblank : ∀ word ∈ words, ' ' ∉ word := by
    intro word hword hmem
    cases (hwords word hword).2 ' ' hmem
  exact List.splitOn_intercalate ' ' hblank hne

/-- A line that consists of the given words, with white space in front of each, after the last, and
between two of them at least one. -/
inductive Spaced : List (List Char) → List Char → Prop
  | blank {gap : List Char} (hgap : Blank gap) : Spaced [] gap
  | word {gap word rest : List Char} {words : List (List Char)} (hgap : Blank gap)
      (hword : IsWord word) (hrest : ∀ c ∈ rest.head?, isBlank c = true)
      (hspaced : Spaced words rest) : Spaced (word :: words) (gap ++ word ++ rest)

theorem fields_of_spaced {words : List (List Char)} {line : List Char}
    (hspaced : Spaced words line) : fields line = words := by
  induction hspaced with
  | blank hgap => exact fields_of_blank hgap
  | @word gap word rest words hgap hword hrest _ ih =>
    rw [List.append_assoc, fields_append_of_blank hgap]
    cases rest with
    | nil => rw [List.append_nil, fields_of_isWord hword, ← ih, fields_nil]
    | cons c rest =>
      have hc : isBlank c = true := hrest c rfl
      have hone : Blank [c] := by simpa [Blank] using hc
      rw [fields_append_cons hc, fields_of_isWord hword, ← ih, ← fields_append_of_blank hone rest]
      rfl

/-- A line with words in it trims to a text that begins with the first of them. -/
theorem Spaced.head?_trim {word : List Char} {words : List (List Char)} {line : List Char}
    (hspaced : Spaced (word :: words) line) : (trim line).head? = word.head? := by
  cases hspaced with
  | word hgap hword hrest hothers =>
    obtain ⟨hne, hchars⟩ := hword
    cases word with
    | nil => exact absurd rfl hne
    | cons c word =>
      rw [List.append_assoc, List.cons_append,
        trim_append_cons hgap (hchars c List.mem_cons_self)]
      rfl

theorem Spaced.cons_blank {words : List (List Char)} {line : List Char} {c : Char}
    (hspaced : Spaced words line) (hc : isBlank c = true) : Spaced words (c :: line) := by
  have hone : Blank [c] := by simpa [Blank] using hc
  cases hspaced with
  | blank hgap => exact .blank (hone.append hgap)
  | word hgap hword hrest hothers => exact .word (hone.append hgap) hword hrest hothers

/-- A character that is no white space begins a word of its own, or the word behind it. -/
theorem Spaced.exists_cons {words : List (List Char)} {line : List Char} {c : Char}
    (hspaced : Spaced words line) (hc : isBlank c = false) : ∃ others, Spaced others (c :: line) := by
  have hone : IsWord [c] := by simpa [IsWord] using hc
  cases hspaced with
  | blank hgap =>
    have hhead : ∀ other ∈ line.head?, isBlank other = true :=
      fun other hother => hgap other (List.mem_of_head? hother)
    exact ⟨_, .word blank_nil hone hhead (.blank hgap)⟩
  | @word gap word rest others hgap hword hrest hothers =>
    cases gap with
    | nil =>
      exact ⟨_, .word blank_nil (hword.cons hc) hrest hothers⟩
    | cons first gap =>
      have hhead : ∀ other ∈ (first :: gap ++ word ++ rest).head?, isBlank other = true := by
        intro other hother
        cases hother
        exact hgap first List.mem_cons_self
      exact ⟨_, .word blank_nil hone hhead (.word hgap hword hrest hothers)⟩

theorem exists_spaced (line : List Char) : ∃ words, Spaced words line := by
  induction line with
  | nil => exact ⟨[], .blank blank_nil⟩
  | cons c line ih =>
    obtain ⟨words, hspaced⟩ := ih
    cases hc : isBlank c with
    | true => exact ⟨words, hspaced.cons_blank hc⟩
    | false => exact hspaced.exists_cons hc

/-- The fields of a line are the words that it consists of. -/
theorem fields_eq_iff {line : List Char} {words : List (List Char)} :
    fields line = words ↔ Spaced words line := by
  refine ⟨fun hfields => ?_, fields_of_spaced⟩
  obtain ⟨others, hothers⟩ := exists_spaced line
  rw [← hfields, fields_of_spaced hothers]
  exact hothers

end FourReg
