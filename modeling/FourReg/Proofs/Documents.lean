import FourReg.Json.LiteralLemmas
import FourReg.Json.Reader
import FourReg.Json.Writer
import Mathlib.Data.List.Basic

/-!
# Reading what was written

A document is read back from its text in every layout of white space (`Json.read?_write`), provided
that its literals are literals (`Json.Legible`). The reader decides by one character where to go on, so
there is an equation for each kind of value, under the condition on what it begins with. A number has no
end of its own, and is read up to the first character that could not be part of one. Every value and
every step from one to the next takes a character, which is why the length of the text bounds how
often the reader turns.
-/

namespace FourReg.Json

/-! ### White space -/

/-- Text of nothing but white space between values. -/
def Space (gap : List Char) : Prop :=
  ∀ c ∈ gap, isSpace c = true

/-- A layout that puts nothing but white space between values. -/
structure Layout.Spacious (layout : Layout) : Prop where
  lineBreak : ∀ depth, Space (layout.lineBreak depth)
  afterColon : Space layout.afterColon

theorem space_nil : Space [] := by
  intro c hc
  cases hc

theorem Layout.spacious_compact : Layout.compact.Spacious :=
  ⟨fun _ => space_nil, space_nil⟩

theorem Layout.spacious_indented : Layout.indented.Spacious := by
  refine ⟨fun depth c hc => ?_, fun c hc => ?_⟩
  · rcases List.mem_cons.mp hc with rfl | hc
    · rfl
    · rw [List.eq_of_mem_replicate hc]
      rfl
  · rw [List.mem_singleton.mp hc]
    rfl

theorem skipSpace_append {gap : List Char} (hgap : Space gap) (text : List Char) :
    skipSpace (gap ++ text) = skipSpace text :=
  List.dropWhile_append_of_pos hgap

theorem skipSpace_cons {c : Char} (hc : isSpace c = false) (text : List Char) :
    skipSpace (c :: text) = c :: text :=
  List.dropWhile_cons_of_neg (by simp [hc])

theorem skipSpace_append_cons {gap : List Char} {c : Char} (hgap : Space gap)
    (hc : isSpace c = false) (text : List Char) : skipSpace (gap ++ c :: text) = c :: text := by
  rw [skipSpace_append hgap, skipSpace_cons hc]

theorem readValue?_append {gap : List Char} (hgap : Space gap) (bound : Nat) (text : List Char) :
    readValue? bound (gap ++ text) = readValue? bound text := by
  cases bound with
  | zero => rfl
  | succ bound => rw [readValue?, readValue?, skipSpace_append hgap]

theorem readItems?_append {gap : List Char} (hgap : Space gap) (bound : Nat) (text : List Char) :
    readItems? bound (gap ++ text) = readItems? bound text := by
  cases bound with
  | zero => rfl
  | succ bound => rw [readItems?, readItems?, readValue?_append hgap]

theorem readMembers?_append {gap : List Char} (hgap : Space gap) (bound : Nat) (text : List Char) :
    readMembers? bound (gap ++ text) = readMembers? bound text := by
  cases bound with
  | zero => rfl
  | succ bound => rw [readMembers?, readMembers?, skipSpace_append hgap]

/-! ### Documents whose literals are literals -/

/-- A string literal that is found in front of its closing quote, whatever follows. -/
def Closed (literal : List Char) : Prop :=
  ∀ rest, scanString? (literal ++ '"' :: rest) = some (literal, rest)

theorem closed_encodeString (text : List Char) : Closed (encodeString text) :=
  scanString?_encodeString text

/-- A document in which every literal is one of its kind. -/
inductive Legible : Json → Prop
  | null : Legible .null
  | bool (value : Bool) : Legible (.bool value)
  | number {literal : List Char} (hnumber : isNumber literal = true)
      (hchars : ∀ c ∈ literal, isNumberChar c = true) : Legible (.number literal)
  | string {literal : List Char} (hclosed : Closed literal) : Legible (.string literal)
  | array {items : List Json} (hitems : ∀ item ∈ items, Legible item) : Legible (.array items)
  | object {members : List (List Char × Json)} (hkeys : ∀ member ∈ members, Closed member.1)
      (hvalues : ∀ member ∈ members, Legible member.2) : Legible (.object members)

/-- Text that a number in front of it cannot go on into. -/
def Delimits (rest : List Char) : Prop :=
  ∀ c ∈ rest.head?, isNumberChar c = false

theorem not_isNumberChar_of_isSpace {c : Char} (hc : isSpace c = true) : isNumberChar c = false := by
  simp only [isSpace, Bool.or_eq_true, beq_iff_eq] at hc
  rcases hc with ((rfl | rfl) | rfl) | rfl <;> rfl

theorem delimits_append_cons {gap : List Char} {c : Char} (hgap : Space gap)
    (hc : isNumberChar c = false) (rest : List Char) : Delimits (gap ++ c :: rest) := by
  intro first hfirst
  cases gap with
  | nil =>
    cases hfirst
    exact hc
  | cons other gap =>
    cases hfirst
    exact not_isNumberChar_of_isSpace (hgap first List.mem_cons_self)

theorem exists_number_head {literal : List Char} (hnumber : isNumber literal = true)
    (hchars : ∀ c ∈ literal, isNumberChar c = true) :
    ∃ c rest, literal = c :: rest ∧ isNumberChar c = true := by
  cases literal with
  | nil => cases hnumber
  | cons c rest => exact ⟨c, rest, rfl, hchars c List.mem_cons_self⟩

theorem not_isSpace_of_isNumberChar {c : Char} (hc : isNumberChar c = true) : isSpace c = false := by
  rw [← Bool.not_eq_true]
  intro hspace
  rw [not_isNumberChar_of_isSpace hspace] at hc
  cases hc

/-- A value begins with a character that is no white space and does not end an array. -/
theorem Legible.exists_head {document : Json} (hlegible : Legible document) (layout : Layout)
    (depth : Nat) :
    ∃ c rest, document.write layout depth = c :: rest ∧ isSpace c = false ∧ c ≠ ']' := by
  cases hlegible with
  | null => exact ⟨'n', _, rfl, rfl, by decide⟩
  | bool value =>
    cases value with
    | true => exact ⟨'t', _, rfl, rfl, by decide⟩
    | false => exact ⟨'f', _, rfl, rfl, by decide⟩
  | number hnumber hchars =>
    obtain ⟨c, rest, hliteral, hc⟩ := exists_number_head hnumber hchars
    refine ⟨c, rest, by rw [write, hliteral], not_isSpace_of_isNumberChar hc, ?_⟩
    rintro rfl
    cases hc
  | string => exact ⟨'"', _, rfl, rfl, by decide⟩
  | @array items =>
    cases items with
    | nil => exact ⟨'[', _, rfl, rfl, by decide⟩
    | cons item items => exact ⟨'[', _, rfl, rfl, by decide⟩
  | @object members =>
    cases members with
    | nil => exact ⟨'\x7b', _, rfl, rfl, by decide⟩
    | cons member members => exact ⟨'\x7b', _, rfl, rfl, by decide⟩

/-! ### One value -/

theorem takeWhile_number {literal rest : List Char} (hchars : ∀ c ∈ literal, isNumberChar c = true)
    (hrest : Delimits rest) :
    (literal ++ rest).takeWhile isNumberChar = literal ∧
      (literal ++ rest).dropWhile isNumberChar = rest := by
  rw [List.takeWhile_append_of_pos hchars, List.dropWhile_append_of_pos hchars]
  cases rest with
  | nil => simp
  | cons c rest =>
    have hc : isNumberChar c = false := hrest c rfl
    simp [hc]

theorem readValue?_number {literal rest : List Char} (hnumber : isNumber literal = true)
    (hchars : ∀ c ∈ literal, isNumberChar c = true) (hrest : Delimits rest) (bound : Nat) :
    readValue? (bound + 1) (literal ++ rest) = some (.number literal, rest) := by
  obtain ⟨htake, hdrop⟩ := takeWhile_number hchars hrest
  obtain ⟨c, tail, hliteral, hc⟩ := exists_number_head hnumber hchars
  have hskip : skipSpace (literal ++ rest) = literal ++ rest := by
    rw [hliteral, List.cons_append, skipSpace_cons (not_isSpace_of_isNumberChar hc)]
  rw [readValue?, hskip, hliteral, List.cons_append]
  split
  case h_7 => rw [← List.cons_append, ← hliteral, htake, hdrop, if_pos hnumber]
  -- Every other kind of value begins with a character that is in no number.
  all_goals
    rename_i heq
    obtain rfl := (List.cons.inj heq).1
    cases hc

theorem readValue?_string {literal : List Char} (hclosed : Closed literal) (bound : Nat)
    (rest : List Char) :
    readValue? (bound + 1) ('"' :: (literal ++ '"' :: rest)) = some (.string literal, rest) := by
  have hquote (text : List Char) : readValue? (bound + 1) ('"' :: text) =
      (scanString? text).bind fun found => some (.string found.1, found.2) := by
    rw [readValue?, skipSpace_cons (by rfl)]
    rfl
  rw [hquote, hclosed rest]
  rfl

/-- Behind an opening bracket comes the closing one or an item. -/
theorem readValue?_bracket {c : Char} {text rest : List Char} (htext : skipSpace text = c :: rest)
    (hc : c ≠ ']') (bound : Nat) :
    readValue? (bound + 1) ('[' :: text) =
      (readItems? bound (c :: rest)).bind fun found => some (.array found.1, found.2) := by
  simp only [readValue?, skipSpace_cons (c := '[') (by rfl), htext]
  split
  · rename_i heq
    cases heq
    exact absurd rfl hc
  · rfl

theorem readValue?_brace {text rest : List Char} (htext : skipSpace text = '"' :: rest)
    (bound : Nat) :
    readValue? (bound + 1) ('\x7b' :: text) =
      (readMembers? bound ('"' :: rest)).bind fun found => some (.object found.1, found.2) := by
  simp only [readValue?, skipSpace_cons (c := '\x7b') (by rfl), htext]
  rfl

/-! ### Items and members, one after the other -/

/-- A document is read back wherever it is written, within a bound of twice its length. -/
def Reads (layout : Layout) (document : Json) : Prop :=
  ∀ depth bound rest, 2 * (document.write layout depth).length ≤ bound → Delimits rest →
    readValue? bound (document.write layout depth ++ rest) = some (document, rest)

/-- A document takes at least one character, so the reader has a turn for it. -/
theorem Legible.reads_of_succ {layout : Layout} {document : Json} (hlegible : Legible document)
    (hread : ∀ depth bound rest, 2 * (document.write layout depth).length ≤ bound + 1 →
      Delimits rest →
        readValue? (bound + 1) (document.write layout depth ++ rest) = some (document, rest)) :
    Reads layout document := by
  intro depth bound rest hbound hrest
  obtain ⟨c, tail, htext, _⟩ := hlegible.exists_head layout depth
  have hlength : 0 < (document.write layout depth).length := by simp [htext]
  obtain ⟨bound, rfl⟩ := Nat.exists_eq_add_one_of_ne_zero (n := bound) (by omega)
  exact hread depth bound rest hbound hrest

section Turn

variable {bound : Nat} {key text after rest : List Char} {value : Json}

theorem readItems?_last (hread : readValue? bound text = some (value, after))
    (hafter : skipSpace after = ']' :: rest) :
    readItems? (bound + 1) text = some ([value], rest) := by
  rw [readItems?, hread, Option.bind_eq_bind, Option.bind_some]
  dsimp only
  rw [hafter]
  rfl

theorem readItems?_more (hread : readValue? bound text = some (value, after))
    (hafter : skipSpace after = ',' :: rest) :
    readItems? (bound + 1) text =
      (readItems? bound rest).bind fun found => some (value :: found.1, found.2) := by
  rw [readItems?, hread, Option.bind_eq_bind, Option.bind_some]
  dsimp only
  rw [hafter]
  rfl

theorem readMembers?_last (hclosed : Closed key)
    (hread : readValue? bound text = some (value, after))
    (hafter : skipSpace after = '\x7d' :: rest) :
    readMembers? (bound + 1) ('"' :: (key ++ '"' :: ':' :: text)) =
      some ([(key, value)], rest) := by
  simp only [readMembers?, skipSpace_cons (c := '"') (by rfl), skipSpace_cons (c := ':') (by rfl),
    Option.bind_eq_bind, Option.bind_some, hclosed (':' :: text), hread, hafter]
  rfl

theorem readMembers?_more (hclosed : Closed key)
    (hread : readValue? bound text = some (value, after)) (hafter : skipSpace after = ',' :: rest) :
    readMembers? (bound + 1) ('"' :: (key ++ '"' :: ':' :: text)) =
      (readMembers? bound rest).bind fun found => some ((key, value) :: found.1, found.2) := by
  simp only [readMembers?, skipSpace_cons (c := '"') (by rfl), skipSpace_cons (c := ':') (by rfl),
    Option.bind_eq_bind, Option.bind_some, hclosed (':' :: text), hread, hafter]
  rfl

end Turn

section Loop

variable {layout : Layout} (hspacious : layout.Spacious)
include hspacious

theorem delimits_writeItems (depth : Nat) (items : List Json) (rest : List Char) :
    Delimits (writeItems layout depth items ++ rest) := by
  cases items with
  | nil =>
    rw [writeItems, List.append_assoc]
    exact delimits_append_cons (hspacious.lineBreak depth) (by rfl) rest
  | cons item items => exact delimits_append_cons space_nil (by rfl) _

theorem delimits_writeMembers (depth : Nat) (members : List (List Char × Json))
    (rest : List Char) : Delimits (writeMembers layout depth members ++ rest) := by
  cases members with
  | nil =>
    rw [writeMembers, List.append_assoc]
    exact delimits_append_cons (hspacious.lineBreak depth) (by rfl) rest
  | cons member members => exact delimits_append_cons space_nil (by rfl) _

theorem readItems?_write {item : Json} {items : List Json}
    (hreads : ∀ other ∈ item :: items, Reads layout other) {depth bound : Nat} (rest : List Char)
    (hbound : 2 * (item.write layout (depth + 1) ++ writeItems layout depth items).length < bound) :
    readItems? bound (item.write layout (depth + 1) ++ (writeItems layout depth items ++ rest)) =
      some (item :: items, rest) := by
  induction items generalizing item bound with
  | nil =>
    obtain ⟨hitem, _⟩ := List.forall_mem_cons.mp hreads
    obtain ⟨bound, rfl⟩ := Nat.exists_eq_add_one_of_ne_zero (Nat.ne_zero_of_lt hbound)
    rw [List.length_append] at hbound
    have hread := hitem (depth + 1) bound _ (by omega)
      (delimits_writeItems hspacious depth [] rest)
    have hafter : skipSpace (writeItems layout depth [] ++ rest) = ']' :: rest := by
      rw [writeItems, List.append_assoc]
      exact skipSpace_append_cons (hspacious.lineBreak depth) (by rfl) rest
    exact readItems?_last hread hafter
  | cons next items ih =>
    obtain ⟨hitem, hothers⟩ := List.forall_mem_cons.mp hreads
    obtain ⟨bound, rfl⟩ := Nat.exists_eq_add_one_of_ne_zero (Nat.ne_zero_of_lt hbound)
    rw [List.length_append] at hbound
    have hread := hitem (depth + 1) bound _ (by omega)
      (delimits_writeItems hspacious depth (next :: items) rest)
    have htext : writeItems layout depth (next :: items) ++ rest =
        ',' :: (layout.lineBreak (depth + 1) ++
          (next.write layout (depth + 1) ++ (writeItems layout depth items ++ rest))) := by
      simp [writeItems]
    have hlength : (next.write layout (depth + 1) ++ writeItems layout depth items).length <
        (writeItems layout depth (next :: items)).length := by
      simp only [writeItems, List.length_append, List.length_singleton]
      omega
    rw [htext] at hread ⊢
    calc readItems? (bound + 1) _
        = (readItems? bound (layout.lineBreak (depth + 1) ++
            (next.write layout (depth + 1) ++ (writeItems layout depth items ++ rest)))).bind
              fun found => some (item :: found.1, found.2) :=
          readItems?_more hread (skipSpace_cons (by rfl) _)
      _ = some (item :: next :: items, rest) := by
          rw [readItems?_append (hspacious.lineBreak (depth + 1)), ih hothers (by omega)]
          rfl

theorem readMembers?_write {member : List Char × Json} {members : List (List Char × Json)}
    (hkeys : ∀ other ∈ member :: members, Closed other.1)
    (hreads : ∀ other ∈ member :: members, Reads layout other.2) {depth bound : Nat}
    (rest : List Char)
    (hbound : 2 * (member.2.write layout (depth + 1) ++
      writeMembers layout depth members).length < bound) :
    readMembers? bound ('"' :: (member.1 ++ '"' :: ':' :: (layout.afterColon ++
        (member.2.write layout (depth + 1) ++ (writeMembers layout depth members ++ rest))))) =
      some (member :: members, rest) := by
  induction members generalizing member bound with
  | nil =>
    obtain ⟨hkey, _⟩ := List.forall_mem_cons.mp hkeys
    obtain ⟨hvalue, _⟩ := List.forall_mem_cons.mp hreads
    obtain ⟨bound, rfl⟩ := Nat.exists_eq_add_one_of_ne_zero (Nat.ne_zero_of_lt hbound)
    rw [List.length_append] at hbound
    have hread := hvalue (depth + 1) bound _ (by omega)
      (delimits_writeMembers hspacious depth [] rest)
    have hafter : skipSpace (writeMembers layout depth [] ++ rest) = '\x7d' :: rest := by
      rw [writeMembers, List.append_assoc]
      exact skipSpace_append_cons (hspacious.lineBreak depth) (by rfl) rest
    rw [← readValue?_append hspacious.afterColon] at hread
    exact readMembers?_last hkey hread hafter
  | cons next members ih =>
    obtain ⟨hkey, hotherKeys⟩ := List.forall_mem_cons.mp hkeys
    obtain ⟨hvalue, hothers⟩ := List.forall_mem_cons.mp hreads
    obtain ⟨bound, rfl⟩ := Nat.exists_eq_add_one_of_ne_zero (Nat.ne_zero_of_lt hbound)
    rw [List.length_append] at hbound
    have hread := hvalue (depth + 1) bound _ (by omega)
      (delimits_writeMembers hspacious depth (next :: members) rest)
    have htext : writeMembers layout depth (next :: members) ++ rest =
        ',' :: (layout.lineBreak (depth + 1) ++ '"' :: (next.1 ++ '"' :: ':' ::
          (layout.afterColon ++ (next.2.write layout (depth + 1) ++
            (writeMembers layout depth members ++ rest))))) := by
      simp [writeMembers]
    have hlength : (next.2.write layout (depth + 1) ++ writeMembers layout depth members).length <
        (writeMembers layout depth (next :: members)).length := by
      simp only [writeMembers, List.length_append, List.length_singleton]
      omega
    rw [← readValue?_append hspacious.afterColon] at hread
    rw [htext] at hread ⊢
    calc readMembers? (bound + 1) _
        = (readMembers? bound (layout.lineBreak (depth + 1) ++ '"' :: (next.1 ++ '"' :: ':' ::
            (layout.afterColon ++ (next.2.write layout (depth + 1) ++
              (writeMembers layout depth members ++ rest)))))).bind
                fun found => some (member :: found.1, found.2) :=
          readMembers?_more hkey hread (skipSpace_cons (by rfl) _)
      _ = some (member :: next :: members, rest) := by
          rw [readMembers?_append (hspacious.lineBreak (depth + 1)),
            ih hotherKeys hothers (by omega)]
          rfl

/-! ### Whole documents -/

theorem reads_array {item : Json} {items : List Json}
    (hlegible : ∀ other ∈ item :: items, Legible other)
    (hreads : ∀ other ∈ item :: items, Reads layout other) :
    Reads layout (.array (item :: items)) := by
  refine (Legible.array hlegible).reads_of_succ fun depth bound rest hbound _ => ?_
  have htext : (Json.array (item :: items)).write layout depth ++ rest =
      '[' :: (layout.lineBreak (depth + 1) ++
        (item.write layout (depth + 1) ++ (writeItems layout depth items ++ rest))) := by
    simp [write]
  have hlength : 2 * (item.write layout (depth + 1) ++ writeItems layout depth items).length <
      bound := by
    simp only [write, List.length_append, List.length_singleton] at hbound
    rw [List.length_append]
    omega
  -- The item tells the array from an empty one by its first character.
  obtain ⟨c, tail, hhead, hc, hclose⟩ :=
    (hlegible item List.mem_cons_self).exists_head layout (depth + 1)
  have hskip : skipSpace (layout.lineBreak (depth + 1) ++
      (item.write layout (depth + 1) ++ (writeItems layout depth items ++ rest))) =
        item.write layout (depth + 1) ++ (writeItems layout depth items ++ rest) := by
    rw [hhead]
    exact skipSpace_append_cons (hspacious.lineBreak (depth + 1)) hc _
  have hitems := readItems?_write hspacious hreads rest hlength
  rw [hhead, List.cons_append] at hskip hitems
  rw [htext, hhead, List.cons_append, readValue?_bracket hskip hclose, hitems]
  rfl

theorem reads_object {member : List Char × Json} {members : List (List Char × Json)}
    (hkeys : ∀ other ∈ member :: members, Closed other.1)
    (hlegible : ∀ other ∈ member :: members, Legible other.2)
    (hreads : ∀ other ∈ member :: members, Reads layout other.2) :
    Reads layout (.object (member :: members)) := by
  refine (Legible.object hkeys hlegible).reads_of_succ fun depth bound rest hbound _ => ?_
  have htext : (Json.object (member :: members)).write layout depth ++ rest =
      '\x7b' :: (layout.lineBreak (depth + 1) ++ '"' :: (member.1 ++ '"' :: ':' ::
        (layout.afterColon ++ (member.2.write layout (depth + 1) ++
          (writeMembers layout depth members ++ rest))))) := by
    simp [write]
  have hlength : 2 * (member.2.write layout (depth + 1) ++
      writeMembers layout depth members).length < bound := by
    simp only [write, List.length_append, List.length_singleton] at hbound
    rw [List.length_append]
    omega
  rw [htext, readValue?_brace (skipSpace_append_cons (hspacious.lineBreak _) (by rfl) _),
    readMembers?_write hspacious hkeys hreads rest hlength]
  rfl

theorem Legible.reads {document : Json} (hlegible : Legible document) :
    Reads layout document := by
  induction hlegible with
  | null => exact Legible.null.reads_of_succ fun _ _ _ _ _ => rfl
  | bool value =>
    refine (Legible.bool value).reads_of_succ fun depth bound rest _ _ => ?_
    cases value <;> rfl
  | number hnumber hchars =>
    refine (Legible.number hnumber hchars).reads_of_succ fun depth bound rest _ hrest => ?_
    exact readValue?_number hnumber hchars hrest bound
  | @string literal hclosed =>
    refine (Legible.string hclosed).reads_of_succ fun depth bound rest _ _ => ?_
    have htext : (Json.string literal).write layout depth ++ rest =
        '"' :: (literal ++ '"' :: rest) := by
      simp [write]
    rw [htext]
    exact readValue?_string hclosed bound rest
  | @array items hitems ih =>
    cases items with
    | nil => exact (Legible.array hitems).reads_of_succ fun _ _ _ _ _ => rfl
    | cons item items => exact reads_array hspacious hitems ih
  | @object members hkeys hvalues ih =>
    cases members with
    | nil => exact (Legible.object hkeys hvalues).reads_of_succ fun _ _ _ _ _ => rfl
    | cons member members => exact reads_object hspacious hkeys hvalues ih

/-- A document is read back from its text. -/
theorem Legible.read?_write {document : Json} (hlegible : Legible document) :
    read? (document.write layout 0) = some document := by
  have hdelimits : Delimits [] := by
    intro c hc
    cases hc
  have hread := hlegible.reads hspacious 0 (2 * (document.write layout 0).length + 2) []
    (Nat.le_add_right _ 2) hdelimits
  rw [List.append_nil] at hread
  rw [read?, hread]
  rfl

end Loop

theorem Legible.read?_compact {document : Json} (hlegible : Legible document) :
    read? document.compact.toList = some document := by
  rw [compact, String.toList_ofList]
  exact hlegible.read?_write Layout.spacious_compact

theorem Legible.read?_indented {document : Json} (hlegible : Legible document) :
    read? document.indented.toList = some document := by
  rw [indented, String.toList_ofList]
  exact hlegible.read?_write Layout.spacious_indented

end FourReg.Json
