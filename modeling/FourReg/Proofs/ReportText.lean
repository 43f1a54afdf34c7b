import FourReg.Proofs.Denotation
import FourReg.Proofs.Lines
import FourReg.Report

/-!
# What the text of a report tells

The text of a report shows two things, the registers and whether there was a fault. It determines both,
and nothing else. Its lines can be told apart, since none of them has a line feed in it. Their number is
that of a fault or that of no fault, and the numerals on the last line are those of the registers.
-/

namespace FourReg

/-- Text that consists of these lines, with a line feed at the end of each. -/
def Terminated (lines : List (List Char)) (text : List Char) : Prop :=
  (∀ line ∈ lines, '\n' ∉ line) ∧ text = lines.flatMap (· ++ ['\n'])

theorem Terminated.splitOn_eq {lines : List (List Char)} {text : List Char}
    (hterminated : Terminated lines text) : text.splitOn '\n' = lines ++ [[]] := by
  obtain ⟨hone, rfl⟩ := hterminated
  exact splitOn_flatMap_append_singleton hone

/-- A text consists of certain lines and no others. -/
theorem Terminated.iff_eq {lines others : List (List Char)} {text : List Char}
    (hterminated : Terminated lines text) : Terminated others text ↔ others = lines := by
  constructor
  · intro hothers
    have hsame := hothers.splitOn_eq.symm.trans hterminated.splitOn_eq
    exact List.append_cancel_right hsame
  · rintro rfl
    exact hterminated

namespace Registers

/-- The numerals of the four registers, in order. -/
def numerals (registers : Registers) : List (List Char) :=
  registers.toList.map fun word => Numeral.chars word.toInt

theorem length_toList (registers : Registers) : registers.toList.length = 4 :=
  registers.slots.length_toList

theorem toList_injective : Function.Injective toList := by
  intro registers other hlist
  exact congrArg Registers.mk (Vector.toList_inj.mp hlist)

theorem toList_text (registers : Registers) :
    registers.text.toList = [' '].intercalate registers.numerals := by
  simp [text, join, numerals, Numeral.text, String.toList_intercalate, Function.comp_def]

theorem isWord_of_mem_numerals (registers : Registers) :
    ∀ numeral ∈ registers.numerals, IsWord numeral :=
  List.forall_mem_map.mpr fun word _ => (literal_chars word.toInt).isWord

theorem splitOn_text (registers : Registers) :
    registers.text.toList.splitOn ' ' = registers.numerals := by
  have hne : registers.numerals ≠ [] := by
    rw [← List.length_pos_iff, numerals, List.length_map, length_toList]
    decide
  rw [toList_text, splitOn_intercalate_words registers.isWord_of_mem_numerals hne]

theorem map_toWord?_numerals (registers : Registers) :
    registers.numerals.map Numeral.toWord? = registers.toList.map some := by
  simp [numerals]

theorem text_injective : Function.Injective text := by
  intro registers other htext
  have hwords := registers.map_toWord?_numerals
  rw [← splitOn_text, htext, splitOn_text, map_toWord?_numerals] at hwords
  exact toList_injective (List.map_injective_iff.mpr (Option.some_injective Word) hwords).symm

end Registers

namespace Report

/-- The lines of a report in front of its registers. -/
def heading (report : Report) : List (List Char) :=
  (if report.isFault then [separator.toList, notice.toList] else []) ++ [separator.toList]

theorem oneLine_heading (report : Report) : ∀ line ∈ report.heading, '\n' ∉ line := by
  unfold heading
  cases report.isFault <;> decide

theorem terminated_text (report : Report) :
    Terminated (report.heading ++ [report.registers.text.toList]) report.text.toList := by
  constructor
  · rw [List.forall_mem_append, List.forall_mem_singleton, Registers.toList_text]
    exact ⟨report.oneLine_heading, oneLine_intercalate report.registers.isWord_of_mem_numerals⟩
  · unfold text heading
    cases report.isFault <;> simp

theorem length_heading (report : Report) :
    report.heading.length = if report.isFault then 3 else 1 := by
  unfold heading
  cases report.isFault <;> rfl

theorem isFault_eq_of_text_eq {report other : Report} (htext : report.text = other.text) :
    report.isFault = other.isFault ∧ report.registers = other.registers := by
  have hlines := report.terminated_text
  rw [htext, other.terminated_text.iff_eq] at hlines
  obtain ⟨hheading, hlast⟩ := List.append_inj' hlines rfl
  have hlength := congrArg List.length hheading
  rw [length_heading, length_heading] at hlength
  refine ⟨?_, Registers.text_injective (String.toList_inj.mp (List.singleton_inj.mp hlast))⟩
  cases hfault : report.isFault <;> cases hother : other.isFault <;> simp [hfault, hother] at hlength ⊢

/-- Two reports have the same text exactly when both or neither tell of a fault and their registers are
the same. The text is two lines, or four in the case of a fault, and the last of them is four literals
with a blank between two, which read back as the registers. -/
theorem text_shows_fault_and_registers :
    (∀ report other : Report, report.text = other.text ↔
      report.isFault = other.isFault ∧ report.registers = other.registers) ∧
    ∀ report : Report, ∃ heading last,
      (∀ lines, Terminated lines report.text.toList ↔ lines = heading ++ [last]) ∧
      (heading ++ [last]).length = (if report.isFault then 4 else 2) ∧
      (last.splitOn ' ').length = 4 ∧
      (last.splitOn ' ').map Numeral.toWord? = report.registers.toList.map some := by
  refine ⟨fun report other => ⟨isFault_eq_of_text_eq, fun ⟨hfault, hregisters⟩ => ?_⟩,
    fun report => ⟨report.heading, report.registers.text.toList, ?_, ?_, ?_, ?_⟩⟩
  · rw [text, text, hfault, hregisters]
  · exact fun lines => report.terminated_text.iff_eq
  · rw [List.length_append, length_heading]
    cases report.isFault <;> rfl
  · rw [Registers.splitOn_text, Registers.numerals, List.length_map, Registers.length_toList]
  · rw [Registers.splitOn_text, Registers.map_toWord?_numerals]

example :
    Report.text ⟨.faulted, 3, .ofWords (-2147483648) 0 7 (-1), some "any message"⟩ =
      "-------------------------\nProgram halted: Instruction pointer out of bounds\n" ++
        "-------------------------\n-2147483648 0 7 -1\n" := by
  decide +kernel

end Report

end FourReg
