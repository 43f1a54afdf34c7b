import FourReg.Proofs.References
/-!
# Instructions over the integers

What an instruction means without tables and machine words: twelve cases over unbounded integers,
of which only the result is reduced to a word. The execution of a well-formed instruction agrees
with this meaning, and that of any other instruction fails with its first offending field.
-/

namespace FourReg

/-- The value in the signed 32-bit range that is congruent to `value` modulo `2 ^ 32`. -/
def Word.wrap (value : Int) : Int :=
  value.bmod (2 ^ 32)

@[simp] theorem Word.wrap_toInt (word : Word) : wrap word.toInt = word.toInt :=
  word.toInt_bmod

/-- The pointer behind the one in register 0, which is where a machine goes on. -/
theorem Registers.toInt_pointer_succ (registers : Registers) :
    (registers.pointer + 1).toInt = Word.wrap (registers.values 0 + 1) := by
  rw [values_pointer]
  exact Int32.toInt_add registers.pointer 1

/-- One for a proposition that holds, zero for one that does not. -/
def truth (p : Prop) [Decidable p] : Int :=
  if p then 1 else 0

/-- The result of an operation before it is reduced to a word. -/
def Operation.result : Operation → Int → Int → Int
  | add, first, second => first + second
  | mul, first, second => first * second
  | copy, _, second => second
  | greaterThan, first, second => truth (first > second)
  | equal, first, second => truth (first = second)

theorem toInt_ite_truth (p : Prop) [Decidable p] :
    (if p then 1 else 0 : Word).toInt = Word.wrap (truth p) := by
  unfold truth
  split <;> rfl

theorem Operation.toInt_apply (operation : Operation) (first second : Word) :
    (operation.apply first second).toInt =
      Word.wrap (operation.result first.toInt second.toInt) := by
  cases operation with
  | add => exact Int32.toInt_add first second
  | mul => exact Int32.toInt_mul first second
  | copy => exact (Word.wrap_toInt second).symm
  | greaterThan =>
    simp only [apply, result, gt_iff_lt, ← Int32.lt_iff_toInt_lt]
    exact toInt_ite_truth _
  | equal =>
    simp only [apply, result, Int32.toInt_inj]
    exact toInt_ite_truth _

/-- The operands that a mode picks from the contents `r` of the registers. -/
def AddressMode.pick (mode : AddressMode) (r : Int → Int) (a b : Int) : Int × Int :=
  match mode with
  | .regReg => (r a, r b)
  | .regImm => (r a, b)
  | .immReg => (a, r b)

theorem AddressMode.operands_of_inRange {mode : AddressMode} {a b : Word} (registers : Registers)
    (hrange : ∀ index ∈ mode.sources a b, Registers.InRange index) :
    ∃ first second, mode.operands registers a b = .ok (first, second) ∧
      (first.toInt, second.toInt) = mode.pick registers.values a.toInt b.toInt := by
  cases mode with
  | regReg =>
    obtain ⟨first, hfirst, hfirstValue⟩ := registers.get_of_inRange (hrange a (by simp [sources]))
    obtain ⟨second, hsecond, hsecondValue⟩ :=
      registers.get_of_inRange (hrange b (by simp [sources]))
    refine ⟨first, second, ?_, by rw [hfirstValue, hsecondValue, pick]⟩
    simp only [operands, hfirst, hsecond, bind, Except.bind, pure, Except.pure]
  | regImm =>
    obtain ⟨first, hfirst, hfirstValue⟩ := registers.get_of_inRange (hrange a (by simp [sources]))
    refine ⟨first, b, ?_, by rw [hfirstValue, pick]⟩
    simp only [operands, hfirst, bind, Except.bind, pure, Except.pure]
  | immReg =>
    obtain ⟨second, hsecond, hsecondValue⟩ :=
      registers.get_of_inRange (hrange b (by simp [sources]))
    refine ⟨a, second, ?_, by rw [hsecondValue, pick]⟩
    simp only [operands, hsecond, bind, Except.bind, pure, Except.pure]

theorem AddressMode.operands_of_offending {mode : AddressMode} {a b index : Word}
    (registers : Registers)
    (hfind : (mode.sources a b).find? (fun index => ¬ Registers.InRange index) = some index) :
    mode.operands registers a b = .error (.outOfRange index) := by
  cases mode with
  | regReg =>
    by_cases ha : Registers.InRange a
    · obtain ⟨first, hfirst, _⟩ := registers.get_of_inRange ha
      obtain ⟨hb, rfl⟩ : ¬ Registers.InRange b ∧ b = index := by simpa [sources, ha] using hfind
      simp only [operands, hfirst, registers.get_of_not_inRange hb, bind, Except.bind]
    · obtain rfl : a = index := by simpa [sources, ha] using hfind
      simp only [operands, registers.get_of_not_inRange ha, bind, Except.bind]
  | regImm =>
    obtain ⟨ha, rfl⟩ : ¬ Registers.InRange a ∧ a = index := by simpa [sources] using hfind
    simp only [operands, registers.get_of_not_inRange ha, bind, Except.bind]
  | immReg =>
    obtain ⟨hb, rfl⟩ : ¬ Registers.InRange b ∧ b = index := by simpa [sources] using hfind
    simp only [operands, registers.get_of_not_inRange hb, bind, Except.bind]

namespace Instruction

/-- The integer that an instruction computes from the contents `r` of the registers, none if its
opcode is unknown. `setr` yields its literal and `seti` a register. -/
def result? (instruction : Instruction) (r : Int → Int) : Option Int :=
  let a := instruction.a.toInt
  let b := instruction.b.toInt
  match instruction.opcode.toInt with
  | 0 => some (r a + r b)
  | 1 => some (r a + b)
  | 2 => some (r a * r b)
  | 3 => some (r a * b)
  | 4 => some b
  | 5 => some (r b)
  | 6 => some (truth (a > r b))
  | 7 => some (truth (r a > b))
  | 8 => some (truth (r a > r b))
  | 9 => some (truth (a = r b))
  | 10 => some (truth (r a = b))
  | 11 => some (truth (r a = r b))
  | _ => none

/-- The contents of the registers after an instruction, of which `C` receives the wrapped result. -/
def effect (instruction : Instruction) (r : Int → Int) : Int → Int :=
  match instruction.result? r with
  | some value => Function.update r instruction.c.toInt (Word.wrap value)
  | none => r

theorem result?_of_known {instruction : Instruction} {opcode : Opcode} (r : Int → Int)
    (hopcode : Opcode.ofOrdinal? instruction.opcode = some opcode) :
    instruction.result? r =
      let operands := opcode.mode.pick r instruction.a.toInt instruction.b.toInt
      some (opcode.operation.result operands.1 operands.2) := by
  have hordinal := Opcode.ofOrdinal?_eq_some_iff.mp hopcode
  unfold result?
  rw [← hordinal]
  cases opcode <;> rfl

theorem result?_of_unknown {instruction : Instruction} (r : Int → Int)
    (hopcode : Opcode.ofOrdinal? instruction.opcode = none) : instruction.result? r = none := by
  have hordinal := Opcode.ofOrdinal?_eq_none_iff.mp hopcode
  unfold Opcode.IsOrdinal at hordinal
  unfold result?
  split
  case h_13 => rfl
  all_goals omega

theorem execute_of_offending {instruction : Instruction} {index : Word} (registers : Registers)
    (hoffending : instruction.offending? = some index) :
    instruction.execute registers = .error (.outOfRange index) := by
  cases hopcode : Opcode.ofOrdinal? instruction.opcode with
  | none =>
    rw [offending?, indices, hopcode] at hoffending
    cases hoffending
  | some opcode =>
    simp only [offending?, indices, hopcode, List.find?_append] at hoffending
    simp only [execute, hopcode]
    -- `C` is looked at only when both operands were read.
    cases hsource : (opcode.mode.sources instruction.a instruction.b).find?
        (fun index => ¬ Registers.InRange index) with
    | some source =>
      rw [hsource, Option.some_or] at hoffending
      rw [AddressMode.operands_of_offending registers hsource, Option.some.inj hoffending]
      rfl
    | none =>
      rw [hsource, Option.none_or] at hoffending
      obtain ⟨hc, rfl⟩ : ¬ Registers.InRange instruction.c ∧ instruction.c = index := by
        simpa using hoffending
      have hsources : ∀ index ∈ opcode.mode.sources instruction.a instruction.b,
          Registers.InRange index := by
        simpa using hsource
      obtain ⟨first, second, hoperands, _⟩ := AddressMode.operands_of_inRange registers hsources
      rw [hoperands]
      exact registers.set_of_not_inRange _ hc

theorem execute_of_wellFormed {instruction : Instruction} (registers : Registers)
    (hwell : instruction.WellFormed) :
    ∃ after, instruction.execute registers = .ok after ∧
      after.values = instruction.effect registers.values := by
  cases hopcode : Opcode.ofOrdinal? instruction.opcode with
  | none => exact ⟨registers, by rw [execute, hopcode], by rw [effect, result?_of_unknown _ hopcode]⟩
  | some opcode =>
    have hindices : instruction.indices =
        opcode.mode.sources instruction.a instruction.b ++ [instruction.c] := by
      rw [indices, hopcode]
    have hordinal : Opcode.IsOrdinal instruction.opcode := by
      rw [← Opcode.isSome_ofOrdinal?_iff, hopcode, Option.isSome_some]
    have hrange := hwell hordinal
    rw [hindices] at hrange
    obtain ⟨first, second, hoperands, hpick⟩ := AddressMode.operands_of_inRange registers
      fun index hmem => hrange index (List.mem_append_left _ hmem)
    obtain ⟨after, hset, hvalues⟩ := registers.set_of_inRange
      (opcode.operation.apply first second) (hrange instruction.c (by simp))
    refine ⟨after, ?_, ?_⟩
    · simp only [execute, hopcode, hoperands]
      exact hset
    · rw [hvalues, effect, result?_of_known _ hopcode, ← hpick, Operation.toInt_apply]

/-- Execution fails exactly with the first offending field. -/
theorem execute_eq_error_iff {instruction : Instruction} {registers : Registers}
    {error : RegisterError} :
    instruction.execute registers = .error error ↔
      ∃ index, instruction.offending? = some index ∧ error = .outOfRange index := by
  constructor
  · intro hexecute
    by_cases hwell : instruction.WellFormed
    · obtain ⟨after, hafter, _⟩ := execute_of_wellFormed registers hwell
      rw [hafter] at hexecute
      cases hexecute
    · obtain ⟨index, hoffending⟩ := exists_offending?_iff.mpr hwell
      rw [execute_of_offending registers hoffending] at hexecute
      cases hexecute
      exact ⟨index, hoffending, rfl⟩
  · rintro ⟨index, hoffending, rfl⟩
    exact execute_of_offending registers hoffending

/-- Execution succeeds only for a well-formed instruction, with its effect over the integers. -/
theorem execute_eq_ok {instruction : Instruction} {registers after : Registers}
    (hexecute : instruction.execute registers = .ok after) :
    instruction.WellFormed ∧ after.values = instruction.effect registers.values := by
  have hwell : instruction.WellFormed := by
    by_contra hnot
    obtain ⟨index, hoffending⟩ := exists_offending?_iff.mpr hnot
    rw [execute_of_offending registers hoffending] at hexecute
    cases hexecute
  obtain ⟨other, hother, hvalues⟩ := execute_of_wellFormed registers hwell
  rw [hother] at hexecute
  cases hexecute
  exact ⟨hwell, hvalues⟩

end Instruction

end FourReg
