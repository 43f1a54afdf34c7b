import FourReg.Proofs.Access
/-!
# The last write wins

The register file as a store: what was written to it, by which of its operations, and what a read
finds. Register 0 is written under two names, by its index and as the pointer, and a reset writes
all four, so a register can be overwritten by an operation that never mentions it. `Write.stored?`
says for one write which index it reaches and with what. From it follows what a read finds after
one write (`get_write`) and after any number (`get_writeAll`): what the last of them to reach the
index stored.
-/

namespace FourReg

namespace Registers

/-- What can be written to a register file. -/
inductive Write
  | set (index value : Word)
  | setPointer (value : Word)
  | reset
deriving DecidableEq

/-- The registers after a write. One to an index out of range is refused and changes none. -/
def write (registers : Registers) : Write → Registers
  | .set index value =>
    match registers.set index value with
    | .ok after => after
    | .error _ => registers
  | .setPointer value => registers.setPointer value
  | .reset => .zero

/-- The registers after a sequence of writes, the head of the list first. -/
def writeAll (registers : Registers) (writes : List Write) : Registers :=
  writes.foldl write registers

/-- What a write stores in the register at `index`, none if it does not reach that register. -/
def Write.stored? (index : Word) : Write → Option Word
  | .set target value => if InRange target ∧ target = index then some value else none
  | .setPointer value => if index = 0 then some value else none
  | .reset => if InRange index then some 0 else none

/-- What the last write to reach the register at `index` stored there, found by going backwards. -/
def lastStored? (index : Word) (writes : List Write) : Option Word :=
  writes.reverse.findSome? (Write.stored? index)

/-- The register at `index` was given `value` by one of the writes, and none behind that one reached
it. -/
def LastStored (index : Word) (writes : List Write) (value : Word) : Prop :=
  ∃ earlier write later, writes = earlier ++ write :: later ∧
    write.stored? index = some value ∧ ∀ other ∈ later, other.stored? index = none

theorem write_set_of_error {registers : Registers} {index value : Word} {error : RegisterError}
    (hset : registers.set index value = .error error) :
    registers.write (.set index value) = registers := by
  rw [write, hset]

/-- To store the pointer is to write register 0. -/
theorem write_setPointer (registers : Registers) (value : Word) :
    registers.write (.setPointer value) = registers.write (.set 0 value) := by
  rfl

theorem Write.stored?_setPointer (index value : Word) :
    (Write.setPointer value).stored? index = (Write.set 0 value).stored? index := by
  have hzero : InRange 0 := by decide
  simp only [stored?, hzero, true_and, eq_comm]

/-! ### What a read finds -/

theorem get_write_set (registers : Registers) (target value index : Word) :
    (registers.write (.set target value)).get index =
      ((Write.set target value).stored? index).elim (registers.get index) .ok := by
  by_cases hrange : InRange target
  · obtain ⟨after, hset, _⟩ := registers.set_of_inRange value hrange
    have hwrite : registers.write (.set target value) = after := by rw [write, hset]
    rw [hwrite, get_of_set hset]
    by_cases htarget : target = index
    · subst htarget
      simp [Write.stored?, hrange]
    · simp [Write.stored?, htarget]
  · rw [write_set_of_error (registers.set_of_not_inRange value hrange)]
    simp [Write.stored?, hrange]

theorem get_write_reset (registers : Registers) (index : Word) :
    (registers.write .reset).get index =
      (Write.reset.stored? index).elim (registers.get index) .ok := by
  by_cases hrange : InRange index
  · have hget : zero.get index = .ok 0 :=
      get_eq_ok_iff.mpr ⟨hrange, (congrFun values_zero index.toInt).symm⟩
    simp [write, Write.stored?, hrange, hget]
  · simp [Write.stored?, hrange, get_of_not_inRange]

/-- A read finds what the write stored at its index, and if that is nothing, what was there. -/
theorem get_write (registers : Registers) (write : Write) (index : Word) :
    (registers.write write).get index =
      (write.stored? index).elim (registers.get index) .ok := by
  cases write with
  | set target value => exact registers.get_write_set target value index
  | setPointer value =>
    rw [write_setPointer, Write.stored?_setPointer]
    exact registers.get_write_set 0 value index
  | reset => exact registers.get_write_reset index

theorem lastStored?_cons (index : Word) (write : Write) (writes : List Write) :
    lastStored? index (write :: writes) =
      (lastStored? index writes).or (write.stored? index) := by
  simp [lastStored?, List.findSome?_append]

theorem get_writeAll (registers : Registers) (writes : List Write) (index : Word) :
    (registers.writeAll writes).get index =
      (lastStored? index writes).elim (registers.get index) .ok := by
  induction writes generalizing registers with
  | nil => rfl
  | cons write writes ih =>
    have hfirst : registers.writeAll (write :: writes) =
        (registers.write write).writeAll writes := rfl
    rw [hfirst, ih, get_write, lastStored?_cons]
    cases lastStored? index writes with
    | some value => rfl
    | none => rfl

theorem lastStored?_eq_some_iff {index value : Word} {writes : List Write} :
    lastStored? index writes = some value ↔ LastStored index writes value := by
  rw [lastStored?, List.findSome?_eq_some_iff]
  constructor
  · rintro ⟨later, write, earlier, hwrites, hstored, hlater⟩
    refine ⟨earlier.reverse, write, later.reverse, ?_, hstored, by simpa using hlater⟩
    rw [← writes.reverse_reverse, hwrites]
    simp
  · rintro ⟨earlier, write, later, rfl, hstored, hlater⟩
    exact ⟨later.reverse, write, earlier.reverse, by simp, hstored, by simpa using hlater⟩

theorem lastStored?_eq_none_iff {index : Word} {writes : List Write} :
    lastStored? index writes = none ↔ ∀ write ∈ writes, write.stored? index = none := by
  simp [lastStored?]

/-- After any sequence of writes, refused ones among them, an access fails just for an index out of
range, which it reports, and a `set` that fails changes nothing. A read of a register finds what the
last write to reach it stored, or what was there at the beginning if none did, and the pointer is
what a read of register 0 finds. -/
theorem last_write_wins (registers : Registers) (writes : List Write) :
    let after := registers.writeAll writes
    (∀ index error,
        after.get index = .error error ↔ ¬ InRange index ∧ error = .outOfRange index) ∧
      (∀ index value error,
        after.set index value = .error error ↔ ¬ InRange index ∧ error = .outOfRange index) ∧
      (∀ index value error,
        after.set index value = .error error → after.write (.set index value) = after) ∧
      (∀ index, InRange index → ∃ value, after.get index = .ok value ∧
        (LastStored index writes value ∨
          (∀ write ∈ writes, write.stored? index = none) ∧ registers.get index = .ok value)) ∧
      after.get 0 = .ok after.pointer := by
  intro after
  refine ⟨fun _ _ => get_eq_error_iff, fun _ _ _ => set_eq_error_iff,
    fun _ _ _ => write_set_of_error, fun index hrange => ?_, after.get_zero⟩
  have hafter : after.get index = (lastStored? index writes).elim (registers.get index) .ok :=
    registers.get_writeAll writes index
  cases hlast : lastStored? index writes with
  | some value =>
    rw [hlast] at hafter
    exact ⟨value, hafter, .inl (lastStored?_eq_some_iff.mp hlast)⟩
  | none =>
    rw [hlast] at hafter
    obtain ⟨value, hget, _⟩ := registers.get_of_inRange hrange
    exact ⟨value, hafter.trans hget, .inr ⟨lastStored?_eq_none_iff.mp hlast, hget⟩⟩

/-- Register 0 written under both its names, with refused writes before and behind, and register 1
not written at all. -/
theorem last_write_wins_refused :
    let registers := ofWords 9 1 2 3
    let writes : List Write := [.set 4 1, .setPointer 5, .set 2 (-7), .set 0 6, .set (-1) 8]
    let after := registers.writeAll writes
    after.get 4 = .error (.outOfRange 4) ∧
      after.set (-1) 8 = .error (.outOfRange (-1)) ∧ after.write (.set (-1) 8) = after ∧
      InRange 0 ∧ after.get 0 = .ok 6 ∧ LastStored 0 writes 6 ∧ after.pointer = 6 ∧
      InRange 1 ∧ (∀ write ∈ writes, write.stored? 1 = none) ∧ after.get 1 = .ok 1 := by
  intro registers writes after
  obtain ⟨hget, hset, hrefused, hreads, hpointer⟩ := last_write_wins registers writes
  have hfails : after.set (-1) 8 = .error (.outOfRange (-1)) := (hset _ _ _).mpr ⟨by decide, rfl⟩
  have hzero : after.get 0 = .ok 6 ∧ LastStored 0 writes 6 := by
    obtain ⟨value, hvalue, hlast | ⟨hnone, _⟩⟩ := hreads 0 (by decide)
    · cases hvalue.symm.trans (show after.get 0 = .ok 6 from rfl)
      exact ⟨hvalue, hlast⟩
    · exact absurd hnone (by decide)
  have hnone : ∀ write ∈ writes, write.stored? 1 = none := by decide
  have hone : after.get 1 = .ok 1 := by
    obtain ⟨value, hvalue, hlast | ⟨_, hbefore⟩⟩ := hreads 1 (by decide)
    · cases (lastStored?_eq_none_iff.mpr hnone).symm.trans (lastStored?_eq_some_iff.mpr hlast)
    · exact hvalue.trans hbefore.symm
  have hpointerSix : after.pointer = 6 := Except.ok.inj (hpointer.symm.trans hzero.1)
  exact ⟨(hget _ _).mpr ⟨by decide, rfl⟩, hfails, hrefused _ _ _ hfails, by decide, hzero.1,
    hzero.2, hpointerSix, by decide, hnone, hone⟩

end Registers

end FourReg
