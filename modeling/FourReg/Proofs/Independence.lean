import FourReg.Proofs.Lockstep

/-!
# What a machine does not depend on

Register 0 and the count of cycles hold nothing that a machine goes on from. Two machines of one
program that agree in status and configuration run in lockstep, with the very same outcomes, and their
registers are equal from the first instruction that they fetch. A client that writes register 0 between
cycles therefore moves nothing: the pointer stays where it was, and the outcomes are those of the
cycles alone.
-/

namespace FourReg

namespace Machine

/-- Machines of one program that agree in all but register 0 and the count of their cycles. -/
structure SameCourse (left right : Machine) : Prop where
  program_eq : left.program = right.program
  status_eq : left.status = right.status
  configuration_eq : left.configuration = right.configuration

theorem tells_id : Tells (id : Instruction → Instruction) :=
  fun _ _ hsame => congrArg Instruction.execute hsame

namespace SameCourse

variable {left right : Machine}

theorem refl (machine : Machine) : SameCourse machine machine :=
  ⟨rfl, rfl, rfl⟩

theorem trans {middle : Machine} (hleft : SameCourse left middle)
    (hright : SameCourse middle right) : SameCourse left right :=
  ⟨hleft.program_eq.trans hright.program_eq, hleft.status_eq.trans hright.status_eq,
    hleft.configuration_eq.trans hright.configuration_eq⟩

theorem parallel (hcourse : SameCourse left right) : Parallel id left right :=
  .of_programs tells_id (fun _ => by rw [hcourse.program_eq]) hcourse.status_eq
    hcourse.configuration_eq

theorem iterate (hcourse : SameCourse left right) (count : Nat) :
    SameCourse (next^[count] left) (next^[count] right) := by
  have hlock := hcourse.parallel count
  refine ⟨?_, hlock.status_eq, hlock.configuration_eq⟩
  rw [program_iterate_next, program_iterate_next, hcourse.program_eq]

theorem outcome_eq (hcourse : SameCourse left right) : left.step.outcome = right.step.outcome := by
  simpa [Except.map_id] using hcourse.parallel.outcome_eq tells_id 0

/-- The counts of cycles stay as far apart as they are. -/
theorem cycles_sub_cycles (hcourse : SameCourse left right) (count : Nat) :
    ((next^[count] left).cycles : Int) - (next^[count] right).cycles = left.cycles - right.cycles := by
  have hcompleted := hcourse.parallel.completed_eq tells_id count
  rw [cycles_iterate_next, cycles_iterate_next]
  omega

end SameCourse

/-! ### Writes between cycles -/

/-- What a client does to a machine: a cycle, or a write to register 0 between two of them. -/
inductive Touch
  | cycle
  /-- A checked write with the index 0. -/
  | set (value : Word)
  /-- A write of the register that is the copy of the pointer. -/
  | setPointer (value : Word)
deriving DecidableEq

def touch (machine : Machine) : Touch → Machine
  | .cycle => machine.next
  | .set value =>
    match machine.registers.set 0 value with
    | .ok registers => { machine with registers }
    | .error _ => machine
  | .setPointer value => { machine with registers := machine.registers.setPointer value }

/-- The outcomes of the cycles among what a client does. -/
def outcomes : List Touch → Machine → List (Except MachineError (Option Instruction))
  | [], _ => []
  | .cycle :: rest, machine => machine.step.outcome :: outcomes rest machine.next
  | .set value :: rest, machine => outcomes rest (machine.touch (.set value))
  | .setPointer value :: rest, machine => outcomes rest (machine.touch (.setPointer value))

theorem sameCourse_setPointer (machine : Machine) (value : Word) :
    SameCourse (machine.touch (.setPointer value)) machine := by
  refine ⟨rfl, rfl, ?_⟩
  simp [configuration, touch, Registers.setPointer]

/-- The index 0 is in range, so a checked write with it does what the other does. -/
theorem touch_set (machine : Machine) (value : Word) :
    machine.touch (.set value) = machine.touch (.setPointer value) := by
  rfl

/-- The outcomes are those of the cycles alone, and so is the machine that is left, but for register 0
and the count of cycles. -/
theorem outcomes_eq {left right : Machine} (hcourse : SameCourse left right) (touches : List Touch) :
    outcomes touches left =
        (List.range (touches.count .cycle)).map (fun count => (next^[count] right).step.outcome) ∧
      SameCourse (touches.foldl touch left) (next^[touches.count .cycle] right) := by
  induction touches generalizing left right with
  | nil => exact ⟨rfl, hcourse⟩
  | cons first touches ih =>
    have hwrite (value : Word) := ih ((sameCourse_setPointer left value).trans hcourse)
    cases first with
    | cycle =>
      obtain ⟨houtcomes, hleft⟩ := ih (hcourse.iterate 1)
      rw [List.count_cons_self, List.range_succ_eq_map, List.map_cons, List.map_map, outcomes]
      exact ⟨congrArg₂ List.cons hcourse.outcome_eq houtcomes, hleft⟩
    | set value =>
      rw [List.count_cons_of_ne (by simp), outcomes, List.foldl_cons, touch_set]
      exact hwrite value
    | setPointer value =>
      rw [List.count_cons_of_ne (by simp), outcomes, List.foldl_cons]
      exact hwrite value

/-- Two machines that differ at most in register 0 and in the count of their cycles have the same
outcomes, cycle by cycle and over a run, and continue to differ in no more; their registers are equal
once one of the cycles has fetched an instruction. Writes to register 0 between cycles change none of
the outcomes and leave the pointer alone. -/
theorem course_ignores_register_zero :
    (∀ left right : Machine, SameCourse left right →
      (∀ count,
        (next^[count] left).step.outcome = (next^[count] right).step.outcome ∧
        SameCourse (next^[count] left) (next^[count] right) ∧
        ((∃ earlier < count, (next^[earlier] left).Fetches) →
          (next^[count] left).registers = (next^[count] right).registers) ∧
        ((next^[count] left).cycles : Int) - (next^[count] right).cycles =
          left.cycles - right.cycles) ∧
      ∀ bound, (left.run bound).map Run.outcome = (right.run bound).map Run.outcome) ∧
    ∀ (machine : Machine) (touches : List Touch),
      outcomes touches machine =
        (List.range (touches.count .cycle)).map (fun count => (next^[count] machine).step.outcome) ∧
      SameCourse (touches.foldl touch machine) (next^[touches.count .cycle] machine) := by
  refine ⟨fun left right hcourse => ⟨fun count => ?_, ?_⟩, fun machine touches => ?_⟩
  · have hcount := hcourse.iterate count
    refine ⟨hcount.outcome_eq, hcount, fun hfetches => ?_, hcourse.cycles_sub_cycles count⟩
    exact hcourse.parallel.registers_eq tells_id (Or.inl hfetches)
  · exact hcourse.parallel.map_outcome_run tells_id
  · exact outcomes_eq (SameCourse.refl machine) touches

/-- A program that reads register 0, jumps over an instruction and then goes wrong, on a machine in
which register 0 and the count of cycles are not what the program left there. -/
theorem course_ignores_register_zero_readThenFault :
    let left := load ⟨#[⟨0, 0, 0, 1⟩, ⟨1, 0, 1, 0⟩, ⟨12, 0, 0, 0⟩, ⟨5, 0, 9, 2⟩]⟩
    let right := { left with registers := .ofWords 7 0 0 0, cycles := 40 }
    SameCourse left right ∧ left.registers ≠ right.registers ∧
      (next^[1] left).registers = (next^[1] right).registers ∧
      (right.run 5).map Run.outcome = some (.error (.register (.outOfRange 9))) ∧
      outcomes [.cycle, .set 3, .cycle, .setPointer 0, .cycle] left =
        [.ok (some ⟨0, 0, 0, 1⟩), .ok (some ⟨1, 0, 1, 0⟩), .error (.register (.outOfRange 9))] := by
  intro left right
  obtain ⟨hcourses, htouches⟩ := course_ignores_register_zero
  have hcourse : SameCourse left right := ⟨rfl, rfl, rfl⟩
  obtain ⟨hcycles, hrun⟩ := hcourses left right hcourse
  obtain ⟨_, _, hregisters, _⟩ := hcycles 1
  refine ⟨hcourse, by decide, hregisters ⟨0, by decide, by decide, by decide⟩, ?_, ?_⟩
  · rw [← hrun 5]
    decide +kernel
  · rw [(htouches left _).1]
    decide +kernel

end Machine

end FourReg
