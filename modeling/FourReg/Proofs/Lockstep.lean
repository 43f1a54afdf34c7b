import FourReg.Proofs.Refinement
import FourReg.Proofs.Stopping

/-!
# Machines in lockstep

What a cycle does is decided by the status of the machine, by its configuration, which is the pointer
and registers 1 to 3, and by what the instruction at the pointer does. Register 0 is not part of that:
the pointer is stored in it before any operand is read. So two machines that agree in these things stay
together, cycle by cycle and over whole runs, whatever else they differ in.

How far two programs agree is a parameter: `view` says what is to be the same of the instructions that
they hold at an address, and all it has to tell is what an instruction does.
-/

namespace FourReg

/-- What a machine goes on from. -/
@[ext]
structure Configuration where
  ip : Word
  r1 : Word
  r2 : Word
  r3 : Word
deriving DecidableEq

namespace Machine

def configuration (machine : Machine) : Configuration :=
  { ip := machine.ip
    r1 := machine.registers.slots[1]
    r2 := machine.registers.slots[2]
    r3 := machine.registers.slots[3] }

/-- The next cycle of the machine executes an instruction or is faulted by one. -/
def Fetches (machine : Machine) : Prop :=
  machine.status = .running ∧ (machine.program.fetch? machine.ip).isSome

instance : DecidablePred Fetches :=
  fun _ => inferInstanceAs (Decidable (_ ∧ _))

/-- The registers on which instructions are executed are those of the configuration. -/
theorem setPointer_eq_of_configuration_eq {left right : Machine}
    (hconfiguration : left.configuration = right.configuration) :
    left.registers.setPointer left.ip = right.registers.setPointer right.ip := by
  obtain ⟨hip, h1, h2, h3⟩ := Configuration.mk.inj hconfiguration
  rw [hip]
  apply congrArg Registers.mk
  ext slot hslot
  match slot, hslot with
  | 0, _ => simp
  | 1, _ => simpa using h1
  | 2, _ => simpa using h2
  | 3, _ => simpa using h3

end Machine

/-! ### One cycle -/

/-- What came of a cycle, apart from which instruction was executed. -/
def Step.kind (step : Step) : Except MachineError Bool :=
  step.outcome.map Option.isSome

theorem Step.completes_iff_kind {step : Step} : step.completes = true ↔ step.kind = .ok true := by
  unfold completes kind
  rcases step.outcome with error | executed
  · simp [Except.map]
  · cases executed <;> simp [Except.map]

theorem Step.kind_eq {α : Type} {view : Instruction → α} {left right : Step}
    (houtcome : left.outcome.map (Option.map view) = right.outcome.map (Option.map view)) :
    left.kind = right.kind := by
  have hkind (step : Step) :
      step.kind = (step.outcome.map (Option.map view)).map Option.isSome := by
    unfold kind
    rcases step.outcome with error | executed
    · rfl
    · exact congrArg Except.ok Option.isSome_map.symm
  rw [hkind, hkind, houtcome]

/-- A view of instructions that tells what they do. -/
def Tells {α : Type} (view : Instruction → α) : Prop :=
  ∀ first second : Instruction, view first = view second → first.execute = second.execute

/-- Two machines with the same cycle before them. -/
structure Lockstep {α : Type} (view : Instruction → α) (left right : Machine) : Prop where
  status_eq : left.status = right.status
  configuration_eq : left.configuration = right.configuration
  fetch_eq : (left.program.fetch? left.ip).map view = (right.program.fetch? right.ip).map view

namespace Lockstep

variable {α : Type} {view : Instruction → α} {left right : Machine}

open Machine

/-- A cycle has the same outcome on both machines, up to the view, and leads to the same status and
configuration. It makes the registers equal when it executes an instruction, also when that goes wrong,
and keeps them equal if they are. -/
theorem cycle (hview : Tells view) (hlock : Lockstep view left right) :
    left.step.outcome.map (Option.map view) = right.step.outcome.map (Option.map view) ∧
      left.next.status = right.next.status ∧
      left.next.configuration = right.next.configuration ∧
      (left.Fetches ∨ left.registers = right.registers →
        left.next.registers = right.next.registers) := by
  obtain ⟨hstatus, hconfiguration, hfetch⟩ := hlock
  have hentry := setPointer_eq_of_configuration_eq hconfiguration
  have hip : left.ip = right.ip := congrArg Configuration.ip hconfiguration
  have hfetched {instruction : Instruction}
      (hleft : left.program.fetch? left.ip = some instruction) :
      ∃ other, right.program.fetch? right.ip = some other ∧ view other = view instruction := by
    simpa [hleft] using hfetch.symm
  have hcycle := left.step_cycle
  unfold next
  generalize left.step = step at hcycle
  -- Each case has its counterpart on the other machine.
  cases hcycle with
  | refused hstopped =>
    rw [step_of_stopped (hstatus ▸ hstopped), hstatus]
    refine ⟨rfl, rfl, hconfiguration, ?_⟩
    simp [Fetches, hstopped]
  | halts hrunning hnone =>
    have hother : right.program.fetch? right.ip = none := by simpa [hnone] using hfetch.symm
    rw [(Cycle.halts (hstatus ▸ hrunning) hother).step_eq]
    refine ⟨rfl, rfl, hconfiguration, ?_⟩
    simp [Fetches, hnone]
  | faults hrunning hsome hexecute =>
    obtain ⟨other, hother, hsame⟩ := hfetched hsome
    rw [hentry, ← hview other _ hsame] at hexecute
    rw [(Cycle.faults (hstatus ▸ hrunning) hother hexecute).step_eq, hentry, hip]
    exact ⟨rfl, rfl, rfl, fun _ => rfl⟩
  | completes hrunning hsome hexecute =>
    obtain ⟨other, hother, hsame⟩ := hfetched hsome
    rw [hentry, ← hview other _ hsame] at hexecute
    rw [(Cycle.completes (hstatus ▸ hrunning) hother hexecute).step_eq]
    refine ⟨?_, hstatus, rfl, fun _ => rfl⟩
    simp only [Except.map, Option.map_some, hsame]

end Lockstep

/-! ### Whole runs -/

/-- Machines in lockstep before every cycle. -/
def Parallel {α : Type} (view : Instruction → α) (left right : Machine) : Prop :=
  ∀ count, Lockstep view (Machine.next^[count] left) (Machine.next^[count] right)

namespace Parallel

variable {α : Type} {view : Instruction → α} {left right : Machine}

open Machine

/-- Machines that agree stay together when their programs look the same at every address. -/
theorem of_programs (hview : Tells view)
    (hprograms : ∀ address,
      (left.program.fetch? address).map view = (right.program.fetch? address).map view)
    (hstatus : left.status = right.status)
    (hconfiguration : left.configuration = right.configuration) : Parallel view left right := by
  intro count
  induction count with
  | zero =>
    have hip : left.ip = right.ip := congrArg Configuration.ip hconfiguration
    exact ⟨hstatus, hconfiguration, hip ▸ hprograms left.ip⟩
  | succ count ih =>
    obtain ⟨_, hnextStatus, hnextConfiguration, _⟩ := ih.cycle hview
    have hip : (next^[count] left).next.ip = (next^[count] right).next.ip :=
      congrArg Configuration.ip hnextConfiguration
    rw [Function.iterate_succ_apply', Function.iterate_succ_apply']
    refine ⟨hnextStatus, hnextConfiguration, ?_⟩
    rw [program_next, program_next, program_iterate_next, program_iterate_next, hip]
    exact hprograms _

theorem symm (hparallel : Parallel view left right) : Parallel view right left := by
  intro count
  obtain ⟨hstatus, hconfiguration, hfetch⟩ := hparallel count
  exact ⟨hstatus.symm, hconfiguration.symm, hfetch.symm⟩

/-- The registers agree from the first instruction that is fetched, or throughout if they do at the
start. -/
theorem registers_eq (hview : Tells view) (hparallel : Parallel view left right) {count : Nat}
    (hcause : (∃ earlier < count, (next^[earlier] left).Fetches) ∨
      left.registers = right.registers) :
    (next^[count] left).registers = (next^[count] right).registers := by
  induction count with
  | zero =>
    rcases hcause with ⟨earlier, hearlier, _⟩ | hequal
    · exact absurd hearlier (Nat.not_lt_zero earlier)
    · exact hequal
  | succ count ih =>
    obtain ⟨_, _, _, hnext⟩ := (hparallel count).cycle hview
    rw [Function.iterate_succ_apply', Function.iterate_succ_apply']
    apply hnext
    rcases hcause with ⟨earlier, hearlier, hfetches⟩ | hequal
    · rcases Nat.lt_succ_iff_lt_or_eq.mp hearlier with hlt | rfl
      · exact Or.inr (ih (Or.inl ⟨earlier, hlt, hfetches⟩))
      · exact Or.inl hfetches
    · exact Or.inr (ih (Or.inr hequal))

theorem stopsAfter_iff (hparallel : Parallel view left right) {count : Nat} :
    left.StopsAfter count ↔ right.StopsAfter count := by
  unfold StopsAfter
  simp only [fun count => (hparallel count).status_eq]

theorem outcome_eq (hview : Tells view) (hparallel : Parallel view left right) (count : Nat) :
    (next^[count] left).step.outcome.map (Option.map view) =
      (next^[count] right).step.outcome.map (Option.map view) :=
  ((hparallel count).cycle hview).1

theorem kind_eq (hview : Tells view) (hparallel : Parallel view left right) (count : Nat) :
    (next^[count] left).step.kind = (next^[count] right).step.kind :=
  Step.kind_eq (hparallel.outcome_eq hview count)

/-- Both machines complete the same cycles. -/
theorem completed_eq (hview : Tells view) (hparallel : Parallel view left right) (count : Nat) :
    left.completed count = right.completed count := by
  apply List.countP_congr
  intro earlier _
  rw [Step.completes_iff_kind, Step.completes_iff_kind, hparallel.kind_eq hview]

theorem outcomeAfter_eq (hview : Tells view) (hparallel : Parallel view left right) (count : Nat) :
    left.outcomeAfter left.cycles count = right.outcomeAfter right.cycles count := by
  cases count with
  | zero => simp [outcomeAfter]
  | succ count =>
    have hkind (machine : Machine) (result : Nat) :
        machine.step.outcome.map (fun _ => result) = machine.step.kind.map fun _ => result := by
      unfold Step.kind
      rcases machine.step.outcome with error | executed <;> rfl
    simp only [outcomeAfter, cycles_iterate_next, Nat.add_sub_cancel_left]
    rw [hkind, hkind, hparallel.kind_eq hview, hparallel.completed_eq hview]

/-- When one of the machines stops within a bound, so does the other, after as many cycles and with
the same outcome. -/
theorem run_eq (hview : Tells view) (hparallel : Parallel view left right) {bound : Nat} {run : Run}
    (hrun : left.run bound = some run) :
    ∃ count other, right.run bound = some other ∧ other.outcome = run.outcome ∧
      run.machine = next^[count] left ∧ other.machine = next^[count] right := by
  obtain ⟨count, hstops, hmachine, houtcome⟩ := run_eq_some hrun
  have hstopsRight := hparallel.stopsAfter_iff.mp hstops
  obtain ⟨other, hother⟩ := exists_run_eq_some hstopsRight (hstops.le_of_runLoop hrun)
  obtain ⟨same, hsame, hmachineRight, houtcomeRight⟩ := run_eq_some hother
  obtain rfl := hsame.unique hstopsRight
  refine ⟨same, other, hother, ?_, hmachine, hmachineRight⟩
  rw [houtcomeRight, houtcome, hparallel.outcomeAfter_eq hview]

theorem map_outcome_run (hview : Tells view) (hparallel : Parallel view left right) (bound : Nat) :
    (left.run bound).map Run.outcome = (right.run bound).map Run.outcome := by
  have hforward {left right : Machine} (hparallel : Parallel view left right)
      (outcome : Except MachineError Nat) (hleft : (left.run bound).map Run.outcome = some outcome) :
      (right.run bound).map Run.outcome = some outcome := by
    obtain ⟨run, hrun, rfl⟩ := Option.map_eq_some_iff.mp hleft
    obtain ⟨_, other, hother, houtcome, _⟩ := hparallel.run_eq hview hrun
    exact Option.map_eq_some_iff.mpr ⟨other, hother, houtcome⟩
  ext outcome
  exact ⟨hforward hparallel outcome, hforward hparallel.symm outcome⟩

end Parallel

end FourReg
