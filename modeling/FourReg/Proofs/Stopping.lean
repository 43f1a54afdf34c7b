import FourReg.Proofs.Reachable

/-!
# Runs as the closure of cycles

A run stops on a machine exactly when some number of cycles does, and it then leaves the machine
that the least such number leaves. Every cycle keeps a stopped machine as it is, so how far the
machine was taken before the run does not matter: single cycles and bounded traces, however many and
in whatever order, lead to the same end as the run alone.

The cycles that complete an instruction are counted apart from those that halt or fault. A run counts
them as the growth of the machine's own count.
-/

namespace FourReg

/-- A cycle that executed an instruction, rather than to halt, to go wrong or to be refused. -/
def Step.completes (step : Step) : Bool :=
  match step.outcome with
  | .ok (some _) => true
  | _ => false

namespace Machine

def completed (machine : Machine) (count : Nat) : Nat :=
  (List.range count).countP fun earlier => (next^[earlier] machine).step.completes

theorem completed_succ (machine : Machine) (count : Nat) :
    machine.completed (count + 1) =
      machine.completed count + (if (next^[count] machine).step.completes then 1 else 0) := by
  unfold completed
  rw [List.range_succ, List.countP_append, List.countP_singleton]

theorem cycles_next (machine : Machine) :
    machine.next.cycles = machine.cycles + (if machine.step.completes then 1 else 0) := by
  have hcycle := machine.step_cycle
  unfold next
  generalize machine.step = step at hcycle
  cases hcycle <;> rfl

theorem cycles_iterate_next (machine : Machine) (count : Nat) :
    (next^[count] machine).cycles = machine.cycles + machine.completed count := by
  induction count with
  | zero => rfl
  | succ count ih =>
    rw [Function.iterate_succ_apply', cycles_next, completed_succ, ih, Nat.add_assoc]

/-! ### Stopped machines stay as they are -/

theorem next_of_stopped {machine : Machine} (hstatus : machine.status ≠ .running) :
    machine.next = machine := by
  rw [next, step_of_stopped hstatus]

theorem iterate_next_of_stopped {machine : Machine} (hstatus : machine.status ≠ .running)
    (count : Nat) : next^[count] machine = machine :=
  Function.iterate_fixed (next_of_stopped hstatus) count

theorem StopsAfter.iterate_of_le {machine : Machine} {count later : Nat}
    (hstops : machine.StopsAfter count) (hle : count ≤ later) :
    next^[later] machine = next^[count] machine := by
  obtain ⟨extra, rfl⟩ := Nat.exists_eq_add_of_le' hle
  rw [Function.iterate_add_apply]
  exact iterate_next_of_stopped hstops.2 extra

theorem exists_stopsAfter_iff {machine : Machine} :
    (∃ count, machine.StopsAfter count) ↔ ∃ count, (next^[count] machine).status ≠ .running := by
  constructor
  · rintro ⟨count, hstops⟩
    exact ⟨count, hstops.2⟩
  · intro hsome
    refine ⟨Nat.find hsome, fun earlier hearlier => ?_, Nat.find_spec hsome⟩
    have hnot := Nat.find_min hsome hearlier
    exact not_not.mp hnot

theorem StopsAfter.of_succ {machine : Machine} {count : Nat}
    (hstops : machine.StopsAfter (count + 1)) :
    machine.status = .running ∧ machine.next.StopsAfter count := by
  obtain ⟨hbefore, hafter⟩ := hstops
  refine ⟨hbefore 0 (by omega), fun earlier hearlier => ?_, hafter⟩
  exact hbefore (earlier + 1) (by omega)

/-- Between a machine and the one that its cycles lead to, only the number of cycles left differs. -/
theorem StopsAfter.iterate {machine : Machine} {count : Nat} (hstops : machine.StopsAfter count)
    (done : Nat) :
    (next^[done] machine).StopsAfter (count - done) ∧
      next^[count - done] (next^[done] machine) = next^[count] machine := by
  rcases Nat.le_total done count with hle | hle
  · have hsum : ∀ earlier, next^[earlier] (next^[done] machine) = next^[earlier + done] machine :=
      fun earlier => (Function.iterate_add_apply next earlier done machine).symm
    refine ⟨⟨fun earlier hearlier => ?_, ?_⟩, ?_⟩
    · rw [hsum]
      exact hstops.1 _ (by omega)
    · rw [hsum, Nat.sub_add_cancel hle]
      exact hstops.2
    · rw [hsum, Nat.sub_add_cancel hle]
  · rw [hstops.iterate_of_le hle, Nat.sub_eq_zero_of_le hle]
    exact ⟨stopsAfter_zero hstops.2, rfl⟩

theorem StopsAfter.of_iterate {machine : Machine} {count done : Nat}
    (hstops : (next^[done] machine).StopsAfter count) : ∃ total, machine.StopsAfter total := by
  rw [exists_stopsAfter_iff]
  refine ⟨count + done, ?_⟩
  rw [Function.iterate_add_apply]
  exact hstops.2

theorem StopsAfter.unique {machine : Machine} {count other : Nat} (hstops : machine.StopsAfter count)
    (hother : machine.StopsAfter other) : count = other := by
  rcases Nat.lt_trichotomy count other with hlt | heq | hlt
  · exact absurd (hother.1 count hlt) hstops.2
  · exact heq
  · exact absurd (hstops.1 other hlt) hother.2

/-- A cycle that goes wrong is the last one. -/
theorem StopsAfter.eq_zero_of_error {machine : Machine} {count : Nat} {error : MachineError}
    (hstops : machine.next.StopsAfter count) (hstatus : machine.status = .running)
    (houtcome : machine.step.outcome = .error error) : count = 0 := by
  have hfaulted := (faulted_next_iff hstatus).mpr ⟨error, houtcome⟩
  exact hstops.unique (stopsAfter_zero (by rw [hfaulted]; decide))

/-! ### Runs that stop -/

theorem exists_runLoop_eq_some {start bound count : Nat} {machine : Machine}
    {earlier : Array Record} (hstops : machine.StopsAfter count) (hbound : count ≤ bound) :
    ∃ run, runLoop start bound machine earlier = some run := by
  induction bound generalizing machine earlier count with
  | zero =>
    obtain rfl : count = 0 := by omega
    exact ⟨_, runLoop_of_stopped hstops.2⟩
  | succ bound ih =>
    cases count with
    | zero => exact ⟨_, runLoop_of_stopped hstops.2⟩
    | succ count =>
      obtain ⟨hstatus, hnext⟩ := hstops.of_succ
      cases houtcome : machine.step.outcome with
      | error error => exact ⟨_, runLoop_of_error hstatus houtcome⟩
      | ok executed =>
        rw [runLoop_of_ok hstatus houtcome]
        exact ih hnext (by omega)

/-- A run that stops does so within its bound. -/
theorem StopsAfter.le_of_runLoop {start bound count : Nat} {machine : Machine}
    {earlier : Array Record} {run : Run} (hstops : machine.StopsAfter count)
    (hrun : runLoop start bound machine earlier = some run) : count ≤ bound := by
  induction bound generalizing machine earlier count with
  | zero =>
    by_cases hstatus : machine.status = .running
    · rw [runLoop_zero hstatus] at hrun
      cases hrun
    · exact (hstops.unique (stopsAfter_zero hstatus)).le
  | succ bound ih =>
    cases count with
    | zero => exact Nat.zero_le _
    | succ count =>
      obtain ⟨hstatus, hnext⟩ := hstops.of_succ
      cases houtcome : machine.step.outcome with
      | error error =>
        have hzero := hnext.eq_zero_of_error hstatus houtcome
        omega
      | ok executed =>
        rw [runLoop_of_ok hstatus houtcome] at hrun
        exact Nat.succ_le_succ (ih hnext hrun)

theorem exists_run_eq_some {machine : Machine} {count bound : Nat}
    (hstops : machine.StopsAfter count) (hbound : count ≤ bound) :
    ∃ run, machine.run bound = some run :=
  exists_runLoop_eq_some hstops hbound

/-- What a run leads to when it is known after how many cycles it stops. -/
theorem StopsAfter.run_eq {machine : Machine} {count bound : Nat} {run : Run}
    (hstops : machine.StopsAfter count) (hrun : machine.run bound = some run) :
    run.machine = next^[count] machine ∧
      run.outcome = machine.outcomeAfter machine.cycles count := by
  obtain ⟨other, hother, hmachine, houtcome⟩ := run_eq_some hrun
  obtain rfl := hother.unique hstops
  exact ⟨hmachine, houtcome⟩

theorem exists_run_iff {machine : Machine} :
    (∃ bound run, machine.run bound = some run) ↔
      ∃ count, (next^[count] machine).status ≠ .running := by
  rw [← exists_stopsAfter_iff]
  constructor
  · rintro ⟨bound, run, hrun⟩
    obtain ⟨count, hstops, _⟩ := run_eq_some hrun
    exact ⟨count, hstops⟩
  · rintro ⟨count, hstops⟩
    exact ⟨count, exists_run_eq_some hstops le_rfl⟩

/-- The cycle after which a machine has stopped halted it or went wrong. -/
theorem StopsAfter.last_cycle {machine : Machine} {last : Nat}
    (hstops : machine.StopsAfter (last + 1)) :
    (next^[last] machine).step.outcome = .ok none ∨
      ∃ error, (next^[last] machine).step.outcome = .error error := by
  have hbefore := hstops.1 last (Nat.lt_succ_self last)
  have hafter := hstops.2
  rw [Function.iterate_succ_apply', next] at hafter
  have hcycle := (next^[last] machine).step_cycle
  generalize (next^[last] machine).step = step at hcycle hafter
  cases hcycle with
  | refused hstopped => exact absurd hbefore hstopped
  | halts => exact Or.inl rfl
  | faults => exact Or.inr ⟨_, rfl⟩
  | completes => exact absurd hbefore hafter

theorem outcomeAfter_succ {machine : Machine} {last : Nat}
    (hstops : machine.StopsAfter (last + 1)) :
    ((next^[last] machine).step.outcome = .ok none ∧
      machine.outcomeAfter machine.cycles (last + 1) = .ok (machine.completed (last + 1))) ∨
    ∃ error, (next^[last] machine).step.outcome = .error error ∧
      machine.outcomeAfter machine.cycles (last + 1) = .error error := by
  rcases hstops.last_cycle with houtcome | ⟨error, houtcome⟩
  · refine Or.inl ⟨houtcome, ?_⟩
    rw [outcomeAfter, houtcome, cycles_iterate_next, Nat.add_sub_cancel_left]
    rfl
  · exact Or.inr ⟨error, houtcome, outcomeAfter_succ_eq_error_iff.mpr houtcome⟩

/-! ### Runs that are cut up -/

/-- A way to take a machine further without a run: one cycle, or up to `limit` cycles while it is
running. -/
inductive Advance
  | cycle
  | trace (limit : Nat)

def advance (machine : Machine) : Advance → Machine
  | .cycle => machine.step.machine
  | .trace limit => (steps limit machine).foldl (fun _ step => step.machine) machine

theorem exists_trace_eq_iterate (limit : Nat) (machine : Machine) :
    ∃ count, machine.advance (.trace limit) = next^[count] machine := by
  induction limit generalizing machine with
  | zero => exact ⟨0, rfl⟩
  | succ limit ih =>
    by_cases hstatus : machine.status = .running
    · obtain ⟨count, hcount⟩ := ih machine.next
      refine ⟨count + 1, ?_⟩
      rw [advance, steps, if_pos (isRunning_iff.mpr hstatus)]
      exact hcount
    · refine ⟨0, ?_⟩
      rw [advance, steps, if_neg (mt isRunning_iff.mp hstatus)]
      rfl

theorem exists_foldl_advance_eq_iterate (calls : List Advance) (machine : Machine) :
    ∃ count, calls.foldl advance machine = next^[count] machine := by
  induction calls generalizing machine with
  | nil => exact ⟨0, rfl⟩
  | cons call calls ih =>
    have hfirst : ∃ first, machine.advance call = next^[first] machine := by
      cases call with
      | cycle => exact ⟨1, rfl⟩
      | trace limit => exact exists_trace_eq_iterate limit machine
    obtain ⟨first, hfirst⟩ := hfirst
    obtain ⟨others, hothers⟩ := ih (machine.advance call)
    refine ⟨others + first, ?_⟩
    rw [List.foldl_cons, hothers, hfirst, Function.iterate_add_apply]

/-- The machine in which a run of `machine` ends is `final`. -/
def EndsIn (machine final : Machine) : Prop :=
  ∃ bound run, machine.run bound = some run ∧ run.machine = final

theorem endsIn_iff {machine final : Machine} :
    machine.EndsIn final ↔ ∃ count, machine.StopsAfter count ∧ next^[count] machine = final := by
  constructor
  · rintro ⟨bound, run, hrun, rfl⟩
    obtain ⟨count, hstops, hmachine, _⟩ := run_eq_some hrun
    exact ⟨count, hstops, hmachine.symm⟩
  · rintro ⟨count, hstops, rfl⟩
    obtain ⟨run, hrun⟩ := exists_run_eq_some hstops (le_refl count)
    obtain ⟨same, hsame, hmachine, _⟩ := run_eq_some hrun
    refine ⟨count, run, hrun, ?_⟩
    rw [hmachine, hsame.unique hstops]

theorem endsIn_iterate_iff {machine final : Machine} (done : Nat) :
    (next^[done] machine).EndsIn final ↔ machine.EndsIn final := by
  rw [endsIn_iff, endsIn_iff]
  constructor
  · rintro ⟨count, hstops, hfinal⟩
    obtain ⟨total, htotal⟩ := hstops.of_iterate
    obtain ⟨hleft, hend⟩ := htotal.iterate done
    refine ⟨total, htotal, ?_⟩
    rw [← hend, hleft.unique hstops, hfinal]
  · rintro ⟨total, htotal, hfinal⟩
    obtain ⟨hleft, hend⟩ := htotal.iterate done
    exact ⟨total - done, hleft, hend.trans hfinal⟩

theorem endsIn_foldl_advance_iff {machine final : Machine} (calls : List Advance) :
    (calls.foldl advance machine).EndsIn final ↔ machine.EndsIn final := by
  obtain ⟨done, hdone⟩ := exists_foldl_advance_eq_iterate calls machine
  rw [hdone, endsIn_iterate_iff]

/-- A run stops exactly when some number of cycles leaves the machine stopped, and ends after the
least such number, with the outcome of the last cycle and a count of the cycles that completed an
instruction. Cycles and bounded traces before it do not change where it ends. -/
theorem run_closes_step (machine : Machine) :
    ((∃ bound run, machine.run bound = some run) ↔
      ∃ count, (next^[count] machine).status ≠ .running) ∧
    (∀ bound run, machine.run bound = some run →
      ∃ count, machine.StopsAfter count ∧ run.machine = next^[count] machine ∧
        run.machine.cycles = machine.cycles + machine.completed count ∧
        (machine.status ≠ .running → count = 0 ∧ run.outcome = .ok 0) ∧
        (machine.status = .running → ∃ last, count = last + 1 ∧
          (((next^[last] machine).step.outcome = .ok none ∧
              run.outcome = .ok (machine.completed count)) ∨
            ∃ error, (next^[last] machine).step.outcome = .error error ∧
              run.outcome = .error error))) ∧
    ∀ (calls : List Advance) (final : Machine),
      (calls.foldl advance machine).EndsIn final ↔ machine.EndsIn final := by
  refine ⟨exists_run_iff, fun bound run hrun => ?_, fun calls final => endsIn_foldl_advance_iff calls⟩
  obtain ⟨count, hstops, hmachine, houtcome⟩ := run_eq_some hrun
  refine ⟨count, hstops, hmachine, by rw [hmachine, cycles_iterate_next], fun hstatus => ?_,
    fun hstatus => ?_⟩
  · obtain rfl := hstops.unique (stopsAfter_zero hstatus)
    rw [houtcome, outcomeAfter, Nat.sub_self]
    exact ⟨rfl, rfl⟩
  · cases count with
    | zero => exact absurd hstatus hstops.2
    | succ last =>
      refine ⟨last, rfl, ?_⟩
      rw [houtcome]
      exact outcomeAfter_succ hstops

/-- The jump and the fault of `faultAfterJump`, with a trace of two cycles in the middle of them. -/
theorem run_closes_step_faultAfterJump :
    ∃ run, (load faultAfterJump).run 2 = some run ∧
      run.machine.cycles = (load faultAfterJump).completed 2 ∧
      run.outcome = .error (.register (.outOfRange 5)) ∧
      ([.cycle, .trace 2, .cycle].foldl advance (load faultAfterJump)).EndsIn run.machine := by
  obtain ⟨run, hrun⟩ : ∃ run, (load faultAfterJump).run 2 = some run := ⟨_, rfl⟩
  obtain ⟨_, hends, hcut⟩ := run_closes_step (load faultAfterJump)
  obtain ⟨count, hstops, _, hcycles, _, houtcome⟩ := hends 2 run hrun
  have htwo : (load faultAfterJump).StopsAfter 2 := by
    refine ⟨?_, by decide⟩
    decide
  obtain rfl := hstops.unique htwo
  refine ⟨run, hrun, hcycles.trans (Nat.zero_add _), ?_, (hcut _ _).mpr ⟨2, run, hrun, rfl⟩⟩
  obtain ⟨last, hlast, ⟨hhalts, _⟩ | ⟨error, herror, hrunError⟩⟩ := houtcome rfl
  · obtain rfl : last = 1 := by omega
    cases hhalts
  · obtain rfl : last = 1 := by omega
    cases herror
    exact hrunError

end Machine

end FourReg
