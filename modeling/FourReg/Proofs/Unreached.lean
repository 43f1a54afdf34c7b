import FourReg.Proofs.Executions
import FourReg.Proofs.Repetition

/-!
# Code that is not reached

Of its program a cycle sees one instruction, the one at the pointer, and a machine that has stopped sees
none. So a machine may have its program exchanged for another one (`Machine.withProgram`): it goes on in
the same way as long as the two hold the same wherever its pointer gets to. Where that is cannot be told
from the text of a program, which computes its own jumps; the condition is one on the cycles that are made.

Code that is appended to a program is not seen before the pointer is among its addresses. All cycles of a
run but the one that halts have fetched an instruction of the program itself, so of a run that ends only
the final pointer has to be looked at.
-/

namespace FourReg

namespace Program

/-- The program with more code behind its last instruction. -/
def append (program : Program) (code : Array Instruction) : Program :=
  ⟨program.instructions ++ code⟩

/-- The addresses that `code` has behind a program. -/
def Appended (program : Program) (code : Array Instruction) (address : Word) : Prop :=
  (program.size : Int) ≤ address.toInt ∧ address.toInt < program.size + code.size

instance (program : Program) (code : Array Instruction) : DecidablePred (program.Appended code) :=
  fun _ => inferInstanceAs (Decidable (_ ∧ _))

theorem fetch?_append {program : Program} {code : Array Instruction} {address : Word}
    (houtside : ¬ program.Appended code address) :
    (program.append code).fetch? address = program.fetch? address := by
  unfold fetch?
  by_cases hlower : 0 ≤ address.toInt
  · rw [if_pos hlower, if_pos hlower]
    by_cases hinside : address.toInt.toNat < program.instructions.size
    · exact Array.getElem?_append_left hinside
    · have hbehind : (program.append code).instructions.size ≤ address.toInt.toNat := by
        unfold Appended size at houtside
        rw [append, Array.size_append]
        omega
      rw [Array.getElem?_eq_none hbehind, Array.getElem?_eq_none (not_lt.mp hinside)]
  · rw [if_neg hlower, if_neg hlower]

theorem not_appended_of_fetch? {program : Program} {address : Word} {instruction : Instruction}
    (hfetch : program.fetch? address = some instruction) (code : Array Instruction) :
    ¬ program.Appended code address := by
  obtain ⟨hlower, hupper⟩ := lt_size_of_fetch? (Option.isSome_of_eq_some hfetch)
  unfold Appended
  omega

end Program

namespace Machine

/-- The machine with another program in place of its own. -/
def withProgram (machine : Machine) (program : Program) : Machine :=
  { machine with program }

/-- The next cycle finds the same in `program` as in the machine's own one. -/
def SeesSame (machine : Machine) (program : Program) : Prop :=
  machine.status = .running → machine.program.fetch? machine.ip = program.fetch? machine.ip

variable {machine : Machine} {program : Program}

theorem step_withProgram (hsame : machine.SeesSame program) :
    (machine.withProgram program).step.outcome = machine.step.outcome ∧
      (machine.withProgram program).next = machine.next.withProgram program := by
  have hcycle := machine.step_cycle
  unfold next
  generalize machine.step = step at hcycle
  cases hcycle with
  | refused hstopped =>
    have hother : (machine.withProgram program).status ≠ .running := hstopped
    rw [step_of_stopped hother]
    exact ⟨rfl, rfl⟩
  | halts hstatus hfetch =>
    rw [hsame hstatus] at hfetch
    have hother : Cycle (machine.withProgram program) _ := .halts hstatus hfetch
    rw [hother.step_eq]
    exact ⟨rfl, rfl⟩
  | faults hstatus hfetch hexecute =>
    rw [hsame hstatus] at hfetch
    have hother : Cycle (machine.withProgram program) _ := .faults hstatus hfetch hexecute
    rw [hother.step_eq]
    exact ⟨rfl, rfl⟩
  | completes hstatus hfetch hexecute =>
    rw [hsame hstatus] at hfetch
    have hother : Cycle (machine.withProgram program) _ := .completes hstatus hfetch hexecute
    rw [hother.step_eq]
    exact ⟨rfl, rfl⟩

theorem iterate_withProgram {count : Nat} (hsame : ∀ k < count, (next^[k] machine).SeesSame program) :
    next^[count] (machine.withProgram program) = (next^[count] machine).withProgram program := by
  induction count with
  | zero => rfl
  | succ count ih =>
    have hbefore := ih fun k hk => hsame k (by omega)
    rw [Function.iterate_succ_apply', Function.iterate_succ_apply', hbefore]
    exact (step_withProgram (hsame count (Nat.lt_succ_self count))).2

theorem outcome_withProgram {count : Nat} (hsame : ∀ k ≤ count, (next^[k] machine).SeesSame program) :
    (next^[count] (machine.withProgram program)).step.outcome = (next^[count] machine).step.outcome := by
  rw [iterate_withProgram fun k hk => hsame k hk.le]
  exact (step_withProgram (hsame count le_rfl)).1

/-- A run that sees the same in both programs ends alike, within the same bound. -/
theorem run_withProgram (hsame : ∀ k, (next^[k] machine).SeesSame program) {bound : Nat} {run : Run}
    (hrun : machine.run bound = some run) :
    ∃ other, (machine.withProgram program).run bound = some other ∧ other.outcome = run.outcome ∧
      other.machine = run.machine.withProgram program := by
  obtain ⟨count, hstops, hmachine, houtcome⟩ := run_eq_some hrun
  have hiterate (k : Nat) :
      next^[k] (machine.withProgram program) = (next^[k] machine).withProgram program :=
    iterate_withProgram fun earlier _ => hsame earlier
  have hstopsOther : (machine.withProgram program).StopsAfter count := by
    unfold StopsAfter
    simp only [hiterate]
    exact hstops
  obtain ⟨other, hother⟩ := exists_run_eq_some hstopsOther (hstops.le_of_runLoop hrun)
  obtain ⟨hmachineOther, houtcomeOther⟩ := hstopsOther.run_eq hother
  refine ⟨other, hother, ?_, ?_⟩
  · rw [houtcomeOther, houtcome]
    cases count with
    | zero => rfl
    | succ count =>
      rw [outcomeAfter, outcomeAfter, outcome_withProgram fun k _ => hsame k, hiterate]
      rfl
  · rw [hmachineOther, hmachine, hiterate]

/-! ### Code behind the program -/

/-- A run whose final pointer is not among appended code has not been there before. A run that faults
has found the instruction at its final pointer in the program itself. -/
theorem not_appended_of_run {bound : Nat} {run : Run} (hstatus : machine.status = .running)
    (hrun : machine.run bound = some run) {code : Array Instruction}
    (hend : run.machine.status = .faulted ∨ ¬ machine.program.Appended code run.machine.ip) {k : Nat}
    (hrunning : (next^[k] machine).status = .running) :
    ¬ machine.program.Appended code (next^[k] machine).ip := by
  obtain ⟨last, hstops, hending⟩ := run_ending hstatus hrun
  have hle : k ≤ last := by
    by_contra hnot
    rw [hstops.iterate_of_le (by omega)] at hrunning
    exact hstops.2 hrunning
  rcases Nat.lt_or_eq_of_le hle with hlt | rfl
  · obtain ⟨instruction, hfetch, _⟩ := hstops.exists_wellFormed hlt
    exact Program.not_appended_of_fetch? hfetch code
  · cases hending with
    | halts hfetch houtcome hmachine =>
      rw [hmachine] at hend
      exact hend.resolve_left (by simp)
    | faults hfetch hoffending houtcome hmachine => exact Program.not_appended_of_fetch? hfetch code

/-- The first `count` cycles of two programs have the same outcomes, and they lead to machines that differ
in nothing but the program. -/
def AgreeFor (program other : Program) (count : Nat) : Prop :=
  next^[count] (load other) = (next^[count] (load program)).withProgram other ∧
    ∀ k < count, (next^[k] (load other)).step.outcome = (next^[k] (load program)).step.outcome

theorem agreeFor_of_seesSame {other : Program} {count : Nat}
    (hsame : ∀ k < count, (next^[k] (load program)).SeesSame other) : AgreeFor program other count :=
  ⟨iterate_withProgram hsame, fun _ hk => outcome_withProgram fun earlier hle =>
    hsame earlier (by omega)⟩

/-- Two programs make the same cycles as long as they hold the same at each pointer from which a running
machine goes on. So appended code changes nothing before the pointer is among its addresses, and a run
that faults, or halts elsewhere, ends with it as it does without. -/
theorem cycles_see_only_fetched (program other : Program) (code : Array Instruction) :
    (∀ count,
      (∀ k < count, (next^[k] (load program)).status = .running →
        program.fetch? (next^[k] (load program)).ip = other.fetch? (next^[k] (load program)).ip) →
      AgreeFor program other count) ∧
    (∀ count,
      (∀ k < count, (next^[k] (load program)).status = .running →
        ¬ program.Appended code (next^[k] (load program)).ip) →
      AgreeFor program (program.append code) count) ∧
    ∀ bound run, (load program).run bound = some run →
      run.machine.status = .faulted ∨ ¬ program.Appended code run.machine.ip →
      ∃ longer, (load (program.append code)).run bound = some longer ∧ longer.outcome = run.outcome ∧
        longer.machine = run.machine.withProgram (program.append code) := by
  have hprogram (k : Nat) : (next^[k] (load program)).program = program :=
    program_iterate_next (load program) k
  have happend {k : Nat} (houtside : (next^[k] (load program)).status = .running →
      ¬ program.Appended code (next^[k] (load program)).ip) :
      (next^[k] (load program)).SeesSame (program.append code) := by
    intro hstatus
    rw [hprogram, Program.fetch?_append (houtside hstatus)]
  refine ⟨fun count hsame => agreeFor_of_seesSame fun k hk hstatus => ?_,
    fun count houtside => agreeFor_of_seesSame fun k hk => happend (houtside k hk),
    fun bound run hrun hend => run_withProgram (fun k => happend fun hrunning => ?_) hrun⟩
  · rw [hprogram]
    exact hsame k hk hstatus
  · exact not_appended_of_run rfl hrun hend hrunning

/-- Two programs that differ in an instruction that is jumped over, and appended code behind a run that
faults and behind one that halts at a negative address. -/
theorem cycles_see_only_fetched_faultAfterJump :
    let other : Program := ⟨#[⟨1, 0, 1, 0⟩, ⟨12, 7, 7, 7⟩, ⟨0, 0, 5, 1⟩, ⟨4, 0, 0, 9⟩]⟩
    let jumping : Program := ⟨#[⟨4, 0, -5, 0⟩]⟩
    let code : Array Instruction := #[⟨0, 9, 9, 9⟩, ⟨4, 0, 0, 0⟩]
    (next^[2] (load other)).status = .faulted ∧ (next^[2] (load other)).registers = .ofWords 2 0 0 0 ∧
      AgreeFor faultAfterJump (faultAfterJump.append code) 2 ∧
      (∃ longer, (load (faultAfterJump.append code)).run 2 = some longer ∧
        longer.outcome = .error (.register (.outOfRange 5))) ∧
      ∃ longer, (load (jumping.append code)).run 2 = some longer ∧ longer.outcome = .ok 1 ∧
        longer.machine.ip = -4 := by
  intro other jumping code
  obtain ⟨hother, happend, hfaults⟩ := cycles_see_only_fetched faultAfterJump other code
  obtain ⟨_, _, hhalts⟩ := cycles_see_only_fetched jumping jumping code
  have hagree : AgreeFor faultAfterJump other 2 := hother 2 (by decide)
  obtain ⟨run, hrun, houtcome, hstatus⟩ : ∃ run, (load faultAfterJump).run 2 = some run ∧
      run.outcome = .error (.register (.outOfRange 5)) ∧ run.machine.status = .faulted :=
    ⟨_, rfl, rfl, rfl⟩
  obtain ⟨halted, hhalted, hcount, hip⟩ : ∃ halted, (load jumping).run 2 = some halted ∧
      halted.outcome = .ok 1 ∧ halted.machine.ip = -4 := ⟨_, rfl, rfl, rfl⟩
  obtain ⟨longer, hlonger, hsame, _⟩ := hfaults 2 run hrun (Or.inl hstatus)
  obtain ⟨negative, hnegative, hsameCount, hmachine⟩ :=
    hhalts 2 halted hhalted (Or.inr (by rw [hip]; decide))
  refine ⟨?_, ?_, happend 2 (by decide), ⟨longer, hlonger, hsame.trans houtcome⟩,
    ⟨negative, hnegative, hsameCount.trans hcount, ?_⟩⟩
  · rw [hagree.1]
    decide
  · rw [hagree.1]
    decide
  · rw [hmachine]
    exact hip

end Machine

end FourReg
