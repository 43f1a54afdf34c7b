import FourReg.Proofs.Fault
import FourReg.Proofs.Refinement
import FourReg.Proofs.Stopping

/-!
# Programs without jumps

An instruction jumps only by a result that it stores in register 0. A program without such instructions is
gone through from its first instruction on: after `count` cycles the pointer is `count`, and register 0 is
one behind (`Arrived`). It can end in two ways. The first instruction that is not well-formed faults the
machine, at an address that the text of the program tells; no value in a register has a part in that. If
all are well-formed, the pointer leaves the program behind its last instruction, or behind the last one
that a pointer can address: the next word is negative and addresses none.
-/

namespace FourReg

theorem Word.wrap_natCast {value : Nat} (hvalue : value < 2 ^ 31) : wrap value = value :=
  Int.bmod_eq_of_le (by omega) (by omega)

/-- An instruction that does not jump: it has no known opcode, or it stores its result elsewhere than in
register 0. -/
def Instruction.Forward (instruction : Instruction) : Prop :=
  ¬ Opcode.IsOrdinal instruction.opcode ∨ instruction.c ≠ 0

instance : DecidablePred Instruction.Forward :=
  fun _ => inferInstanceAs (Decidable (_ ∨ _))

theorem Instruction.effect_zero {instruction : Instruction} (hforward : instruction.Forward)
    (r : Int → Int) : instruction.effect r 0 = r 0 := by
  unfold effect
  cases hresult : instruction.result? r with
  | none => rfl
  | some value =>
    have hc : instruction.c ≠ 0 := by
      rcases hforward with hunknown | hc
      · rw [result?_of_unknown r (Opcode.ofOrdinal?_eq_none_iff.mpr hunknown)] at hresult
        cases hresult
      · exact hc
    apply Function.update_of_ne
    intro hzero
    exact hc (Int32.toInt_inj.mp hzero.symm)

namespace Program

def Forward (program : Program) : Prop :=
  ∀ instruction ∈ program.instructions, instruction.Forward

instance : DecidablePred Forward :=
  fun program => inferInstanceAs
    (Decidable (∀ instruction ∈ program.instructions, instruction.Forward))

/-- The number of instructions that a pointer can address. -/
def reach (program : Program) : Nat :=
  min program.size (2 ^ 31)

/-- The first `count` instructions are well-formed. -/
def WellFormedBelow (program : Program) (count : Nat) : Prop :=
  ∀ k < count, ∀ instruction, program.instructions[k]? = some instruction → instruction.WellFormed

theorem fetch?_of_toInt_eq (program : Program) {address : Word} {k : Nat}
    (haddress : address.toInt = k) : program.fetch? address = program.instructions[k]? := by
  rw [fetch?, haddress, if_pos (by omega), Int.toNat_natCast]

theorem fetch?_of_toInt_eq_wrap_reach {program : Program} {address : Word}
    (haddress : address.toInt = Word.wrap program.reach) : program.fetch? address = none := by
  rcases Nat.lt_or_ge program.size (2 ^ 31) with hsmall | hlarge
  · have hreach : program.reach = program.size := min_eq_left hsmall.le
    rw [hreach, Word.wrap_natCast hsmall] at haddress
    rw [fetch?_of_toInt_eq program haddress]
    exact Array.getElem?_eq_none le_rfl
  -- The program goes on there, but the pointer has wrapped to the least word.
  · have hreach : program.reach = 2 ^ 31 := min_eq_right hlarge
    have hnegative : Word.wrap (2 ^ 31 : Nat) = -2 ^ 31 := by decide
    rw [hreach, hnegative] at haddress
    rw [fetch?, haddress, if_neg (by decide)]

theorem WellFormed.below {program : Program} (hwell : program.WellFormed) (count : Nat) :
    program.WellFormedBelow count :=
  fun _ _ instruction hget => hwell instruction (Array.mem_of_getElem? hget)

/-- Either the first `count` instructions are well-formed, or one of them is the first that is not. -/
theorem wellFormedBelow_or_exists_first (program : Program) (count : Nat) :
    program.WellFormedBelow count ∨
      ∃ k < count, ∃ instruction, program.instructions[k]? = some instruction ∧
        ¬ instruction.WellFormed ∧ program.WellFormedBelow k := by
  induction count with
  | zero => exact Or.inl fun k hk => absurd hk (Nat.not_lt_zero k)
  | succ count ih =>
    rcases ih with hbelow | ⟨k, hk, hfirst⟩
    · by_cases hlast : ∀ instruction, program.instructions[count]? = some instruction →
          instruction.WellFormed
      · refine Or.inl fun k hk => ?_
        rcases Nat.lt_succ_iff_lt_or_eq.mp hk with hlt | rfl
        · exact hbelow k hlt
        · exact hlast
      · push Not at hlast
        obtain ⟨instruction, hget, hnot⟩ := hlast
        exact Or.inr ⟨count, Nat.lt_succ_self count, instruction, hget, hnot, hbelow⟩
    · exact Or.inr ⟨k, Nat.lt_succ_of_lt hk, hfirst⟩

end Program

namespace Machine

/-- A machine that has completed the first `count` instructions of a program, one after the other. -/
structure Arrived (program : Program) (count : Nat) (machine : Machine) : Prop where
  program_eq : machine.program = program
  status_eq : machine.status = .running
  ip_eq : machine.ip.toInt = Word.wrap count
  cycles_eq : machine.cycles = count
  pointer_eq : 0 < count → machine.registers.values 0 = count - 1

variable {program : Program}

theorem arrived_load (program : Program) : Arrived program 0 (load program) where
  program_eq := rfl
  status_eq := rfl
  ip_eq := rfl
  cycles_eq := rfl
  pointer_eq hcount := absurd hcount (Nat.lt_irrefl 0)

theorem Arrived.ip_eq_count {count : Nat} {machine : Machine} (harrived : Arrived program count machine)
    (hcount : count < program.reach) : machine.ip.toInt = count := by
  rw [harrived.ip_eq, Word.wrap_natCast (lt_min_iff.mp hcount).2]

theorem Arrived.fetch?_eq {count : Nat} {machine : Machine} (harrived : Arrived program count machine)
    (hcount : count < program.reach) :
    machine.program.fetch? machine.ip = program.instructions[count]? := by
  rw [harrived.program_eq, program.fetch?_of_toInt_eq (harrived.ip_eq_count hcount)]

theorem Arrived.next {count : Nat} {machine : Machine} (harrived : Arrived program count machine)
    (hforward : program.Forward) (hcount : count < program.reach) {instruction : Instruction}
    (hget : program.instructions[count]? = some instruction) (hwell : instruction.WellFormed) :
    Arrived program (count + 1) machine.next := by
  have hfetch := (harrived.fetch?_eq hcount).trans hget
  obtain ⟨after, _, hmachine, hvalues⟩ := step_of_wellFormed harrived.status_eq hfetch hwell
  have hpointer : after.values 0 = count := by
    rw [hvalues, Instruction.effect_zero (hforward instruction (Array.mem_of_getElem? hget)),
      Function.update_self, harrived.ip_eq_count hcount]
  rw [Machine.next, hmachine]
  exact {
    program_eq := harrived.program_eq
    status_eq := harrived.status_eq
    ip_eq := by
      rw [Int32.toInt_add, ← Registers.values_pointer, hpointer]
      rfl
    cycles_eq := congrArg (· + 1) harrived.cycles_eq
    pointer_eq := fun _ => by
      rw [hpointer]
      push_cast
      omega }

theorem arrived_iterate (hforward : program.Forward) {count : Nat} (hcount : count ≤ program.reach)
    (hbelow : program.WellFormedBelow count) :
    Arrived program count (Machine.next^[count] (load program)) := by
  induction count with
  | zero => exact arrived_load program
  | succ count ih =>
    have hlt : count < program.instructions.size := (lt_min_iff.mp hcount).1
    have hget := Array.getElem?_eq_getElem hlt
    rw [Function.iterate_succ_apply']
    refine (ih (by omega) fun k hk => hbelow k (by omega)).next hforward hcount hget ?_
    exact hbelow count (Nat.lt_succ_self count) _ hget

/-! ### The two ends -/

theorem stopsAfter_of_forward (hforward : program.Forward) {last : Nat} (hlast : last ≤ program.reach)
    (hbelow : program.WellFormedBelow last)
    (hstopped : (next^[last] (load program)).step.machine.status ≠ .running) :
    (load program).StopsAfter (last + 1) := by
  refine ⟨fun earlier hearlier => ?_, ?_⟩
  · have hbefore : program.WellFormedBelow earlier := fun k hk => hbelow k (by omega)
    exact (arrived_iterate hforward (by omega) hbefore).status_eq
  · rw [Function.iterate_succ_apply']
    exact hstopped

/-- Behind the last instruction that a pointer can address the machine halts. -/
theorem Arrived.halts {machine : Machine} (harrived : Arrived program program.reach machine) :
    machine.step.outcome = .ok none ∧ machine.step.machine = { machine with status := .halted } := by
  apply step_of_outside harrived.status_eq
  rw [harrived.program_eq]
  exact Program.fetch?_of_toInt_eq_wrap_reach harrived.ip_eq

theorem Arrived.faults {count : Nat} {machine : Machine} (harrived : Arrived program count machine)
    (hcount : count < program.reach) {instruction : Instruction} {index : Word}
    (hget : program.instructions[count]? = some instruction)
    (hoffending : instruction.offending? = some index) :
    machine.step.outcome = .error (.register (.outOfRange index)) ∧
      machine.step.machine = { machine with
        registers := machine.registers.setPointer machine.ip, status := .faulted } :=
  step_of_offending harrived.status_eq ((harrived.fetch?_eq hcount).trans hget) hoffending

theorem stopsAfter_of_wellFormedBelow (hforward : program.Forward)
    (hbelow : program.WellFormedBelow program.reach) :
    (load program).StopsAfter (program.reach + 1) := by
  apply stopsAfter_of_forward hforward le_rfl hbelow
  rw [(arrived_iterate hforward le_rfl hbelow).halts.2]
  exact Status.noConfusion

theorem stopsAfter_of_first (hforward : program.Forward) {k : Nat} (hk : k < program.reach)
    {instruction : Instruction} (hget : program.instructions[k]? = some instruction)
    (hnot : ¬ instruction.WellFormed) (hbelow : program.WellFormedBelow k) :
    (load program).StopsAfter (k + 1) := by
  obtain ⟨index, hoffending⟩ := Instruction.exists_offending?_iff.mpr hnot
  apply stopsAfter_of_forward hforward hk.le hbelow
  rw [((arrived_iterate hforward hk.le hbelow).faults hk hget hoffending).2]
  exact Status.noConfusion

theorem exists_stopsAfter_of_forward (hforward : program.Forward) :
    ∃ count, (load program).StopsAfter count := by
  rcases program.wellFormedBelow_or_exists_first program.reach with hbelow | hfirst
  · exact ⟨_, stopsAfter_of_wellFormedBelow hforward hbelow⟩
  · obtain ⟨k, hk, instruction, hget, hnot, hbelow⟩ := hfirst
    exact ⟨_, stopsAfter_of_first hforward hk hget hnot hbelow⟩

theorem exists_run_of_forward (hforward : program.Forward) :
    ∃ bound run, (load program).run bound = some run := by
  obtain ⟨count, hstops⟩ := exists_stopsAfter_of_forward hforward
  exact ⟨count, exists_run_eq_some hstops le_rfl⟩

section Run

variable {bound : Nat} {run : Run}

theorem run_of_wellFormedBelow (hforward : program.Forward)
    (hbelow : program.WellFormedBelow program.reach) (hrun : (load program).run bound = some run) :
    run.outcome = .ok program.reach ∧
      run.machine = { next^[program.reach] (load program) with status := .halted } := by
  have harrived := arrived_iterate hforward le_rfl hbelow
  obtain ⟨hnone, hhalted⟩ := harrived.halts
  obtain ⟨hmachine, houtcome⟩ := (stopsAfter_of_wellFormedBelow hforward hbelow).run_eq hrun
  rw [outcomeAfter, hnone, Function.iterate_succ_apply', next, hhalted] at houtcome
  rw [Function.iterate_succ_apply', next, hhalted] at hmachine
  refine ⟨?_, hmachine⟩
  rw [houtcome]
  exact congrArg Except.ok harrived.cycles_eq

theorem run_of_first (hforward : program.Forward) {k : Nat} (hk : k < program.reach)
    {instruction : Instruction} (hget : program.instructions[k]? = some instruction)
    (hnot : ¬ instruction.WellFormed) (hbelow : program.WellFormedBelow k)
    (hrun : (load program).run bound = some run) :
    ∃ index, instruction.offending? = some index ∧
      run.outcome = .error (.register (.outOfRange index)) ∧
      let last := next^[k] (load program)
      run.machine = { last with
        registers := last.registers.setPointer last.ip, status := .faulted } := by
  obtain ⟨index, hoffending⟩ := Instruction.exists_offending?_iff.mpr hnot
  obtain ⟨herror, hfaulted⟩ :=
    (arrived_iterate hforward hk.le hbelow).faults hk hget hoffending
  obtain ⟨hmachine, houtcome⟩ := (stopsAfter_of_first hforward hk hget hnot hbelow).run_eq hrun
  rw [Function.iterate_succ_apply', next, hfaulted] at hmachine
  refine ⟨index, hoffending, ?_, hmachine⟩
  rw [houtcome, outcomeAfter_succ_eq_error_iff, herror]

end Run

/-- A program without jumps always stops. It faults on its first instruction that is not well-formed,
before it has moved on from there. Without such an instruction it completes all that a pointer can
address, and halts behind them. -/
theorem forward_stops_in_order (hforward : program.Forward) :
    (∃ bound run, (load program).run bound = some run) ∧
    ∀ bound run, (load program).run bound = some run →
      (∀ k < program.reach, ∀ instruction, program.instructions[k]? = some instruction →
        ¬ instruction.WellFormed → program.WellFormedBelow k →
          ∃ index, instruction.offending? = some index ∧
            run.outcome = .error (.register (.outOfRange index)) ∧
            run.machine.status = .faulted ∧ run.machine.cycles = k ∧ run.machine.ip.toInt = k ∧
            run.machine.registers.values 0 = k) ∧
      (program.WellFormedBelow program.reach →
        run.outcome = .ok program.reach ∧ run.machine.status = .halted ∧
        run.machine.cycles = program.reach ∧ run.machine.ip.toInt = Word.wrap program.reach ∧
        (0 < program.reach → run.machine.registers.values 0 = program.reach - 1)) := by
  refine ⟨exists_run_of_forward hforward, fun bound run hrun => ⟨?_, fun hbelow => ?_⟩⟩
  · intro k hk instruction hget hnot hbelow
    obtain ⟨index, hoffending, houtcome, hmachine⟩ :=
      run_of_first hforward hk hget hnot hbelow hrun
    have harrived := arrived_iterate hforward hk.le hbelow
    have hip := harrived.ip_eq_count hk
    refine ⟨index, hoffending, houtcome, ?_⟩
    rw [hmachine]
    refine ⟨rfl, harrived.cycles_eq, hip, ?_⟩
    rw [Registers.values_setPointer, Function.update_self, hip]
  · obtain ⟨houtcome, hmachine⟩ := run_of_wellFormedBelow hforward hbelow hrun
    have harrived := arrived_iterate hforward le_rfl hbelow
    rw [hmachine]
    exact ⟨houtcome, rfl, harrived.cycles_eq, harrived.ip_eq, harrived.pointer_eq⟩

/-- A fault in front of another one, and a product that is out of the range of words. -/
theorem forward_stops_in_order_at :
    let faulting : Program := ⟨#[⟨5, 0, 0, 1⟩, ⟨12, 9, 9, 0⟩, ⟨0, 1, -1, 2⟩, ⟨0, 4, 0, 1⟩]⟩
    let halting : Program := ⟨#[⟨4, 0, 2147483647, 1⟩, ⟨2, 1, 1, 2⟩]⟩
    (∃ bound run, (load faulting).run bound = some run ∧
      run.outcome = .error (.register (.outOfRange (-1))) ∧ run.machine.registers.values 0 = 2) ∧
    ∃ bound run, (load halting).run bound = some run ∧ run.outcome = .ok 2 ∧
      run.machine.registers.values 0 = 1 := by
  intro faulting halting
  have hreachFaulting : faulting.reach = 4 := min_eq_left (by decide)
  have hreachHalting : halting.reach = 2 := min_eq_left (by decide)
  have hbelow : faulting.WellFormedBelow 2 := by
    intro k hk instruction hget
    obtain rfl | rfl : k = 0 ∨ k = 1 := by omega
    · cases hget
      decide
    · cases hget
      decide
  have hwell : halting.WellFormed := by decide
  constructor
  · obtain ⟨⟨bound, run, hrun⟩, hends⟩ :=
      forward_stops_in_order (show faulting.Forward by decide)
    obtain ⟨index, hoffending, houtcome, _, _, _, hpointer⟩ := (hends bound run hrun).1 2
      (by rw [hreachFaulting]; decide) ⟨0, 1, -1, 2⟩ rfl (by decide) hbelow
    cases hoffending
    exact ⟨bound, run, hrun, houtcome, hpointer⟩
  · obtain ⟨⟨bound, run, hrun⟩, hends⟩ :=
      forward_stops_in_order (show halting.Forward by decide)
    obtain ⟨hcount, _, _, _, hlast⟩ := (hends bound run hrun).2 (hwell.below _)
    rw [hreachHalting] at hcount hlast
    exact ⟨bound, run, hrun, hcount, hlast Nat.zero_lt_two⟩

end Machine

end FourReg
