import FourReg.Proofs.Independence
import Mathlib.Data.Finset.Prod
import Mathlib.Data.Nat.Count

/-!
# Repeated configurations

A machine that is running twice with the same configuration runs forever: what it does between the two
times it does again, since nothing else than the configuration decides it. And a machine whose
configurations are all different stops, because there are only so many. Each instruction is executed
with the pointer inside the program, and three registers of 32 bits are left to tell cycles apart, so
at most `size * 2 ^ 96` instructions are executed.
-/

namespace FourReg

theorem Program.lt_size_of_fetch? {program : Program} {address : Word}
    (hfetch : (program.fetch? address).isSome) :
    0 ≤ address.toInt ∧ address.toInt.toNat < program.size := by
  unfold fetch? at hfetch
  split at hfetch
  · rename_i hlower
    exact ⟨hlower, by simpa [size] using hfetch⟩
  · cases hfetch

namespace Configuration

/-- A configuration as four numbers, of which the first is an address. -/
def code (configuration : Configuration) : Nat × Nat × Nat × Nat :=
  (configuration.ip.toInt.toNat, configuration.r1.toBitVec.toNat, configuration.r2.toBitVec.toNat,
    configuration.r3.toBitVec.toNat)

/-- An address that is not negative is told by its number. -/
theorem eq_of_code_eq {first second : Configuration} (hfirst : 0 ≤ first.ip.toInt)
    (hsecond : 0 ≤ second.ip.toInt) (hcode : first.code = second.code) : first = second := by
  simp only [code, Prod.mk.injEq, BitVec.toNat_inj, Int32.toBitVec_inj] at hcode
  obtain ⟨hip, h1, h2, h3⟩ := hcode
  have hsame : first.ip = second.ip := Int32.toInt_inj.mp (by omega)
  exact Configuration.ext hsame h1 h2 h3

theorem code_mem {configuration : Configuration} {size : Nat}
    (hip : configuration.ip.toInt.toNat < size) :
    configuration.code ∈ Finset.range size ×ˢ Finset.range (2 ^ 32) ×ˢ Finset.range (2 ^ 32) ×ˢ
      Finset.range (2 ^ 32) := by
  simp only [code, Finset.mem_product, Finset.mem_range]
  exact ⟨hip, configuration.r1.toBitVec.isLt, configuration.r2.toBitVec.isLt,
    configuration.r3.toBitVec.isLt⟩

end Configuration

namespace Machine

theorem fetches_of_completes {machine : Machine} (hcompletes : machine.step.completes = true) :
    machine.Fetches := by
  have hcycle := machine.step_cycle
  generalize machine.step = step at hcycle hcompletes
  cases hcycle with
  | refused | halts | faults => cases hcompletes
  | completes hstatus hfetch => exact ⟨hstatus, by rw [hfetch]; rfl⟩

/-- A machine that goes on running has an instruction to execute. -/
theorem fetches_of_running {machine : Machine} (hstatus : machine.status = .running)
    (hnext : machine.next.status = .running) : machine.Fetches := by
  obtain ⟨instruction, hfetch, _⟩ := exists_wellFormed_of_running hstatus hnext
  exact ⟨hstatus, by rw [hfetch]; rfl⟩

/-- How many of the first `count` cycles execute an instruction, also if it goes wrong. -/
def executed (machine : Machine) (count : Nat) : Nat :=
  Nat.count (fun earlier => (next^[earlier] machine).Fetches) count

theorem completed_le_executed (machine : Machine) (count : Nat) :
    machine.completed count ≤ machine.executed count := by
  unfold executed
  induction count with
  | zero => exact Nat.zero_le _
  | succ count ih =>
    rw [completed_succ, Nat.count_succ]
    by_cases hcompletes : (next^[count] machine).step.completes = true
    · rw [if_pos hcompletes, if_pos (fetches_of_completes hcompletes)]
      omega
    · rw [if_neg hcompletes]
      exact Nat.le_add_right_of_le ih

/-- As long as a machine is running every cycle executes an instruction. -/
theorem executed_of_running {machine : Machine}
    (hrunning : ∀ count, (next^[count] machine).status = .running) (count : Nat) :
    machine.executed count = count := by
  apply Nat.count_of_forall
  intro earlier _
  have hnext := hrunning (earlier + 1)
  rw [Function.iterate_succ_apply'] at hnext
  exact fetches_of_running (hrunning earlier) hnext

/-- A machine is running with the same configuration after two different numbers of cycles. -/
def Repeats (machine : Machine) : Prop :=
  ∃ earlier later, earlier < later ∧ (next^[earlier] machine).status = .running ∧
    (next^[later] machine).status = .running ∧
    (next^[earlier] machine).configuration = (next^[later] machine).configuration

/-- If a machine stopped in spite of a repetition, it would have stopped before, as many cycles earlier
as lie between the two times. -/
theorem Repeats.not_stopsAfter {machine : Machine} (hrepeats : machine.Repeats) (count : Nat) :
    ¬ machine.StopsAfter count := by
  intro hstops
  obtain ⟨earlier, later, hlt, hearlier, hlater, hconfiguration⟩ := hrepeats
  have hbefore : later < count := by
    by_contra hnot
    rw [hstops.iterate_of_le (not_lt.mp hnot)] at hlater
    exact hstops.2 hlater
  have hcourse : SameCourse (next^[earlier] machine) (next^[later] machine) := by
    refine ⟨?_, hearlier.trans hlater.symm, hconfiguration⟩
    rw [program_iterate_next, program_iterate_next]
  have hstatus := (hcourse.iterate (count - later)).status_eq
  rw [← Function.iterate_add_apply, ← Function.iterate_add_apply,
    Nat.sub_add_cancel hbefore.le] at hstatus
  exact hstops.2 (hstatus.symm.trans (hstops.1 _ (by omega)))

/-- The configurations from which a machine executes instructions have different codes if it does not
repeat itself. -/
theorem injOn_code_of_not_repeats {machine : Machine} (hnot : ¬ machine.Repeats) :
    Set.InjOn (fun k => (next^[k] machine).configuration.code)
      {k | (next^[k] machine).Fetches} := by
  have hne {earlier later : Nat} (hearlier : (next^[earlier] machine).Fetches)
      (hlater : (next^[later] machine).Fetches) (hlt : earlier < later) :
      (next^[earlier] machine).configuration.code ≠ (next^[later] machine).configuration.code := by
    intro hcode
    have hsame := Configuration.eq_of_code_eq (Program.lt_size_of_fetch? hearlier.2).1
      (Program.lt_size_of_fetch? hlater.2).1 hcode
    exact hnot ⟨earlier, later, hlt, hearlier.1, hlater.1, hsame⟩
  intro first hfirst second hsecond hcode
  rcases Nat.lt_trichotomy first second with hlt | heq | hlt
  · exact absurd hcode (hne hfirst hsecond hlt)
  · exact heq
  · exact absurd hcode.symm (hne hsecond hfirst hlt)

/-- A machine that does not repeat itself executes no more instructions than there are codes. -/
theorem executed_le_of_not_repeats {machine : Machine} (hnot : ¬ machine.Repeats) (count : Nat) :
    machine.executed count ≤ machine.program.size * 2 ^ 96 := by
  let executing := (Finset.range count).filter fun k => (next^[k] machine).Fetches
  let codes := Finset.range machine.program.size ×ˢ Finset.range (2 ^ 32) ×ˢ
    Finset.range (2 ^ 32) ×ˢ Finset.range (2 ^ 32)
  have hfetches : ∀ k ∈ executing, (next^[k] machine).Fetches :=
    fun k hk => (Finset.mem_filter.mp hk).2
  have hmaps : ∀ k ∈ executing, (next^[k] machine).configuration.code ∈ codes := by
    intro k hk
    apply Configuration.code_mem
    rw [← program_iterate_next machine k]
    exact (Program.lt_size_of_fetch? (hfetches k hk).2).2
  calc machine.executed count = executing.card := Nat.count_eq_card_filter_range _ count
    _ ≤ codes.card :=
      Finset.card_le_card_of_injOn _ hmaps ((injOn_code_of_not_repeats hnot).mono hfetches)
    _ = machine.program.size * 2 ^ 96 := by
      simp only [codes, Finset.card_product, Finset.card_range, ← pow_add]

/-- A machine stops exactly when it is never running twice with the same configuration, and if it
stops it executes, and so completes, no more instructions than its program has, times `2 ^ 96`. -/
theorem stops_iff_configurations_differ (machine : Machine) :
    ((∃ count, (next^[count] machine).status ≠ .running) ↔
      ¬ ∃ earlier later, earlier < later ∧ (next^[earlier] machine).status = .running ∧
        (next^[later] machine).status = .running ∧
        (next^[earlier] machine).configuration = (next^[later] machine).configuration) ∧
    ∀ count, machine.StopsAfter count →
      machine.completed count ≤ machine.executed count ∧
      machine.executed count ≤ machine.program.size * 2 ^ 96 := by
  have hstops : (∃ count, machine.StopsAfter count) → ¬ machine.Repeats :=
    fun ⟨count, hstops⟩ hrepeats => hrepeats.not_stopsAfter count hstops
  rw [← exists_stopsAfter_iff]
  refine ⟨⟨hstops, fun hnot => ?_⟩, fun count hcount => ?_⟩
  · by_contra hnever
    rw [exists_stopsAfter_iff] at hnever
    have hrunning : ∀ count, (next^[count] machine).status = .running :=
      fun count => not_not.mp fun hstopped => hnever ⟨count, hstopped⟩
    have hle := executed_le_of_not_repeats hnot (machine.program.size * 2 ^ 96 + 1)
    rw [executed_of_running hrunning] at hle
    omega
  · have hle := executed_le_of_not_repeats (hstops ⟨count, hcount⟩) count
    exact ⟨machine.completed_le_executed count, hle⟩

/-- An instruction that jumps to itself, and a program that stops in its second cycle. -/
theorem stops_iff_configurations_differ_selfJump :
    let circling := load ⟨#[⟨4, 0, -1, 0⟩]⟩
    circling.configuration = (next^[1] circling).configuration ∧
      (∀ count, (next^[count] circling).status = .running) ∧
      (load faultAfterJump).StopsAfter 2 ∧ (load faultAfterJump).executed 2 ≤ 3 * 2 ^ 96 := by
  intro circling
  have hagain : circling.configuration = (next^[1] circling).configuration := by decide
  obtain ⟨hiff, _⟩ := stops_iff_configurations_differ circling
  have hstops : (load faultAfterJump).StopsAfter 2 := ⟨by decide, by decide⟩
  refine ⟨hagain, fun count => ?_, hstops, ((stops_iff_configurations_differ _).2 2 hstops).2⟩
  by_contra hstopped
  exact hiff.mp ⟨count, hstopped⟩ ⟨0, 1, Nat.zero_lt_one, rfl, by decide, hagain⟩

end Machine

end FourReg
