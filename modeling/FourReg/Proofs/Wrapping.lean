import FourReg.Proofs.Forward

/-!
# Wrapping once

Sums, products and copies go with the reduction to words: a residue modulo `2 ^ 32` depends on residues
alone. So registers that wrap in every cycle are at any time what registers that never wrap would be
reduced to (`Machine.values_iterate_next`), as long as both see the same pointers. Comparisons do not go
with it, as they look at the order of their operands.
-/

namespace FourReg

namespace Word

theorem wrap_wrap (value : Int) : wrap (wrap value) = wrap value :=
  Int.bmod_bmod

theorem wrap_add_wrap (first second : Int) :
    wrap (wrap first + wrap second) = wrap (first + second) :=
  (Int.add_bmod first second (2 ^ 32)).symm

theorem wrap_mul_wrap (first second : Int) :
    wrap (wrap first * wrap second) = wrap (first * second) :=
  (Int.mul_bmod first second (2 ^ 32)).symm

end Word

theorem Operation.wrap_result {operation : Operation} (hgreater : operation ≠ .greaterThan)
    (hequal : operation ≠ .equal) (first second : Int) :
    Word.wrap (operation.result (Word.wrap first) (Word.wrap second)) =
      Word.wrap (operation.result first second) := by
  cases operation with
  | add => exact Word.wrap_add_wrap first second
  | mul => exact Word.wrap_mul_wrap first second
  | copy => exact Word.wrap_wrap second
  | greaterThan => exact absurd rfl hgreater
  | equal => exact absurd rfl hequal

/-- Operands are wrapped with the registers: a literal is a word and stays as it is. -/
theorem AddressMode.pick_wrap (mode : AddressMode) (r : Int → Int) (a b : Word) :
    mode.pick (Word.wrap ∘ r) a.toInt b.toInt =
      Prod.map Word.wrap Word.wrap (mode.pick r a.toInt b.toInt) := by
  cases mode with
  | regReg => rfl
  | regImm => rw [pick, pick, Prod.map_apply, Word.wrap_toInt, Function.comp_apply]
  | immReg => rw [pick, pick, Prod.map_apply, Word.wrap_toInt, Function.comp_apply]

namespace Instruction

/-- An instruction that adds, multiplies or copies, or has no known opcode. -/
def Arithmetic (instruction : Instruction) : Prop :=
  (0 ≤ instruction.opcode.toInt ∧ instruction.opcode.toInt ≤ 5) ∨
    ¬ Opcode.IsOrdinal instruction.opcode

instance : DecidablePred Arithmetic :=
  fun _ => inferInstanceAs (Decidable (_ ∨ _))

/-- The contents of the registers after an instruction over unbounded integers, of which `C` receives
the result as it is. -/
def exactEffect (instruction : Instruction) (r : Int → Int) : Int → Int :=
  match instruction.result? r with
  | some value => Function.update r instruction.c.toInt value
  | none => r

theorem Arithmetic.operation_ne {instruction : Instruction} (harithmetic : instruction.Arithmetic)
    {opcode : Opcode} (hopcode : Opcode.ofOrdinal? instruction.opcode = some opcode) :
    opcode.operation ≠ .greaterThan ∧ opcode.operation ≠ .equal := by
  rw [Arithmetic, ← Opcode.ofOrdinal?_eq_some_iff.mp hopcode] at harithmetic
  revert harithmetic
  cases opcode <;> decide

theorem effect_wrap {instruction : Instruction} (harithmetic : instruction.Arithmetic)
    (r : Int → Int) :
    instruction.effect (Word.wrap ∘ r) = Word.wrap ∘ instruction.exactEffect r := by
  cases hopcode : Opcode.ofOrdinal? instruction.opcode with
  | none =>
    rw [effect, exactEffect, result?_of_unknown _ hopcode, result?_of_unknown _ hopcode]
  | some opcode =>
    obtain ⟨hgreater, hequal⟩ := harithmetic.operation_ne hopcode
    rw [effect, exactEffect, result?_of_known _ hopcode, result?_of_known _ hopcode,
      AddressMode.pick_wrap]
    dsimp only [Prod.map_fst, Prod.map_snd]
    rw [Operation.wrap_result hgreater hequal, Function.comp_update]

end Instruction

namespace Program

def Arithmetic (program : Program) : Prop :=
  ∀ instruction ∈ program.instructions, instruction.Arithmetic

instance : DecidablePred Arithmetic :=
  fun program => inferInstanceAs
    (Decidable (∀ instruction ∈ program.instructions, instruction.Arithmetic))

/-- A cycle over unbounded integers, with the pointer that it starts from. -/
def exactCycle (program : Program) (r : Int → Int) (pointer : Word) : Int → Int :=
  match program.fetch? pointer with
  | some instruction => instruction.exactEffect (Function.update r 0 pointer.toInt)
  | none => r

/-- The contents of the registers after the cycles that start from `pointers`, over unbounded integers.
All registers are zero before the first. -/
def exactRun (program : Program) (pointers : List Word) : Int → Int :=
  pointers.foldl program.exactCycle fun _ => 0

end Program

namespace Machine

/-- The pointers that the first `count` cycles start from. -/
def pointers (machine : Machine) (count : Nat) : List Word :=
  (List.range count).map fun k => (next^[k] machine).ip

theorem pointers_succ (machine : Machine) (count : Nat) :
    machine.pointers (count + 1) = machine.pointers count ++ [(next^[count] machine).ip] := by
  rw [pointers, pointers, List.range_succ, List.map_append, List.map_singleton]

theorem values_load (program : Program) : (load program).registers.values = fun _ => 0 :=
  Registers.values_zero

variable {program : Program}

/-- One cycle takes wrapped registers to wrapped registers. -/
theorem values_next {machine : Machine} (hreach : Reachable program machine)
    (hwell : program.WellFormed) (harithmetic : program.Arithmetic) {r : Int → Int}
    (hvalues : machine.registers.values = Word.wrap ∘ r) :
    machine.next.registers.values = Word.wrap ∘ program.exactCycle r machine.ip := by
  have hprogram : machine.program = program := hreach.consistent.program_eq
  rw [Program.exactCycle]
  cases hfetch : program.fetch? machine.ip with
  | none =>
    -- Whether it halts here or has halted before, the registers stay.
    rw [← hprogram] at hfetch
    have hregisters : machine.next.registers = machine.registers := by
      by_cases hstatus : machine.status = .running
      · rw [next, (step_of_outside hstatus hfetch).2]
      · rw [next_of_stopped hstatus]
    rw [hregisters, hvalues]
  | some instruction =>
    have hmem := Program.mem_of_fetch? hfetch
    have hstatus : machine.status = .running := by
      by_contra hstopped
      rw [hreach.fetch?_of_stopped hwell hstopped] at hfetch
      cases hfetch
    have hentry : Function.update machine.registers.values 0 machine.ip.toInt =
        Word.wrap ∘ Function.update r 0 machine.ip.toInt := by
      rw [Function.comp_update, Word.wrap_toInt, hvalues]
    rw [← hprogram] at hfetch
    obtain ⟨after, _, hmachine, hafter⟩ :=
      step_of_wellFormed hstatus hfetch (hwell instruction hmem)
    rw [next, hmachine]
    dsimp only
    rw [hafter, hentry, Instruction.effect_wrap (harithmetic instruction hmem)]

/-- After any number of cycles, jumps or not, the registers are those over unbounded integers, wrapped
once. -/
theorem values_iterate_next (hwell : program.WellFormed) (harithmetic : program.Arithmetic)
    (count : Nat) :
    (next^[count] (load program)).registers.values =
      Word.wrap ∘ program.exactRun ((load program).pointers count) := by
  induction count with
  | zero => exact values_load program
  | succ count ih =>
    have hreach : Reachable program (next^[count] (load program)) :=
      Reachable.iterate_next Relation.ReflTransGen.refl count
    rw [Function.iterate_succ_apply', pointers_succ, Program.exactRun, List.foldl_append]
    exact values_next hreach hwell harithmetic ih

/-- A run of a program that neither jumps nor compares leaves in each register what the same program
leaves there over unbounded integers with the same pointers, wrapped once. -/
theorem run_wraps_once (hforward : program.Forward) (hwell : program.WellFormed)
    (harithmetic : program.Arithmetic) :
    (∃ bound run, (load program).run bound = some run) ∧
    ∀ bound run, (load program).run bound = some run → ∀ index,
      run.machine.registers.values index =
        Word.wrap (program.exactRun ((load program).pointers run.machine.cycles) index) := by
  refine ⟨exists_run_of_forward hforward, fun bound run hrun index => ?_⟩
  have hbelow := hwell.below program.reach
  obtain ⟨_, hmachine⟩ := run_of_wellFormedBelow hforward hbelow hrun
  have hcycles := (arrived_iterate hforward le_rfl hbelow).cycles_eq
  rw [hmachine]
  dsimp only
  rw [hcycles]
  exact congrFun (values_iterate_next hwell harithmetic program.reach) index

/-- The square of a word that is out of range, and a product of it with a register that was wrapped. -/
theorem run_wraps_once_at :
    let program : Program :=
      ⟨#[⟨4, 0, 2147483647, 1⟩, ⟨2, 1, 1, 2⟩, ⟨12, 9, 9, 0⟩, ⟨3, 2, -2147483648, 3⟩, ⟨0, 3, 0, 3⟩]⟩
    let exact := program.exactRun ((load program).pointers 5)
    exact 3 = 4 - 2147483647 ^ 2 * 2147483648 ∧
    ∃ bound run, (load program).run bound = some run ∧
      run.machine.registers.values 3 = Word.wrap (exact 3) ∧ Word.wrap (exact 3) = 4 - 2147483648 := by
  intro program exact
  have hforward : program.Forward := by decide
  have hwell : program.WellFormed := by decide
  have harithmetic : program.Arithmetic := by decide
  have hexact : exact 3 = 4 - 2147483647 ^ 2 * 2147483648 := by decide +kernel
  have hcycles : ((load program).run 6).map (fun run => run.machine.cycles) = some 5 := by
    decide +kernel
  obtain ⟨run, hrun, hfive⟩ := Option.map_eq_some_iff.mp hcycles
  have hthree := (run_wraps_once hforward hwell harithmetic).2 6 run hrun 3
  rw [hfive] at hthree
  refine ⟨hexact, 6, run, hrun, hthree, ?_⟩
  rw [hexact]
  decide

end Machine

end FourReg
