import FourReg.Proofs.Lockstep
import FourReg.Proofs.Report

/-!
# Rewriting instructions

Some instructions can be exchanged for others that look different and do the same to every register
file, faults included (`Instruction.Rewrite.execute_eq`). Programs that differ by such exchanges run in
lockstep, also where they jump through register 0, and have the same reports.
-/

namespace FourReg

namespace Instruction

/-- The exchanges that keep what an instruction does. -/
inductive Rewrite : Instruction → Instruction → Prop
  /-- An instruction without a known opcode for another one. -/
  | unknown {before after : Instruction} (hbefore : ¬ Opcode.IsOrdinal before.opcode)
      (hafter : ¬ Opcode.IsOrdinal after.opcode) : Rewrite before after
  /-- An instruction without a known opcode for the addition of zero to register 0. -/
  | addZero {before : Instruction} (hbefore : ¬ Opcode.IsOrdinal before.opcode) :
      Rewrite before ⟨1, 0, 0, 0⟩
  /-- The literal of `seti`, of which only the other operand is copied. -/
  | setiLiteral (a a' b c : Word) :
      Rewrite ⟨Opcode.seti.ordinal, a, b, c⟩ ⟨Opcode.seti.ordinal, a', b, c⟩
  /-- The register of `setr`, which is read and not used. -/
  | setrRegister {a a' : Word} (b c : Word) (ha : Registers.InRange a)
      (ha' : Registers.InRange a') :
      Rewrite ⟨Opcode.setr.ordinal, a, b, c⟩ ⟨Opcode.setr.ordinal, a', b, c⟩
  /-- The order of two registers, of which at most one is out of range. -/
  | exchange {opcode : Opcode} {a b : Word} (c : Word)
      (hopcode : opcode ∈ [Opcode.addr, Opcode.mulr, Opcode.eqrr])
      (hrange : Registers.InRange a ∨ Registers.InRange b) :
      Rewrite ⟨opcode.ordinal, a, b, c⟩ ⟨opcode.ordinal, b, a, c⟩
  /-- The order of a literal and a register that are compared. -/
  | exchangeLiteral (a b c : Word) :
      Rewrite ⟨Opcode.eqir.ordinal, a, b, c⟩ ⟨Opcode.eqri.ordinal, b, a, c⟩

theorem execute_ordinal (opcode : Opcode) (a b c : Word) (registers : Registers) :
    execute ⟨opcode.ordinal, a, b, c⟩ registers =
      (opcode.mode.operands registers a b).bind fun operands =>
        registers.set c (opcode.operation.apply operands.1 operands.2) := by
  rw [execute, Opcode.ofOrdinal?_ordinal]
  rfl

theorem execute_of_not_isOrdinal {instruction : Instruction}
    (hopcode : ¬ Opcode.IsOrdinal instruction.opcode) (registers : Registers) :
    instruction.execute registers = .ok registers := by
  rw [execute, Opcode.ofOrdinal?_eq_none_iff.mpr hopcode]

theorem execute_addZero (registers : Registers) :
    execute ⟨1, 0, 0, 0⟩ registers = .ok registers := by
  have hsame : registers.setPointer (registers.pointer + 0) = registers := by
    simp [Registers.setPointer, Registers.pointer]
  exact congrArg Except.ok hsame

end Instruction

/-- Two registers in the other order give the operands in the other order, and the same error if only
one of them is out of range. -/
theorem AddressMode.operands_exchange (registers : Registers) {a b : Word}
    (hrange : Registers.InRange a ∨ Registers.InRange b) :
    regReg.operands registers b a = (regReg.operands registers a b).map Prod.swap := by
  have hget {index : Word} (hindex : Registers.InRange index) :
      ∃ word, registers.get index = .ok word := by
    obtain ⟨word, hword, _⟩ := registers.get_of_inRange hindex
    exact ⟨word, hword⟩
  rcases hrange with ha | hb
  · obtain ⟨first, hfirst⟩ := hget ha
    simp only [operands, hfirst]
    rcases registers.get b with error | second <;> rfl
  · obtain ⟨second, hsecond⟩ := hget hb
    simp only [operands, hsecond]
    rcases registers.get a with error | first <;> rfl

theorem Operation.apply_comm {operation : Operation} (hoperation : operation ∈ [add, mul, equal])
    (first second : Word) : operation.apply first second = operation.apply second first := by
  simp only [List.mem_cons, List.not_mem_nil, or_false] at hoperation
  rcases hoperation with rfl | rfl | rfl
  · exact Int32.add_comm first second
  · exact Int32.mul_comm first second
  · simp only [apply, eq_comm]

namespace Instruction

theorem execute_exchange {opcode : Opcode} (hmode : opcode.mode = .regReg)
    (hoperation : opcode.operation ∈ [Operation.add, Operation.mul, Operation.equal])
    {a b : Word} (hrange : Registers.InRange a ∨ Registers.InRange b) (c : Word)
    (registers : Registers) :
    execute ⟨opcode.ordinal, b, a, c⟩ registers = execute ⟨opcode.ordinal, a, b, c⟩ registers := by
  rw [execute_ordinal, execute_ordinal, hmode, AddressMode.operands_exchange registers hrange]
  rcases AddressMode.regReg.operands registers a b with error | ⟨first, second⟩
  · rfl
  · exact congrArg (registers.set c) (Operation.apply_comm hoperation second first)

/-- What an instruction does is kept by every exchange, on all registers. -/
theorem Rewrite.execute_eq {before after : Instruction} (hrewrite : Rewrite before after) :
    before.execute = after.execute := by
  funext registers
  cases hrewrite with
  | unknown hbefore hafter =>
    rw [execute_of_not_isOrdinal hbefore, execute_of_not_isOrdinal hafter]
  | addZero hbefore => rw [execute_of_not_isOrdinal hbefore, execute_addZero]
  | setiLiteral a a' b c =>
    rw [execute_ordinal, execute_ordinal]
    simp only [Opcode.mode, Opcode.operation, AddressMode.operands, Operation.apply]
    rcases registers.get b with error | second <;> rfl
  | setrRegister b c ha ha' =>
    obtain ⟨first, hfirst, _⟩ := registers.get_of_inRange ha
    obtain ⟨other, hother, _⟩ := registers.get_of_inRange ha'
    rw [execute_ordinal, execute_ordinal]
    simp only [Opcode.mode, Opcode.operation, AddressMode.operands, Operation.apply, hfirst, hother]
    rfl
  | @exchange opcode a b c hopcode hrange =>
    have hcommutes : opcode.mode = .regReg ∧
        opcode.operation ∈ [Operation.add, Operation.mul, Operation.equal] := by
      simp only [List.mem_cons, List.not_mem_nil, or_false] at hopcode
      rcases hopcode with rfl | rfl | rfl <;> decide
    exact (execute_exchange hcommutes.1 hcommutes.2 hrange c registers).symm
  | exchangeLiteral a b c =>
    rw [execute_ordinal, execute_ordinal]
    simp only [Opcode.mode, Opcode.operation, AddressMode.operands]
    rcases registers.get b with error | second
    · rfl
    · exact congrArg (registers.set c) (Operation.apply_comm (by decide) a second)

end Instruction

/-- Programs of one size that hold at each address the same instruction or two of which one is
exchanged for the other. -/
structure Program.Rewritten (left right : Program) : Prop where
  size_eq : left.size = right.size
  instructions : ∀ (address : Nat) (hleft : address < left.instructions.size)
    (hright : address < right.instructions.size),
    left.instructions[address] = right.instructions[address] ∨
      Instruction.Rewrite left.instructions[address] right.instructions[address] ∨
      Instruction.Rewrite right.instructions[address] left.instructions[address]

namespace Program.Rewritten

variable {left right : Program}

theorem isEmpty_eq (hrewritten : left.Rewritten right) : left.isEmpty = right.isEmpty := by
  have hsize : left.instructions.size = right.instructions.size := hrewritten.size_eq
  rw [isEmpty, isEmpty, Array.isEmpty, Array.isEmpty, hsize]

/-- At each address the two programs hold instructions that do the same, or none. -/
theorem map_execute_fetch? (hrewritten : left.Rewritten right) (address : Word) :
    (left.fetch? address).map Instruction.execute =
      (right.fetch? address).map Instruction.execute := by
  unfold fetch?
  split
  · generalize address.toInt.toNat = index
    have hsize : left.instructions.size = right.instructions.size := hrewritten.size_eq
    by_cases hindex : index < left.instructions.size
    · have hright : index < right.instructions.size := by omega
      rw [Array.getElem?_eq_getElem hindex, Array.getElem?_eq_getElem hright, Option.map_some,
        Option.map_some, Option.some.injEq]
      rcases hrewritten.instructions index hindex hright with hsame | hforth | hback
      · rw [hsame]
      · exact hforth.execute_eq
      · exact hback.execute_eq.symm
    · rw [Array.getElem?_eq_none (by omega), Array.getElem?_eq_none (by omega)]
  · rfl

end Program.Rewritten

namespace Machine

theorem tells_execute : Tells Instruction.execute :=
  fun _ _ hsame => hsame

section Rewritten

variable {left right : Program}

theorem parallel_of_rewritten (hrewritten : left.Rewritten right) :
    Parallel Instruction.execute (load left) (load right) :=
  .of_programs tells_execute hrewritten.map_execute_fetch? rfl rfl

/-- After any number of cycles only the programs differ. -/
theorem iterate_of_rewritten (hrewritten : left.Rewritten right) (count : Nat) :
    next^[count] (load right) = { next^[count] (load left) with program := right } := by
  have hparallel := parallel_of_rewritten hrewritten
  have hlock := hparallel count
  have hip : (next^[count] (load left)).ip = (next^[count] (load right)).ip :=
    congrArg Configuration.ip hlock.configuration_eq
  have hcycles : (next^[count] (load left)).cycles = (next^[count] (load right)).cycles := by
    rw [cycles_iterate_next, cycles_iterate_next, hparallel.completed_eq tells_execute]
    rfl
  have hprogram : (next^[count] (load right)).program = right := program_iterate_next _ count
  have hregisters :
      (next^[count] (load left)).registers = (next^[count] (load right)).registers :=
    hparallel.registers_eq tells_execute (Or.inr rfl)
  calc next^[count] (load right) = { next^[count] (load right) with program := right } :=
      congrArg (fun program => { next^[count] (load right) with program }) hprogram
    _ = { next^[count] (load left) with program := right } := by
      simp only [hregisters, hip, hlock.status_eq, hcycles]

theorem ofRun?_program {machine : Machine} {program : Program}
    (hempty : machine.program.isEmpty = program.isEmpty) (outcome : Except MachineError Nat) :
    Report.ofRun? { machine with program } outcome = Report.ofRun? machine outcome := by
  simp only [Report.ofRun?, hempty]

theorem map_report_runAndReport (hrewritten : left.Rewritten right) (bound : Nat) :
    ((load left).runAndReport bound).map ReportedRun.report =
      ((load right).runAndReport bound).map ReportedRun.report := by
  have hparallel := parallel_of_rewritten hrewritten
  unfold runAndReport
  rw [show (load left).program.isEmpty = (load right).program.isEmpty from hrewritten.isEmpty_eq]
  split
  · rfl
  cases hrun : (load left).run bound with
  | none =>
    have hother : (load right).run bound = none := by
      simpa [hrun] using (hparallel.map_outcome_run tells_execute bound).symm
    rw [hother]
  | some run =>
    obtain ⟨count, other, hother, houtcome, hmachine, hmachineOther⟩ :=
      hparallel.run_eq tells_execute hrun
    have hempty : (next^[count] (load left)).program.isEmpty = right.isEmpty := by
      rw [program_iterate_next]
      exact hrewritten.isEmpty_eq
    simp only [hother, Option.map_some, houtcome, hmachine, hmachineOther,
      iterate_of_rewritten hrewritten, ofRun?_program hempty]

/-- Programs that differ by exchanges of instructions that keep what they do take a machine through the
same pointers, statuses, registers and cycle counts, with outcomes of the same kind and the same
errors, and have the same reports. -/
theorem rewriting_preserves_runs (hrewritten : left.Rewritten right) :
    (∀ count,
      next^[count] (load right) = { next^[count] (load left) with program := right } ∧
      (next^[count] (load left)).step.kind = (next^[count] (load right)).step.kind) ∧
    ∀ bound, ((load left).runAndReport bound).map ReportedRun.report =
      ((load right).runAndReport bound).map ReportedRun.report := by
  have hparallel := parallel_of_rewritten hrewritten
  exact ⟨fun count => ⟨iterate_of_rewritten hrewritten count, hparallel.kind_eq tells_execute count⟩,
    map_report_runAndReport hrewritten⟩

end Rewritten

/-- Two programs that differ by an exchange of every kind. They jump over the instruction at address
4 and go wrong at the last one. -/
theorem rewriting_preserves_runs_everyExchange :
    let left : Program := ⟨#[⟨12, 5, 6, 7⟩, ⟨4, 0, 1, 1⟩, ⟨5, 9, 1, 2⟩, ⟨0, 0, 1, 0⟩, ⟨-1, 0, 0, 0⟩,
      ⟨9, 1, 2, 3⟩, ⟨2, 9, 3, 0⟩]⟩
    let right : Program := ⟨#[⟨1, 0, 0, 0⟩, ⟨4, 3, 1, 1⟩, ⟨5, -3, 1, 2⟩, ⟨0, 1, 0, 0⟩, ⟨99, 7, 7, 7⟩,
      ⟨10, 2, 1, 3⟩, ⟨2, 3, 9, 0⟩]⟩
    left.Rewritten right ∧
      (next^[4] (load right)).ip = 5 ∧
      ((load right).runAndReport 7).map ReportedRun.report =
        some (some ⟨.faulted, 5, .ofWords 6 1 1 1, some "register index 9 out of range (0 to 3)"⟩) := by
  intro left right
  have hrewritten : left.Rewritten right := by
    refine ⟨rfl, fun address hleft hright => Or.inr (Or.inl ?_)⟩
    match address, hleft with
    | 0, _ => exact .addZero (show ¬ Opcode.IsOrdinal 12 by decide)
    | 1, _ => exact .setrRegister 1 1 (by decide) (by decide)
    | 2, _ => exact .setiLiteral 9 (-3) 1 2
    | 3, _ => exact .exchange (a := 0) 0 (show Opcode.addr ∈ _ by decide) (Or.inl (by decide))
    | 4, _ =>
      exact .unknown (show ¬ Opcode.IsOrdinal (-1) by decide) (show ¬ Opcode.IsOrdinal 99 by decide)
    | 5, _ => exact .exchangeLiteral 1 2 3
    | 6, _ => exact .exchange (b := 3) 0 (show Opcode.mulr ∈ _ by decide) (Or.inr (by decide))
  obtain ⟨hcycles, hreports⟩ := rewriting_preserves_runs hrewritten
  refine ⟨hrewritten, ?_, ?_⟩
  · rw [(hcycles 4).1]
    decide +kernel
  · rw [← hreports 7]
    decide +kernel

end Machine

end FourReg
