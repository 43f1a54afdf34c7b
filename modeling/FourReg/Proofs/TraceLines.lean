import FourReg.Proofs.FreshReport
import FourReg.Proofs.TraceText
import FourReg.Proofs.Tracing

/-!
# What a trace tells

A trace line mixes the pointer before a cycle with the registers after it, and so does an `Execution`: the
lines of a traced run are its executions, in order (`StopsAfter.lines_trace`), and their history is what
the lines tell. On standard error the lines stand among those of the log, which begin with a bracket.
-/

namespace FourReg

/-! ### Trace lines among the lines of the log -/

def isLogLine (text : String) : Bool :=
  text.toList.head? == some '['

/-- The lines on standard error that do not belong to the log. -/
def Response.traceLines (response : Response) : List String :=
  response.diagnostics.filter fun text => !isLogLine text

def TraceEvent.line? : TraceEvent → Option TraceLine
  | logged _ => none
  | traced line => some line

def TracedRun.lines (traced : TracedRun) : List TraceLine :=
  traced.events.toList.filterMap TraceEvent.line?

theorem isLogLine_line (record : Record) : isLogLine record.line = true := by
  unfold isLogLine Record.line
  rw [String.toList_append, String.toList_append, String.toList_append, String.toList_append]
  rfl

theorem Literal.not_bracket {rest : List Char} {value : Int} : ¬ Literal ('[' :: rest) value := by
  intro hliteral
  cases hliteral with
  | unsigned hdigits => cases hdigits.2 '[' List.mem_cons_self

theorem isLogLine_text (line : TraceLine) : isLogLine line.text = false := by
  have hliteral := Numeral.literal_padded 3 line.ip.toInt
  obtain ⟨c, rest, haddress, _⟩ := hliteral.exists_head
  have hc : c ≠ '[' := by
    rintro rfl
    exact Literal.not_bracket (haddress ▸ hliteral)
  unfold isLogLine TraceLine.text
  simp [haddress, hc]

/-- Whatever is shown of the log, the lines that do not belong to it are the trace lines. -/
theorem filter_shownLine (verbosity : Verbosity) (events : List TraceEvent) :
    (events.filterMap (TraceEvent.shownLine verbosity)).filter (fun text => !isLogLine text) =
      (events.filterMap TraceEvent.line?).map TraceLine.printed := by
  induction events with
  | nil => rfl
  | cons event events ih =>
    cases event with
    | logged record =>
      rw [List.filterMap_cons_none (f := TraceEvent.line?) rfl, ← ih]
      unfold TraceEvent.shownLine Record.shownLine
      cases hshows : verbosity.shows record.level with
      | false => simp [hshows]
      | true => simp [hshows, isLogLine_line]
    | traced line =>
      rw [List.filterMap_cons_some (f := TraceEvent.line?) rfl,
        List.filterMap_cons_some (f := TraceEvent.shownLine verbosity) rfl, List.filter_cons,
        isLogLine_text, ih, line.text_eq_printed]
      rfl

/-- The line for a completed cycle: the pointer before it, and the registers after it. -/
def Execution.line (execution : Execution) : TraceLine :=
  { ip := execution.ip, instruction := execution.instruction, registers := execution.exit }

namespace Machine

/-! ### The lines of a traced run are its executions -/

/-- What a cycle adds to a trace: its log records, and its line if it completes an instruction. -/
def cycleEvents (machine : Machine) : List TraceEvent :=
  machine.step.records.map .logged ++
    machine.execution?.toList.map fun execution => .traced execution.line

theorem lines_cycleEvents (machine : Machine) :
    machine.cycleEvents.filterMap TraceEvent.line? =
      machine.execution?.toList.map Execution.line := by
  have hlogged (records : List Record) :
      (records.map TraceEvent.logged).filterMap TraceEvent.line? = [] := by
    induction records with
    | nil => rfl
    | cons _ _ ih => exact ih
  rw [cycleEvents, List.filterMap_append, hlogged, List.nil_append]
  cases machine.execution? <;> rfl

theorem StopsAfter.events_traceLoop {bound count cycles : Nat} {machine : Machine}
    {earlier : Array TraceEvent} {traced : TracedRun} (hstops : machine.StopsAfter cycles)
    (htraced : traceLoop bound count machine earlier = some traced) :
    traced.events.toList = earlier.toList ++ gather cycleEvents machine cycles := by
  induction cycles generalizing machine earlier count bound with
  | zero =>
    have hstatus : machine.status ≠ .running := hstops.2
    rw [traceLoop_of_stopped hstatus] at htraced
    cases htraced
    rw [gather_zero, List.append_nil]
  | succ cycles ih =>
    obtain ⟨hstatus, hnext⟩ := hstops.of_succ
    cases bound with
    | zero =>
      rw [traceLoop_zero hstatus] at htraced
      cases htraced
    | succ bound =>
      rw [gather_succ, cycleEvents, execution?]
      cases houtcome : machine.step.outcome with
      | error error =>
        rw [traceLoop_of_error hstatus houtcome] at htraced
        cases htraced
        rw [hnext.eq_zero_of_error hstatus houtcome, gather_zero]
        simp
      | ok executed =>
        cases executed with
        | none =>
          rw [traceLoop_of_halt hstatus houtcome] at htraced
          rw [ih hnext htraced]
          simp
        | some instruction =>
          rw [traceLoop_of_executed hstatus houtcome] at htraced
          rw [ih hnext htraced]
          simp [Execution.line]

theorem StopsAfter.lines_trace {bound count : Nat} {machine : Machine} {traced : TracedRun}
    (hstops : machine.StopsAfter count) (htraced : machine.trace bound = some traced) :
    traced.lines = (machine.executions count).map Execution.line := by
  rw [TracedRun.lines, hstops.events_traceLoop htraced, List.nil_append, filterMap_gather,
    executions, map_gather]
  simp only [lines_cycleEvents]

end Machine

/-! ### Faithful traces -/

/-- What trace lines tell about the run of a loaded machine that is reported on. -/
structure FaithfulTrace (program : Program) (lines : List TraceLine) (report : Report) : Prop where
  cycles_eq : report.cycles = lines.length
  first : ∀ line ∈ lines.head?, line.ip = 0
  /-- Each line shows the instruction that stands at its address. -/
  shown : ∀ line ∈ lines, ∃ k < program.size, line.ip.toInt = k ∧
    program.instructions[k]? = some line.instruction
  linked : lines.IsChain fun earlier later =>
    later.ip.toInt = Word.wrap (earlier.registers.values 0 + 1)
  ended : report.status = .halted ∨ report.status = .faulted
  halted : report.status = .halted →
    ∃ last, lines.getLast? = some last ∧ report.registers = last.registers
  faulted : report.status = .faulted → ∀ last ∈ lines.getLast?,
    report.registers.values 0 = Word.wrap (last.registers.values 0 + 1) ∧
      ∀ index : Int, index ≠ 0 → report.registers.values index = last.registers.values index
  faulted_at_once : report.status = .faulted → lines = [] → report.registers = .zero
  /-- The instruction that a fault is found in has no line. -/
  not_shown : report.status = .faulted →
    ∃ k < program.size, report.registers.values 0 = k ∧
      (∃ instruction, program.instructions[k]? = some instruction ∧ ¬ instruction.WellFormed) ∧
      ∀ line ∈ lines, line.ip.toInt ≠ k

namespace Machine

section History

variable {start machine : Machine} {executions : List Execution}
  (hhistory : History start executions machine)
include hhistory

theorem History.lines_first : ∀ line ∈ (executions.map Execution.line).head?, line.ip = start.ip := by
  intro line hline
  rw [List.head?_map] at hline
  obtain ⟨execution, hfirst, rfl⟩ := Option.map_eq_some_iff.mp hline
  exact hhistory.first execution hfirst

theorem History.lines_shown : ∀ line ∈ executions.map Execution.line,
    ∃ k < start.program.size, line.ip.toInt = k ∧
      start.program.instructions[k]? = some line.instruction := by
  intro line hline
  obtain ⟨execution, hmem, rfl⟩ := List.mem_map.mp hline
  exact Program.exists_index_of_fetch? (hhistory.executed execution hmem).1

theorem History.lines_linked : (executions.map Execution.line).IsChain fun earlier later =>
    later.ip.toInt = Word.wrap (earlier.registers.values 0 + 1) := by
  rw [List.isChain_map]
  refine hhistory.linked.imp fun earlier later hip => ?_
  rw [Execution.line, Execution.line, hip, Registers.toInt_pointer_succ]

/-- What a machine that went on from its last line leaves in the registers when it faults. -/
theorem History.lines_faulted : ∀ last ∈ (executions.map Execution.line).getLast?,
    (machine.registers.setPointer machine.ip).values 0 = Word.wrap (last.registers.values 0 + 1) ∧
      ∀ index : Int, index ≠ 0 →
        (machine.registers.setPointer machine.ip).values index = last.registers.values index := by
  intro line hline
  rw [List.getLast?_map] at hline
  obtain ⟨execution, hlast, rfl⟩ := Option.map_eq_some_iff.mp hline
  obtain ⟨hexit, hip⟩ := hhistory.last execution hlast
  rw [hexit, hip, Registers.values_setPointer, Function.update_self]
  refine ⟨execution.exit.toInt_pointer_succ, fun index hindex => ?_⟩
  exact Function.update_of_ne hindex _ _

theorem History.lines_not_shown {instruction : Instruction} {address : Word}
    (hfetch : start.program.fetch? address = some instruction) (hnot : ¬ instruction.WellFormed) :
    ∀ line ∈ executions.map Execution.line, line.ip ≠ address := by
  intro line hline haddress
  obtain ⟨execution, hmem, rfl⟩ := List.mem_map.mp hline
  obtain ⟨hexecuted, hwell⟩ := hhistory.executed execution hmem
  have hip : execution.ip = address := haddress
  rw [hip, hfetch] at hexecuted
  cases hexecuted
  exact hnot hwell

end History

section Load

variable {program : Program} {bound : Nat}

/-- A loaded machine halts behind its last execution, as there is something to execute. -/
theorem halted_lines (hprogram : program.isEmpty = false) {executions : List Execution}
    {machine : Machine} (hhistory : History (load program) executions machine)
    (hfetch : program.fetch? machine.ip = none) :
    ∃ last, (executions.map Execution.line).getLast? = some last ∧
      machine.registers = last.registers := by
  rw [List.getLast?_map]
  cases hlast : executions.getLast? with
  | none =>
    rw [hhistory.fresh (List.getLast?_eq_none_iff.mp hlast)] at hfetch
    exact absurd hfetch (Program.fetch?_zero_ne_none hprogram)
  | some execution => exact ⟨execution.line, rfl, (hhistory.last execution hlast).1⟩

theorem faithful_trace_load (hprogram : program.isEmpty = false) {traced : TracedRun}
    {report : Report} (htraced : (load program).trace bound = some traced)
    (hreport : Report.ofRun? traced.machine traced.outcome = some report) :
    FaithfulTrace program traced.lines report := by
  obtain ⟨run, hrun, houtcome, hmachine⟩ := exists_run_of_trace htraced
  have hstatus : (load program).status = .running := rfl
  obtain ⟨last, hstops, hending⟩ := run_ending hstatus hrun
  have hhistory := hstops.history le_rfl
  obtain ⟨_, hended, hcycles, hregisters, _⟩ := Report.ofRun?_eq_some hreport
  rw [← hmachine] at hended hcycles hregisters
  rw [hstops.lines_trace htraced, hstops.executions_succ]
  exact {
    cycles_eq := by
      rw [hcycles, hending.ip_cycles.2, hhistory.cycles_eq, List.length_map]
      exact Nat.zero_add _
    first := hhistory.lines_first
    shown := hhistory.lines_shown
    linked := hhistory.lines_linked
    ended := by
      rw [hended]
      exact hending.halted_or_faulted
    halted := by
      intro hhalted
      rw [hended] at hhalted
      obtain ⟨hfetch, hkept⟩ := hending.of_halted hhalted
      rw [hregisters, hkept]
      exact halted_lines hprogram hhistory hfetch
    faulted := by
      intro hfaulted
      rw [hended] at hfaulted
      obtain ⟨_, _, _, _, _, hfinal⟩ := hending.of_faulted hfaulted
      rw [hregisters, hfinal]
      exact hhistory.lines_faulted
    faulted_at_once := by
      intro hfaulted hnil
      rw [hended] at hfaulted
      obtain ⟨_, _, _, _, _, hfinal⟩ := hending.of_faulted hfaulted
      rw [hregisters, hfinal, hhistory.fresh (List.map_eq_nil_iff.mp hnil)]
      rfl
    not_shown := by
      intro hfaulted
      rw [hended] at hfaulted
      obtain ⟨instruction, index, hfetch, hoffending, _, hfinal⟩ := hending.of_faulted hfaulted
      obtain ⟨k, hk, haddress, hget⟩ := Program.exists_index_of_fetch? hfetch
      have hnot : ¬ instruction.WellFormed := Instruction.exists_offending?_iff.mp ⟨index, hoffending⟩
      refine ⟨k, hk, ?_, ⟨instruction, hget, hnot⟩, fun line hline hip => ?_⟩
      · rw [hregisters, hfinal, Registers.values_pointer, Registers.pointer_setPointer, haddress]
      · exact hhistory.lines_not_shown hfetch hnot line hline
          (Int32.toInt_inj.mp (hip.trans haddress.symm)) }

end Load

end Machine

/-! ### Traces on standard error -/

section Answer

variable {parse : List String → Option Request}
  {read : Option String → Except ReadError (List UInt8)} {verbosity : Verbosity}
  {arguments : List String} {path : Option String} {json : Bool} {bytes : List UInt8}
  {program : Program}

theorem answer_traced (bound : Nat)
    (hrequest : parse arguments = some (.perform (.run path true json)))
    (hread : read path = .ok bytes) (hprogram : Program.ofBytes bytes = .ok program) :
    answer parse read verbosity bound arguments =
      ((Machine.load program).trace bound).map fun traced =>
        { exitCode := 0
          output := Report.output json (Report.ofRun? traced.machine traced.outcome)
          diagnostics := traced.events.toList.filterMap (TraceEvent.shownLine verbosity) } := by
  have hsource := Program.ofInput_eq_ok_iff.mpr ⟨bytes, hread, hprogram⟩
  rw [answer_of_ok hrequest hsource, Program.respond, if_pos rfl]
  cases (Machine.load program).trace bound <;> rfl

/-- A traced run of an input that denotes a program with at least one instruction is answered if the
program stops, and the trace lines among its diagnostics are faithful to the report. They are printed
with the address, the listed instruction and the registers, and no two different lines are printed
alike. -/
theorem trace_lines_faithful
    (hrequest : parse arguments = some (.perform (.run path true json)))
    (hread : read path = .ok bytes) (hprogram : Program.ofBytes bytes = .ok program)
    (hempty : program.isEmpty = false) :
    let answers (bound : Nat) := answer parse read verbosity bound arguments
    Function.Injective TraceLine.printed ∧
    ((∃ count, (Machine.next^[count] (Machine.load program)).status ≠ .running) →
      ∃ enough, ∀ bound, enough ≤ bound → ∃ response, answers bound = some response) ∧
    ∀ bound response, answers bound = some response →
      ∃ traced report, (Machine.load program).trace bound = some traced ∧
        Report.ofRun? traced.machine traced.outcome = some report ∧
        response.output = Report.output json (some report) ∧
        response.traceLines = traced.lines.map TraceLine.printed ∧
        FaithfulTrace program traced.lines report := by
  intro answers
  have hanswers (bound : Nat) : answers bound = _ := answer_traced bound hrequest hread hprogram
  refine ⟨TraceLine.printed_injective, fun hstops => ?_, fun bound response hresponse => ?_⟩
  · obtain ⟨enough, htraces⟩ := Machine.exists_trace_of_stops hstops
    refine ⟨enough, fun bound hbound => ?_⟩
    obtain ⟨traced, htraced⟩ := htraces bound hbound
    rw [hanswers, htraced]
    exact ⟨_, rfl⟩
  · rw [hanswers] at hresponse
    obtain ⟨traced, htraced, rfl⟩ := Option.map_eq_some_iff.mp hresponse
    obtain ⟨run, hrun, _, hmachine⟩ := Machine.exists_run_of_trace htraced
    have hfinal : traced.machine.program.isEmpty = false := by
      rw [← hmachine, Machine.program_run hrun]
      exact hempty
    obtain ⟨report, hreport⟩ := Report.ofRun?_of_not_isEmpty hfinal traced.outcome
    refine ⟨traced, report, htraced, hreport, ?_, ?_, ?_⟩
    · rw [hreport]
    · exact filter_shownLine verbosity traced.events.toList
    · exact Machine.faithful_trace_load hempty htraced hreport

end Answer

/-- A jump over an instruction, an unknown opcode and a fault, from standard input. -/
theorem trace_lines_faithful_fault :
    let noFiles : FileSystem := ⟨.directory [], []⟩
    let input := Utf8.encode "addi 0 1 0\nseti 9 9 9\n12 7 7 7\naddr 0 5 1\n".toList
    let program : Program := ⟨#[⟨1, 0, 1, 0⟩, ⟨5, 9, 9, 9⟩, ⟨12, 7, 7, 7⟩, ⟨0, 0, 5, 1⟩]⟩
    let answers (bound : Nat) :=
      Id.run (respond (loadFrom noFiles input) (.upTo .warn) bound ["run", "--trace"])
    let printed :=
      ["000: addi r0 1 -> r0          regs=[1, 0, 0, 0]",
        "002: ??? 12 7 7 7             regs=[2, 0, 0, 0]"]
    Program.ofBytes input = .ok program ∧
      ∃ (response : Response) (lines : List TraceLine) (report : Report),
        answers 3 = some response ∧ response.output = Report.output false (some report) ∧
        response.traceLines = printed ∧ lines.map TraceLine.printed = printed ∧
        FaithfulTrace program lines report ∧ report.status = .faulted ∧ lines.length = 2 := by
  intro noFiles input program answers printed
  have hprogram : Program.ofBytes input = .ok program := by decide +kernel
  have hrequest : Request.ofArguments ["run", "--trace"] =
      some (.perform (.run none true false)) := by decide
  have hread : noFiles.input input none = .ok input := rfl
  have hlines : (answers 3).map Response.traceLines = some printed := by decide +kernel
  obtain ⟨response, hresponse, hlines⟩ := Option.map_eq_some_iff.mp hlines
  obtain ⟨_, _, hfaithful⟩ :=
    @trace_lines_faithful _ _ (.upTo .warn) _ _ _ _ _ hrequest hread hprogram rfl
  obtain ⟨traced, report, htraced, hreport, houtput, hprinted, htells⟩ :=
    hfaithful 3 response hresponse
  rw [hlines] at hprinted
  have hends : ((Machine.load program).trace 3).map (fun traced => traced.machine.status) =
      some .faulted := by decide +kernel
  rw [htraced] at hends
  obtain ⟨_, hended, _⟩ := Report.ofRun?_eq_some hreport
  refine ⟨hprogram, response, traced.lines, report, hresponse, houtput, hlines, hprinted.symm, htells,
    hended.trans (Option.some.inj hends), ?_⟩
  rw [← List.length_map (f := TraceLine.printed), ← hprinted]
  rfl

end FourReg
