import FourReg.CommandLine.Response
import FourReg.Proofs.Refinement
import FourReg.Proofs.Stopping
import FourReg.Proofs.TraceFlag

/-!
# Traced runs

A traced run is a loop of its own, with a count of its own: it adds one for each line, where a run
takes the difference of two cycle counts. Both loops make the same cycles, so they end alike, and the
command line answers alike with and without the trace flag, however its arguments are parsed and
wherever its input is read. Only the diagnostics differ.

An empty program is the one place where the two ways to answer part: a plain run does not run it,
while a traced run does and halts at once. There is nothing to report either way.
-/

namespace FourReg

def Run.ending (run : Run) : Except MachineError Nat × Machine :=
  (run.outcome, run.machine)

def TracedRun.ending (traced : TracedRun) : Except MachineError Nat × Machine :=
  (traced.outcome, traced.machine)

namespace Machine

/-! ### One turn of the traced loop -/

section Loop

variable {bound count : Nat} {machine : Machine} {earlier : Array TraceEvent}

theorem traceLoop_of_stopped (hstatus : machine.status ≠ .running) :
    traceLoop bound count machine earlier =
      some { outcome := .ok count, machine, events := earlier } := by
  have hrunning : ¬ machine.isRunning = true := mt isRunning_iff.mp hstatus
  cases bound <;> rw [traceLoop, if_neg hrunning]

theorem traceLoop_zero (hstatus : machine.status = .running) :
    traceLoop 0 count machine earlier = none := by
  rw [traceLoop, if_pos (isRunning_iff.mpr hstatus)]

theorem traceLoop_of_error {error : MachineError} (hstatus : machine.status = .running)
    (houtcome : machine.step.outcome = .error error) :
    traceLoop (bound + 1) count machine earlier =
      some { outcome := .error error
             machine := machine.next
             events := earlier ++ machine.step.records.map TraceEvent.logged } := by
  rw [traceLoop, if_pos (isRunning_iff.mpr hstatus)]
  simp only [houtcome, next]

theorem traceLoop_of_halt (hstatus : machine.status = .running)
    (houtcome : machine.step.outcome = .ok none) :
    traceLoop (bound + 1) count machine earlier =
      traceLoop bound count machine.next
        (earlier ++ machine.step.records.map TraceEvent.logged) := by
  rw [traceLoop, if_pos (isRunning_iff.mpr hstatus)]
  simp only [houtcome, next]

theorem traceLoop_of_executed {instruction : Instruction} (hstatus : machine.status = .running)
    (houtcome : machine.step.outcome = .ok (some instruction)) :
    traceLoop (bound + 1) count machine earlier =
      traceLoop bound (count + 1) machine.next
        ((earlier ++ machine.step.records.map TraceEvent.logged).push
          (.traced { ip := machine.ip, instruction, registers := machine.next.registers })) := by
  rw [traceLoop, if_pos (isRunning_iff.mpr hstatus)]
  simp only [houtcome, next]

end Loop

/-- Both loops end alike as long as the count of lines is what the cycle count has grown by. -/
theorem map_ending_traceLoop {start bound count : Nat} {machine : Machine}
    {events : Array TraceEvent} {records : Array Record} (hcount : machine.cycles = start + count) :
    (traceLoop bound count machine events).map TracedRun.ending =
      (runLoop start bound machine records).map Run.ending := by
  induction bound generalizing machine count events records with
  | zero =>
    by_cases hstatus : machine.status = .running
    · rw [traceLoop_zero hstatus, runLoop_zero hstatus]
      rfl
    · rw [traceLoop_of_stopped hstatus, runLoop_of_stopped hstatus, hcount, Nat.add_sub_cancel_left]
      rfl
  | succ bound ih =>
    by_cases hstatus : machine.status = .running
    · have hcycles := machine.cycles_next
      unfold Step.completes at hcycles
      cases houtcome : machine.step.outcome with
      | error error =>
        rw [traceLoop_of_error hstatus houtcome, runLoop_of_error hstatus houtcome]
        rfl
      | ok executed =>
        rw [houtcome] at hcycles
        rw [runLoop_of_ok hstatus houtcome]
        cases executed with
        | none =>
          rw [traceLoop_of_halt hstatus houtcome]
          exact ih (hcycles.trans hcount)
        | some instruction =>
          rw [traceLoop_of_executed hstatus houtcome]
          refine ih ?_
          rw [hcycles, hcount]
          exact Nat.add_assoc start count 1
    · rw [traceLoop_of_stopped hstatus, runLoop_of_stopped hstatus, hcount, Nat.add_sub_cancel_left]
      rfl

theorem map_ending_trace (machine : Machine) (bound : Nat) :
    (machine.trace bound).map TracedRun.ending = (machine.run bound).map Run.ending :=
  map_ending_traceLoop (Nat.add_zero _).symm

theorem map_ending_run {machine : Machine} {count bound : Nat} (hstops : machine.StopsAfter count)
    (hbound : count ≤ bound) :
    (machine.run bound).map Run.ending =
      some (machine.outcomeAfter machine.cycles count, next^[count] machine) := by
  obtain ⟨run, hrun⟩ := exists_run_eq_some hstops hbound
  obtain ⟨same, hsame, hmachine, houtcome⟩ := run_eq_some hrun
  obtain rfl := hsame.unique hstops
  rw [hrun, Option.map_some, Run.ending, houtcome, hmachine]

/-- A traced run ends like the run of the same machine. -/
theorem exists_run_of_trace {machine : Machine} {bound : Nat} {traced : TracedRun}
    (htraced : machine.trace bound = some traced) :
    ∃ run, machine.run bound = some run ∧ run.outcome = traced.outcome ∧
      run.machine = traced.machine := by
  have hending := machine.map_ending_trace bound
  rw [htraced, Option.map_some] at hending
  obtain ⟨run, hrun, hsame⟩ := Option.map_eq_some_iff.mp hending.symm
  exact ⟨run, hrun, congrArg Prod.fst hsame, congrArg Prod.snd hsame⟩

/-- A machine that stops has a traced run within every bound that is large enough. -/
theorem exists_trace_of_stops {machine : Machine}
    (hstops : ∃ count, (next^[count] machine).status ≠ .running) :
    ∃ enough, ∀ bound, enough ≤ bound → ∃ traced, machine.trace bound = some traced := by
  obtain ⟨count, hcount⟩ := exists_stopsAfter_iff.mpr hstops
  refine ⟨count, fun bound hbound => ?_⟩
  have hending := (machine.map_ending_trace bound).trans (map_ending_run hcount hbound)
  obtain ⟨traced, htraced, _⟩ := Option.map_eq_some_iff.mp hending
  exact ⟨traced, htraced⟩

/-! ### Empty programs -/

theorem fetch?_of_isEmpty {program : Program} (hempty : program.isEmpty = true) (address : Word) :
    program.fetch? address = none := by
  have hnone : program.instructions = #[] := Array.isEmpty_iff.mp hempty
  unfold Program.fetch?
  split
  · rw [hnone]
    rfl
  · rfl

theorem stopsAfter_of_isEmpty {program : Program} (hempty : program.isEmpty = true) :
    (load program).StopsAfter 1 := by
  have hstatus : (load program).status = .running := rfl
  have hhalts := (step_of_outside hstatus (fetch?_of_isEmpty hempty _)).2
  apply (stopsAfter_zero _).succ hstatus
  rw [next, hhalts]
  intro hrunning
  cases hrunning

end Machine

/-! ### Programs and the bytes they are read from -/

theorem Program.ofInput_eq_ok_iff {input : Except ReadError (List UInt8)} {program : Program} :
    ofInput input = .ok program ↔ ∃ bytes, input = .ok bytes ∧ ofBytes bytes = .ok program := by
  cases input with
  | error cause => exact ⟨nofun, nofun⟩
  | ok bytes => simp [ofInput]

theorem Program.ofInput_eq_error_iff {input : Except ReadError (List UInt8)} {error : SourceError} :
    ofInput input = .error error ↔ (∃ cause, input = .error cause ∧ error = .unreadable cause) ∨
      ∃ bytes, input = .ok bytes ∧ ofBytes bytes = .error error := by
  cases input with
  | error cause => simp [ofInput, eq_comm]
  | ok bytes => simp [ofInput]

/-- What is loaded are the bytes of the file, or those on standard input. -/
theorem loadFrom_eq (files : FileSystem) (standardInput : List UInt8) (path : Option String) :
    loadFrom files standardInput path = Program.ofInput (files.input standardInput path) := by
  cases path <;> rfl

/-! ### Answers of the command line -/

/-- An answer apart from its diagnostics. -/
def Response.result (response : Response) : UInt32 × String :=
  (response.exitCode, response.output)

/-- What a run that ended has for its result. -/
def endingResult (json : Bool) (ending : Except MachineError Nat × Machine) : UInt32 × String :=
  (0, Report.output json (Report.ofRun? ending.2 ending.1))

section Program

variable {program : Program} {verbosity : Verbosity} {bound : Nat} {json : Bool}

theorem result_respond_traced :
    (program.respond verbosity bound true json).map Response.result =
      (((Machine.load program).trace bound).map TracedRun.ending).map (endingResult json) := by
  unfold Program.respond
  cases (Machine.load program).trace bound <;> rfl

theorem result_respond_plain (hprogram : program.isEmpty = false) :
    (program.respond verbosity bound false json).map Response.result =
      (((Machine.load program).run bound).map Run.ending).map (endingResult json) := by
  have hnot : ¬ (Machine.load program).program.isEmpty = true := by
    rw [Machine.load, hprogram]
    decide
  unfold Program.respond Machine.runAndReport
  rw [if_neg (by decide), if_neg hnot]
  cases (Machine.load program).run bound <;> rfl

theorem result_respond_plain_of_isEmpty (hempty : program.isEmpty = true) :
    (program.respond verbosity bound false json).map Response.result = some (0, "") := by
  have hload : (Machine.load program).program.isEmpty = true := hempty
  unfold Program.respond Machine.runAndReport
  rw [if_neg (by decide), if_pos hload]
  rfl

theorem result_respond_traced_of_isEmpty (hempty : program.isEmpty = true) (hbound : 0 < bound) :
    (program.respond verbosity bound true json).map Response.result = some (0, "") := by
  obtain ⟨run, hrun⟩ :=
    Machine.exists_run_eq_some (Machine.stopsAfter_of_isEmpty hempty) hbound
  have hfinal : run.machine.program.isEmpty = true := by
    rw [Machine.program_run hrun]
    exact hempty
  rw [result_respond_traced, Machine.map_ending_trace, hrun]
  simp only [Option.map_some, Run.ending, endingResult, Report.ofRun?, if_pos hfinal]
  rfl

theorem result_respond_trace (hbound : 0 < bound) :
    (program.respond verbosity bound true json).map Response.result =
      (program.respond verbosity bound false json).map Response.result := by
  cases hprogram : program.isEmpty with
  | false => rw [result_respond_traced, result_respond_plain hprogram, Machine.map_ending_trace]
  | true =>
    rw [result_respond_traced_of_isEmpty hprogram hbound, result_respond_plain_of_isEmpty hprogram]

theorem exists_result_respond (json : Bool)
    (hstops : ∃ count, (Machine.next^[count] (Machine.load program)).status ≠ .running) :
    ∃ output enough, ∀ verbosity bound, enough ≤ bound →
      (program.respond verbosity bound false json).map Response.result = some (0, output) := by
  cases hprogram : program.isEmpty with
  | true => exact ⟨"", 0, fun _ _ _ => result_respond_plain_of_isEmpty hprogram⟩
  | false =>
    obtain ⟨count, hcount⟩ := Machine.exists_stopsAfter_iff.mpr hstops
    let ending : Except MachineError Nat × Machine :=
      ((Machine.load program).outcomeAfter 0 count, Machine.next^[count] (Machine.load program))
    refine ⟨(endingResult json ending).2, count, fun verbosity bound hbound => ?_⟩
    rw [result_respond_plain hprogram, Machine.map_ending_run hcount hbound]
    rfl

end Program

/-- The answer to the arguments, when `parse` says what they ask for and `read` gives the bytes of the
file that a path leads to or, without a path, those on standard input. -/
def answer (parse : List String → Option Request)
    (read : Option String → Except ReadError (List UInt8)) (verbosity : Verbosity) (bound : Nat)
    (arguments : List String) : Option Response :=
  Id.run (respondTo parse (fun path => Program.ofInput (read path)) verbosity bound arguments)

theorem respond_loadFrom (files : FileSystem) (standardInput : List UInt8) (verbosity : Verbosity)
    (bound : Nat) (arguments : List String) :
    Id.run (respond (loadFrom files standardInput) verbosity bound arguments) =
      answer Request.ofArguments (files.input standardInput) verbosity bound arguments := by
  rw [funext (loadFrom_eq files standardInput)]
  rfl

section Answer

variable {parse : List String → Option Request}
  {read : Option String → Except ReadError (List UInt8)} {verbosity : Verbosity} {bound : Nat}
  {arguments : List String} {path : Option String} {trace json : Bool}

theorem answer_run (hrequest : parse arguments = some (.perform (.run path trace json))) :
    answer parse read verbosity bound arguments =
      (Command.run path trace json).respond verbosity bound (Program.ofInput (read path)) := by
  unfold answer respondTo
  rw [hrequest]
  rfl

theorem result_answer_of_error {error : SourceError}
    (hrequest : parse arguments = some (.perform (.run path trace json)))
    (hsource : Program.ofInput (read path) = .error error) :
    (answer parse read verbosity bound arguments).map Response.result = some (1, "") := by
  rw [answer_run hrequest, hsource]
  rfl

theorem answer_of_ok {program : Program}
    (hrequest : parse arguments = some (.perform (.run path trace json)))
    (hsource : Program.ofInput (read path) = .ok program) :
    answer parse read verbosity bound arguments = program.respond verbosity bound trace json := by
  rw [answer_run hrequest, hsource]
  rfl

end Answer

/-- A traced run ends like a plain one, with the same count, on every machine. With the trace flag
the command line answers with the same exit code and the same output as without, whatever it is asked
to run: an input that cannot be read or denotes no program is a failure and says nothing, an empty
program says nothing, and one that stops has an answer. -/
theorem trace_keeps_ending_and_answer :
    (∀ (machine : Machine) (bound : Nat),
      (machine.trace bound).map TracedRun.ending = (machine.run bound).map Run.ending) ∧
    (∀ (arguments : List String) (path : Option String) (json : Bool),
      Request.ofArguments ("run" :: arguments) = some (.perform (.run path false json)) →
      Request.ofArguments ("run" :: "--trace" :: arguments) =
        some (.perform (.run path true json))) ∧
    (∀ (files : FileSystem) (standardInput : List UInt8) (verbosity : Verbosity) (bound : Nat)
      (arguments : List String),
      Id.run (respond (loadFrom files standardInput) verbosity bound arguments) =
        answer Request.ofArguments (files.input standardInput) verbosity bound arguments) ∧
    ∀ (parse : List String → Option Request)
      (read : Option String → Except ReadError (List UInt8)) (verbosity : Verbosity)
      (plain traced : List String) (path : Option String) (json : Bool),
      parse plain = some (.perform (.run path false json)) →
      parse traced = some (.perform (.run path true json)) →
      let result (bound : Nat) (arguments : List String) :=
        (answer parse read verbosity bound arguments).map Response.result
      (∀ bound, 0 < bound → result bound traced = result bound plain) ∧
      (∀ cause, read path = .error cause → ∀ bound, result bound plain = some (1, "")) ∧
      ∀ bytes, read path = .ok bytes →
        (∀ error, Program.ofBytes bytes = .error error →
          ∀ bound, result bound plain = some (1, "")) ∧
        ∀ program, Program.ofBytes bytes = .ok program →
          (program.isEmpty = true → ∀ bound, result bound plain = some (0, "")) ∧
          ((∃ count, (Machine.next^[count] (Machine.load program)).status ≠ .running) →
            ∃ output enough, ∀ bound, enough ≤ bound →
              result bound plain = some (0, output)) := by
  refine ⟨Machine.map_ending_trace, fun _ _ _ => ofArguments_traced, respond_loadFrom, ?_⟩
  intro parse read verbosity plain traced path json hplain htraced result
  have hfails (error : SourceError) (hsource : Program.ofInput (read path) = .error error)
      (bound : Nat) : result bound plain = some (1, "") :=
    result_answer_of_error hplain hsource
  refine ⟨fun bound hbound => ?_, fun cause hcause => ?_, fun bytes hbytes => ⟨?_, ?_⟩⟩
  · cases hsource : Program.ofInput (read path) with
    | error error =>
      exact (result_answer_of_error htraced hsource).trans (hfails error hsource bound).symm
    | ok program =>
      simp only [result, answer_of_ok htraced hsource, answer_of_ok hplain hsource]
      exact result_respond_trace hbound
  · exact hfails _ (Program.ofInput_eq_error_iff.mpr (.inl ⟨cause, hcause, rfl⟩))
  · intro error herror
    exact hfails error (Program.ofInput_eq_error_iff.mpr (.inr ⟨bytes, hbytes, herror⟩))
  · intro program hprogram
    have hsource := Program.ofInput_eq_ok_iff.mpr ⟨bytes, hbytes, hprogram⟩
    simp only [result, answer_of_ok hplain hsource]
    refine ⟨fun hempty bound => result_respond_plain_of_isEmpty hempty, fun hstops => ?_⟩
    obtain ⟨output, enough, houtput⟩ := exists_result_respond json hstops
    exact ⟨output, enough, houtput verbosity⟩

/-- A program on standard input that faults at once, traced by the short flag, and files of which one
has a line of three fields and one cannot be opened. -/
theorem trace_keeps_ending_and_answer_fault :
    let short := Utf8.encode "addr 0 5\n".toList
    let locked := "Permission denied (os error 13)"
    let files : FileSystem :=
      ⟨.directory [("short.txt", .file short), ("locked.txt", .barred locked)], []⟩
    let input := Utf8.encode "addr 0 5 1\n".toList
    let result (bound : Nat) (arguments : List String) :=
      (Id.run (respond (loadFrom files input) (.upTo .warn) bound arguments)).map Response.result
    Program.ofBytes input = .ok ⟨#[⟨0, 0, 5, 1⟩]⟩ ∧
      result 1 ["run", "-t", "--json"] = result 1 ["run", "--json"] ∧
      (∃ output enough, ∀ bound, enough ≤ bound →
        result bound ["run", "--json"] = some (0, output)) ∧
      (∀ bound, result bound ["run", "short.txt"] = some (1, "")) ∧
      (∀ bound, result bound ["run", "locked.txt"] = some (1, "")) := by
  intro short locked files input result
  have hinput : Program.ofBytes input = .ok ⟨#[⟨0, 0, 5, 1⟩]⟩ := by decide +kernel
  have hshort : Program.ofBytes short = .error (.malformed 1 (.fieldCount 3)) := by decide +kernel
  obtain ⟨_, _, hanswer, hagree⟩ := trace_keeps_ending_and_answer
  simp only [result, hanswer]
  have hresult (path : Option String) (json : Bool) (plain traced : List String) :=
    hagree Request.ofArguments (files.input input) (.upTo .warn) plain traced path json
  obtain ⟨hsame, _, hstdin⟩ :=
    hresult none true ["run", "--json"] ["run", "-t", "--json"] (by decide) (by decide)
  obtain ⟨_, _, hmalformed⟩ :=
    hresult (some "short.txt") false ["run", "short.txt"] ["run", "-t", "short.txt"]
      (by decide) (by decide)
  obtain ⟨_, hunreadable, _⟩ :=
    hresult (some "locked.txt") false ["run", "locked.txt"] ["run", "-t", "locked.txt"]
      (by decide) (by decide)
  refine ⟨hinput, hsame 1 (by decide), ?_, ?_, ?_⟩
  · exact ((hstdin input rfl).2 _ hinput).2 ⟨1, by decide⟩
  · exact (hmalformed short (by decide +kernel)).1 _ hshort
  · exact hunreadable (.other locked) (by decide +kernel)

end FourReg
