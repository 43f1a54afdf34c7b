import FourReg.Assembly.Listing
import FourReg.CommandLine.Arguments
import FourReg.Files
import FourReg.Snapshot
/-!
# Responses

What the command line answers: an exit code, the text on standard output and the lines on standard
error. An answer is a function of the request and of the bytes of the program, so that only reading
those bytes is left to the outside. A program that faults is answered like any other; only one that
cannot be read is a failure.
-/

namespace FourReg

structure Response where
  exitCode : UInt32
  output : String
  diagnostics : List String
deriving DecidableEq

def usageExitCode : UInt32 :=
  2

/-- A log record as a line on standard error. -/
def Record.line (record : Record) : String :=
  let name := record.level.name
  "[" ++ name ++ String.ofList (List.replicate (5 - name.length) ' ') ++
    " quadreg::cpu::execute] " ++ record.message

/-- The line of a log record, if records of its level are shown. -/
def Record.shownLine (verbosity : Verbosity) (record : Record) : Option String :=
  if verbosity.shows record.level then some record.line else none

/-- The line of something reported during a traced run. Trace lines are always shown. -/
def TraceEvent.shownLine (verbosity : Verbosity) : TraceEvent → Option String
  | .logged record => record.shownLine verbosity
  | .traced line => some line.text

/-- The output for a report; nothing is said when there is nothing to report. -/
def Report.output (json : Bool) : Option Report → String
  | none => ""
  | some report => if json then report.jsonText ++ "\n" else report.text

/-- The answer to running a program for at most `bound` cycles, none if it has not stopped by then.
A traced run is not announced in the log. -/
def Program.respond (verbosity : Verbosity) (bound : Nat) (trace json : Bool) (program : Program) :
    Option Response :=
  if trace then do
    let run ← (Machine.load program).trace bound
    return {
      exitCode := 0
      output := Report.output json (Report.ofRun? run.machine run.outcome)
      diagnostics := run.events.toList.filterMap (TraceEvent.shownLine verbosity) }
  else do
    let run ← (Machine.load program).runAndReport bound
    return {
      exitCode := 0
      output := Report.output json run.report
      diagnostics := run.records.toList.filterMap (Record.shownLine verbosity) }

def SourceError.respond (error : SourceError) : Response :=
  { exitCode := 1, output := "", diagnostics := ["Failed to read program: " ++ error.message] }

namespace Command

def path : Command → Option String
  | .run path _ _ | .list path => path

def respond (verbosity : Verbosity) (bound : Nat) (source : Except SourceError Program) :
    Command → Option Response
  | .run _ trace json =>
    match source with
    | .error error => some error.respond
    | .ok program => program.respond verbosity bound trace json
  | .list _ =>
    match source with
    | .error error => some error.respond
    | .ok program => some { exitCode := 0, output := program.listing, diagnostics := [] }

end Command

/-- What the program can be asked for. -/
def help : String :=
  String.intercalate "\n"
    [ "Interpreter for a four-register machine"
    , ""
    , "quadreg run [PROGRAM] [-t|--trace] [--json]"
    , "    Run a program until it halts"
    , "    PROGRAM      Path to the program file (reads stdin if omitted)"
    , "    -t, --trace  Print each executed instruction to stderr"
    , "    --json       Print the final state as JSON"
    , ""
    , "quadreg disasm [PROGRAM]"
    , "    Disassemble a program to readable text"
    , "    PROGRAM      Path to the program file (reads stdin if omitted)"
    , "" ]

/-- The answer to the arguments. `parse` says what they ask for, none if they have no meaning, and
`load` reads the program that a path leads to or, without a path, the one on standard input. It is
only asked for a program when one is needed. -/
def respondTo {m : Type → Type} [Monad m] (parse : List String → Option Request)
    (load : Option String → m (Except SourceError Program)) (verbosity : Verbosity) (bound : Nat)
    (arguments : List String) : m (Option Response) :=
  match parse arguments with
  | none => pure (some { exitCode := usageExitCode, output := "", diagnostics := [help] })
  | some .help => pure (some { exitCode := 0, output := help, diagnostics := [] })
  | some .version => pure (some { exitCode := 0, output := "quadreg 0.1.0\n", diagnostics := [] })
  | some (.perform command) => do
    let source ← load command.path
    return command.respond verbosity bound source

def respond {m : Type → Type} [Monad m] (load : Option String → m (Except SourceError Program))
    (verbosity : Verbosity) (bound : Nat) (arguments : List String) : m (Option Response) :=
  respondTo Request.ofArguments load verbosity bound arguments

/-- The program that a path leads to among `files`, or the one that the bytes on standard input
denote. -/
def loadFrom (files : FileSystem) (standardInput : List UInt8) :
    Option String → Except SourceError Program
  | some path => files.load path
  | none => Program.ofBytes standardInput

end FourReg
