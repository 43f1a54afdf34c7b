import FourReg.Machine.Basic
/-!
# Runs

A run repeats the cycle until the machine stops. Not every program stops, so a run takes a bound on
the number of cycles: `Machine.run bound machine` is `none` exactly when the machine is still
running after `bound` cycles, and its value does not depend on the bound otherwise.

A traced run executes the same cycles and keeps a line for each completed one, among the log
records in the order in which they arise.
-/

namespace FourReg

structure Run where
  /-- The number of cycles completed in this run, or what faulted. -/
  outcome : Except MachineError Nat
  machine : Machine
  records : Array Record

/-- A completed cycle as it is traced. -/
structure TraceLine where
  /-- The pointer before the cycle. -/
  ip : Word
  instruction : Instruction
  /-- The registers after the cycle. -/
  registers : Registers
deriving DecidableEq

inductive TraceEvent
  | logged (record : Record)
  | traced (line : TraceLine)
deriving DecidableEq

structure TracedRun where
  /-- The number of lines, or what faulted. -/
  outcome : Except MachineError Nat
  machine : Machine
  /-- The log records and the trace lines, in the order in which they arose. -/
  events : Array TraceEvent

namespace Machine

/-- Repeats the cycle until the machine stops, after the log records `earlier`. -/
def runLoop (start : Nat) : Nat → Machine → Array Record → Option Run
  | bound, machine, earlier =>
    if machine.isRunning then
      match bound with
      | 0 => none
      | bound + 1 =>
        let step := machine.step
        let records := earlier ++ step.records
        match step.outcome with
        | .error error => some { outcome := .error error, machine := step.machine, records }
        | .ok _ => runLoop start bound step.machine records
    else
      some { outcome := .ok (machine.cycles - start), machine, records := earlier }

/-- Runs the machine until it stops, for at most `bound` cycles. A machine that has stopped before
completes no cycle. -/
def run (bound : Nat) (machine : Machine) : Option Run :=
  runLoop machine.cycles bound machine #[.started machine.program.size]

/-- Repeats the cycle until the machine stops, after `count` trace lines and the events `earlier`.
-/
def traceLoop : Nat → Nat → Machine → Array TraceEvent → Option TracedRun
  | bound, count, machine, earlier =>
    if machine.isRunning then
      match bound with
      | 0 => none
      | bound + 1 =>
        let step := machine.step
        let events := earlier ++ step.records.map TraceEvent.logged
        match step.outcome with
        | .error error => some { outcome := .error error, machine := step.machine, events }
        | .ok none => traceLoop bound count step.machine events
        | .ok (some instruction) =>
          let line : TraceLine :=
            { ip := machine.ip, instruction, registers := step.machine.registers }
          traceLoop bound (count + 1) step.machine (events.push (.traced line))
    else
      some { outcome := .ok count, machine, events := earlier }

/-- Runs the machine until it stops, for at most `bound` cycles, and traces the completed ones. -/
def trace (bound : Nat) (machine : Machine) : Option TracedRun :=
  traceLoop bound 0 machine #[]

end Machine

end FourReg
