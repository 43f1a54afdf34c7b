import FourReg.Machine.Run
/-!
# Reports

What is told about a run that stopped: how the machine ended, the cycles it completed, the
registers and, if the run went wrong, in what way. There is nothing to tell about an empty program.
-/

namespace FourReg

structure Report where
  status : Status
  cycles : Nat
  registers : Registers
  fault : Option String
deriving DecidableEq

namespace Report

def ofRun? (machine : Machine) (outcome : Except MachineError Nat) : Option Report :=
  if machine.program.isEmpty then none
  else
    some
      { status := machine.status
        cycles := machine.cycles
        registers := machine.registers
        fault :=
          match outcome with
          | .ok _ => none
          | .error error => some error.message }

def isFault (report : Report) : Bool :=
  report.fault.isSome

def separator : String :=
  String.ofList (List.replicate 25 '-')

def notice : String :=
  "Program halted: Instruction pointer out of bounds"

/-- The report as text: the registers, after a notice if the run went wrong. -/
def text (report : Report) : String :=
  (if report.isFault then separator ++ "\n" ++ notice ++ "\n" else "") ++
    separator ++ "\n" ++ report.registers.text ++ "\n"

end Report

structure ReportedRun where
  /-- The report, none if there is nothing to run. -/
  report : Option Report
  machine : Machine
  records : Array Record

/-- Runs the machine for at most `bound` cycles and reports on the run. An empty program is not
run. -/
def Machine.runAndReport (bound : Nat) (machine : Machine) : Option ReportedRun :=
  if machine.program.isEmpty then some { report := none, machine, records := #[] }
  else
    (machine.run bound).map fun run =>
      { report := Report.ofRun? run.machine run.outcome
        machine := run.machine
        records := run.records }

end FourReg
