import FourReg.Json.Field
import FourReg.Json.Reader
import FourReg.Json.Writer
import FourReg.Report
/-!
# Snapshots

The JSON form of the values of the machine. A snapshot holds all of a value, so that it can be
taken up again later; reading one accepts everything of the right shape, whatever its layout. Of
all fields only the fault of a report may be missing.
-/

namespace FourReg

def Word.toJson (word : Word) : Json :=
  Json.ofInt word.toInt

def AddressMode.ofJson? : Json → Option AddressMode :=
  Json.alternative? AddressMode.all AddressMode.name

def AddressMode.toJson (mode : AddressMode) : Json :=
  Json.ofText mode.name

def Operation.ofJson? : Json → Option Operation :=
  Json.alternative? Operation.all Operation.name

def Operation.toJson (operation : Operation) : Json :=
  Json.ofText operation.name

def Opcode.ofJson? : Json → Option Opcode :=
  Json.alternative? Opcode.all Opcode.name

def Opcode.toJson (opcode : Opcode) : Json :=
  Json.ofText opcode.name

def Status.ofJson? : Json → Option Status :=
  Json.alternative? Status.all Status.name

def Status.toJson (status : Status) : Json :=
  Json.ofText status.name

namespace Registers

def slotsToJson (registers : Registers) : Json :=
  .array (registers.toList.map Word.toJson)

/-- The registers that an array of four words holds. -/
def ofSlotsJson? (document : Json) : Option Registers := do
  match ← (← document.toList?).mapM Json.toWord? with
  | [r0, r1, r2, r3] => some (ofWords r0 r1 r2 r3)
  | _ => none

def toJson (registers : Registers) : Json :=
  Json.ofFields [("slots", registers.slotsToJson)]

def ofJson? (document : Json) : Option Registers := do
  match ← document.fields? ["slots"] with
  | [some slots] => ofSlotsJson? slots
  | _ => none

end Registers

namespace Instruction

def toJson (instruction : Instruction) : Json :=
  Json.ofFields
    [("opcode", instruction.opcode.toJson), ("a", instruction.a.toJson),
      ("b", instruction.b.toJson), ("c", instruction.c.toJson)]

def ofJson? (document : Json) : Option Instruction := do
  match ← document.fields? ["opcode", "a", "b", "c"] with
  | [some opcode, some a, some b, some c] =>
    return {
      opcode := ← opcode.toWord?
      a := ← a.toWord?
      b := ← b.toWord?
      c := ← c.toWord? }
  | _ => none

end Instruction

namespace Program

def toJson (program : Program) : Json :=
  Json.ofFields [("instructions", .array (program.instructions.toList.map Instruction.toJson))]

def ofJson? (document : Json) : Option Program := do
  match ← document.fields? ["instructions"] with
  | [some instructions] => do
    let instructions ← (← instructions.toList?).mapM Instruction.ofJson?
    return ⟨instructions.toArray⟩
  | _ => none

end Program

namespace Machine

def toJson (machine : Machine) : Json :=
  Json.ofFields
    [("regs", machine.registers.toJson), ("program", machine.program.toJson),
      ("ip", machine.ip.toJson), ("state", machine.status.toJson),
      ("cycles", Json.ofInt machine.cycles)]

def ofJson? (document : Json) : Option Machine := do
  match ← document.fields? ["regs", "program", "ip", "state", "cycles"] with
  | [some registers, some program, some ip, some status, some cycles] =>
    return {
      registers := ← Registers.ofJson? registers
      program := ← Program.ofJson? program
      ip := ← ip.toWord?
      status := ← Status.ofJson? status
      cycles := ← cycles.toCount? }
  | _ => none

end Machine

namespace Report

def faultToJson : Option String → Json
  | none => .null
  | some message => Json.ofText message

/-- The fault that a document holds; null is the absence of one. -/
def faultOfJson? : Json → Option (Option String)
  | .null => some none
  | document => document.toText?.map some

def toJson (report : Report) : Json :=
  Json.ofFields
    [("state", report.status.toJson), ("cycles", Json.ofInt report.cycles),
      ("registers", report.registers.slotsToJson), ("fault", faultToJson report.fault)]

/-- The report that a document holds. A fault that is missing is absent. -/
def ofJson? (document : Json) : Option Report := do
  match ← document.fields? ["state", "cycles", "registers", "fault"] with
  | [some status, some cycles, some registers, fault] =>
    return {
      status := ← Status.ofJson? status
      cycles := ← cycles.toCount?
      registers := ← Registers.ofSlotsJson? registers
      fault := ← faultOfJson? (fault.getD .null) }
  | _ => none

def jsonText (report : Report) : String :=
  report.toJson.indented

end Report

end FourReg
