import FourReg.Program
/-!
# Log records

What a machine reports about its own execution. A record carries the facts; its level and wording
are functions of them. `Verbosity` says which levels are shown.
-/

namespace FourReg

inductive Level
  | error | warn | info | debug | trace
deriving DecidableEq

namespace Level

def name : Level → String
  | error => "ERROR" | warn => "WARN" | info => "INFO" | debug => "DEBUG" | trace => "TRACE"

/-- Levels in the order of decreasing urgency. -/
def rank : Level → Nat
  | error => 1 | warn => 2 | info => 3 | debug => 4 | trace => 5

end Level

/-- How much of the log is shown. -/
inductive Verbosity
  | off
  /-- Records of at least the urgency of `level`. -/
  | upTo (level : Level)
deriving DecidableEq

/-- Whether records of a level are shown. -/
def Verbosity.shows : Verbosity → Level → Bool
  | off, _ => false
  | upTo bound, level => level.rank ≤ bound.rank

/-- The verbosity that a setting names: `off`, or the last level shown. -/
def Verbosity.ofName? : String → Option Verbosity
  | "off" => some .off
  | "error" => some (.upTo .error)
  | "warn" => some (.upTo .warn)
  | "info" => some (.upTo .info)
  | "debug" => some (.upTo .debug)
  | "trace" => some (.upTo .trace)
  | _ => none

inductive Record
  /-- A run begins on a program of `size` instructions. -/
  | started (size : Nat)
  /-- The instruction at `ip` is about to be executed on `registers`, of which register 0 holds
  `ip`. -/
  | fetched (ip : Word) (instruction : Instruction) (registers : Registers)
  /-- The instruction at `ip` has no known opcode and does nothing. -/
  | skipped (opcode ip : Word)
  /-- The pointer `ip` addresses none of the `size` instructions. -/
  | halted (ip : Word) (size cycles : Nat)
  /-- The instruction at `ip` refers to a register out of range. -/
  | faulted (ip : Word) (error : RegisterError)
deriving DecidableEq

namespace Record

def level : Record → Level
  | started .. | halted .. | faulted .. => .debug
  | fetched .. => .trace
  | skipped .. => .warn

def message : Record → String
  | started size => "running " ++ Numeral.text size ++ " instructions"
  | fetched ip instruction registers =>
    "ip=" ++ Numeral.text ip.toInt ++
      " Instruction \x7b opcode: " ++ Numeral.text instruction.opcode.toInt ++
      ", a: " ++ Numeral.text instruction.a.toInt ++
      ", b: " ++ Numeral.text instruction.b.toInt ++
      ", c: " ++ Numeral.text instruction.c.toInt ++
      " \x7d regs=[" ++ registers.text ++ "]"
  | skipped opcode ip =>
    "unknown opcode " ++ Numeral.text opcode.toInt ++ " at ip " ++ Numeral.text ip.toInt ++
      ", skipping"
  | halted ip size cycles =>
    "halted: ip " ++ Numeral.text ip.toInt ++ " outside 0.." ++ Numeral.text size ++
      " after " ++ Numeral.text cycles ++ " cycles"
  | faulted ip error =>
    "faulted at ip " ++ Numeral.text ip.toInt ++ ": " ++ error.message

end Record

end FourReg
