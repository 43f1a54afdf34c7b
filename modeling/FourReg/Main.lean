import FourReg.CommandLine.Response
/-!
# The command line

Reads what a request needs, prints the answer and returns the exit code. How much of the log is
shown is taken from the environment variable `RUST_LOG`; by default warnings and errors are.
-/

namespace FourReg

/-- What remains to be read from a stream, behind the bytes `earlier`. -/
partial def readRest (stream : IO.FS.Stream) (earlier : ByteArray) : IO ByteArray := do
  let bytes ← stream.read 65536
  if bytes.isEmpty then return earlier else readRest stream (earlier ++ bytes)

/-- The cause of a failed attempt to read a file. -/
def ReadError.ofIO : IO.Error → ReadError
  | .noFileOrDirectory .. => .notFound
  | .inappropriateType _ code _ => if code == 21 then .isDirectory else .notDirectory
  | .permissionDenied _ code details =>
    .other (details ++ " (os error " ++ Numeral.text code.toNat ++ ")")
  | error => .other (toString error)

/-- The bytes of the file that a path leads to, or those on standard input if there is no path. -/
def readInput (path : Option String) : IO (Except ReadError (List UInt8)) := do
  try
    let bytes ←
      match path with
      | some path => IO.FS.readBinFile path
      | none => readRest (← IO.getStdin) .empty
    return .ok bytes.toList
  catch error =>
    return .error (.ofIO error)

def readProgram (path : Option String) : IO (Except SourceError Program) :=
  Program.ofInput <$> readInput path

/-- Prints an answer and gives its exit code. -/
def Response.print (response : Response) : IO UInt32 := do
  for line in response.diagnostics do
    IO.eprintln line
  IO.print response.output
  return response.exitCode

/-- The number of cycles after which a run is given up. -/
def cycleLimit : Nat :=
  4000000000000000000

end FourReg

/-- Answers the arguments of the command line. -/
def main (arguments : List String) : IO UInt32 := do
  let setting ← IO.getEnv "RUST_LOG"
  let verbosity := (setting.bind FourReg.Verbosity.ofName?).getD (.upTo .warn)
  match ← FourReg.respond FourReg.readProgram verbosity FourReg.cycleLimit arguments with
  | some response => response.print
  | none => return 1
