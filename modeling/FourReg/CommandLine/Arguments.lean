/-!
# Arguments

What the arguments of the command line ask for, if they have a meaning. They are looked at from left to
right and the first one that decides does: a request for help or for the version counts even if a
later argument is wrong, and a wrong argument counts even if help is asked for later.

Answers do not depend on these rules: `respondTo` takes what they make of the arguments as a parameter.
-/

namespace FourReg

/-- A command. A path that is missing stands for standard input. -/
inductive Command
  /-- Run a program and report on it. -/
  | run (path : Option String) (trace json : Bool)
  /-- List a program. -/
  | list (path : Option String)
deriving DecidableEq

inductive Request
  | perform (command : Command)
  | help
  | version
deriving DecidableEq

/-- The options of a command as far as they were given. -/
structure Options where
  path : Option String := none
  trace : Bool := false
  json : Bool := false
deriving DecidableEq

namespace Options

/-- The options with the trace flag, which can be given once. -/
def addTrace (options : Options) : Option Options :=
  if options.trace then none else some { options with trace := true }

/-- The options with the JSON flag, which can be given once. -/
def addJson (options : Options) : Option Options :=
  if options.json then none else some { options with json := true }

/-- The options with a path, which can be given once. -/
def addPath (options : Options) (argument : String) : Option Options :=
  if options.path.isSome then none else some { options with path := some argument }

end Options

/-- What an argument does to the options: it is worked into them, or it asks for help. -/
inductive ArgumentEffect
  | options (options : Options)
  | help

/-- A cluster of one-letter flags of a command. Only a command that runs can be traced. -/
def clusterEffect (runs : Bool) (options : Options) : List Char → Option ArgumentEffect
  | [] => some (.options options)
  | 'h' :: _ => some .help
  | letter :: rest =>
    if runs && letter == 't' then do
      let options ← options.addTrace
      clusterEffect runs options rest
    else none

/-- What an argument in front of any `--` does to the options of a command. -/
def argumentEffect (runs : Bool) (argument : String) (options : Options) : Option ArgumentEffect :=
  match argument.toList with
  | '-' :: '-' :: _ =>
    if argument = "--help" then some .help
    else if runs && argument == "--trace" then options.addTrace.map ArgumentEffect.options
    else if runs && argument == "--json" then options.addJson.map ArgumentEffect.options
    else none
  | '-' :: letter :: rest => clusterEffect runs options (letter :: rest)
  | _ => (options.addPath argument).map ArgumentEffect.options

/-- What the arguments of a command ask for, when `options` were given before; `build` is the
command with its options. Behind `--` every argument is a path. -/
def commandRequest (runs : Bool) (build : Options → Command) (options : Options) :
    List String → Option Request
  | [] => some (.perform (build options))
  | "--" :: rest => do
    let options ← rest.foldlM Options.addPath options
    return .perform (build options)
  | argument :: rest => do
    match ← argumentEffect runs argument options with
    | .help => return .help
    | .options options => commandRequest runs build options rest

/-- What one-letter flags in front of any command ask for; the first one decides. -/
def clusterRequest : List Char → Option Request
  | 'h' :: _ => some .help
  | 'V' :: _ => some .version
  | _ => none

/-- What all arguments ask for, none if they have no meaning. Without a command, standard input is
run. -/
def Request.ofArguments : List String → Option Request
  | [] => some (.perform (.run none false false))
  | "run" :: rest =>
    commandRequest true (fun options => .run options.path options.trace options.json) {} rest
  | "disasm" :: rest => commandRequest false (fun options => .list options.path) {} rest
  | ["help"] => some .help
  | ["help", command] => if command ∈ ["run", "disasm", "help"] then some .help else none
  | "help" :: _ :: _ => none
  | "--help" :: _ => some .help
  | "--version" :: _ => some .version
  | ["--"] => some (.perform (.run none false false))
  | argument :: _ =>
    match argument.toList with
    | '-' :: '-' :: _ => none
    | '-' :: letters => clusterRequest letters
    | _ => none

end FourReg
