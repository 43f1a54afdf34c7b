import FourReg.Assembly.Source
/-!
# Files

A tree of files and directories as a value, so that what a path leads to is a function of the tree.
A path is followed one component after the other: an empty component and `.` stay where they are,
`..` goes back, and nothing lies behind a file, not even an empty component. What is barred is there,
but can be neither read nor gone through.
-/

namespace FourReg

inductive FileTree
  | file (content : List UInt8)
  | directory (entries : List (String × FileTree))
  /-- A file or directory that the system lets nobody into, and what it says about that. -/
  | barred (description : String)

namespace FileTree

/-- Follows the components of a path from the innermost of the directories `enclosing`, which go
outwards from there. -/
def follow (node : FileTree) (enclosing : List FileTree) : List String → Except ReadError FileTree
  | [] => .ok node
  | component :: rest =>
    match node with
    | .file _ => .error .notDirectory
    | .barred description => .error (.other description)
    | .directory entries =>
      if component = "" ∨ component = "." then follow node enclosing rest
      else if component = ".." then
        match enclosing with
        | [] => follow node [] rest
        | parent :: outer => follow parent outer rest
      else
        match entries.find? fun entry => entry.1 == component with
        | some entry => follow entry.2 (node :: enclosing) rest
        | none => .error .notFound

end FileTree

/-- The files that can be reached, and the directory where relative paths start. -/
structure FileSystem where
  root : FileTree
  /-- The components of the path to the working directory. -/
  workingDirectory : List String

/-- The content of the file that a path leads to. -/
def FileSystem.read (files : FileSystem) (path : String) : Except ReadError (List UInt8) :=
  if path = "" then .error .notFound
  else
    let components := (path.toList.splitOn '/').map String.ofList
    let start := if path.startsWith "/" then [] else files.workingDirectory
    match files.root.follow [] (start ++ components) with
    | .ok (.file content) => .ok content
    | .ok (.directory _) => .error .isDirectory
    | .ok (.barred description) => .error (.other description)
    | .error cause => .error cause

/-- What is read at a path or, without one, on standard input. -/
def FileSystem.input (files : FileSystem) (standardInput : List UInt8) :
    Option String → Except ReadError (List UInt8)
  | some path => files.read path
  | none => .ok standardInput

def FileSystem.load (files : FileSystem) (path : String) : Except SourceError Program :=
  Program.ofInput (files.read path)

end FourReg
