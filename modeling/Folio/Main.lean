import Folio.Run

/-!
# The program

The command line on a real file system. The program takes a picture of the files that a command can
refer to, runs the command on it, and writes what comes of it; nothing is decided here.

* `main`: the program.
-/

namespace Folio.Program

/-- What stands at a path, with directories up to some depth. -/
def picture (path : String) : (depth : Nat) → IO FileNode
  | 0 => return .directory []
  | depth + 1 => do
    let place := (← IO.currentDir) / path
    if ← place.isDir then
      let entries ← place.readDir
      let nodes ← entries.toList.mapM fun e => do
        return (e.fileName, ← picture (path ++ "/" ++ e.fileName) depth)
      return .directory (nodes.foldl (fun known (name, n) => FileNode.insert name n known) [])
    else return .file (← IO.FS.readBinFile place).toList

/-- Names that lead straight to where others lead by `..`; those passed are given last first. -/
def straight : (passed : List String) → List String → List String
  | passed, [] => passed.reverse
  | passed, name :: names =>
    if name = ".." then straight passed.tail names
    else if name = "" ∨ name = "." then straight passed names
    else straight (name :: passed) names

/-- A tree with what stands at a path, if something does. -/
def withPicture (t : FileTree) (p : Path) : IO FileTree := do
  let place := (← IO.currentDir) / p.text
  if ← place.pathExists then
    let whole := "/" ++ "/".intercalate (straight [] (t.names p))
    return t.put ⟨whole⟩ (← picture p.text 64)
  else return t

/-- The variables of the environment that arguments may refer to. -/
def environment (args : List String) : IO Environment := do
  let root := (← IO.getEnv rootVariable).getD ""
  let words (s : String) := Text.words (fun c => !Environment.isNamePart c) s.toList
  let names := ["HOME", rootVariable] ++ ((root :: args).flatMap words).map String.ofList
  let values ← names.mapM fun name => return (← IO.getEnv name).map (name, ·)
  return values.filterMap id

/-- What those are told who need to know the commands. -/
def usageText : String := "\n".intercalate [
  "Usage: rcengine [OPTIONS] <COMMAND>",
  "",
  "Commands:",
  "  render <NAME>        print the output of a resource (--input <JSON>, --pretty)",
  "  list                 print which resources there are (--format text|json)",
  "  validate [NAMES]...  check resources (--format text|json)",
  "",
  "Options: --root <PATH>, --config <PATH>, --verbose, --quiet, --help, --version"]

/-- Runs what is asked for. -/
def perform (env : Environment) (i : Invocation) : IO UInt32 := do
  let here : Path := ⟨(← IO.currentDir).toString⟩
  let tree : FileTree := { current := (Path.splitSlash here.text.toList).map String.ofList }
  let tree ← match i.places env here with
    | .error _ => pure tree
    | .ok (root, config) => do
      let tree ← withPicture tree root
      match config with
      | some file => withPicture tree file
      | none => pure tree
  let colors ← (← IO.getStdout).isTty
  let outcome := i.run tree env here colors
  IO.print outcome.output
  match outcome.failure with
  | some f => IO.eprint (f.report.shown colors)
  | none => pure ()
  return outcome.exitCode.toUInt32

end Folio.Program

open Folio in
/-- Reads the arguments and runs what they ask for. -/
def main (args : List String) : IO UInt32 := do
  let env ← Program.environment args
  match Invocation.parse env args with
  | .ok i => Program.perform env i
  | .error usage =>
    if usage.exitCode = 0 then IO.println Program.usageText else IO.eprintln Program.usageText
    return usage.exitCode.toUInt32
