import Folio.CommandLine
import Folio.Project
import Folio.Session
import Folio.Validation

/-!
# Running commands

A command is run on a tree of files and an environment. It prints something, and it may fail, even
after it has printed. What the user is told about a failure goes to a stream of its own.

* `Invocation.run`: the outcome of a command;
* `Report.shown`: the lines for a failure.
-/

namespace Folio

/-- A text in some style of the terminal, if styles are shown. -/
def styled (colors : Bool) (style s : String) : String :=
  if colors then "\x1b[" ++ style ++ "m" ++ s ++ "\x1b[0m" else s

/-- The lines for a failure. -/
def Report.shown (colors : Bool) (r : Report) : String :=
  let line (style label text : String) := styled colors style label ++ ": " ++ text ++ "\n"
  line "1;31" "error" r.error.message ++
    ((r.details.map (line "33" "details")).getD "") ++
    ((r.suggestion.map (line "32" "suggestion")).getD "")

/-- What a command leaves behind. -/
structure Command.Outcome where
  /-- What it prints. -/
  output : String := ""
  /-- Why it fails, if it does. -/
  failure : Option Failure := none
deriving DecidableEq

/-- Only a command that does not fail ends with zero. -/
def Command.Outcome.exitCode (o : Command.Outcome) : Nat := if o.failure.isSome then 1 else 0

/-- The outcome of a command that prints one text if nothing fails. -/
def Command.Outcome.ofResult : Except Failure String → Command.Outcome
  | .ok s => { output := s ++ "\n" }
  | .error f => { failure := some f }

/-- What is reported on the resources of a store. -/
def Store.listing (s : Store) (colors : Bool) : Format → String
  | .json =>
    (Json.arr (s.counts.map fun (name, n) =>
      .ofFields [("name", .str name), ("operations", .ofNat n)])).pretty
  | .text =>
    if s.counts.isEmpty then "No resources found."
    else "\n".intercalate (s.counts.map fun (name, n) =>
      styled colors "1" name ++ s!" ({n} operation(s))")

namespace Validation

/-- Whether a resource is as it should be. -/
def Verdict.isValid (v : Verdict) : Bool := v.error.isNone

/-- A verdict as JSON. -/
def Verdict.toJson (v : Verdict) : Json :=
  .ofFields ((v.error.map fun e => ("error", Json.str e.message)).toList ++
    [("name", .str v.name), ("valid", .bool v.isValid)])

/-- The line for a verdict. -/
def Verdict.line (colors : Bool) (v : Verdict) : String :=
  match v.error with
  | none => styled colors "32" "✓" ++ s!" {v.name}\n"
  | some e => styled colors "31" "✗" ++ s!" {v.name}: {e.message}\n"

/-- What is reported on some verdicts. -/
def reportOn (colors : Bool) (verdicts : List Verdict) : Format → String
  | .json =>
    (Json.ofFields [("resources", .arr (verdicts.map Verdict.toJson)),
      ("valid", .bool (verdicts.all Verdict.isValid))]).pretty ++ "\n"
  | .text => String.join (verdicts.map (Verdict.line colors))

end Validation

/-- The seed that an input stands for. -/
def readInput : Option String → Except Failure Json
  | none => .ok .null
  | some text =>
    within s!"Invalid JSON passed to --input: {text}"
      ((Json.parse text).mapError fun e => { cause := .json e.message })

namespace Command

/-- Renders a resource, given how its project is loaded. -/
def runRender (load : Except Failure App) (name : String) (input : Option String)
    (pretty : Bool) : Except Failure String := do
  let seed ← readInput input
  let app ← load
  let v ← (Session.render app.host app.resources {} name seed).1
  return v.printed pretty

/-- Checks resources, given how their project is loaded. -/
def runValidate (load : Except Failure App) (colors : Bool) (names : List String)
    (format : Format) : Command.Outcome :=
  match load with
  | .error f => { failure := some f }
  | .ok app =>
    let verdicts := Validation.checkStore app.resources names
    let failed := (verdicts.filter fun v => !v.isValid).length
    let message := s!"{failed} of {verdicts.length} resource(s) failed validation"
    { output := Validation.reportOn colors verdicts format
      failure := if failed = 0 then none else some { cause := .message message } }

/-- Runs a command, given how its project is loaded. -/
def run (load : Except Failure App) (colors : Bool) : Command → Command.Outcome
  | .render name input pretty => .ofResult (runRender load name input pretty)
  | .list format => .ofResult (load.map fun app => app.resources.listing colors format)
  | .validate names format => runValidate load colors names format

end Command

namespace Invocation

/-- The directory of the project, and the settings file if it is given. -/
def places (env : Environment) (here : Path) (i : Invocation) :
    Except Failure (Path × Option Path) := do
  let root ← match i.root with
    | some raw => env.expandPath raw
    | none => .ok here
  let config ← i.config.mapM env.expandPath
  return (root, config)

/-- Runs what is asked for on a tree of files. `here` is the current directory. -/
def run (t : FileTree) (env : Environment) (here : Path) (colors : Bool) (i : Invocation) :
    Command.Outcome :=
  match i.places env here with
  | .error f => { failure := some f }
  | .ok (root, config) => i.command.run (App.load t root config) colors

end Invocation

end Folio
