import Folio.Expansion

/-!
# The command line

The program has three commands, each with options of its own, and options that may stand before or
behind the command. An option with a value takes the next argument or what follows an equals sign;
after two dashes nothing is an option. Options are given at most once on either side of the command,
and those behind it count first.

* `Invocation`: what the arguments ask for;
* `Usage`: what they get instead, if they ask for nothing that can be done;
* `Invocation.parse`: the meaning of arguments.
-/

namespace Folio

/-- How resources are reported on. -/
inductive Format where
  /-- In lines of text. -/
  | text
  /-- As JSON. -/
  | json
deriving DecidableEq

/-- The commands. -/
inductive Command where
  /-- Prints the output of a resource, for some input given as JSON. -/
  | render (name : String) (input : Option String) (pretty : Bool)
  /-- Prints which resources there are. -/
  | list (format : Format)
  /-- Checks some resources, or all if none is named. -/
  | validate (names : List String) (format : Format)
deriving DecidableEq

/-- What arguments ask for. -/
structure Invocation where
  /-- The command. -/
  command : Command
  /-- The directory of the project, as it is given. -/
  root : Option String := none
  /-- The settings file, as it is given. -/
  config : Option String := none
  /-- Whether more is to be logged. -/
  verbose : Bool := false
  /-- Whether less is to be logged. -/
  quiet : Bool := false
deriving DecidableEq

/-- What arguments get instead of the output of a command. -/
inductive Usage where
  /-- They ask for help. -/
  | help
  /-- They ask for the version. -/
  | version
  /-- There are none, which is taken as a request for help. -/
  | nothingGiven
  /-- There is no command among them. -/
  | missingCommand
  /-- There is something else in place of a command. -/
  | unknownCommand
  /-- One of them means nothing. -/
  | unknownArgument
  /-- The command needs an argument that is not there. -/
  | missingArgument
  /-- An option has no value, or one that it cannot have. -/
  | invalidValue
  /-- An option has a value and takes none. -/
  | surplusValue
  /-- Options are given twice or exclude each other. -/
  | conflict
deriving DecidableEq

/-- Only those who asked for help or the version got what they wanted. -/
def Usage.exitCode : Usage → Nat
  | .help | .version => 0
  | _ => 2

namespace CommandLine

/-- What an option is for. -/
inductive Role where
  /-- It asks for help. -/
  | help
  /-- It asks for the version. -/
  | version
  /-- It is turned on. -/
  | switch
  /-- It has a value, maybe out of a few. -/
  | value (choices : List String)
deriving DecidableEq

/-- An option. -/
structure Flag where
  /-- Its name, behind two dashes. -/
  name : String
  /-- Its letter, behind one dash. -/
  letter : Option Char := none
  /-- What it is for. -/
  role : Role
deriving DecidableEq

/-- The arguments that can stand in one place: before the command or behind it. -/
structure Grammar where
  /-- The options. -/
  flags : List Flag
  /-- The commands. -/
  commands : List String := []
  /-- How many arguments there can be that are no options; any number if that is open. -/
  operands : Option Nat := some 0

/-- What has been read. -/
structure Reading where
  /-- The options given, each with its value, if it has one. -/
  given : List (String × String) := []
  /-- The arguments that are no options. -/
  operands : List String := []
  /-- An option that takes a value, and the value once it is there. -/
  pending : Option (Flag × Option String) := none

namespace Reading

/-- Gives an option, with its value or an empty one. -/
def give (r : Reading) (f : Flag) (value : String) : Except Usage Reading :=
  let isValid := match f.role with
    | .value choices => choices.isEmpty || choices.contains value
    | _ => true
  if r.given.any fun g => g.1 == f.name then .error .conflict
  else if isValid then .ok { r with given := r.given ++ [(f.name, value)] }
  else .error .invalidValue

/-- Gives the option that is pending. -/
def settle (r : Reading) : Except Usage Reading :=
  match r.pending with
  | none => .ok r
  | some (_, none) => .error .invalidValue
  | some (f, some value) => { r with pending := none }.give f value

/-- Whether the next argument is the value of an option, unless it is an option itself. -/
def isAwaiting (r : Reading) : Bool := r.pending.any fun p => p.2.isNone

/-- Meets an option without a value. -/
def meet (r : Reading) (f : Flag) : Except Usage Reading := do
  let r ← r.settle
  match f.role with
  | .help => .error .help
  | .version => .error .version
  | .switch => r.give f ""
  | .value _ => return { r with pending := some (f, none) }

/-- Meets an option by its name, maybe with a value behind an equals sign. -/
def meetNamed (g : Grammar) (r : Reading) (name : String) (value : Option String) :
    Except Usage Reading := do
  match g.flags.find? (fun f => f.name == name), value with
  | none, _ => .error .unknownArgument
  | some f, none => r.meet f
  | some f, some v =>
    match f.role with
    | .value _ => (← r.settle).give f v
    | _ => .error .surplusValue

/-- Meets options by their letters. -/
def meetLetters (g : Grammar) (r : Reading) : List Char → Except Usage Reading
  | [] => .ok r
  | c :: rest => do
    match g.flags.find? fun f => f.letter == some c with
    | none => .error .unknownArgument
    | some f => meetLetters g (← r.meet f) rest

/-- Takes an argument that is no option. -/
def operand (g : Grammar) (r : Reading) (afterDashes : Bool) (a : String) :
    Except Usage Reading := do
  if g.operands.all (r.operands.length < ·) then
    let r ← r.settle
    return { r with operands := r.operands ++ [a] }
  else if g.commands.isEmpty ∨ (afterDashes ∧ g.commands.contains a) then .error .unknownArgument
  else .error .unknownCommand

/-- The value of an option. -/
def value? (r : Reading) (name : String) : Option String :=
  (r.given.find? fun g => g.1 == name).map Prod.snd

/-- Whether an option is given. -/
def has (r : Reading) (name : String) : Bool := (r.value? name).isSome

/-- What has been read when no arguments are left. -/
def finish (r : Reading) : Except Usage Reading := do
  let r ← r.settle
  if r.has "verbose" ∧ r.has "quiet" then .error .conflict else return r

end Reading

/-- Reads arguments up to a command: what has been read, and the command with the arguments behind
    it. -/
def read (g : Grammar) : (afterDashes : Bool) → Reading → List String →
    Except Usage (Reading × Option (String × List String))
  | _, r, [] => .ok (r, none)
  | true, r, a :: rest => do read g true (← r.operand g true a) rest
  | false, r, a :: rest => do
    if !r.isAwaiting ∧ g.commands.contains a then return (r, some (a, rest))
    else
      match a.toList with
      | ['-', '-'] => read g true r rest
      | '-' :: '-' :: text =>
        let name := text.takeWhile (· != '=')
        let value := (text.drop name.length).tail?.map String.ofList
        read g false (← r.meetNamed g (String.ofList name) value) rest
      | '-' :: c :: letters => read g false (← r.meetLetters g (c :: letters)) rest
      | _ =>
        match r.pending with
        | some (f, none) => read g false { r with pending := some (f, some a) } rest
        | _ => read g false (← r.operand g false a) rest

/-- The options that may stand on both sides of a command. -/
def commonFlags : List Flag :=
  [⟨"verbose", 'v', .switch⟩, ⟨"quiet", 'q', .switch⟩, ⟨"root", none, .value []⟩,
    ⟨"config", none, .value []⟩, ⟨"help", 'h', .help⟩]

/-- The option for the format of a report. -/
def formatFlag : Flag := ⟨"format", none, .value ["text", "json"]⟩

/-- The commands. -/
def commands : List String := ["render", "list", "validate", "help"]

/-- What can stand before a command. -/
def Grammar.outer : Grammar where
  flags := ⟨"version", 'V', .version⟩ :: commonFlags
  commands := CommandLine.commands

/-- What can stand behind a command. -/
def Grammar.inner : String → Grammar
  | "render" =>
    { flags := ⟨"input", none, .value []⟩ :: ⟨"pretty", none, .switch⟩ :: commonFlags
      operands := some 1 }
  | "validate" => { flags := formatFlag :: commonFlags, operands := none }
  | _ => { flags := formatFlag :: commonFlags }

/-- The format that is asked for. -/
def format (r : Reading) : Format := if r.value? "format" = some "json" then .json else .text

/-- The command that is asked for by its name and what stands behind it. -/
def command (name : String) (r : Reading) : Except Usage Command :=
  match name, r.operands with
  | "render", [] => .error .missingArgument
  | "render", resource :: _ => .ok (.render resource (r.value? "input") (r.has "pretty"))
  | "validate", names => .ok (.validate names (format r))
  | _, _ => .ok (.list (format r))

/-- What those get who ask for help on commands. -/
def helpOn : List String → Usage
  | [] => .help
  | [name] => if commands.contains name then .help else .unknownCommand
  | _ => .unknownCommand

end CommandLine

/-- The variable that names the directory of the project. -/
def rootVariable : String := "RCENGINE_ROOT"

/-- What arguments ask for. -/
def Invocation.parse (env : Environment) (args : List String) : Except Usage Invocation := do
  let (before, rest) ← CommandLine.read .outer false {} args
  match rest with
  | none =>
    let before ← before.settle
    if before.given.isEmpty ∧ env.get? rootVariable = none then .error .nothingGiven
    else .error .missingCommand
  | some ("help", names) => .error (CommandLine.helpOn names)
  | some (name, rest) =>
    let (behind, _) ← CommandLine.read (.inner name) false {} rest
    let behind ← behind.finish
    let command ← CommandLine.command name behind
    let before ← before.finish
    return {
      command
      root := (behind.value? "root" <|> before.value? "root") <|> env.get? rootVariable
      config := behind.value? "config" <|> before.value? "config"
      verbose := behind.has "verbose" || before.has "verbose"
      quiet := behind.has "quiet" || before.has "quiet" }

end Folio
