import Folio.Failure
import Folio.Path
import Folio.Text
import Folio.Unicode.Classes

/-!
# Paths with variables

Paths given by the user may begin with `~` for the home directory and name variables of the
environment, as `$NAME` or `${NAME}`, the latter maybe with a default as in `${NAME:-default}`. Two
dollars stand for one.

* `Environment`: the variables;
* `Environment.expandPath`: the path that is meant.
-/

namespace Folio

/-- The variables of the environment with their values. -/
abbrev Environment := List (String × String)

namespace Environment

/-- The value of a variable. -/
def get? (env : Environment) (name : String) : Option String :=
  (env.find? fun v => v.1 == name).map Prod.snd

/-- A character of the name of a variable. -/
def isNamePart (c : Char) : Bool := c == '_' || c.isAlphanum || (c.toNat ≥ 0x80 && Unicode.isWord c)

/-- The value of a variable that has to be set. -/
def value (env : Environment) (name : List Char) : Except String (List Char) :=
  match env.get? (String.ofList name) with
  | some v => .ok v.toList
  | none => .error (String.ofList name)

/-- The value of what stands in braces: a name, maybe with a default. -/
def braced (env : Environment) (inside : List Char) : Except String (List Char) :=
  match Text.cut? [':', '-'] inside with
  | some (name, default) =>
    if name.isEmpty then env.value inside
    else .ok (((env.get? (String.ofList name)).map String.toList).getD default)
  | none => env.value inside

/-- Some characters, of which there are at most `fuel`, with the values of variables; or the name of
    a variable that is not set. -/
def expandWithin (env : Environment) : (fuel : Nat) → List Char → Except String (List Char)
  | 0, cs => .ok cs
  | _, [] => .ok []
  | fuel + 1, '$' :: rest =>
    match rest with
    | '{' :: inner =>
      match Text.cut? ['}'] inner with
      | some (inside, rest) => do
        return (← env.braced inside) ++ (← expandWithin env fuel rest)
      | none => do return '$' :: '{' :: (← expandWithin env fuel inner)
    | '$' :: rest => do return '$' :: (← expandWithin env fuel rest)
    | rest =>
      let name := rest.takeWhile isNamePart
      if name.isEmpty then do return '$' :: (← expandWithin env fuel rest)
      else do return (← env.value name) ++ (← expandWithin env fuel (rest.drop name.length))
  | fuel + 1, c :: rest => do return c :: (← expandWithin env fuel rest)

/-- A path with the home directory in place of a tilde in front. -/
def expandHome (env : Environment) (cs : List Char) : List Char :=
  match cs with
  | '~' :: rest =>
    if rest.isEmpty ∨ rest.head? = some '/' then
      match env.get? "HOME" with
      | some home => home.toList ++ rest
      | none => cs
    else cs
  | cs => cs

/-- The path that is meant by a text. A tilde that comes from a variable is left as it is. -/
def expandPath (env : Environment) (raw : String) : Except Failure Path :=
  match env.expandWithin raw.length raw.toList with
  | .ok cs => .ok ⟨String.ofList (if raw.startsWith "~" then env.expandHome cs else cs)⟩
  | .error name =>
    let reason := "environment variable not found"
    .error {
      contexts := [s!"Failed to expand path: {raw}", s!"error looking key '{name}' up: {reason}"]
      cause := .message reason }

end Environment

end Folio
