import Folio.Style.Function.Color
import Folio.Style.Function.List
import Folio.Style.Function.Math
import Folio.Style.Function.Text

/-!
# All functions

The functions that a sheet can call besides its own ones, and where to find them.

* `Style.Function.find?`: the function of a name.
-/

namespace Folio.Style.Function

/-- The name of the kind of a value. -/
def kindOf : Value → String
  | .number _ => "number"
  | .text .. => "string"
  | .color _ => "color"
  | .list .. => "list"
  | .map _ => "map"
  | .boolean _ => "bool"
  | .null => "null"
  | .calculation .. => "calculation"

/-- What readers of sheets may be asked to know. -/
def features : List String :=
  ["global-variable-shadowing", "extend-selector-pseudoclass", "units-level-3", "at-error",
    "custom-property"]

/-- A function of any value. -/
def ofAny (name parameter : String) (f : Value → Except String Value) : Function where
  module := "meta"
  name
  plainNames := [name]
  parameters := [(parameter, none)]
  value
    | [v] => f v
    | _ => noValue

/-- The functions of values of any kind. -/
def general : List Function := [
  ofAny "type-of" "value" fun v => .ok (.word (kindOf v)),
  ofAny "inspect" "value" fun v => .ok (.word v.inspect),
  ofAny "feature-exists" "feature" fun v => do
    return .boolean (features.contains (String.ofList (← v.toText).1))]

/-- All functions. -/
def all : List Function := math ++ texts ++ lists ++ maps ++ colors ++ general

/-- The function of a name, maybe of a module. -/
def find? (module : Option String) (name : String) : Option Function :=
  match module with
  | some m => all.find? fun f => f.module == m && f.name == name
  | none => all.find? fun f => f.plainNames.contains name

/-- The modules that there are. -/
def modules : List String := ["math", "string", "list", "map", "color", "meta", "selector"]

/-- The numbers that modules give names to. -/
def constant? (module name : String) : Option Float :=
  match module, name with
  | "math", "pi" => some 3.141592653589793
  | "math", "e" => some 2.718281828459045
  | _, _ => none

end Folio.Style.Function
