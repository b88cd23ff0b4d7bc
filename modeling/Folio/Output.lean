import Folio.EngineError
import Folio.Json.Printer
import Folio.Json.Reader

/-!
# Output modes

The directive `out` says how the data of all operations become one output: joined as text, the first
value alone, joined as text and read as JSON, or the texts of one property joined.

* `OutputMode.ofArgument`: the mode that an argument names;
* `Json.toText`: the text that a value contributes;
* `reduce`: the output of a list of values.
-/

namespace Folio

/-- How results are reduced to one output. -/
inductive OutputMode where
  /-- Joins the texts of all values. -/
  | raw
  /-- Takes the first value. -/
  | firstServe
  /-- Joins the texts of all values and reads the result as JSON. -/
  | object
  /-- Joins the texts that the values have under one name. -/
  | property
deriving DecidableEq

namespace OutputMode

/-- The mode of a name. -/
def ofName? : String → Option OutputMode
  | "raw" | "string" | "" => some .raw
  | "first_serve" => some .firstServe
  | "object" => some .object
  | "property" => some .property
  | _ => none

/-- The mode that the argument of `out` names; without one the texts are joined. -/
def ofArgument : Option Json → Except EngineError OutputMode
  | none | some .null => .ok .raw
  | some (.str name) =>
    match ofName? name with
    | some mode => .ok mode
    | none => .error (.unsupportedOutputMode name)
  | some v => .error (.unsupportedOutputMode v.compact)

end OutputMode

/-- The text a value contributes when values are joined: a text stands for itself, `null` for
    nothing, and anything else for its JSON text. -/
def Json.toText : Json → String
  | .str s => s
  | .null => ""
  | v => v.compact

/-- The texts of values, joined. -/
def Json.joinTexts (values : List Json) : String := String.join (values.map Json.toText)

/-- A value as it is printed: a text as it is, anything else as JSON. -/
def Json.printed (v : Json) (pretty : Bool) : String :=
  match v with
  | .str s => s
  | v => if pretty then v.pretty else v.compact

/-- Reduces values to one output. Only `property` looks at the key; without a key, or without such a
    field, a value contributes nothing. -/
def reduce (mode : OutputMode) (values : List Json) (key : Option Json) :
    Except EngineError Json :=
  match mode with
  | .raw => .ok (.str (Json.joinTexts values))
  | .firstServe => .ok (values.head?.getD .null)
  | .object =>
    match Json.parse (Json.joinTexts values) with
    | .ok v => .ok v
    | .error e => .error (.malformedObjectOutput e.message)
  | .property =>
    match key with
    | none => .ok (.str "")
    | some key =>
      .ok (.str (String.join (values.map fun v => ((v.get? key.toText).map Json.toText).getD "")))

end Folio
