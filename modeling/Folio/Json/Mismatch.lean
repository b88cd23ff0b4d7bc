import Folio.Json.Printer
import Folio.Unicode.Printable

/-!
# Values of the wrong shape

When a value is read as something it is not, the message names what was found and what was expected.
-/

namespace Folio.Json

/-- What was found, in the words of a message. -/
def found : Json → String
  | .null => "null"
  | .bool true => "boolean `true`"
  | .bool false => "boolean `false`"
  | .num (.integer n h) => s!"integer `{String.ofList (Number.integer n h).text}`"
  | .num (.double d) => s!"floating point `{String.ofList (Number.double d).text}`"
  | .str s => s!"string {Unicode.debugQuote s}"
  | .arr _ => "sequence"
  | .obj _ => "map"

/-- The message for a value of the wrong shape. -/
def mismatch (v : Json) (expected : String) : String :=
  s!"invalid type: {v.found}, expected {expected}"

/-- The message for a name that an object lacks. -/
def missingField (name : String) : String := s!"missing field `{name}`"

end Folio.Json
