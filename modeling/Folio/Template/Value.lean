import Folio.Json.Printer
import Folio.Unicode.Classes
import Folio.Word

/-!
# Values in templates

How values behave inside templates: the text they print as, when they count as true, when two are
equal, and what lies below them. The text of a value is not its JSON text: strings are bare, nothing
is printed for `null`, and an object prints as a fixed word.

* `Json.display`: the printed text;
* `Json.isTruthy`, `Json.equals`: truth and equality;
* `Json.below?`: what lies below a value along a dotted path.
-/

namespace Folio

/-- The number as it is printed: whole numbers in digits, others without an exponent. -/
def Number.display : Number → String
  | .integer n _ => String.ofList (Number.integerText n)
  | .double d => Decimal.Layout.plain.render d

/-- The number without the sign of a zero. -/
def Number.unsigned : Number → Number
  | .double d => .double (if d.isZero then ⟨0⟩ else d)
  | n => n

/-- The whole number of 64 bits that a double is cut down to; beyond them it is the nearest of them,
    and zero for what is no number. -/
def Double.toInt64 (d : Double) : Int :=
  if d.isFinite then max Word.least (min Word.greatest d.truncate)
  else if d.isInfinite then (if d.isNegative then Word.least else Word.greatest)
  else 0

namespace Json

/-- A double as a value; what is no finite number is `null`. -/
def ofDouble (d : Double) : Json := if d.isFinite then .num (.double d) else .null

mutual

/-- The text that a value prints as. -/
def display : Json → String
  | .null => ""
  | .bool b => if b then "true" else "false"
  | .num n => n.display
  | .str s => s
  | .arr items => "[" ++ ", ".intercalate (displayAll items) ++ "]"
  | .obj _ => "[object]"

/-- The texts that values print as. -/
def displayAll : List Json → List String
  | [] => []
  | v :: rest => v.display :: displayAll rest

end

/-- Whether a value counts as true: all do but those that are zero or empty. -/
def isTruthy : Json → Bool
  | .null => false
  | .bool b => b
  | .num (.integer n _) => n ≠ 0
  | .num (.double d) => !d.isZero && (d.isFinite || d.isInfinite)
  | .str s => !s.isEmpty
  | .arr items => !items.isEmpty
  | .obj fields => !fields.isEmpty

mutual

/-- The same value with every zero without its sign. -/
def unsigned : Json → Json
  | .num n => .num (Number.unsigned n)
  | .arr items => .arr (unsignedItems items)
  | .obj fields => .obj (unsignedFields fields)
  | v => v

/-- The same items with every zero without its sign. -/
def unsignedItems : List Json → List Json
  | [] => []
  | v :: rest => v.unsigned :: unsignedItems rest

/-- The same fields with every zero without its sign. -/
def unsignedFields : List (String × Json) → List (String × Json)
  | [] => []
  | (name, v) :: rest => (name, v.unsigned) :: unsignedFields rest

end

/-- Whether two values are equal. A whole number differs from any double, and zeros are equal
    whatever their sign. -/
def equals (a b : Json) : Bool := a.unsigned = b.unsigned

/-- The number that this is. -/
def number? : Json → Option Number
  | .num n => some n
  | _ => none

/-- The text that this is. -/
def text? : Json → Option String
  | .str s => some s
  | _ => none

/-- The steps of a dotted path. A quoted step may hold dots. -/
def pathSteps : (quoted : Bool) → (step : List Char) → List Char → List String
  | _, step, [] => [String.ofList step.reverse]
  | true, step, '"' :: rest => pathSteps false step rest
  | true, step, c :: rest => pathSteps true (c :: step) rest
  | false, step, '"' :: rest => pathSteps true step rest
  | false, step, '.' :: rest => String.ofList step.reverse :: pathSteps false [] rest
  | false, step, c :: rest => pathSteps false (c :: step) rest

/-- The place in a list that a step names: digits without a zero in front. -/
def listIndex (step : String) : Option Nat :=
  match step.toList with
  | [] => none
  | '0' :: _ :: _ => none
  | cs => if cs.all Char.isDigit then
      some (cs.foldl (fun n c => n * 10 + (c.toNat - '0'.toNat)) 0) else none

/-- What lies one step below a value. -/
def step? (v : Json) (step : String) : Option Json :=
  match v with
  | .obj fields => Fields.get? fields (step.replace "~1" "/" |>.replace "~0" "~")
  | .arr items => (listIndex step).bind fun n => items[n]?
  | _ => none

/-- What lies below a value along steps. -/
def follow? (v : Json) : List String → Option Json
  | [] => some v
  | step :: rest => (v.step? step).bind fun w => w.follow? rest

/-- What lies below a value along a dotted path; the value itself for the empty path. -/
def below? (v : Json) (path : String) : Option Json :=
  if path.isEmpty then some v else v.follow? (pathSteps false [] path.toList)

end Json

namespace Template

/-- A text with the characters replaced that mean something in markup. -/
def escapeMarkup (s : String) : String :=
  String.join (s.toList.map fun c =>
    match c with
    | '&' => "&amp;"
    | '<' => "&lt;"
    | '>' => "&gt;"
    | '"' => "&quot;"
    | '\'' => "&#x27;"
    | '/' => "&#x2F;"
    | c => c.toString)

end Template

end Folio
