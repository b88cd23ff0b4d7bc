import Folio.Style.Function.Basic

/-!
# Functions of numbers

Rounding, units and arithmetic beyond the operators.

* `Style.Function.math`: all of them.
-/

namespace Folio.Style.Function

/-- A function of one number. -/
def ofNumber (name : String) (plainNames : List String) (f : Number → Except String Value) :
    Function where
  module := "math"
  name
  plainNames
  parameters := [("number", none)]
  value
    | [v] => do f (← v.toNumber)
    | _ => noValue

/-- A function that changes a number and keeps its units. -/
def rounding (name : String) (f : Float → Float) : Function :=
  ofNumber name [name] fun n => return .number (n.withValue (f n.value))

/-- A function of a number without units. -/
def ofPlain (name : String) (f : Float → Float) : Function :=
  ofNumber name [] fun n =>
    if n.isPlain then .ok (.number (.plain (f n.value))) else .error "Expected no units."

/-- A function of an angle. -/
def ofAngle (name : String) (f : Float → Float) : Function :=
  ofNumber name [] fun n =>
    match n.convert? { value := 0, above := ["rad"] } with
    | some x => .ok (.number (.plain (f x)))
    | none => .error "Expected an angle."

/-- A function that picks one of some numbers. -/
def picking (name : String) (isBetter : Float → Float → Bool) : Function where
  module := "math"
  name
  plainNames := [name]
  parameters := [("number", none)]
  takesMore := true
  value vs := do
    let ns ← vs.mapM Value.toNumber
    match ns with
    | [] => noValue
    | first :: rest =>
      let best ← rest.foldlM (fun best n => do
        let (x, y, _) ← n.matched best
        return if isBetter x y then n else best) first
      return .number best.settled

/-- A function of two values. -/
def ofTwo (name : String) (plainNames parameters : List String)
    (f : Value → Value → Except String Value) : Function where
  module := "math"
  name
  plainNames
  parameters := parameters.map (·, none)
  value
    | [v, w] => f v w
    | _ => noValue

/-- The functions of numbers. -/
def math : List Function := [
  ofNumber "percentage" ["percentage"] fun n =>
    if n.isPlain then .ok (.number { value := n.value * 100, above := ["%"] })
    else .error "Expected no units.",
  rounding "round" Float.round,
  rounding "ceil" Float.ceil,
  rounding "floor" Float.floor,
  rounding "abs" Float.abs,
  picking "min" (· < ·),
  picking "max" (· > ·),
  ofNumber "unit" ["unit"] fun n => .ok (.text n.unitText true),
  ofNumber "is-unitless" ["unitless"] fun n => .ok (.boolean n.isPlain),
  ofTwo "compatible" ["comparable"] ["number1", "number2"] fun v w => do
    return .boolean ((← v.toNumber).isCompatible (← w.toNumber)),
  ofTwo "div" [] ["number1", "number2"] fun v w =>
    match v, w with
    | .number m, .number n => .ok (.number (m.dividedBy n))
    | v, w => do return .word ((← v.css) ++ "/" ++ (← w.css)),
  ofTwo "pow" [] ["base", "exponent"] fun v w => do
    let m ← v.toNumber
    let n ← w.toNumber
    if m.isPlain && n.isPlain then return .number (.plain (Float.pow m.value n.value))
    else throw "Expected no units.",
  ofPlain "sqrt" Float.sqrt,
  ofPlain "log" Float.log,
  ofPlain "exp" Float.exp,
  ofAngle "sin" Float.sin,
  ofAngle "cos" Float.cos,
  ofAngle "tan" Float.tan,
  { module := "math"
    name := "clamp"
    parameters := [("min", none), ("number", none), ("max", none)]
    value
      | [low, v, high] => do
        let low ← low.toNumber
        let n ← v.toNumber
        let high ← high.toNumber
        let (x, least, _) ← n.matched low
        if x ≤ least then return .number low
        else
          let (x, most, _) ← n.matched high
          return .number (if x ≥ most then high else n)
      | _ => noValue }]

end Folio.Style.Function
