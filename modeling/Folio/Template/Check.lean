import Folio.Template.Value
import Folio.Text

/-!
# Checks and functions

A check says whether the value of a variable, if there is one, has some quality. A function answers
with a value made from its arguments alone.

* `Template.Check.find?`: the checks by name;
* `Template.Function.find?`: the functions by name.
-/

namespace Folio.Template

/-- Whether a value, if there is one, has some quality, given arguments. -/
abbrev Check := Option Json → List Json → Except String Bool

namespace Check

/-- At most so many arguments may be given. -/
def atMost (check : String) (most : Nat) (args : List Json) : Except String Unit :=
  if args.length ≤ most then .ok ()
  else if most = 0 then
    .error s!"Tester `{check}` was called with some args but this test doesn't take args"
  else .error s!"Tester `{check}` was called with {args.length} args, the max number is {most}"

/-- The value, which has to be there. -/
def defined (check : String) : Option Json → Except String Json
  | some v => .ok v
  | none => .error s!"Tester `{check}` was called on an undefined variable"

/-- The text that a value or argument is. -/
def textOf (check part : String) (v : Option Json) : Except String (List Char) :=
  match v.bind Json.text? with
  | some s => .ok s.toList
  | none => .error s!"Tester `{check}` was called {part} that isn't a string"

/-- A check of the kind of a value. -/
def kind (check : String) (isKind : Json → Bool) : Check := fun v args => do
  atMost check 0 args
  return isKind (← defined check v)

/-- A check of two texts. -/
def onTexts (check : String) (holds : (value argument : List Char) → Bool) : Check :=
  fun v args => do
  atMost check 1 args
  let _ ← defined check v
  let value ← textOf check "on a variable" v
  let argument ← textOf check "with a parameter" args.head?
  return holds value argument

/-- The remainder of two doubles, with the sign of the first. -/
def remainder (a b : Double) : Double :=
  let x := a.toFloat
  let y := b.toFloat
  if !a.isFinite || b.isZero || (!b.isFinite && !b.isInfinite) then ⟨0x7ff8000000000000⟩
  else if b.isInfinite then a
  else
    -- Both are whole multiples of the smaller of their units.
    let unit := min a.power b.power
    let m := a.significand * Nat.pow 2 (a.power - unit).toNat
    let n := b.significand * Nat.pow 2 (b.power - unit).toNat
    let r := if x.abs < y.abs then a
      else Double.ofFloat (Float.scaleB (Float.ofNat (m % n)) unit)
    if a.isNegative ≠ r.isNegative then r.neg else r

/-- Whether a number is odd. -/
def isOdd (v : Json) : Except String Bool :=
  match v.number? with
  | some n => .ok !(remainder n.toDouble (Double.ofNat 2)).isZero
  | none => .error "Tester `odd` was called on a variable that isn't a number"

/-- Whether a number divides another. -/
def divisibleBy : Check := fun v args => do
  atMost "divisibleby" 1 args
  match (← defined "divisibleby" v).number?, (args.head?.bind Json.number?) with
  | none, _ => throw "Tester `divisibleby` was called on a variable that isn't a number"
  | _, none => throw "Tester `divisibleby` was called with a parameter that isn't a number"
  | some n, some d => return (remainder n.toDouble d.toDouble).isZero

/-- Whether a text, list or object holds something. -/
def containing : Check := fun v args => do
  atMost "containing" 1 args
  match ← defined "containing" v with
  | .str s => return Text.occurs (← textOf "containing" "with a parameter" args.head?) s.toList
  | .arr items => return args.head?.any fun a => items.any a.equals
  | .obj fields =>
    let name ← textOf "containing" "with a parameter" args.head?
    return Json.Fields.contains fields (String.ofList name)
  | _ => throw "Tester `containing` can only be used on string, array or map"

/-- The checks by name. -/
def find? (name : String) : Option Check :=
  match name with
  | "defined" => some fun v args => do
      atMost name 0 args
      return v.isSome
  | "undefined" => some fun v args => do
      atMost name 0 args
      return v.isNone
  | "odd" => some fun v args => do
      atMost name 0 args
      isOdd (← defined name v)
  | "even" => some fun v args => do
      atMost name 0 args
      return !(← isOdd (← defined name v))
  | "string" => some (kind name fun v => v.text?.isSome)
  | "number" => some (kind name fun v => v.number?.isSome)
  | "iterable" => some (kind name fun
      | .arr _ | .obj _ => true
      | _ => false)
  | "object" => some (kind name fun
      | .obj _ => true
      | _ => false)
  | "divisibleby" => some divisibleBy
  | "starting_with" => some (onTexts name fun value argument => Text.begins argument value)
  | "ending_with" => some (onTexts name fun value argument => Text.ends argument value)
  | "containing" => some containing
  | _ => none

end Check

/-- An answer made from named arguments. -/
abbrev Function := Json.Fields → Except String Json

namespace Function

/-- A count among the arguments of `range`. -/
def rangeBound (args : Json.Fields) (name : String) : Except String (Option Nat) :=
  let wrong (v : Json) : Except String (Option Nat) :=
    .error s!"Function `range` received {name}={v.compact} but `{name}` can only be a number"
  match Json.Fields.get? args name with
  | none => .ok none
  | some (.num (.integer n h)) =>
    if n < 0 then wrong (.num (.integer n h)) else .ok (some n.toNat)
  | some v => wrong v

/-- Counts from a start up to an end, which is left out. -/
def range : Function := fun args => do
  let start := (← rangeBound args "start").getD 0
  let step := (← rangeBound args "step_by").getD 1
  match ← rangeBound args "end" with
  | none => throw "Function `range` was called without a `end` argument"
  | some stop =>
    if start > stop then
      throw "Function `range` was called with a `start` argument greater than the `end` one"
    else
      let length := (stop - start + (step - 1)) / max step 1
      return .arr ((List.range' start length step).map .ofNat)

/-- Fails with a message. -/
def fail : Function := fun args =>
  match Json.Fields.get? args "message" with
  | none => .error "Function `throw` was called without a `message` argument"
  | some (.str s) => .error s
  | some v =>
    .error s!"Function `throw` received message={v.compact} but `message` can only be a string"

/-- A variable of the environment, of which templates see none. -/
def environment : Function := fun args =>
  match Json.Fields.get? args "name" with
  | none => .error "Function `get_env` was called without a `name` argument"
  | some (.str s) =>
    match Json.Fields.get? args "default" with
    | some v => .ok v
    | none => .error s!"Environment variable `{s}` not found"
  | some v =>
    .error s!"Function `get_env` received name={v.compact} but `name` can only be a string"

/-- The functions by name. -/
def find? (name : String) : Option Function :=
  match name with
  | "range" => some range
  | "throw" => some fail
  | "get_env" => some environment
  | _ => none

end Function

end Folio.Template
