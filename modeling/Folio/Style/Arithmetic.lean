import Folio.Style.Value

/-!
# Operators on values

Numbers are computed with, in the units of the left operand. Sums, differences and quotients of
anything else are texts: what is written of both operands with the operator between them. Colors and
calculations are no operands of such texts among themselves.

* `Style.Value.unary`, `Style.Value.binary`: the value of an operator;
* `Style.Value.quotient`: a quotient that may stay as it is written.
-/

namespace Folio.Style.Value

/-- What an operator fails with that has no value for its operands. -/
def undefinedOperation (v : Value) (op : BinaryOperator) (w : Value) : Except String Value :=
  .error s!"Undefined operation {v.inspect} {op.text} {w.inspect}."

/-- The text of both operands with something between them. -/
def joined (v : Value) (between : String) (w : Value) : Except String Value := do
  return .word ((← v.css) ++ between ++ (← w.css))

/-- The value of an operator of sums or quotients for operands that are not both numbers. -/
def joinedUnless (op : BinaryOperator) (between : String) (v w : Value) : Except String Value :=
  match v, w with
  | .number _, .color _ | .color _, .number _ | .color _, .color _ => undefinedOperation v op w
  | .calculation .., _ | _, .calculation .. => undefinedOperation v op w
  | v, w => joined v between w

/-- The sum of values. -/
def plus (v w : Value) : Except String Value :=
  match v, w with
  | .number m, .number n => do
    let (x, y, units) ← m.matched n
    return .number (units.withValue (x + y))
  | .text s isQuoted, .text t _ => .ok (.text (s ++ t) isQuoted)
  | .text s isQuoted, w => do return .text (s ++ (← w.css)) isQuoted
  | v, .text t isQuoted => do return .text ((← v.css) ++ t) isQuoted
  | v, w => joinedUnless .plus "" v w

/-- The difference of values. -/
def minus (v w : Value) : Except String Value :=
  match v, w with
  | .number m, .number n => do
    let (x, y, units) ← m.matched n
    return .number (units.withValue (x - y))
  | v, w => joinedUnless .minus "-" v w

/-- The quotient of values. -/
def dividedBy (v w : Value) : Except String Value :=
  match v, w with
  | .number m, .number n => .ok (.number (m.dividedBy n))
  | v, w => joinedUnless .divide "/" v w

/-- The quotient of values that is written as it is in the sheet if they are numbers. -/
def quotient (v w : Value) : Except String Value :=
  match v, w with
  | .number m, .number n =>
    .ok (.number { m.dividedBy n with slash := some (m.text ++ "/" ++ n.text) })
  | v, w => v.dividedBy w

/-- A comparison of numbers. -/
def compare (op : BinaryOperator) (holds : Float → Float → Bool) (v w : Value) :
    Except String Value :=
  match v, w with
  | .number m, .number n => do
    let (x, y, _) ← m.matched n
    return .boolean (holds x y)
  | v, w => undefinedOperation v op w

/-- The value of an operator with two operands. -/
def binary (op : BinaryOperator) (v w : Value) : Except String Value :=
  match op with
  | .or => .ok (if v.isFalse then w else v)
  | .and => .ok (if v.isFalse then v else w)
  | .eq => .ok (.boolean (v.isEqual w))
  | .ne => .ok (.boolean (!v.isEqual w))
  | .lt => compare op (fun x y => x < y && !nearly x y) v w
  | .le => compare op (fun x y => x < y || nearly x y) v w
  | .gt => compare op (fun x y => x > y && !nearly x y) v w
  | .ge => compare op (fun x y => x > y || nearly x y) v w
  | .plus => v.plus w
  | .minus => v.minus w
  | .times =>
    match v, w with
    | .number m, .number n => .ok (.number (m.times n))
    | v, w => undefinedOperation v op w
  | .divide => v.dividedBy w
  | .modulo =>
    match v, w with
    | .number m, .number n => do
      let (x, y, units) ← m.matched n
      return .number (units.withValue (Number.remainder x y))
    | v, w => undefinedOperation v op w

/-- The value of an operator with one operand. -/
def unary (op : UnaryOperator) (v : Value) : Except String Value :=
  match op, v with
  | .not, v => .ok (.boolean v.isFalse)
  | .plus, .number n => .ok (.number n.settled)
  | .minus, .number n => .ok (.number (n.withValue (-n.value)))
  | .plus, v => do return .word ("+" ++ (← v.css))
  | .minus, v => do return .word ("-" ++ (← v.css))
  | .divide, v => do return .word ("/" ++ (← v.css))

end Folio.Style.Value
