import Folio.Style.Value

/-!
# Calculations

A calculation is computed as far as its numbers have units of one kind; the rest is left to the
reader of the result. Numbers that can have no common unit make it fail.

* `Style.Operand.operate`: an operation on operands;
* `Style.Value.ofCalculation`: the value of a calculation.
-/

namespace Folio.Style

/-- The kinds of units of which all can be converted into each other by some reader of the result.
    -/
def unitFamilies : List (List String) := [
  ["em", "ex", "ch", "rem", "vw", "vh", "vmin", "vmax", "cm", "mm", "q", "in", "pt", "pc", "px"],
  ["deg", "grad", "rad", "turn"], ["s", "ms"], ["hz", "khz"], ["dpi", "dpcm", "dppx"]]

namespace Number

/-- Whether numbers may have a common unit for some reader of the result. -/
def mayBeCompatible (m n : Number) : Bool :=
  match m.above, n.above with
  | [], [] => true
  | [u], [v] =>
    let family (unit : String) := unitFamilies.find? (·.contains (unit.map Char.toLower))
    match family u, family v with
    | some f, some _ => f.contains (v.map Char.toLower)
    | _, _ => true
  | _, _ => false

end Number

namespace Operand

/-- The numbers among operands. -/
def numbers (operands : List Operand) : List Number :=
  operands.filterMap fun | .number n => some n | _ => none

/-- Whether the first number may have a common unit with the others, and so on. -/
def mayBeCompatible : List Number → Bool
  | [] => true
  | n :: rest => rest.all n.mayBeCompatible && mayBeCompatible rest

/-- Fails if numbers among operands have several units, or units that are never compatible. -/
def check (operands : List Operand) : Except String Unit :=
  let ns := numbers operands
  if ns.any fun n => n.above.length > 1 || !n.below.isEmpty then
    .error "Number isn't compatible with CSS calculations."
  else if mayBeCompatible ns then .ok ()
  else .error "Numbers are incompatible."

/-- The sum or difference of numbers with units of one kind. In an extremum one may have none. -/
def sum? (inExtremum : Bool) (op : BinaryOperator) (m n : Number) : Option Number :=
  if !inExtremum && m.isPlain != n.isPlain then none
  else
    match m.matched n with
    | .ok (x, y, units) => some (units.withValue (if op = .plus then x + y else x - y))
    | .error _ => none

/-- An operation on operands, computed if it can be. -/
def operate (inExtremum : Bool) (op : BinaryOperator) (l r : Operand) : Except String Operand :=
  match op, l, r with
  | .times, .number m, .number n => .ok (.number (m.times n))
  | .divide, .number m, .number n => .ok (.number (m.dividedBy n))
  | .times, l, r | .divide, l, r => .ok (.operation op l r)
  | op, l, r =>
    let computed := match l, r with
      | .number m, .number n => sum? inExtremum op m n
      | _, _ => none
    match computed with
    | some n => .ok (.number n)
    | none => do
      check [l, r]
      match r with
      | .number n =>
        if n.value < 0 then
          return .operation (if op = .plus then .minus else .plus) l
            (.number (n.withValue (-n.value)))
        else return .operation op l r
      | r => return .operation op l r

/-- The operand that a value is. -/
def ofValue : Value → Except String Operand
  | .number n => .ok (.number n.settled)
  | .calculation "calc" [o] => .ok o
  | .calculation name operands => .ok (.nested name operands)
  | .text s false => .ok (.text s)
  | v => .error s!"Value {v.inspect} can't be used in a calculation."

/-- An operand in parentheses. They are kept around a text. -/
def parenthesized : Operand → Operand
  | .text s => .text ("(" ++ s ++ ")")
  | o => o

end Operand

namespace Value

/-- The best of some operands, if all are numbers that can be compared. -/
def extremum? (isBetter : Float → Float → Bool) : List Operand → Option Number
  | .number first :: rest =>
    rest.foldlM (fun best o =>
      match o with
      | .number n =>
        match n.matched best with
        | .ok (x, y, _) => some (if isBetter x y then n else best)
        | .error _ => none
      | _ => none) first
  | _ => none

/-- A number not less than one and not greater than another, if all can be compared. -/
def clamped? : List Operand → Option Number
  | [.number low, .number n, .number high] =>
    match n.matched low, n.matched high with
    | .ok (x, least, _), .ok (y, most, _) =>
      some (if x ≤ least then low else if y ≥ most then high else n)
    | _, _ => none
  | _ => none

/-- The value of a calculation. -/
def ofCalculation (name : String) (operands : List Operand) : Except String Value :=
  let orLeft (n : Option Number) : Except String Value :=
    match n with
    | some n => .ok (.number n)
    | none => do
      Operand.check operands
      return .calculation name operands
  match name, operands with
  | "calc", [.number n] => .ok (.number n)
  | "calc", [.nested f inner] => .ok (.calculation f inner)
  | "calc", [o] => .ok (.calculation "calc" [o])
  | "calc", _ => .error "Only one argument is allowed."
  | "min", operands => orLeft (extremum? (· < ·) operands)
  | "max", operands => orLeft (extremum? (· > ·) operands)
  | _, operands =>
    let hasText := operands.any fun | .text _ => true | _ => false
    if operands.length > 3 || (operands.length < 3 && !hasText) then
      .error "3 arguments are required."
    else orLeft (clamped? operands)

end Value

end Folio.Style
