import Folio.Double

/-!
# Shortest decimals

The decimal text of a double is the shortest one that reads back to the same double, and of those
the nearest to its value. The reals that round to a double form an interval around it, whose ends
belong to it exactly when the significand is even; for one digit, two digits and so on the two
neighbours of the value on that decimal grid are tested against the interval, in exact arithmetic,
until one lies in it.

* `Decimal.shortest`: the digits and the exponent so found;
* `Decimal.Layout`: where positional notation ends, and how an exponent is written;
* `Decimal.Layout.render`: the text of a finite double under a layout.
-/

namespace Folio

/-- The number `coefficient · 10 ^ exponent`. -/
structure Decimal where
  /-- All the digits, as one whole number. -/
  coefficient : Nat
  /-- The power of ten of the last digit. -/
  exponent : Int
deriving DecidableEq

namespace Decimal

/-- The digits of the coefficient, most significant first. -/
def digits (d : Decimal) : List Char := Nat.toDigits 10 d.coefficient

/-- The exponent in scientific notation, with one digit before the point. -/
def scientificExponent (d : Decimal) : Int := d.exponent + d.digits.length - 1

/-- The same number without zeros at the end of its coefficient; `fuel` bounds their number. -/
def dropZeros : (fuel : Nat) → Decimal → Decimal
  | 0, d => d
  | fuel + 1, d =>
    if d.coefficient % 10 = 0 ∧ d.coefficient ≠ 0 then
      dropZeros fuel ⟨d.coefficient / 10, d.exponent + 1⟩
    else d

/-- The reals that round to one double, in units of a quarter of its last place: the unit is
    `scale / divisor`. -/
structure Interval where
  /-- The value itself, in units. -/
  value : Nat
  /-- The lower end. -/
  lower : Nat
  /-- The upper end. -/
  upper : Nat
  /-- Whether the ends belong to the interval. -/
  closed : Bool
  /-- The numerator of the unit. -/
  scale : Nat
  /-- The denominator of the unit. -/
  divisor : Nat

/-- The interval of the reals that round to a nonzero finite double. Below a power of two the
    doubles lie twice as dense. -/
def Interval.of (d : Double) : Interval :=
  let m := d.significand
  let q := d.power - 2
  let boundary := d.fraction = 0 ∧ d.exponentField > 1
  { value := 4 * m
    lower := if boundary then 4 * m - 1 else 4 * m - 2
    upper := 4 * m + 2
    closed := m % 2 == 0
    scale := if q ≥ 0 then Nat.pow 2 q.toNat else 1
    divisor := if q ≥ 0 then 1 else Nat.pow 2 (-q).toNat }

/-- `a / b`, where a power of ten is brought to the side where it is whole: comparing
    `c · 10 ^ k` with `x` units is comparing `c * (i.grid k).1` with `x * (i.grid k).2`. -/
def Interval.grid (i : Interval) (k : Int) : Nat × Nat :=
  (i.divisor * Nat.pow 10 k.toNat, i.scale * Nat.pow 10 (-k).toNat)

/-- Whether `c · 10 ^ k` lies in the interval. -/
def Interval.contains (i : Interval) (c : Nat) (k : Int) : Bool :=
  let (p, q) := i.grid k
  (decide (i.lower * q < c * p) || (i.closed && i.lower * q == c * p)) &&
    (decide (c * p < i.upper * q) || (i.closed && c * p == i.upper * q))

/-- The neighbour of the value on the grid of step `10 ^ k` that lies in the interval; of two the
    nearer one, and the even one of two equally near. -/
def Interval.neighbour (i : Interval) (k : Int) : Option Nat :=
  let (p, q) := i.grid k
  let below := i.value * q / p
  let above := below + 1
  match i.contains below k, i.contains above k with
  | true, true =>
    let toBelow := i.value * q - below * p
    let toAbove := above * p - i.value * q
    if toBelow < toAbove then some below
    else if toAbove < toBelow then some above
    else if below % 2 = 0 then some below else some above
  | true, false => some below
  | false, true => some above
  | false, false => none

/-- The first grid with a hit, from the step `10 ^ k` down to finer ones. -/
def Interval.search (i : Interval) : (fuel : Nat) → (k : Int) → Decimal
  | 0, k => ⟨i.value * (i.grid k).2 / (i.grid k).1, k⟩
  | fuel + 1, k =>
    match i.neighbour k with
    | some c => ⟨c, k⟩
    | none => i.search fuel (k - 1)

/-- The least `t` from `t₀` on with `value · 10 ^ t ≥ 1`. -/
def Interval.leadingPlace (i : Interval) : (fuel : Nat) → (t : Nat) → Nat
  | 0, t => t
  | fuel + 1, t =>
    if i.value * i.scale * Nat.pow 10 t ≥ i.divisor then t else i.leadingPlace fuel (t + 1)

/-- The exponent of ten of the leading digit of the value. -/
def Interval.magnitude (i : Interval) : Int :=
  let whole := i.value * i.scale / i.divisor
  if whole = 0 then -(i.leadingPlace 330 0 : Int)
  else (Nat.toDigits 10 whole).length - 1

/-- The shortest decimal that rounds to the magnitude of a finite double, and of the shortest the
    nearest to it. Seventeen digits always suffice. -/
def shortest (d : Double) : Decimal :=
  if d.significand = 0 then ⟨0, 0⟩
  else
    let i := Interval.of d
    (i.search 17 i.magnitude).dropZeros 20

/-- How a double is written. -/
structure Layout where
  /-- Which scientific exponents are written positionally. -/
  positional : Int → Bool
  /-- Whether a whole number written positionally ends in `.0`. -/
  keepPoint : Bool
  /-- Whether an exponent that is not negative carries a plus sign. -/
  plusSign : Bool

namespace Layout

/-- Digits with a point at their place, zeros filled in on either side. -/
def positionalText (layout : Layout) (digits : List Char) (exponent : Int) : List Char :=
  if exponent ≥ 0 then
    digits ++ List.replicate exponent.toNat '0' ++ (if layout.keepPoint then ['.', '0'] else [])
  else
    let places := (-exponent).toNat
    if digits.length > places then
      digits.take (digits.length - places) ++ '.' :: digits.drop (digits.length - places)
    else
      '0' :: '.' :: List.replicate (places - digits.length) '0' ++ digits

/-- One digit, a point if more follow, and the exponent. -/
def scientificText (layout : Layout) (digits : List Char) (exponent : Int) : List Char :=
  let mantissa := match digits with
    | [] => []
    | [c] => [c]
    | c :: rest => c :: '.' :: rest
  let sign := if exponent < 0 then ['-'] else if layout.plusSign then ['+'] else []
  mantissa ++ 'e' :: sign ++ Nat.toDigits 10 exponent.natAbs

/-- The text of a finite double. -/
def render (layout : Layout) (d : Double) : String :=
  let decimal := shortest d
  let body :=
    if layout.positional decimal.scientificExponent then
      layout.positionalText decimal.digits decimal.exponent
    else layout.scientificText decimal.digits decimal.scientificExponent
  String.ofList (if d.isNegative then '-' :: body else body)

/-- Without an exponent whatever the size, and without a point when nothing follows it. -/
def plain : Layout := ⟨fun _ => true, false, false⟩

end Layout

end Decimal

end Folio
