import Folio.Double

/-!
# Numbers of style sheets

Numbers have units. Units of one kind, such as lengths, are converted into each other where numbers
are added or compared. Numbers are written with up to ten decimals, and numbers that differ by less
than these show count as equal.

* `Style.Number`: a number with its units;
* `Style.Number.convert?`: the number in other units;
* `Style.fixedText`: a number in decimals.
-/

namespace Folio.Style

/-- A finite number rounded to ten decimals, the even neighbour of two equally near, without zeros
    at its end. -/
def fixedDigits (d : Double) : List Char :=
  let unit := Nat.pow 10 10
  let scaled :=
    if d.power ≥ 0 then d.significand * Nat.pow 2 d.power.toNat * unit
    else
      let whole := d.significand * unit
      let divisor := Nat.pow 2 (-d.power).toNat
      let q := whole / divisor
      let r := whole % divisor
      if 2 * r > divisor ∨ (2 * r = divisor ∧ q % 2 = 1) then q + 1 else q
  let whole := Nat.toDigits 10 (scaled / unit)
  let places := Nat.toDigits 10 (scaled % unit)
  let places := List.replicate (10 - places.length) '0' ++ places
  let places := (places.reverse.dropWhile (· == '0')).reverse
  if places.isEmpty then whole else whole ++ '.' :: places

/-- A number in decimals. -/
def fixedText (x : Float) : String :=
  let d := Double.ofFloat x
  if d.isInfinite then if d.isNegative then "-Infinity" else "Infinity"
  else if !d.isFinite then "NaN"
  else
    let digits := fixedDigits d
    let sign := if x < 0 ∧ digits ≠ ['0'] then ['-'] else []
    String.ofList (sign ++ digits)

/-- Numbers closer to each other than this count as equal. -/
def tolerance : Float := Float.ofScientific 1 true 11

/-- Whether numbers count as equal. -/
def nearly (x y : Float) : Bool := x == y || Float.abs (x - y) ≤ tolerance

/-- The whole number that a number counts as, if there is one. -/
def whole? (x : Float) : Option Int :=
  let r := x.round
  if nearly x r then some (Double.ofFloat r).truncate else none

/-- What units measure: the name of the kind, and how many of its smallest units one has. -/
def unitKind? : String → Option (String × Float)
  | "px" => some ("length", 1)
  | "in" => some ("length", 96)
  | "cm" => some ("length", 96 / 2.54)
  | "mm" => some ("length", 96 / 25.4)
  | "q" | "Q" => some ("length", 96 / 101.6)
  | "pt" => some ("length", 96 / 72)
  | "pc" => some ("length", 16)
  | "deg" => some ("angle", 1)
  | "grad" => some ("angle", 0.9)
  | "rad" => some ("angle", 180 / 3.141592653589793)
  | "turn" => some ("angle", 360)
  | "ms" => some ("time", 1)
  | "s" => some ("time", 1000)
  | "Hz" | "hz" => some ("frequency", 1)
  | "kHz" | "khz" => some ("frequency", 1000)
  | "dpi" => some ("resolution", 1)
  | "dpcm" => some ("resolution", 2.54)
  | "dppx" | "x" => some ("resolution", 96)
  | _ => none

/-- What a number in one unit is multiplied by to be one in another unit of the same kind. -/
def unitFactor? (source target : String) : Option Float :=
  if source = target then some 1
  else
    match unitKind? source, unitKind? target with
    | some (k, x), some (l, y) => if k = l then some (x / y) else none
    | _, _ => none

/-- A number with units above and below a line. A quotient that was written with a slash keeps its
    text. -/
structure Number where
  /-- The number. -/
  value : Float
  /-- The units that count. -/
  above : List String := []
  /-- The units that divide. -/
  below : List String := []
  /-- How it was written. -/
  slash : Option String := none

namespace Number

/-- A number without units. -/
def plain (x : Float) : Number := { value := x }

/-- A whole number without units. -/
def ofNat (n : Nat) : Number := plain (Float.ofNat n)

/-- Whether there are no units. -/
def isPlain (n : Number) : Bool := n.above.isEmpty && n.below.isEmpty

/-- Whether there is one unit. -/
def hasUnit (n : Number) (unit : String) : Bool := n.above == [unit] && n.below.isEmpty

/-- The units as they are written. -/
def unitText (n : Number) : String :=
  "*".intercalate n.above ++ (if n.below.isEmpty then "" else "/" ++ "*".intercalate n.below)

/-- The number with what it was written as forgotten. -/
def settled (n : Number) : Number := { n with slash := none }

/-- Another value with the same units. -/
def withValue (n : Number) (x : Float) : Number := { n with value := x, slash := none }

/-- What a number in some units is multiplied by to be one in others, where each unit finds one of
    its kind. -/
def factor? : List String → List String → Option Float
  | [], [] => some 1
  | [], _ :: _ => none
  | u :: us, vs => do
    let v ← vs.find? fun v => (unitFactor? u v).isSome
    let f ← unitFactor? u v
    let rest ← factor? us (vs.erase v)
    return f * rest

/-- The value in the units of another number. One of the two may have no units. -/
def convert? (n target : Number) : Option Float :=
  if n.isPlain || target.isPlain then some n.value
  else do
    let f ← factor? n.above target.above
    let g ← factor? n.below target.below
    return n.value * f / g

/-- Whether numbers can be added. -/
def isCompatible (m n : Number) : Bool := (m.convert? n).isSome

/-- Two values in the same units, and the units of a number that they make up. -/
def matched (m n : Number) : Except String (Float × Float × Number) :=
  if m.isPlain then .ok (m.value, n.value, n)
  else
    match n.convert? m with
    | some y => .ok (m.value, y, m)
    | none => .error s!"Incompatible units {n.unitText} and {m.unitText}."

/-- Takes out the units that stand above and below, and the factor that this leaves. -/
def cancel : (above below : List String) → List String × List String × Float
  | [], below => ([], below, 1)
  | u :: above, below =>
    match below.find? fun v => (unitFactor? u v).isSome with
    | some v =>
      let (above, below, f) := cancel above (below.erase v)
      (above, below, f * (unitFactor? u v).getD 1)
    | none =>
      let (above, below, f) := cancel above below
      (u :: above, below, f)

/-- A value with units of which some may cancel. -/
def withUnits (x : Float) (above below : List String) : Number :=
  let (above, below, f) := cancel above below
  { value := x * f, above, below }

/-- The product of numbers. -/
def times (m n : Number) : Number :=
  withUnits (m.value * n.value) (m.above ++ n.above) (m.below ++ n.below)

/-- The quotient of numbers. -/
def dividedBy (m n : Number) : Number :=
  withUnits (m.value / n.value) (m.above ++ n.below) (m.below ++ n.above)

/-- Whether numbers count as equal. Numbers with units differ from those without. -/
def isEqual (m n : Number) : Bool :=
  m.isPlain == n.isPlain && (n.convert? m).any (nearly m.value)

/-- The remainder of a division, with the sign of the divisor. -/
def remainder (x y : Float) : Float :=
  if y == 0 then 0 / 0
  else
    let r := x - y * (x / y).floor
    if nearly r y then 0 else r

/-- The number as it is written. -/
def text (n : Number) : String := n.slash.getD (fixedText n.value ++ n.unitText)

end Number

end Folio.Style
