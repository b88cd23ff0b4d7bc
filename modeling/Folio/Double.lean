/-!
# Doubles

A `Double` is an IEEE 754 binary64 number kept as its 64 bits, so that two numbers are equal exactly
when they are the same number, signed zeros and all, and equality can be decided in proofs. A finite
double is `± significand · 2 ^ power`; everything that prints or compares doubles exactly starts
from these two numbers.

* `Double.significand`, `Double.power`: the exact value of a finite double;
* `Double.ofNat`, `Double.ofInt`: the nearest double of a whole number;
* `Double.ofDecimal`: the double nearest to `coefficient · 10 ^ exponent`.
-/

namespace Folio

/-- A binary64 number, given by its bits. -/
structure Double where
  /-- Sign (one bit), exponent (eleven bits) and fraction (52 bits). -/
  bits : UInt64
deriving DecidableEq, Inhabited

namespace Double

/-- The hardware number with these bits. -/
def toFloat (d : Double) : Float := Float.ofBits d.bits

/-- The bits of a hardware number. -/
def ofFloat (x : Float) : Double := ⟨x.toBits⟩

/-- Whether the sign bit is set. -/
def isNegative (d : Double) : Bool := d.bits >>> 63 == 1

/-- The biased exponent: eleven bits below the sign. -/
def exponentField (d : Double) : Nat := ((d.bits >>> 52) &&& 0x7ff).toNat

/-- The 52 bits below the exponent. -/
def fraction (d : Double) : Nat := (d.bits &&& 0xfffffffffffff).toNat

/-- Neither infinite nor a NaN. -/
def isFinite (d : Double) : Bool := d.exponentField != 2047

/-- Infinite, of either sign. -/
def isInfinite (d : Double) : Bool := d.exponentField == 2047 && d.fraction == 0

/-- The whole number that `2 ^ power` is multiplied by. A normal number has a leading
    one that is not stored. -/
def significand (d : Double) : Nat :=
  if d.exponentField = 0 then d.fraction else Nat.pow 2 52 + d.fraction

/-- The power of two that the significand is scaled by. -/
def power (d : Double) : Int :=
  if d.exponentField = 0 then -1074 else (d.exponentField : Int) - 1075

/-- Zero, of either sign. -/
def isZero (d : Double) : Bool := d.isFinite && d.significand == 0

/-- The same number with the other sign. -/
def neg (d : Double) : Double := ⟨d.bits ^^^ 0x8000000000000000⟩

/-- The double nearest to a natural number. -/
def ofNat (n : Nat) : Double := ofFloat (Float.ofNat n)

/-- The double nearest to a whole number. -/
def ofInt (n : Int) : Double :=
  if n < 0 then (ofNat n.natAbs).neg else ofNat n.natAbs

/-- The double nearest to `coefficient · 10 ^ exponent`. An exponent that leaves the range of
    doubles whatever the coefficient's digits is answered at once. -/
def ofDecimal (coefficient : Nat) (exponent : Int) : Double :=
  if coefficient = 0 then ⟨0⟩
  else
    let digits : Int := (Nat.toDigits 10 coefficient).length
    if digits + exponent > 400 then ⟨0x7ff0000000000000⟩
    else if digits + exponent < -400 then ⟨0⟩
    else ofFloat (Float.ofScientific coefficient (exponent < 0) exponent.natAbs)

/-- The whole number that a finite double rounds down to in magnitude: its fraction is dropped. -/
def truncate (d : Double) : Int :=
  let magnitude : Nat :=
    if d.power ≥ 0 then d.significand * Nat.pow 2 d.power.toNat
    else d.significand / Nat.pow 2 (-d.power).toNat
  if d.isNegative then -(magnitude : Int) else magnitude

/-- Whether a finite double is a whole number. -/
def isWhole (d : Double) : Bool :=
  d.isFinite && (decide (d.power ≥ 0) || d.significand % Nat.pow 2 (-d.power).toNat == 0)

end Double

end Folio
