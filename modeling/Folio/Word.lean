/-!
# Whole numbers of 64 bits

The bounds that whole numbers have to keep where a format or a language gives them 64 bits, with a
sign or without.

* `Word.isSigned`: the numbers with a sign;
* `Word.isUnsigned`: those without.
-/

namespace Folio.Word

/-- The least number with a sign. -/
def least : Int := -9223372036854775808

/-- The greatest number with a sign. -/
def greatest : Int := 9223372036854775807

/-- The greatest number without a sign. -/
def greatestUnsigned : Int := 18446744073709551615

/-- Whether a number is one with a sign. -/
def isSigned (n : Int) : Bool := decide (least ≤ n) && decide (n ≤ greatest)

/-- Whether a number is one without a sign. -/
def isUnsigned (n : Int) : Bool := decide (0 ≤ n) && decide (n ≤ greatestUnsigned)

end Folio.Word
