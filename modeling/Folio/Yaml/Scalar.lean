import Folio.Json.Basic

/-!
# Plain scalars of YAML

A plain scalar is read as what it looks like: `null`, a truth value, a whole number in one of four
bases, a decimal number, or else a text. Digits after a leading zero are a text.

* `Yaml.Scalar.classify`: what a plain scalar is;
* `Yaml.Scalar.readInteger`, `Yaml.Scalar.readDouble`: numbers.
-/

namespace Folio.Yaml

/-- What a plain scalar is. -/
inductive Scalar where
  /-- No value. -/
  | null
  /-- A truth value. -/
  | bool (b : Bool)
  /-- A whole number. -/
  | int (n : Int)
  /-- Any other number; infinities and NaN among them. -/
  | double (d : Double)
  /-- A text. -/
  | text (s : String)
deriving DecidableEq

namespace Scalar

/-- Whether a text is written for no value. -/
def isNull (s : String) : Bool := ["null", "Null", "NULL", "~"].contains s

/-- A truth value in one of its three spellings. -/
def readBool (s : String) : Option Bool :=
  if ["true", "True", "TRUE"].contains s then some true
  else if ["false", "False", "FALSE"].contains s then some false
  else none

/-- The value of a digit in a base. -/
def digit (base : Nat) (c : Char) : Option Nat :=
  let value :=
    if c.isDigit then some (c.toNat - '0'.toNat)
    else if 'a' ≤ c ∧ c ≤ 'f' then some (c.toNat - 'a'.toNat + 10)
    else if 'A' ≤ c ∧ c ≤ 'F' then some (c.toNat - 'A'.toNat + 10)
    else none
  value.filter (· < base)

/-- A natural number in a base, of at least one digit. -/
def natural (base : Nat) (cs : List Char) : Option Nat :=
  if cs.isEmpty then none
  else cs.foldl (fun n c => do return (← n) * base + (← digit base c)) (some 0)

/-- The characters without a sign in front. -/
def dropSign : List Char → List Char
  | '+' :: rest | '-' :: rest => rest
  | cs => cs

/-- Whether characters are digits after a leading zero, which makes them a text. -/
def isZeroPadded (cs : List Char) : Bool :=
  match dropSign cs with
  | '0' :: rest => !rest.isEmpty && rest.all Char.isDigit
  | _ => false

/-- A natural number with the sign for its base in front: hexadecimal, octal, binary or decimal. -/
def basedNatural (padded : Bool) : List Char → Option Nat
  | '0' :: 'x' :: rest => natural 16 rest
  | '0' :: 'o' :: rest => natural 8 rest
  | '0' :: 'b' :: rest => natural 2 rest
  | cs => if padded then none else natural 10 cs

/-- The bounds of whole numbers of 128 bits; beyond them digits are read as a decimal number. -/
def fits128 (n : Int) : Bool :=
  decide (-Int.ofNat (Nat.pow 2 127) ≤ n) && decide (n < Int.ofNat (Nat.pow 2 128))

/-- A whole number of at most 128 bits. -/
def readInteger (s : String) : Option Int :=
  let cs := s.toList
  let padded := isZeroPadded cs
  let n : Option Int := match cs with
    | '-' :: rest => (basedNatural padded rest).map fun n => -(n : Int)
    | '+' :: rest => (basedNatural padded rest).map fun n => (n : Int)
    | _ => (basedNatural padded cs).map fun n => (n : Int)
  n.filter fits128

/-- Reads digits with a point and an exponent; some digit has to stand before the exponent, and some
    after its letter. -/
def decimal (cs : List Char) : Option (Nat × Int) :=
  let whole := cs.takeWhile Char.isDigit
  let rest := cs.dropWhile Char.isDigit
  let (places, rest) := match rest with
    | '.' :: rest => (rest.takeWhile Char.isDigit, rest.dropWhile Char.isDigit)
    | rest => ([], rest)
  if whole.isEmpty && places.isEmpty then none
  else
    (natural 10 (whole ++ places)).bind fun coefficient =>
      let places : Int := places.length
      match rest with
      | [] => some (coefficient, -places)
      | e :: rest =>
        if e = 'e' ∨ e = 'E' then
          (natural 10 (dropSign rest)).map fun n =>
            (coefficient, (if rest.head? = some '-' then -(n : Int) else n) - places)
        else none

/-- A decimal number, or one of the spellings of infinity and NaN. A number too large for a double
    is none. -/
def readDouble (s : String) : Option Double :=
  if [".inf", ".Inf", ".INF", "+.inf", "+.Inf", "+.INF"].contains s then
    some ⟨0x7ff0000000000000⟩
  else if ["-.inf", "-.Inf", "-.INF"].contains s then some ⟨0xfff0000000000000⟩
  else if [".nan", ".NaN", ".NAN"].contains s then some ⟨0x7ff8000000000000⟩
  else
    (decimal (dropSign s.toList)).bind fun (coefficient, exponent) =>
      let d := Double.ofDecimal coefficient exponent
      if d.isFinite then some (if s.toList.head? = some '-' then d.neg else d) else none

/-- What a plain scalar is. -/
def classify (s : String) : Scalar :=
  if s.isEmpty || isNull s then .null
  else
    match readBool s with
    | some b => .bool b
    | none =>
      match readInteger s with
      | some n => .int n
      | none =>
        match if isZeroPadded s.toList then none else readDouble s with
        | some d => .double d
        | none => .text s

end Scalar

end Folio.Yaml
