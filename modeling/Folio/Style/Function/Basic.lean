import Folio.Style.Value

/-!
# Functions of style sheets

Functions are given by their parameters and what they do with values for these. They belong to
modules; most can also be called without one, some by another name.

* `Style.Function`: a function;
* `Style.Function.apply`: its value for arguments by place and by name.
-/

namespace Folio.Style

/-- A function. -/
structure Function where
  /-- The module that it belongs to. -/
  module : String
  /-- Its name in the module. -/
  name : String
  /-- Its names outside of the module. -/
  plainNames : List String := []
  /-- The parameters, each with its default, if there is one. -/
  parameters : List (String × Option Value)
  /-- Whether there may be further arguments. -/
  takesMore : Bool := false
  /-- The value for as many values as there are parameters, and further arguments behind them. -/
  value : List Value → Except String Value

namespace Function

/-- The values for parameters, from arguments by place and by name. -/
def bind (named : List (String × Value)) : List (String × Option Value) → List Value →
    Except String (List Value)
  | [], rest => .ok rest
  | (p, _) :: parameters, v :: rest =>
    if named.any (·.1 == p) then .error "Argument was passed both by position and by name."
    else do return v :: (← bind named parameters rest)
  | (p, default) :: parameters, [] =>
    match (named.find? (·.1 == p)).map Prod.snd <|> default with
    | some v => do return v :: (← bind named parameters [])
    | none => .error "Missing argument."

/-- The value of a function for arguments by place and by name. -/
def apply (f : Function) (positional : List Value) (named : List (String × Value)) :
    Except String Value := do
  if positional.length > f.parameters.length && !f.takesMore then
    throw "Too many arguments."
  if named.any fun a => !f.parameters.any (·.1 == a.1) then throw "No such argument."
  f.value (← bind named f.parameters positional)

/-- What a function fails with that is given other arguments than it has parameters for. -/
def noValue : Except String Value := .error "Wrong arguments."

end Function

/-! ## Values of some kind -/

namespace Value

/-- A number that a value has to be. -/
def toNumber : Value → Except String Number
  | .number n => .ok n
  | v => .error s!"{v.inspect} is not a number."

/-- A whole number that a value has to be. -/
def toInt (v : Value) : Except String Int := do
  match whole? (← v.toNumber).value with
  | some i => return i
  | none => throw s!"{v.inspect} is not an int."

/-- A text that a value has to be, and whether it is in quotes. -/
def toText : Value → Except String (List Char × Bool)
  | .text s isQuoted => .ok (s.toList, isQuoted)
  | v => .error s!"{v.inspect} is not a string."

/-- A color that a value has to be. -/
def toColor : Value → Except String Color
  | .color c => .ok c
  | v => .error s!"{v.inspect} is not a color."

/-- The entries of a map that a value has to be; a list without items is one. -/
def toMap : Value → Except String (List (Value × Value))
  | .map entries => .ok entries
  | .list [] _ _ => .ok []
  | v => .error s!"{v.inspect} is not a map."

/-- A whole number as a value. -/
def ofNat (n : Nat) : Value := .number (.ofNat n)

/-- A list divided by commas. -/
def commaList (items : List Value) : Value := .list items .comma false

/-- A number within bounds that a value has to be. -/
def toBounded (low high : Float) (v : Value) : Except String Float := do
  let n ← v.toNumber
  if n.value < low - tolerance || n.value > high + tolerance then
    throw s!"Expected {v.inspect} to be within bounds."
  return clamp low n.value high

/-- Whether a value is a call that only the reader of the result knows the value of. -/
def isLeftCall : Value → Bool
  | .calculation .. => true
  | .text s false =>
    let lower := s.toList.map Char.toLower
    ["calc(", "var(", "env(", "min(", "max(", "clamp("].any fun b => Text.begins b.toList lower
  | _ => false

end Value

/-- A call as it is written. -/
def callText (name : String) (arguments : List Value) : Except String Value := do
  return .word (name ++ "(" ++ ", ".intercalate (← arguments.mapM Value.css) ++ ")")

end Folio.Style
