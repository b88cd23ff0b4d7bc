import Folio.Style.Function.Basic

/-!
# Functions of texts

Characters of a text are counted from 1, and from the end with negative numbers.

* `Style.Function.texts`: all of them.
-/

namespace Folio.Style.Function

/-- How many characters stand before the one with a number. -/
def placeOf (i : Int) (length : Nat) : Nat :=
  if i > 0 then min (i.toNat - 1) length else if i = 0 then 0 else (length + i).toNat

/-- The characters from one number to another. -/
def slice (s : List Char) (first last : Int) : List Char :=
  let before := placeOf first s.length
  let stop : Int := if last < 0 then s.length + last + 1 else min last s.length
  (s.take stop.toNat).drop before

/-- A text with another one at a place, before the character there; with a negative number behind
    it. -/
def insertAt (s insert : List Char) (i : Int) : List Char :=
  let i := if i < 0 then max (s.length + i + 2) 0 else i
  let before := placeOf i s.length
  s.take before ++ insert ++ s.drop before

/-- A function of texts and other values. -/
def ofText (name plainName : String) (parameters : List (String × Option Value))
    (value : List Value → Except String Value) : Function where
  module := "string"
  name
  plainNames := [plainName]
  parameters
  value

/-- A function that changes the characters of a text. -/
def changing (name : String) (f : Char → Char) : Function :=
  ofText name name [("string", none)] fun
    | [v] => do
      let (s, isQuoted) ← v.toText
      return .text (String.ofList (s.map f)) isQuoted
    | _ => noValue

/-- The functions of texts. -/
def texts : List Function := [
  ofText "quote" "quote" [("string", none)] fun
    | [v] => do return .text (String.ofList (← v.toText).1) true
    | _ => noValue,
  ofText "unquote" "unquote" [("string", none)] fun
    | [v] => do return .text (String.ofList (← v.toText).1) false
    | _ => noValue,
  ofText "length" "str-length" [("string", none)] fun
    | [v] => do return .ofNat (← v.toText).1.length
    | _ => noValue,
  ofText "insert" "str-insert" [("string", none), ("insert", none), ("index", none)] fun
    | [v, w, i] => do
      let (s, isQuoted) ← v.toText
      return .text (String.ofList (insertAt s (← w.toText).1 (← i.toInt))) isQuoted
    | _ => noValue,
  ofText "index" "str-index" [("string", none), ("substring", none)] fun
    | [v, w] => do
      match Text.cut? (← w.toText).1 (← v.toText).1 with
      | some (before, _) => return .ofNat (before.length + 1)
      | none => return .null
    | _ => noValue,
  ofText "slice" "str-slice"
    [("string", none), ("start-at", none), ("end-at", some (.number (.plain (-1))))] fun
    | [v, i, j] => do
      let (s, isQuoted) ← v.toText
      return .text (String.ofList (slice s (← i.toInt) (← j.toInt))) isQuoted
    | _ => noValue,
  changing "to-upper-case" Char.toUpper,
  changing "to-lower-case" Char.toLower]

end Folio.Style.Function
