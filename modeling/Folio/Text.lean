/-!
# Pieces of texts

Looking for one text inside another: cutting it into pieces and putting something else in its place.
Texts are lists of characters here, and a place is found from the left, without overlaps.
-/

namespace Folio.Text

/-- What follows `part` where a text begins with it. -/
def after? : (part s : List Char) → Option (List Char)
  | [], s => some s
  | _ :: _, [] => none
  | p :: part, c :: s => if p = c then after? part s else none

/-- Whether a text begins with another. -/
def begins (part s : List Char) : Bool := (after? part s).isSome

/-- Whether a text ends with another. -/
def ends (part s : List Char) : Bool := begins part.reverse s.reverse

/-- What stands before the first place of `part` and what follows it; `taken` holds the characters
    passed, last first. -/
def cutFrom (part : List Char) (taken : List Char) : List Char → Option (List Char × List Char)
  | [] => if part.isEmpty then some (taken.reverse, []) else none
  | c :: s =>
    match after? part (c :: s) with
    | some rest => some (taken.reverse, rest)
    | none => cutFrom part (c :: taken) s

/-- What stands before the first place of `part` in a text and what follows it. -/
def cut? (part s : List Char) : Option (List Char × List Char) := cutFrom part [] s

/-- Whether a text stands somewhere in another. -/
def occurs (part s : List Char) : Bool := (cut? part s).isSome

/-- The pieces between the places of a nonempty `part`, of which there are at most `fuel`. -/
def piecesWithin (part : List Char) : (fuel : Nat) → List Char → List (List Char)
  | 0, s => [s]
  | fuel + 1, s =>
    match cut? part s with
    | none => [s]
    | some (before, rest) => before :: piecesWithin part fuel rest

/-- The pieces of a text between the places of `part`. The empty text stands before, between and
    after all characters. -/
def pieces (part s : List Char) : List (List Char) :=
  if part.isEmpty then [] :: s.map ([·]) ++ [[]]
  else piecesWithin part s.length s

/-- A text with `new` in place of every `part`. -/
def replace (part new s : List Char) : List Char := new.intercalate (pieces part s)

/-- The pieces of a text between the characters of a class. -/
def fields (isGap : Char → Bool) : List Char → List (List Char)
  | [] => [[]]
  | c :: s =>
    if isGap c then [] :: fields isGap s
    else
      match fields isGap s with
      | [] => [[c]]
      | piece :: rest => (c :: piece) :: rest

/-- The words of a text: the pieces between gaps that are not empty. -/
def words (isGap : Char → Bool) (s : List Char) : List (List Char) :=
  (fields isGap s).filter fun piece => !piece.isEmpty

/-- The characters without leading places of a nonempty `part`, of which there are at most `fuel`.
    -/
def dropLeading (part : List Char) : (fuel : Nat) → List Char → List Char
  | 0, s => s
  | fuel + 1, s =>
    match after? part s with
    | some rest => dropLeading part fuel rest
    | none => s

end Folio.Text
