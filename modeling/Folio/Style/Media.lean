import Folio.Style.Scan

/-!
# Media queries

A query says for which media rules hold: the type of the medium, maybe negated, and conditions on
its features. Rules inside two such statements hold where both queries do; whether one query can say
this depends on the queries.

* `Style.MediaQuery`: a query;
* `Style.MediaQuery.parse`: the queries that a text gives;
* `Style.MediaQuery.meet`: a query that holds where two others do.
-/

namespace Folio.Style

/-- A media query. -/
structure MediaQuery where
  /-- What is said about the type. -/
  modifier : Option String := none
  /-- The type of the medium. -/
  type : Option String := none
  /-- Conditions, in parentheses. -/
  conditions : List String := []
  /-- Whether all conditions have to hold; otherwise one is enough. -/
  isConjunction : Bool := true
deriving DecidableEq

namespace MediaQuery

/-- How conditions are written. -/
def conditionsText (q : MediaQuery) : String :=
  match q.conditions with
  | [c] =>
    match Text.after? "(not ".toList c.toList with
    | some rest => "not " ++ String.ofList rest.dropLast
    | none => c
  | cs => (if q.isConjunction then " and " else " or ").intercalate cs

/-- How a query is written. -/
def text (q : MediaQuery) : String :=
  let modifier := q.modifier.elim "" (· ++ " ")
  let type := q.type.elim "" fun t => t ++ (if q.conditions.isEmpty then "" else " and ")
  modifier ++ type ++ q.conditionsText

end MediaQuery

/-! ## Reading -/

namespace Scan

/-- Characters in parentheses up to the one that closes here, where `depth` more are open. -/
def enclosedWithin : (depth : Nat) → List Char → List Char → Option (List Char × List Char)
  | _, _, [] => none
  | 0, taken, ')' :: rest => some (taken.reverse, rest)
  | depth + 1, taken, ')' :: rest => enclosedWithin depth (')' :: taken) rest
  | depth, taken, c :: rest =>
    enclosedWithin (if c = '(' then depth + 1 else depth) (c :: taken) rest

/-- A condition in parentheses. -/
def mediaCondition : Scan String := do
  expect "("
  match enclosedWithin 0 [] (← get) with
  | none => throw "expected )"
  | some (inside, rest) =>
    set rest
    return String.ofList ('(' :: inside ++ [')'])

/-- Further conditions with a word between them. -/
def conditionsWithin (word : String) : (fuel : Nat) → Scan (List String)
  | 0 => return []
  | fuel + 1 => do
    let c ← mediaCondition
    blanks
    if ← acceptWord word then
      blanks
      return c :: (← conditionsWithin word fuel)
    else return [c]

/-- Conditions with a word between them. -/
def conditions (word : String) : Scan (List String) := do
  conditionsWithin word ((← get).length + 1)

/-- What stands behind the type of a query and the word after it. -/
def typeConditions (modifier : Option String) (type : String) : Scan MediaQuery := do
  blanks
  if ← acceptWord "not" then
    blanks
    return { modifier, type := some type, conditions := ["(not " ++ (← mediaCondition) ++ ")"] }
  else return { modifier, type := some type, conditions := ← conditions "and" }

/-- A query that begins with a word. -/
def typeQuery : Scan MediaQuery := do
  let first ← name
  let isNot := first.map Char.toLower = "not"
  blanks
  if isNot && (← isNext "(") then
    return { conditions := ["(not " ++ (← mediaCondition) ++ ")"] }
  else if !startsIdentifier (← get) then return { type := some first }
  else
    let second ← name
    if second.map Char.toLower = "and" then typeConditions none first
    else
      blanks
      if ← acceptWord "and" then typeConditions (some first) second
      else return { modifier := some first, type := some second }

/-- A query. -/
def mediaQuery : Scan MediaQuery := do
  if ← isNext "(" then
    let first ← mediaCondition
    blanks
    if ← acceptWord "and" then
      blanks
      return { conditions := first :: (← conditions "and") }
    else if ← acceptWord "or" then
      blanks
      return { conditions := first :: (← conditions "or"), isConjunction := false }
    else return { conditions := [first] }
  else typeQuery

/-- Queries with commas between them. -/
def mediaQueriesWithin : (fuel : Nat) → Scan (List MediaQuery)
  | 0 => throw "expected a query"
  | fuel + 1 => do
    blanks
    let q ← mediaQuery
    blanks
    if ← accept "," then return q :: (← mediaQueriesWithin fuel) else return [q]

end Scan

namespace MediaQuery

/-- The queries that a text gives. -/
def parse (text : String) : Except String (List MediaQuery) :=
  match (Scan.mediaQueriesWithin (text.length + 1)).run text.toList with
  | .ok (qs, rest) => if rest.isEmpty then .ok qs else .error "expected a query"
  | .error reason => .error reason

/-- How queries are written. -/
def textAll (qs : List MediaQuery) : String := ", ".intercalate (qs.map text)

/-! ## Queries in one -/

/-- What there is to say about where two queries hold. -/
inductive Meet where
  /-- Nowhere. -/
  | nowhere
  /-- Somewhere, but no query says where. -/
  | inexpressible
  /-- Where a query holds. -/
  | query (q : MediaQuery)

/-- Whether a query holds for all types of media. -/
def isForAll (q : MediaQuery) : Bool := q.type.all fun t => t.map Char.toLower == "all"

/-- Where both of two queries hold. -/
def meet (q r : MediaQuery) : Meet :=
  let lower (s : Option String) : Option String := s.map (String.map Char.toLower)
  let qIsNot := lower q.modifier == some "not"
  let rIsNot := lower r.modifier == some "not"
  let isSameType := lower q.type == lower r.type
  let both := q.conditions ++ r.conditions
  if !q.isConjunction || !r.isConjunction then .inexpressible
  else if q.type.isNone && r.type.isNone then .query { conditions := both }
  else if qIsNot != rIsNot then
    let (negative, positive) := if qIsNot then (q, r) else (r, q)
    if isSameType then
      if negative.conditions.all positive.conditions.contains then .nowhere else .inexpressible
    else if q.isForAll || r.isForAll then .inexpressible
    else .query positive
  else if qIsNot then
    let (more, fewer) :=
      if q.conditions.length > r.conditions.length then (q.conditions, r.conditions)
      else (r.conditions, q.conditions)
    if !isSameType then .inexpressible
    else if fewer.all more.contains then .query { q with conditions := more }
    else .inexpressible
  else if q.isForAll then
    .query { modifier := r.modifier, conditions := both,
             type := if r.isForAll && q.type.isNone then none else r.type }
  else if r.isForAll then .query { q with conditions := both }
  else if !isSameType then .nowhere
  else .query { q with modifier := q.modifier <|> r.modifier, conditions := both }

/-- The queries for where some of `qs` and some of `rs` hold, if queries can say this. -/
def meetAll (qs rs : List MediaQuery) : Option (List MediaQuery) :=
  (qs.flatMap fun q => rs.map fun r => q.meet r).foldr (fun m all =>
    match m with
    | .nowhere => all
    | .inexpressible => none
    | .query q => all.map (q :: ·)) (some [])

end MediaQuery

end Folio.Style
