import Folio.Double

/-!
# JSON values

Everything that flows through a resource is a JSON value: arguments of directives, results of
operations, seeds and outputs. Whole numbers of 64 bits, signed or not, are kept apart from doubles,
as `1` and `1.0` are written differently. The fields of an object are held in the order of their
names, each name once (`Json.Sorted`); `Json.Fields.insert` keeps that order.

* `Json`: the values, with decidable equality;
* `Json.depth`: how deep arrays and objects are nested;
* `Json.Sorted`: every object lists its names in strictly increasing order;
* `Json.ofFields`: an object from pairs in any order, where of equal names the last wins.
-/

namespace Folio

/-- The whole numbers that are kept exact: those of 64 bits, signed or unsigned. -/
def Fits64 (n : Int) : Prop := -9223372036854775808 ≤ n ∧ n ≤ 18446744073709551615

instance (n : Int) : Decidable (Fits64 n) := inferInstanceAs (Decidable (_ ∧ _))

/-- A number of a JSON document. -/
inductive Number where
  /-- A whole number of 64 bits. -/
  | integer (n : Int) (fits : Fits64 n)
  /-- Any other number. -/
  | double (d : Double)
deriving DecidableEq

namespace Number

/-- A whole number, kept exact if it fits and else as the nearest double. -/
def ofInt (n : Int) : Number :=
  if h : Fits64 n then .integer n h else .double (Double.ofInt n)

/-- The double nearest to a number. -/
def toDouble : Number → Double
  | .integer n _ => Double.ofInt n
  | .double d => d

end Number

/-- A JSON value. -/
inductive Json where
  /-- The value `null`. -/
  | null
  /-- A truth value. -/
  | bool (b : Bool)
  /-- A number. -/
  | num (n : Number)
  /-- A text. -/
  | str (s : String)
  /-- A list of values. -/
  | arr (items : List Json)
  /-- Values by name. -/
  | obj (fields : List (String × Json))
deriving Inhabited

namespace Json

mutual

/-- Equality of values is decided along their structure. -/
def decEq : (a b : Json) → Decidable (a = b)
  | .null, .null => isTrue rfl
  | .bool a, .bool b => decidable_of_iff (a = b) (by simp)
  | .num a, .num b => decidable_of_iff (a = b) (by simp)
  | .str a, .str b => decidable_of_iff (a = b) (by simp)
  | .arr a, .arr b =>
    match decEqItems a b with
    | isTrue h => isTrue (by rw [h])
    | isFalse h => isFalse (by simpa using h)
  | .obj a, .obj b =>
    match decEqFields a b with
    | isTrue h => isTrue (by rw [h])
    | isFalse h => isFalse (by simpa using h)
  | .null, .bool _ | .null, .num _ | .null, .str _ | .null, .arr _ | .null, .obj _
  | .bool _, .null | .bool _, .num _ | .bool _, .str _ | .bool _, .arr _ | .bool _, .obj _
  | .num _, .null | .num _, .bool _ | .num _, .str _ | .num _, .arr _ | .num _, .obj _
  | .str _, .null | .str _, .bool _ | .str _, .num _ | .str _, .arr _ | .str _, .obj _
  | .arr _, .null | .arr _, .bool _ | .arr _, .num _ | .arr _, .str _ | .arr _, .obj _
  | .obj _, .null | .obj _, .bool _ | .obj _, .num _ | .obj _, .str _ | .obj _, .arr _ =>
    isFalse (by simp)

/-- Equality of the items of two arrays. -/
def decEqItems : (a b : List Json) → Decidable (a = b)
  | [], [] => isTrue rfl
  | [], _ :: _ => isFalse (by simp)
  | _ :: _, [] => isFalse (by simp)
  | a :: as, b :: bs =>
    match decEq a b, decEqItems as bs with
    | isTrue h, isTrue hs => isTrue (by rw [h, hs])
    | isFalse h, _ => isFalse (by simp [h])
    | _, isFalse hs => isFalse (by simp [hs])

/-- Equality of the fields of two objects. -/
def decEqFields : (a b : List (String × Json)) → Decidable (a = b)
  | [], [] => isTrue rfl
  | [], _ :: _ => isFalse (by simp)
  | _ :: _, [] => isFalse (by simp)
  | (k, a) :: as, (l, b) :: bs =>
    match decEq a b, decEqFields as bs, (inferInstance : Decidable (k = l)) with
    | isTrue h, isTrue hs, isTrue hk => isTrue (by rw [h, hs, hk])
    | isFalse h, _, _ => isFalse (by simp [h])
    | _, isFalse hs, _ => isFalse (by simp [hs])
    | _, _, isFalse hk => isFalse (by simp [hk])

end

instance : DecidableEq Json := decEq

mutual

/-- How deep arrays and objects are nested in a value; a scalar has depth zero. -/
def depth : Json → Nat
  | .arr items => depthItems items + 1
  | .obj fields => depthFields fields + 1
  | _ => 0

/-- The depth of the deepest item. -/
def depthItems : List Json → Nat
  | [] => 0
  | v :: rest => max v.depth (depthItems rest)

/-- The depth of the deepest field. -/
def depthFields : List (String × Json) → Nat
  | [] => 0
  | (_, v) :: rest => max v.depth (depthFields rest)

end

mutual

/-- Every object of the value lists its names in strictly increasing order. -/
def Sorted : Json → Prop
  | .arr items => SortedItems items
  | .obj fields => (fields.map Prod.fst).Pairwise (· < ·) ∧ SortedFields fields
  | _ => True

/-- Every item is sorted. -/
def SortedItems : List Json → Prop
  | [] => True
  | v :: rest => v.Sorted ∧ SortedItems rest

/-- The value of every field is sorted. -/
def SortedFields : List (String × Json) → Prop
  | [] => True
  | (_, v) :: rest => v.Sorted ∧ SortedFields rest

end

/-- The kind of a value, in the words of error texts. -/
def kind : Json → String
  | .null => "null"
  | .bool _ => "a boolean"
  | .num _ => "a number"
  | .str _ => "a string"
  | .arr _ => "a list"
  | .obj _ => "a mapping"

/-- Whether this is `null`. -/
def isNull : Json → Bool
  | .null => true
  | _ => false

/-- A value, unless it is `null`. -/
def present? : Json → Option Json
  | .null => none
  | v => some v

/-- A whole number. -/
def ofInt (n : Int) : Json := .num (.ofInt n)

/-- A natural number. -/
def ofNat (n : Nat) : Json := ofInt n

/-- Fields of an object: pairs of name and value, in the order of the names. -/
abbrev Fields := List (String × Json)

namespace Fields

/-- The value under a name. -/
def get? (fields : Fields) (name : String) : Option Json :=
  (fields.find? fun f => f.1 == name).map Prod.snd

/-- Whether there is a field of this name. -/
def contains (fields : Fields) (name : String) : Bool := fields.any fun f => f.1 == name

/-- Writes a value under a name: in its place by name, or over the value there. -/
def insert (name : String) (v : Json) : Fields → Fields
  | [] => [(name, v)]
  | (n, w) :: rest =>
    if name < n then (name, v) :: (n, w) :: rest
    else if name = n then (name, v) :: rest
    else (n, w) :: insert name v rest

/-- All fields but the one of this name. -/
def erase (fields : Fields) (name : String) : Fields := fields.filter fun f => f.1 != name

/-- Pairs in any order, put in the order of their names; of equal names the last wins. -/
def ofPairs (pairs : List (String × Json)) : Fields :=
  pairs.foldl (fun fields p => insert p.1 p.2 fields) []

end Fields

/-- An object from pairs in any order; of equal names the last wins. -/
def ofFields (pairs : List (String × Json)) : Json := .obj (Fields.ofPairs pairs)

/-- The value of a field, where the value is an object that has one of this name. -/
def get? (v : Json) (name : String) : Option Json :=
  match v with
  | .obj fields => Fields.get? fields name
  | _ => none

end Json

end Folio
