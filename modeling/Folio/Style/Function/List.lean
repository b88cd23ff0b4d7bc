import Folio.Style.Function.Basic

/-!
# Functions of lists and maps

Every value is a list, if only of itself. Items are counted from 1, and from the end with negative
numbers.

* `Style.Function.lists`, `Style.Function.maps`: all of them.
-/

namespace Folio.Style.Function

/-- How many items stand before the one with a number. -/
def itemPlace (v : Value) (length : Nat) : Except String Nat := do
  let i ← v.toInt
  if i = 0 then throw "List index may not be 0."
  else if i.natAbs > length then throw "Invalid index for the list."
  else return if i > 0 then i.toNat - 1 else length - i.natAbs

/-- Whether a list is in brackets. -/
def inBrackets : Value → Bool
  | .list _ _ b => b
  | _ => false

/-- The separator that a name stands for, or the one that fits a list and maybe another one. -/
def separatorFor (name : Value) (candidates : List Value) : Except String Separator := do
  match String.ofList (← name.toText).1 with
  | "auto" =>
    let known := (candidates.map Value.separatorOf).filter (· ≠ .undecided)
    return known.head?.getD .space
  | "space" => return .space
  | "comma" => return .comma
  | "slash" => return .slash
  | _ => throw "Must be \"space\", \"comma\", \"slash\", or \"auto\"."

/-- The text that stands for what fits. -/
def auto : Value := .word "auto"

/-- A function of lists. -/
def ofList (name : String) (plainNames : List String) (parameters : List (String × Option Value))
    (value : List Value → Except String Value) : Function :=
  { module := "list", name, plainNames, parameters, value }

/-- The function where there may be further arguments. -/
def withMore (f : Function) : Function := { f with takesMore := true }

/-- Lists item by item, as long as the shortest one. -/
def zipAll : (length : Nat) → List (List Value) → List Value
  | 0, _ => []
  | length + 1, lists =>
    .list (lists.filterMap List.head?) .space false :: zipAll length (lists.map (List.drop 1))

/-- The functions of lists. -/
def lists : List Function := [
  ofList "length" ["length"] [("list", none)] fun
    | [v] => .ok (.ofNat v.asList.length)
    | _ => noValue,
  ofList "nth" ["nth"] [("list", none), ("n", none)] fun
    | [v, i] => do
      let items := v.asList
      let place ← itemPlace i items.length
      match items[place]? with
      | some item => return item
      | none => noValue
    | _ => noValue,
  ofList "set-nth" ["set-nth"] [("list", none), ("n", none), ("value", none)] fun
    | [v, i, w] => do
      let items := v.asList
      let place ← itemPlace i items.length
      return .list (items.set place w) v.separatorOf (inBrackets v)
    | _ => noValue,
  ofList "join" ["join"]
    [("list1", none), ("list2", none), ("separator", some auto), ("bracketed", some auto)] fun
    | [v, w, separator, bracketed] => do
      let isAuto := match bracketed with
        | .text s _ => s == "auto"
        | _ => false
      return .list (v.asList ++ w.asList) (← separatorFor separator [v, w])
        (if isAuto then inBrackets v else !bracketed.isFalse)
    | _ => noValue,
  ofList "append" ["append"] [("list", none), ("val", none), ("separator", some auto)] fun
    | [v, w, separator] => do
      return .list (v.asList ++ [w]) (← separatorFor separator [v]) (inBrackets v)
    | _ => noValue,
  withMore <| ofList "zip" ["zip"] [] fun vs =>
    let items := vs.map Value.asList
    let length := items.foldl (fun n l => min n l.length) ((items.head?.map List.length).getD 0)
    .ok (.commaList (zipAll length items)),
  ofList "index" ["index"] [("list", none), ("value", none)] fun
    | [v, w] =>
      match v.asList.findIdx? (·.isEqual w) with
      | some i => .ok (.ofNat (i + 1))
      | none => .ok .null
    | _ => noValue,
  ofList "separator" ["list-separator"] [("list", none)] fun
    | [v] =>
      .ok (.word (match v.separatorOf with
        | .comma => "comma"
        | .slash => "slash"
        | _ => "space"))
    | _ => noValue,
  ofList "is-bracketed" ["is-bracketed"] [("list", none)] fun
    | [v] => .ok (.boolean (inBrackets v))
    | _ => noValue,
  withMore <| ofList "slash" [] [("elements", none)] fun vs =>
    if vs.length < 2 then .error "At least two elements are required."
    else .ok (.list vs .slash false)]

/-! ## Maps -/

/-- The value of keys, each in the map that the one before it has as its value. -/
def lookupPath (v : Value) : List Value → Option Value
  | [] => some v
  | k :: rest =>
    match v with
    | .map entries => (Value.lookup entries k).bind fun w => lookupPath w rest
    | _ => none

/-- A map with other values for some keys. -/
def mergeEntries (entries more : List (Value × Value)) : List (Value × Value) :=
  more.foldl (fun entries e => Value.put entries e.1 e.2) entries

/-- A map with something done to the value of keys, each in the map that the one before it has as
    its value. -/
def updatePath (f : Value → Except String Value) (v : Value) : List Value → Except String Value
  | [] => f v
  | k :: rest => do
    let entries := match v with
      | .map entries => entries
      | _ => []
    let inner := (Value.lookup entries k).getD (.map [])
    return .map (Value.put entries k (← updatePath f inner rest))

/-- Maps merged with the maps inside them, down to some depth. -/
def deepMerge : (depth : Nat) → List (Value × Value) → List (Value × Value) → List (Value × Value)
  | 0, entries, more => mergeEntries entries more
  | depth + 1, entries, more =>
    more.foldl (fun entries (k, v) =>
      match Value.lookup entries k, v with
      | some (.map old), .map new => Value.put entries k (.map (deepMerge depth old new))
      | _, _ => Value.put entries k v) entries

/-- A function of a map. -/
def ofMap (name : String) (plainNames : List String) (parameters : List String)
    (f : List (Value × Value) → List Value → Except String Value) : Function where
  module := "map"
  name
  plainNames
  parameters := ("map", none) :: parameters.map (·, none)
  value
    | v :: rest => do f (← v.toMap) rest
    | [] => noValue

/-- The functions of maps. -/
def maps : List Function := [
  withMore <| ofMap "get" ["map-get"] ["key"] fun entries keys =>
    .ok ((lookupPath (.map entries) keys).getD .null),
  withMore <| ofMap "has-key" ["map-has-key"] ["key"] fun entries keys =>
    .ok (.boolean (lookupPath (.map entries) keys).isSome),
  { ofMap "merge" ["map-merge"] [] fun entries arguments =>
      match arguments.reverse with
      | [] => noValue
      | more :: keys => do
        let more ← more.toMap
        updatePath (fun v => do return .map (mergeEntries (← v.toMap) more)) (.map entries)
          keys.reverse with
    parameters := [("map1", none), ("map2", none)]
    takesMore := true },
  withMore <| ofMap "set" [] ["key"] fun entries arguments =>
    match arguments.reverse with
    | v :: k :: keys =>
      updatePath (fun w => do return .map (Value.put (← w.toMap) k v)) (.map entries) keys.reverse
    | _ => noValue,
  { ofMap "deep-merge" [] [] fun entries arguments =>
      match arguments with
      | [more] => do return .map (deepMerge 100 entries (← more.toMap))
      | _ => noValue with
    parameters := [("map1", none), ("map2", none)] },
  withMore <| ofMap "remove" ["map-remove"] [] fun entries keys =>
    .ok (.map (entries.filter fun e => !keys.any (·.isEqual e.1))),
  ofMap "keys" ["map-keys"] [] fun entries _ => .ok (.commaList (entries.map Prod.fst)),
  ofMap "values" ["map-values"] [] fun entries _ => .ok (.commaList (entries.map Prod.snd))]

end Folio.Style.Function
