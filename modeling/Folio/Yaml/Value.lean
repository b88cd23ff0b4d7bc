import Folio.Yaml.Node
import Folio.Yaml.Scalar

/-!
# Values of YAML documents

A document stands for a JSON value. A plain scalar is what it looks like, unless a tag says what it
is; any other scalar is a text. The key of a pair is the text of a scalar, and of equal keys the
last one wins. An alias stands for the node of its name; the names are looked up in the order of the
document.

* `Yaml.Document`: a node and the nodes its aliases stand for;
* `Yaml.Document.value`: the value of a node;
* `Yaml.parse`: the value of a text.
-/

namespace Folio.Yaml

/-- What is known of anchors while a document is gone through. -/
structure Anchors where
  /-- Names and the numbers they stand for at present. -/
  names : List (String × Nat) := []
  /-- The nodes by their numbers; of equal numbers the first entry counts. -/
  nodes : List (Nat × Node Nat) := []

namespace Anchors

/-- The number of the next node that is given a name: that of the names known so far. A name given a
    second time thus takes a number that the next new name takes over. -/
def nextId (a : Anchors) : Nat := a.names.length

/-- Gives a name to the next node, if it has one. -/
def announce (a : Anchors) : Option String → Anchors
  | none => a
  | some name => { a with names := (name, a.nextId) :: a.names.filter fun n => n.1 ≠ name }

/-- Keeps a node under the number it was announced with, if it has a name. -/
def record (a : Anchors) (id : Nat) (node : Node Nat) : Option String → Anchors
  | none => a
  | some _ => { a with nodes := (id, node) :: a.nodes }

end Anchors

mutual

/-- Looks up the names in aliases, in the order of the document. -/
def Node.number (a : Anchors) : Node String → Except Fault (Node Nat × Anchors)
  | .alias name =>
    match a.names.find? fun n => n.1 == name with
    | some (_, id) => .ok (.alias id, a)
    | none => .error "unknown anchor"
  | .scalar props plain text =>
    let node := .scalar props plain text
    .ok (node, (a.announce props.anchor).record a.nextId node props.anchor)
  | .sequence props items => do
    let (items, after) ← numberItems (a.announce props.anchor) items
    let node := .sequence props items
    return (node, after.record a.nextId node props.anchor)
  | .mapping props pairs => do
    let (pairs, after) ← numberPairs (a.announce props.anchor) pairs
    let node := .mapping props pairs
    return (node, after.record a.nextId node props.anchor)

/-- Looks up the names in the items of a list. -/
def Node.numberItems (a : Anchors) : List (Node String) → Except Fault (List (Node Nat) × Anchors)
  | [] => .ok ([], a)
  | v :: rest => do
    let (v, a) ← v.number a
    let (vs, a) ← numberItems a rest
    return (v :: vs, a)

/-- Looks up the names in the pairs of a mapping. -/
def Node.numberPairs (a : Anchors) :
    List (Node String × Node String) → Except Fault (List (Node Nat × Node Nat) × Anchors)
  | [] => .ok ([], a)
  | (k, v) :: rest => do
    let (k, a) ← k.number a
    let (v, a) ← v.number a
    let (ps, a) ← numberPairs a rest
    return ((k, v) :: ps, a)

end

mutual

/-- The number of parts of a node: scalars and aliases, and both ends of collections. -/
def Node.parts {α : Type} : Node α → Nat
  | .alias _ | .scalar .. => 1
  | .sequence _ items => 2 + partsOfItems items
  | .mapping _ pairs => 2 + partsOfPairs pairs

/-- The number of parts of the items of a list. -/
def Node.partsOfItems {α : Type} : List (Node α) → Nat
  | [] => 0
  | v :: rest => v.parts + partsOfItems rest

/-- The number of parts of the pairs of a mapping. -/
def Node.partsOfPairs {α : Type} : List (Node α × Node α) → Nat
  | [] => 0
  | (k, v) :: rest => k.parts + v.parts + partsOfPairs rest

end

/-- A document whose aliases have been looked up. -/
structure Document where
  /-- The node of the document. -/
  root : Node Nat
  /-- The nodes that aliases stand for, by their numbers. -/
  anchors : List (Nat × Node Nat)
  /-- How often an alias may be followed in all. -/
  jumpLimit : Nat

/-- The document of a text, or nothing if the text holds none. -/
def Document.read (text : String) : Except Fault (Option Document) := do
  match ← document text with
  | none => return none
  | some node =>
    let (root, anchors) ← node.number {}
    return some { root, anchors := anchors.nodes, jumpLimit := 100 * node.parts }

/-- How deep collections may nest in a document. -/
def maxDepth : Nat := 128

/-- What reading a part of a document answers, together with the number of aliases followed so far.
    -/
abbrev Reading (α : Type) := Nat → Except Fault (α × Nat)

namespace Document

/-- The node that an alias stands for, or the node itself. -/
def follow (doc : Document) (node : Node Nat) : Reading (Node Nat) := fun jumps =>
  match node with
  | .alias id =>
    if jumps + 1 > doc.jumpLimit then .error "repetition limit exceeded"
    else
      match doc.anchors.find? fun a => a.1 == id with
      | some (_, target) => .ok (target, jumps + 1)
      | none => .error "unknown anchor"
  | node => .ok (node, jumps)

/-- The tags that say what a scalar is. -/
def coreTag (name : String) : Option String := some ("tag:yaml.org,2002:" ++ name)

/-- The value of a whole number; one that needs more than 64 bits has none. -/
def wholeNumber (n : Int) : Except Fault Json :=
  if h : Fits64 n then .ok (.num (.integer n h)) else .error "invalid type: integer as i128"

/-- The value of a double; infinities and NaN have none of their own. -/
def decimalNumber (d : Double) : Json := if d.isFinite then .num (.double d) else .null

/-- The value of a scalar. -/
def scalarValue (tag : Option String) (plain : Bool) (text : String) : Except Fault Json :=
  if tag = coreTag "bool" then
    match Scalar.readBool text with
    | some b => .ok (.bool b)
    | none => .error "invalid value, expected a boolean"
  else if tag = coreTag "int" then
    match Scalar.readInteger text with
    | some n => wholeNumber n
    | none => .error "invalid value, expected an integer"
  else if tag = coreTag "float" then
    match Scalar.readDouble text with
    | some d => .ok (decimalNumber d)
    | none => .error "invalid value, expected a float"
  else if tag = coreTag "null" then
    if Scalar.isNull text then .ok .null else .error "invalid value, expected null"
  else
    match tag with
    | some t => if t.startsWith "!" then .error "invalid type: enum" else .ok (.str text)
    | none =>
      if !plain then .ok (.str text)
      else
        match Scalar.classify text with
        | .null => .ok .null
        | .bool b => .ok (.bool b)
        | .int n => wholeNumber n
        | .double d => .ok (decimalNumber d)
        | .text s => .ok (.str s)

/-- Whether a tag of its own stands before a collection, which no value has. -/
def ownTag (props : Properties) : Bool := props.tag.any fun t => t.startsWith "!"

/-- The text of a key. -/
def keyText (doc : Document) (node : Node Nat) : Reading String := fun jumps => do
  let (node, jumps) ← doc.follow node jumps
  match node with
  | .scalar _ _ text => return (text, jumps)
  | _ => .error "invalid type, expected a string key"

/-- The text of a key that has to be a text by itself. -/
def strictKey (doc : Document) (node : Node Nat) : Reading String := fun jumps => do
  let (node, jumps) ← doc.follow node jumps
  match node with
  | .scalar props plain text =>
    match ← scalarValue props.tag plain text with
    | .str s => return (s, jumps)
    | _ => .error "invalid type, expected a string key"
  | _ => .error "invalid type, expected a string key"

/-- The values of the items of a list. -/
def itemValues (value : Node Nat → Reading Json) : List (Node Nat) → Reading (List Json)
  | [], jumps => .ok ([], jumps)
  | v :: rest, jumps => do
    let (v, jumps) ← value v jumps
    let (vs, jumps) ← itemValues value rest jumps
    return (v :: vs, jumps)

/-- The keys and values of the pairs of a mapping. -/
def pairValues (key : Node Nat → Reading String) (value : Node Nat → Reading Json) :
    List (Node Nat × Node Nat) → Reading (List (String × Json))
  | [], jumps => .ok ([], jumps)
  | (k, v) :: rest, jumps => do
    let (k, jumps) ← key k jumps
    let (v, jumps) ← value v jumps
    let (ps, jumps) ← pairValues key value rest jumps
    return ((k, v) :: ps, jumps)

/-- The value of a node in which collections nest at most `levels` deep. -/
def value (doc : Document) (key : Node Nat → Reading String) :
    (levels : Nat) → Node Nat → Reading Json
  | levels, node, jumps => do
    let (node, jumps) ← doc.follow node jumps
    match node, levels with
    | .alias _, _ => .error "unknown anchor"
    | .scalar props plain text, _ => return (← scalarValue props.tag plain text, jumps)
    | .sequence .., 0 | .mapping .., 0 => .error "recursion limit exceeded"
    | .sequence props items, levels + 1 =>
      if ownTag props then .error "invalid type: enum"
      else
        let (vs, jumps) ← itemValues (doc.value key levels) items jumps
        return (.arr vs, jumps)
    | .mapping props pairs, levels + 1 =>
      if ownTag props then .error "invalid type: enum"
      else
        let (ps, jumps) ← pairValues key (doc.value key levels) pairs jumps
        return (.ofFields ps, jumps)

end Document

/-- The value of a text; without a document it is `null`. -/
def parse (text : String) : Except Fault Json := do
  match ← Document.read text with
  | none => return .null
  | some doc =>
    let (v, _) ← doc.value doc.keyText maxDepth doc.root 0
    return v

end Folio.Yaml
