import Folio.Store
import Folio.Yaml.Value

/-!
# Definitions of resources in YAML

A definition is a mapping with a list of operations under `main`; every operation is a mapping of
directives and computed fields. Other keys at the top are passed over. The keys of an operation are
taken as they are written, but inside the argument of a directive every key has to be a text by
itself.

* `Yaml.readDefinition`: the definition of a text.
-/

namespace Folio.Yaml

namespace Document

/-- The pairs of a mapping; a node that is missing counts as an empty one. -/
def pairsOf (doc : Document) (node : Node Nat) : Reading (List (Node Nat × Node Nat)) :=
  fun jumps => do
    let (node, jumps) ← doc.follow node jumps
    match node with
    | .mapping _ pairs => return (pairs, jumps)
    | .scalar _ true "" => return ([], jumps)
    | _ => .error "invalid type, expected a mapping"

/-- The items of a list; a node that is missing counts as an empty one. -/
def itemsOf (doc : Document) (node : Node Nat) : Reading (List (Node Nat)) := fun jumps => do
  let (node, jumps) ← doc.follow node jumps
  match node with
  | .sequence _ items => return (items, jumps)
  | .scalar _ true "" => return ([], jumps)
  | _ => .error "invalid type, expected a sequence"

/-- Whether a scalar is written for no value. -/
def isAbsent (props : Properties) (plain : Bool) (text : String) : Except Fault Bool :=
  if !plain then .ok false
  else if props.tag = coreTag "null" then
    if Scalar.isNull text then .ok true else .error "invalid value, expected null"
  else if props.tag.isSome then .ok false
  else .ok (text.isEmpty || Scalar.isNull text)

/-- The value of a computed field, which may be absent. -/
def fieldValue (doc : Document) (levels : Nat) (node : Node Nat) : Reading (Option Json) :=
  fun jumps => do
    let (node, jumps) ← doc.follow node jumps
    let absent ← match node with
      | .scalar props plain text => isAbsent props plain text
      | _ => .ok false
    if absent then return (none, jumps)
    else
      let (v, jumps) ← doc.value doc.keyText levels node jumps
      return (some v, jumps)

/-- The computed fields that have been read so far: a field that was given stays given, also when
    its value is absent. -/
structure Given where
  /-- The operation as far as it has been read. -/
  operation : Operation := {}
  /-- The names of the computed fields that were given. -/
  names : List String := []

/-- Reads the pairs of an operation. -/
def operationPairs (doc : Document) (levels : Nat) :
    Given → List (Node Nat × Node Nat) → Reading Operation
  | given, [], jumps => .ok (given.operation, jumps)
  | given, (k, v) :: rest, jumps => do
    let (name, jumps) ← doc.keyText k jumps
    if ["data", "_with", "_as"].contains name then
      if given.names.contains name then .error s!"duplicate field `{name}`"
      else
        let (v, jumps) ← doc.fieldValue levels v jumps
        let op := given.operation
        let op :=
          if name = "data" then { op with data := v }
          else if name = "_with" then { op with withValue := v }
          else { op with asValue := v }
        doc.operationPairs levels ⟨op, name :: given.names⟩ rest jumps
    else
      let (v, jumps) ← doc.value doc.strictKey levels v jumps
      doc.operationPairs levels { given with operation := given.operation.withDirective name v }
        rest jumps

/-- Reads a list of operations. -/
def operations (doc : Document) (levels : Nat) : List (Node Nat) → Reading (List Operation)
  | [], jumps => .ok ([], jumps)
  | node :: rest, jumps => do
    let (pairs, jumps) ← doc.pairsOf node jumps
    let (op, jumps) ← doc.operationPairs levels {} pairs jumps
    let (ops, jumps) ← doc.operations levels rest jumps
    return (op :: ops, jumps)

/-- Reads the pairs of a definition; `main` may be given once. -/
def definitionPairs (doc : Document) :
    Option (List Operation) → List (Node Nat × Node Nat) → Reading Definition
  | main, [], jumps => .ok ({ main := main.getD [] }, jumps)
  | main, (k, v) :: rest, jumps => do
    let (name, jumps) ← doc.keyText k jumps
    if name = "main" then
      if main.isSome then .error "duplicate field `main`"
      else
        let (items, jumps) ← doc.itemsOf v jumps
        /- The definition, its list and the operation are three levels above an argument. -/
        let (ops, jumps) ← doc.operations (maxDepth - 3) items jumps
        doc.definitionPairs (some ops) rest jumps
    else doc.definitionPairs main rest jumps

end Document

/-- The definition of a text; without a document it is empty. -/
def readDefinition (text : String) : Except Fault Definition := do
  match ← Document.read text with
  | none => return {}
  | some doc =>
    let (pairs, jumps) ← doc.pairsOf doc.root 0
    let (definition, _) ← doc.definitionPairs none pairs jumps
    return definition

end Folio.Yaml
