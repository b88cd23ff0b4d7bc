import Folio.Operation

/-!
# Queues of directives

Before anything runs, every directive of every operation is put on one of four queues: input,
secondary, primary, output. Operations are visited in their order and their keys in key order; an
unknown key, or a second primary directive on one operation, refuses the whole list.

* `Queues.classify`: the queues of a list of operations;
* `Queues.shift`: the queues after an operation has been put in front.
-/

namespace Folio

/-- A directive that waits to be run, and the index of its operation. -/
structure Queued where
  /-- The index of the operation. -/
  index : Nat
  /-- The directive to run. -/
  directive : Directive
deriving DecidableEq

/-- The directives of a list of operations, by class. -/
structure Queues where
  /-- Directives that take the input. -/
  input : List Queued := []
  /-- Directives that prepare input for primary ones. -/
  secondary : List Queued := []
  /-- Directives that produce data. -/
  primary : List Queued := []
  /-- Directives that reduce data to the output. -/
  output : List Queued := []
deriving DecidableEq

namespace Queues

/-- Puts a directive at the end of the queue of its class. -/
def push (q : Queues) (d : Queued) : Queues :=
  match d.directive with
  | .input => { q with input := q.input ++ [d] }
  | .secondary _ => { q with secondary := q.secondary ++ [d] }
  | .primary _ => { q with primary := q.primary ++ [d] }
  | .output => { q with output := q.output ++ [d] }

/-- The number of directives on all queues. -/
def size (q : Queues) : Nat :=
  q.input.length + q.secondary.length + q.primary.length + q.output.length

/-- Whether no directive waits. -/
def isEmpty (q : Queues) : Bool := q.size == 0

/-- The directives of an operation, in the order of its keys; `seen` says that a primary one has
    been met. -/
def directivesOf (resource : String) (index : Nat) :
    (seen : Bool) → List String → Except EngineError (List Directive)
  | _, [] => .ok []
  | seen, key :: rest =>
    match Directive.Kind.classify key with
    | .auxiliary => directivesOf resource index seen rest
    | .unknown => .error (.unknownDirective resource index key)
    | .runs (.primary p) =>
      if seen then .error (.duplicatePrimary resource index p.name)
      else do
        let ds ← directivesOf resource index true rest
        return .primary p :: ds
    | .runs d => do
      let ds ← directivesOf resource index seen rest
      return d :: ds

/-- Every directive of a list of operations that starts at an index, in the order of operations and
    keys. -/
def collect (resource : String) : (index : Nat) → List Operation → Except EngineError (List Queued)
  | _, [] => .ok []
  | index, op :: rest => do
    let ds ← directivesOf resource index false (op.directives.map Prod.fst)
    let qs ← collect resource (index + 1) rest
    return ds.map (⟨index, ·⟩) ++ qs

/-- The queues of a list of operations. -/
def classify (resource : String) (ops : List Operation) : Except EngineError Queues := do
  let ds ← collect resource 0 ops
  return ds.foldl push {}

/-- The queues after an operation has been put in front of all the others. -/
def shift (q : Queues) : Queues :=
  let up (d : Queued) : Queued := { d with index := d.index + 1 }
  ⟨q.input.map up, q.secondary.map up, q.primary.map up, q.output.map up⟩

end Queues

end Folio
