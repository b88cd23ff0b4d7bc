import Folio.Output
import Folio.Queues
import Folio.Store

/-!
# Validation

A list of operations, with every list nested in it, is checked without running anything: its
directives, its output modes, the arguments that name files or handlers, and whether every directive
that works on the result of `with` has one. The first problem found is reported.
-/

namespace Folio.Validation

/-- Checks the argument of every `out`. -/
def checkOutputs (ops : List Operation) : List Queued → Except EngineError Unit
  | [] => .ok ()
  | d :: rest => do
    let _ ← OutputMode.ofArgument ((ops[d.index]?.getD {}).argument "out")
    checkOutputs ops rest

/-- Checks one primary directive of an operation: the file it names, and the input it needs. -/
def checkPrimary (directive : Primary) (op : Operation) : Except EngineError Unit := do
  if directive.takesFileRef then
    let _ ← FileRef.ofOperation directive op
  if directive.readsWith && (op.argument "with").isNone && op.withValue.isNone then
    .error (.missingInput directive.name)

/-- Checks every primary directive. -/
def checkPrimaries (ops : List Operation) : List Queued → Except EngineError Unit
  | [] => .ok ()
  | d :: rest => do
    match d.directive with
    | .primary directive => checkPrimary directive (ops[d.index]?.getD {})
    | _ => .ok ()
    checkPrimaries ops rest

/-- Checks the list that each `with` holds. -/
def checkNested (check : List Operation → Except EngineError Unit) (ops : List Operation) :
    List Queued → Except EngineError Unit
  | [] => .ok ()
  | d :: rest => do
    match d.directive with
    | .secondary .nested =>
      let nested ← Operation.parseList "with"
        (((ops[d.index]?.getD {}).argument "with").getD .null)
      check nested
    | _ => .ok ()
    checkNested check ops rest

/-- Checks one list, given a check for the lists nested in it. -/
def checkVia (check : List Operation → Except EngineError Unit) (resource : String)
    (ops : List Operation) : Except EngineError Unit := do
  let queues ← Queues.classify resource ops
  checkOutputs ops queues.output
  checkPrimaries ops queues.primary
  checkNested check ops queues.secondary

/-- Checks a list whose lists are nested at most `levels` deep. -/
def validateWithin (resource : String) : (levels : Nat) → List Operation → Except EngineError Unit
  | 0 => checkVia (fun _ => .ok ()) resource
  | levels + 1 => checkVia (validateWithin resource levels) resource

/-- Checks a list of operations and every list nested in it. -/
def validate (resource : String) (ops : List Operation) : Except EngineError Unit :=
  validateWithin resource (Operation.maxNesting ops) ops

/-- The check of one resource of a store. -/
structure Verdict where
  /-- The name of the resource. -/
  name : String
  /-- What is wrong with it, if anything. -/
  error : Option EngineError
deriving DecidableEq

/-- Checks the named resources of a store, or all of them if none is named. A name without a
    definition is a failure. -/
def checkStore (store : Store) (names : List String) : List Verdict :=
  (if names.isEmpty then store.names else names).map fun name =>
    let outcome := do
      let definition ← store.get name
      validate name definition.main
    match outcome with
    | .ok _ => ⟨name, none⟩
    | .error e => ⟨name, some e⟩

end Folio.Validation
