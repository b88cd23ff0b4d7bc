import Folio.Host
import Folio.Output
import Folio.Queues

/-!
# Contexts

A *context* is one evaluation of a resource. Processing it has three parts. First it is prepared:
its directives are put on queues, and a resource without `in` or without `out` gets one in front or
at the end. Then the queues run, one phase after the other; the actions of a phase see the context
as it was before the phase, and what they compute is written back once all of them have succeeded.
At last the output is recorded in the tree of contexts.

The actions of a phase are under way together: none waits for another one, and the first to fail
ends the phase with its failure. They are taken up in the order of their queue. As a host answers at
once, each is over before the next one is taken up. So they run in the order of the queue here, and
of several actions that would fail it is the first on the queue whose failure is reported; those
behind it are not started. If a host could keep an action waiting, the order of its answers would
decide this instead.

The argument of `with` is evaluated in a context of its own, a child of this one; its list is nested
in the argument, so the depth of the argument bounds how often that can happen.

* `Context.prepare`: queues and defaults;
* `Context.runPhase`: the actions of one queue;
* `Context.processVia`: all phases, given an evaluator for nested lists;
* `Context.process`: the same, with the phase machine itself as that evaluator.
-/

namespace Folio

/-- The state of one evaluation of a resource. -/
structure Context where
  /-- The index of the context in its tree. -/
  id : Nat
  /-- The number of contexts above it. -/
  depth : Nat
  /-- The name of the resource. -/
  name : String
  /-- The value the caller gave. -/
  seed : Json
  /-- The working list of operations. -/
  operations : List Operation
  /-- The directives to run. -/
  queues : Queues := {}
  /-- The operations whose primary directive has been started. -/
  marks : Marks := {}
  /-- The effective input, once the input phase is over. -/
  input : Option Json := none
  /-- The output, once the output phase is over. -/
  out : Option Json := none
deriving DecidableEq

/-- What an action computed, and the field it is meant for. -/
inductive Outcome where
  /-- The effective input of the context. -/
  | input (v : Json)
  /-- The result of a nested list, for an operation. -/
  | nested (index : Nat) (v : Json)
  /-- The key of a property, for an operation. -/
  | key (index : Nat) (v : Json)
  /-- The data of an operation. -/
  | data (index : Nat) (v : Json)
  /-- The output of the context. -/
  | output (v : Json)
deriving DecidableEq

/-- What changes while the actions of a phase run, and stays changed when one fails. -/
structure Progress where
  /-- The primary directives started. -/
  marks : Marks
  /-- What has been read, called and nested. -/
  journal : Journal
deriving DecidableEq

/-- Evaluates a nested context: its output, and the journal after it. -/
abbrev Evaluator := Context → Journal → Except Failure Json × Journal

namespace Context

/-- A context at the root of a new tree. -/
def root (name : String) (seed : Json) (operations : List Operation) : Context :=
  { id := 0, depth := 0, name, seed, operations }

/-- A context below another one. -/
def child (ctx : Context) (id : Nat) (seed : Json) (operations : List Operation) : Context :=
  { id, depth := ctx.depth + 1, name := ctx.name, seed, operations }

/-- The operation of an index. -/
def operation (ctx : Context) (index : Nat) : Operation := ctx.operations[index]?.getD {}

/-- Puts an input directive in front if there is none. -/
def injectInput (ctx : Context) : Context :=
  if ctx.queues.input.isEmpty then
    { ctx with
      operations := Operation.defaultInput :: ctx.operations
      queues := { ctx.queues.shift with input := [⟨0, .input⟩] } }
  else ctx

/-- Puts an output directive at the end if there is none. -/
def injectOutput (ctx : Context) : Context :=
  if ctx.queues.output.isEmpty then
    { ctx with
      operations := ctx.operations ++ [Operation.defaultOutput]
      queues := { ctx.queues with output := [⟨ctx.operations.length, .output⟩] } }
  else ctx

/-- Fills the queues and puts defaults where an input or an output is missing. The input comes
    first, so that the place of the output is final. -/
def prepare (ctx : Context) : Except EngineError Context :=
  match Queues.classify ctx.name ctx.operations with
  | .error e => .error e
  | .ok queues => .ok { ctx with queues }.injectInput.injectOutput

/-- The text that a primary directive works on: the result of `with`. -/
def withText (directive : Primary) (op : Operation) : Except EngineError String :=
  match op.withValue with
  | some (.str text) => .ok text
  | some v =>
    .error (.invalidArgument directive.name s!"expected text from 'with', found {v.kind}")
  | none => .error (.missingInput directive.name)

/-- Runs `with`: its argument is a resource of its own, seeded with the input of this one. -/
def runNested (nested : Evaluator) (ctx : Context) (op : Operation) (j : Journal) :
    Except Failure Json × Journal :=
  match Operation.parseList "with" ((op.argument "with").getD .null) with
  | .error e => (.error (.ofEngine e), j)
  | .ok ops =>
    let (id, tree) := j.tree.pushChild ctx.id ctx.name
    nested (ctx.child id (ctx.input.getD .null) ops) { j with tree }

/-- Reads the file that the argument of a directive names, and gives its name and text. -/
def readTarget (host : Host) (directive : Primary) (op : Operation) (j : Journal) :
    Except Failure (String × String) × Journal :=
  match FileRef.ofOperation directive op with
  | .error e => (.error (.ofEngine e), j)
  | .ok target =>
    let directory := host.contentPath target.path
    let j := j.addRead (directory.join ⟨target.name⟩)
    match host.fileText directory target.name with
    | .error f => (.error f, j)
    | .ok text => (.ok (target.name, text), j)

/-- Calls the handler that the argument of `custom` names. -/
def runCustom (host : Host) (ctx : Context) (op : Operation) (j : Journal) :
    Except Failure Json × Journal :=
  match FileRef.ofOperation .custom op with
  | .error e => (.error (.ofEngine e), j)
  | .ok target =>
    match host.handler? target.key with
    | none => (.error (.ofEngine (.customHandlerNotFound target.key)), j)
    | some handler =>
      let answer := handler
        { resource := ctx.name, depth := ctx.depth, input := ctx.input.getD .null
          operation := op, target }
      (answer.result, j.addCall target.key answer.reads)

/-- Runs a primary directive of an operation. -/
def runPrimary (host : Host) (ctx : Context) (directive : Primary) (op : Operation) (j : Journal) :
    Except Failure Json × Journal :=
  /- The directives that turn the text of `with` into something else read and call nothing. -/
  let convert (f : String → Except Failure Json) : Except Failure Json × Journal :=
    match withText directive op with
    | .error e => (.error (.ofEngine e), j)
    | .ok text => (f text, j)
  match directive with
  | .file =>
    match readTarget host .file op j with
    | (.error f, j) => (.error f, j)
    | (.ok (_, text), j) => (.ok (.str text), j)
  | .scss => convert fun text => (host.compileStyle text).map .str
  | .md => convert fun text => .ok (.str (host.renderMarkdown text))
  | .njk =>
    match readTarget host .njk op j with
    | (.error f, j) => (.error f, j)
    | (.ok (name, source), j) =>
      ((host.renderTemplate name source op.withValue).map .str, j)
  | .raw => (.ok ((op.argument "raw").getD .null), j)
  | .yml => convert host.readData
  | .custom => runCustom host ctx op j

/-- The key of a property: of this operation, or else of the first operation that has one. -/
def propertyKey (ctx : Context) (op : Operation) : Option Json :=
  match op.asValue with
  | some key => some key
  | none => ctx.operations.findSome? Operation.asValue

/-- Runs `out`: reduces the data of all operations that have any. -/
def runOutput (ctx : Context) (op : Operation) : Except EngineError Json :=
  match OutputMode.ofArgument (op.argument "out") with
  | .error e => .error e
  | .ok mode => reduce mode (ctx.operations.filterMap Operation.data) (ctx.propertyKey op)

/-- Marks an operation before its primary directive runs; each can be run only once. -/
def startPrimary (ctx : Context) (index : Nat) (directive : Primary) (m : Marks) :
    Except EngineError Marks :=
  if (ctx.operation index).executed || m.isMarked index then
    .error (.duplicatePrimary ctx.name index directive.name)
  else .ok (m.tryMark index).2

/-- Runs one action of a phase. -/
def dispatch (host : Host) (nested : Evaluator) (ctx : Context) (d : Queued) (p : Progress) :
    Except Failure Outcome × Progress :=
  let op := ctx.operation d.index
  match d.directive with
  | .input => (.ok (.input ctx.seed), p)
  | .secondary .nested =>
    let (r, journal) := runNested nested ctx op p.journal
    (r.map (.nested d.index), { p with journal })
  | .secondary .key => (.ok (.key d.index (ctx.input.getD .null)), p)
  | .primary directive =>
    match ctx.startPrimary d.index directive p.marks with
    | .error e => (.error (.ofEngine e), p)
    | .ok marks =>
      let (r, journal) := runPrimary host ctx directive op p.journal
      (r.map (.data d.index), { marks, journal })
  | .output =>
    match ctx.runOutput op with
    | .error e => (.error (.ofEngine e), p)
    | .ok v => (.ok (.output v), p)

/-- Runs the actions of a queue in order, up to the first that fails. -/
def runPhase (host : Host) (nested : Evaluator) (ctx : Context) :
    List Queued → Progress → Except Failure (List Outcome) × Progress
  | [], p => (.ok [], p)
  | d :: rest, p =>
    match ctx.dispatch host nested d p with
    | (.error f, p) => (.error f, p)
    | (.ok o, p) =>
      match runPhase host nested ctx rest p with
      | (.error f, p) => (.error f, p)
      | (.ok os, p) => (.ok (o :: os), p)

/-- Writes what an action computed to its field. -/
def applyOne (ctx : Context) : Outcome → Context
  | .input v => { ctx with input := some v }
  | .nested i v =>
    { ctx with operations := ctx.operations.modify i fun op => { op with withValue := some v } }
  | .key i v =>
    { ctx with operations := ctx.operations.modify i fun op => { op with asValue := some v } }
  | .data i v =>
    { ctx with
      operations := ctx.operations.modify i fun op => { op with data := some v, executed := true } }
  | .output v => { ctx with out := some v }

/-- Writes what the actions of a phase computed, in their order. -/
def apply (ctx : Context) (outcomes : List Outcome) : Context := outcomes.foldl applyOne ctx

/-- Runs phases one after the other. A phase that fails is not applied, but the primary directives
    it has started stay marked. After the last one the output is recorded. -/
def runPhases (host : Host) (nested : Evaluator) :
    List (List Queued) → Context → Journal → Except Failure Json × Context × Journal
  | [], ctx, j =>
    let out := ctx.out.getD .null
    (.ok out, ctx, { j with tree := j.tree.recordOut ctx.id out })
  | queue :: rest, ctx, j =>
    match ctx.runPhase host nested queue ⟨ctx.marks, j⟩ with
    | (.error f, p) => (.error f, { ctx with marks := p.marks }, p.journal)
    | (.ok outcomes, p) =>
      runPhases host nested rest ({ ctx with marks := p.marks }.apply outcomes) p.journal

/-- Evaluates a context, given an evaluator for nested ones. A context that cannot be prepared stays
    as it was. -/
def processVia (host : Host) (nested : Evaluator) (ctx : Context) (j : Journal) :
    Except Failure Json × Context × Journal :=
  match ctx.prepare with
  | .error e => (.error (.ofEngine e), ctx, j)
  | .ok ctx =>
    runPhases host nested
      [ctx.queues.input, ctx.queues.secondary, ctx.queues.primary, ctx.queues.output] ctx j

/-- Evaluates a context whose lists are nested at most `levels` deep. -/
def processWithin (host : Host) : (levels : Nat) → Context → Journal →
    Except Failure Json × Context × Journal
  | 0 => processVia host fun _ j => (.ok .null, j)
  | levels + 1 => processVia host fun ctx j =>
    let (r, _, j) := processWithin host levels ctx j
    (r, j)

/-- Evaluates a context: its output, the context afterwards, and the journal. -/
def process (host : Host) (ctx : Context) (j : Journal) :
    Except Failure Json × Context × Journal :=
  processWithin host (Operation.maxNesting ctx.operations) ctx j

end Context

end Folio
