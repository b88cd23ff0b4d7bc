import Folio.Context
import Folio.Store

/-!
# Sessions

A session holds several contexts at once. Root contexts have a tree of their own; a nested context
shares the tree of its parent. Every step names the context it is about, by the order of creation,
and the journal of the session grows with each of them.

* `Session.openRoot`, `Session.openNested`: new contexts;
* `Session.prepare`, `Session.process`: steps on one context;
* `Session.render`: the output of a resource, in a context that is not kept.
-/

namespace Folio

/-- A context of a session and the tree it belongs to. -/
structure Session.Entry where
  /-- The number of the tree. -/
  tree : Nat
  /-- The context as it is now. -/
  context : Context
deriving DecidableEq

/-- Contexts, the trees they belong to, and what has been read and called so far. -/
structure Session where
  /-- The trees, in order of creation. -/
  trees : List ContextTree := []
  /-- The contexts, in order of creation. -/
  contexts : List Session.Entry := []
  /-- The paths read, in order. -/
  reads : List Path := []
  /-- The keys of the handlers called, in order. -/
  calls : List String := []
deriving DecidableEq

namespace Session

/-- The journal that a step on a tree continues. -/
def journal (s : Session) (tree : Nat) : Journal :=
  { tree := s.trees[tree]?.getD {}, reads := s.reads, calls := s.calls }

/-- The session after a step on a tree has left this journal. -/
def withJournal (s : Session) (tree : Nat) (j : Journal) : Session :=
  { s with trees := s.trees.set tree j.tree, reads := j.reads, calls := j.calls }

/-- The session with another state of one of its contexts. -/
def withContext (s : Session) (index : Nat) (ctx : Context) : Session :=
  { s with contexts := s.contexts.modify index fun e => { e with context := ctx } }

/-- Opens a root context over the stored definition of a resource, and answers its number. -/
def openRoot (store : Store) (s : Session) (name : String) (seed : Json) :
    Except EngineError Nat × Session :=
  match store.get name with
  | .error e => (.error e, s)
  | .ok definition =>
    (.ok s.contexts.length,
      { s with
        trees := s.trees ++ [ContextTree.root name]
        contexts := s.contexts ++ [⟨s.trees.length, Context.root name seed definition.main⟩] })

/-- Opens a context below another one, and answers its number; nothing if there is no such context.
    -/
def openNested (s : Session) (parent : Nat) (seed : Json) (operations : List Operation) :
    Option (Nat × Session) := do
  let e ← s.contexts[parent]?
  let (id, tree) := (s.journal e.tree).tree.pushChild e.context.id e.context.name
  return (s.contexts.length,
    { s with
      trees := s.trees.set e.tree tree
      contexts := s.contexts ++ [⟨e.tree, e.context.child id seed operations⟩] })

/-- Prepares a context; nothing if there is no such context. -/
def prepare (s : Session) (index : Nat) : Option (Except EngineError Context × Session) := do
  let e ← s.contexts[index]?
  match e.context.prepare with
  | .error err => return (.error err, s)
  | .ok ctx => return (.ok ctx, s.withContext index ctx)

/-- Processes a context; nothing if there is no such context. -/
def process (host : Host) (s : Session) (index : Nat) :
    Option (Except Failure Json × Session) := do
  let e ← s.contexts[index]?
  let (r, ctx, j) := e.context.process host (s.journal e.tree)
  return (r, (s.withContext index ctx).withJournal e.tree j)

/-- The output of a resource, in a context that is not kept. -/
def render (host : Host) (store : Store) (s : Session) (name : String) (seed : Json) :
    Except Failure Json × Session :=
  match store.get name with
  | .error e => (.error (.ofEngine e), s)
  | .ok definition =>
    let (r, _, j) := (Context.root name seed definition.main).process host
      { tree := ContextTree.root name, reads := s.reads, calls := s.calls }
    (r, { s with reads := j.reads, calls := j.calls })

end Session

end Folio
