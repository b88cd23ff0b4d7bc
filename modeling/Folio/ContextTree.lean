import Folio.Json.Basic

/-!
# The tree of contexts

Every evaluation of a resource keeps a record of its contexts: the resource itself is the root, and
each nested list is a child of the context that evaluates it. Nodes are only ever added at the end,
and of a node only its output changes, when its context has finished.

* `ContextTree.pushChild`: adds a child and answers its index;
* `ContextTree.recordOut`: fills the output of a node.
-/

namespace Folio

/-- What is recorded about one context. -/
structure ContextNode where
  /-- The number of contexts above it. -/
  depth : Nat
  /-- The index of the context it belongs to; the root has none. -/
  parent : Option Nat
  /-- The name of the resource. -/
  name : String
  /-- The output, once there is one. -/
  out : Option Json := none
deriving DecidableEq

/-- Contexts in the order of their creation. -/
structure ContextTree where
  /-- The nodes; a context is known by its index here. -/
  nodes : List ContextNode := []
deriving DecidableEq

namespace ContextTree

/-- A tree that holds only the root. -/
def root (name : String) : ContextTree := ⟨[{ depth := 0, parent := none, name }]⟩

/-- The node of an index. -/
def node? (t : ContextTree) (id : Nat) : Option ContextNode := t.nodes[id]?

/-- How deep a child of a node lies; an unknown node counts as the root. -/
def childDepth (t : ContextTree) (parent : Nat) : Nat :=
  ((t.node? parent).map ContextNode.depth).getD 0 + 1

/-- Adds a child and answers its index. -/
def pushChild (t : ContextTree) (parent : Nat) (name : String) : Nat × ContextTree :=
  (t.nodes.length, ⟨t.nodes ++ [{ depth := t.childDepth parent, parent := some parent, name }]⟩)

/-- Fills the output of a node. -/
def recordOut (t : ContextTree) (id : Nat) (out : Json) : ContextTree :=
  ⟨t.nodes.modify id fun n => { n with out := some out }⟩

end ContextTree

/-- The operations of a context whose primary directive has been started, by their index. -/
structure Marks where
  /-- The indices marked so far, the latest first. -/
  marked : List Nat := []
deriving DecidableEq

namespace Marks

/-- Whether an operation is marked. -/
def isMarked (m : Marks) (index : Nat) : Bool := m.marked.contains index

/-- Marks an operation; answers whether it was not marked before. -/
def tryMark (m : Marks) (index : Nat) : Bool × Marks :=
  if m.isMarked index then (false, m) else (true, ⟨index :: m.marked⟩)

end Marks

end Folio
