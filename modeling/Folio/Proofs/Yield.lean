import Folio.Proofs.Growth

/-!
# What an evaluation adds

Besides its result an evaluation leaves paths that have been read, keys of handlers that have been
called, and in the tree one node for each nested list that it has begun to evaluate. As one list is
evaluated at a time, these nodes are the ones of a forest, each tree after the other and each node
before those below it. Seen in this way (`Yield`), what is added depends neither on the place of the
context nor on what has been in the journal before; both come in only when it is put there
(`Journal.extend`).

* `Forest.nodes`: the nodes of a forest that is put below a node;
* `Journal.extend_extend`: what is added in two parts is added as one;
* `Context.close_extend_nested`: what a nested list adds is a tree with what it has added itself;
* `Forest.hangs`: a node that is added stands below the context or a node added before, one level
  deeper.
-/

namespace Folio

/-- Nested lists in the order in which they are evaluated. -/
inductive Forest where
  /-- No list. -/
  | empty
  /-- A list with its output, if it has come to one, and the lists nested in it; and then the
      others. -/
  | tree (out : Option Json) (below rest : Forest)

namespace Forest

/-- The lists of one forest after those of another. -/
def append : Forest → Forest → Forest
  | .empty, g => g
  | .tree out below rest, g => .tree out below (rest.append g)

instance : Append Forest := ⟨append⟩

/-- The nodes of a forest. It is put below the node `parent`, and its first node gets the index
    `next`. -/
def nodes (name : String) (depth parent next : Nat) : Forest → List ContextNode
  | .empty => []
  | .tree out below rest =>
    let first := { depth, parent := some parent, name, out } ::
      below.nodes name (depth + 1) next (next + 1)
    first ++ rest.nodes name depth parent (next + first.length)

variable {name : String} {depth parent next : Nat} {f g : Forest}

@[simp] theorem tree_append (out : Option Json) (below rest g : Forest) :
    tree out below rest ++ g = tree out below (rest ++ g) := rfl

theorem nodes_append (f g : Forest) :
    (f ++ g).nodes name depth parent next =
      f.nodes name depth parent next ++
        g.nodes name depth parent (next + (f.nodes name depth parent next).length) := by
  induction f generalizing next with
  | empty => rfl
  | tree out below rest _ ih =>
    simp only [tree_append, nodes, ih, List.length_append, List.append_assoc, Nat.add_assoc]

/-- Where a tree has got the nodes of a forest, each of them stands below the node that the forest
    is put below, or below one added before, and one level deeper. -/
theorem hangs {t : ContextTree} {old tail : List ContextNode} (hparent : parent < old.length)
    (h : t.nodes = old ++ f.nodes name (t.childDepth parent) parent old.length ++ tail) {i : Nat}
    {n : ContextNode} (hn : t.node? i = some n) (hold : old.length ≤ i)
    (hi : i < old.length + (f.nodes name (t.childDepth parent) parent old.length).length) :
    ∃ k < i, n.parent = some k ∧ (k = parent ∨ old.length ≤ k) ∧ n.depth = t.childDepth k ∧
      n.name = name := by
  induction f generalizing old parent tail with
  | empty => exact absurd hi (Nat.not_lt_of_le hold)
  | tree out below rest ihbelow ihrest =>
    rw [nodes] at h hi
    generalize hd : t.childDepth parent = d at h hi
    generalize hc : ({ depth := d, parent := some parent, name, out } : ContextNode) = c at h hi
    have hfirst : t.node? old.length = some c := by
      rw [ContextTree.node?, h]
      simp
    have hdepth : t.childDepth old.length = d + 1 := by
      rw [ContextTree.childDepth, hfirst, ← hc]
      rfl
    rw [← hdepth, List.length_append] at hi
    rw [← hdepth] at h
    generalize hB : below.nodes name (t.childDepth old.length) old.length (old.length + 1) = B
      at h hi
    rcases Nat.eq_or_lt_of_le hold with rfl | hold
    · obtain rfl := Option.some.inj (hfirst.symm.trans hn)
      exact ⟨parent, hparent, by rw [← hc], .inl rfl, by rw [hd, ← hc], by rw [← hc]⟩
    by_cases hlt : i < old.length + (c :: B).length
    · -- The node stands in the first tree, below its root.
      have hlast : (old ++ [c]).length = old.length + 1 := List.length_append
      rw [List.length_cons] at hlt
      obtain ⟨k, hk, hp, hplace, hrest⟩ := @ihbelow old.length (old ++ [c])
        (rest.nodes name d parent (old.length + (c :: B).length) ++ tail) (by omega)
        (by rw [hlast, hB, h]; simp) (by omega) (by rw [hlast, hB]; omega)
      exact ⟨k, hk, hp, .inr (by omega), hrest⟩
    · -- The node stands in one of the other trees.
      have hlast : (old ++ c :: B).length = old.length + (c :: B).length := List.length_append
      obtain ⟨k, hk, hp, hplace, hrest⟩ := @ihrest parent (old ++ c :: B) tail (by omega)
        (by rw [hlast, hd, h]; simp) (by omega) (by rw [hlast, hd]; omega)
      exact ⟨k, hk, hp, hplace.imp_right (by omega), hrest⟩

end Forest

/-- What an evaluation adds to a journal. -/
structure Yield where
  /-- The paths that have been read, in order. -/
  reads : List Path := []
  /-- The keys of the handlers that have been called, in order. -/
  calls : List String := []
  /-- The nested lists that have been evaluated. -/
  forest : Forest := .empty

namespace Yield

/-- What is added by one run after another. -/
def append (y z : Yield) : Yield := ⟨y.reads ++ z.reads, y.calls ++ z.calls, y.forest ++ z.forest⟩

instance : Append Yield := ⟨append⟩

end Yield

namespace Journal

/-- The journal after a context has added something to it, known by its index and its name. -/
def extend (j : Journal) (id : Nat) (name : String) (y : Yield) : Journal where
  tree := ⟨j.tree.nodes ++ y.forest.nodes name (j.tree.childDepth id) id j.tree.nodes.length⟩
  reads := j.reads ++ y.reads
  calls := j.calls ++ y.calls

/-- The journal after a context has ended, with an output or without. -/
def close (j : Journal) (id : Nat) : Option Json → Journal
  | some v => { j with tree := j.tree.recordOut id v }
  | none => j

variable {id : Nat} {name : String}

theorem extend_reads (j : Journal) (id : Nat) (name : String) (reads : List Path)
    (calls : List String) :
    j.extend id name { reads, calls } =
      { j with reads := j.reads ++ reads, calls := j.calls ++ calls } := by
  simp [extend, Forest.nodes]

theorem extend_empty (j : Journal) (id : Nat) (name : String) : j.extend id name {} = j := by
  simp [extend_reads]

theorem length_le_extend (j : Journal) (id : Nat) (name : String) (y : Yield) :
    j.tree.nodes.length ≤ (j.extend id name y).tree.nodes.length := by
  rw [extend, List.length_append]
  exact Nat.le_add_right _ _

/-- The nodes that have been there before are where they were. -/
theorem childDepth_extend {j : Journal} {k : Nat} (hk : k < j.tree.nodes.length) (y : Yield) :
    (j.extend id name y).tree.childDepth k = j.tree.childDepth k := by
  rw [ContextTree.childDepth, ContextTree.node?, extend, List.getElem?_append_left hk]
  rfl

/-- What is added in two parts may as well be added at once. -/
theorem extend_extend {j : Journal} (hid : id < j.tree.nodes.length) (y z : Yield) :
    (j.extend id name y).extend id name z = j.extend id name (y ++ z) := by
  rw [extend, childDepth_extend hid]
  change _ = j.extend id name ⟨_, _, _⟩
  simp [extend, Forest.nodes_append]

/-- Once a context has ended, its node may have an output; all other nodes are as they were, and
    behind them stand those that have been added. -/
theorem nodes_close_extend {j : Journal} (hid : id < j.tree.nodes.length) (name : String)
    (y : Yield) (out : Option Json) :
    ((j.extend id name y).close id out).tree.nodes = (j.close id out).tree.nodes ++
      y.forest.nodes name (j.tree.childDepth id) id j.tree.nodes.length := by
  cases out with
  | none => rfl
  | some v => exact ContextTree.recordOut_append hid rfl v

@[simp] theorem reads_close (j : Journal) (id : Nat) (out : Option Json) :
    (j.close id out).reads = j.reads := by
  cases out <;> rfl

end Journal

namespace Context

/-- What a nested list has added, and how it has ended, makes a tree below the context. -/
theorem close_extend_nested {ctx : Context} {j : Journal} (y : Yield) (out : Option Json) :
    ((ctx.nestedJournal j).extend j.tree.nodes.length ctx.name y).close j.tree.nodes.length out =
      j.extend ctx.id ctx.name { y with forest := .tree out y.forest .empty } := by
  have hdepth : (ctx.nestedJournal j).tree.childDepth j.tree.nodes.length =
      j.tree.childDepth ctx.id + 1 := by
    simp [nestedJournal, ContextTree.pushChild, ContextTree.childDepth, ContextTree.node?]
  rw [Journal.extend, hdepth]
  simp only [nestedJournal, ContextTree.pushChild, List.length_append, List.length_singleton,
    List.append_assoc, List.singleton_append]
  cases out with
  | none => simp [Journal.close, Journal.extend, Forest.nodes]
  | some v =>
    simp [Journal.close, ContextTree.recordOut, modify_length, Journal.extend, Forest.nodes]

end Context

end Folio
