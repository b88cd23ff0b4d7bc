import Folio.Proofs.Twins

/-!
# What an evaluation does not depend on

A context is told a seed and is given a place: an index and a depth in some tree, and the name of a
resource. Its list decides whether any of that makes a difference.

The seed is the effective input, and so it reaches every nested list. But only `as` and handlers
look at it; where no operation has such a key, at whatever level, one seed does as well as another
(`Context.process_of_seed`).

The place is told to handlers alone. A list that calls none is evaluated in the same way wherever
its context stands, as a resource of its own or nested in another one (`Context.process_anywhere`).
What it adds to the tree is then the same forest in both places, only that indices, depths and
names are counted and called as they are there (`ContextNode.Moved`).
-/

namespace Folio

open Result

/-! ## Forests in two places -/

/-- A place in a tree where a context adds nodes. -/
structure Place where
  /-- The name of the resource. -/
  name : String
  /-- The index of the context. -/
  id : Nat
  /-- The depth of what stands right below the context. -/
  depth : Nat
  /-- The index of the first node that is added. -/
  next : Nat

/-- A node that has been added in one place and the node that stands for it in another one: they
    have the same output, they stand equally deep below their contexts, and they are the children
    either of the contexts or of two nodes that stand for each other. -/
structure ContextNode.Moved (p p' : Place) (n n' : ContextNode) : Prop where
  name : n.name = p.name ∧ n'.name = p'.name
  depth : ∃ k, n.depth = p.depth + k ∧ n'.depth = p'.depth + k
  parent : n.parent = some p.id ∧ n'.parent = some p'.id ∨
    ∃ k, n.parent = some (p.next + k) ∧ n'.parent = some (p'.next + k)
  out : n'.out = n.out

namespace ContextNode.Moved

variable {p p' : Place} {n n' : ContextNode}

/-- What stands below the first node that is added stands below the context. -/
theorem of_below
    (h : Moved ⟨p.name, p.next, p.depth + 1, p.next + 1⟩
      ⟨p'.name, p'.next, p'.depth + 1, p'.next + 1⟩ n n') : Moved p p' n n' := by
  obtain ⟨hname, ⟨k, hk, hk'⟩, hparent, hout⟩ := h
  refine ⟨hname, ⟨1 + k, by rw [hk, Nat.add_assoc], by rw [hk', Nat.add_assoc]⟩, .inr ?_, hout⟩
  rcases hparent with ⟨hn, hn'⟩ | ⟨k, hn, hn'⟩
  · exact ⟨0, hn, hn'⟩
  · exact ⟨1 + k, by rw [hn, Nat.add_assoc], by rw [hn', Nat.add_assoc]⟩

/-- What is added later is added in the same place. -/
theorem of_rest {m : Nat}
    (h : Moved { p with next := p.next + m } { p' with next := p'.next + m } n n') :
    Moved p p' n n' := by
  refine { h with parent := h.parent.imp_right ?_ }
  rintro ⟨k, hn, hn'⟩
  exact ⟨m + k, by rw [hn, Nat.add_assoc], by rw [hn', Nat.add_assoc]⟩

end ContextNode.Moved

/-- The nodes of a forest in two places stand for each other, one by one. -/
theorem Forest.nodes_moved (f : Forest) (p p' : Place) :
    List.Forall₂ (ContextNode.Moved p p') (f.nodes p.name p.depth p.id p.next)
      (f.nodes p'.name p'.depth p'.id p'.next) := by
  induction f generalizing p p' with
  | empty => exact .nil
  | tree out below rest ihbelow ihrest =>
    -- The first tree has its root in front, and the nodes below it get the next indices.
    have hbelow := ihbelow ⟨p.name, p.next, p.depth + 1, p.next + 1⟩
      ⟨p'.name, p'.next, p'.depth + 1, p'.next + 1⟩
    have hfirst : ContextNode.Moved p p' ⟨p.depth, some p.id, p.name, out⟩
        ⟨p'.depth, some p'.id, p'.name, out⟩ :=
      ⟨⟨rfl, rfl⟩, ⟨0, rfl, rfl⟩, .inl ⟨rfl, rfl⟩, rfl⟩
    refine List.rel_append (.cons hfirst (hbelow.imp fun _ _ => .of_below)) ?_
    simp only [List.length_cons, ← hbelow.length_eq]
    exact (ihrest { p with next := p.next + _ } { p' with next := p'.next + _ }).imp
      fun _ _ => .of_rest

namespace Context

/-! ## The seed -/

/-- A list without `as` and without `custom`, wherever they might be nested, is evaluated in the
    same way whatever the seed is: result, operations and all that is left in the journal, the tree
    and the paths read, are the same. -/
theorem process_of_seed (host : Host) (ctx : Context) (j : Journal)
    (hkey : Operation.Lacks "as" ctx.operations) (hcustom : Operation.CustomFree ctx.operations)
    (hid : ctx.id < j.tree.nodes.length) (seed seed' : Json) :
    let run (seed : Json) := ({ ctx with seed } : Context).process host j
    (run seed').1 = (run seed).1 ∧ (run seed').2.1.operations = (run seed).2.1.operations ∧
      (run seed').2.2 = (run seed).2.2 := by
  intro run
  have htwin : Twin False True ({ ctx with seed } : Context) { ctx with seed := seed' } :=
    ⟨rfl, rfl, rfl, rfl, nofun, nofun, fun _ => rfl, fun _ => rfl⟩
  obtain ⟨hresult, hcontexts, y, hj, hj'⟩ :=
    process_twin host htwin (.inr hkey) (.inr (Operation.customFree_iff.1 hcustom)) hid hid
  have heq := hresult.eq fun _ _ => Failure.Alike.eq
  rw [← heq] at hj'
  exact ⟨heq.symm, hcontexts.operations, hj'.trans hj.symm⟩

/-- A list with another one nested in it is told two seeds, and makes nothing of either. -/
theorem process_of_seed_nested :
    let page : Operation := { directives := [("md", .null), ("with", .obj [("raw", .str "a")])] }
    let ctx : Context := root "page" .null [page]
    let j : Journal := ⟨.root "page", [], []⟩
    Operation.Lacks "as" ctx.operations ∧ Operation.CustomFree ctx.operations ∧
      ctx.id < j.tree.nodes.length ∧
      (({ ctx with seed := .str "seed" } : Context).process .bare j).1 = .ok (.str "a") := by
  intro page ctx j
  have hkey : Operation.Lacks "as" [page] :=
    .singleton rfl fun _ hbelow => by cases hbelow; exact .singleton rfl nofun
  have hcustom : Operation.CustomFree [page] := Operation.customFree_iff.2 <|
    .singleton rfl fun _ hbelow => by cases hbelow; exact .singleton rfl nofun
  refine ⟨hkey, hcustom, by decide, ?_⟩
  rw [(process_of_seed .bare ctx j hkey hcustom (by decide) .null (.str "seed")).1]
  decide +kernel

/-! ## The place -/

/-- A list without `custom`, wherever it might be nested, is evaluated in the same way wherever the
    context stands: as a resource of any name, or below any context of any tree. The two evaluations
    come to the same value, or to the same failure but for the name of the resource; they leave the
    same operations and read the same paths; and they add nodes to their trees that stand for each
    other. -/
theorem process_anywhere (host : Host) {ops : List Operation}
    (hcustom : Operation.CustomFree ops) (seed : Json) (id id' depth depth' : Nat)
    (name name' : String) (j j' : Journal) (hid : id < j.tree.nodes.length)
    (hid' : id' < j'.tree.nodes.length) :
    let run := ({ id, depth, name, seed, operations := ops } : Context).process host j
    let run' := ({ id := id', depth := depth', name := name', seed, operations := ops } :
      Context).process host j'
    Matched (Failure.Alike name name') Eq run.1 run'.1 ∧
      run'.2.1.operations = run.2.1.operations ∧
      (∃ reads, run.2.2.reads = j.reads ++ reads ∧ run'.2.2.reads = j'.reads ++ reads) ∧
      ∃ new new', run.2.2.tree.nodes = (j.close id run.1.toOption).tree.nodes ++ new ∧
        run'.2.2.tree.nodes = (j'.close id' run'.1.toOption).tree.nodes ++ new' ∧
        List.Forall₂
          (ContextNode.Moved ⟨name, id, j.tree.childDepth id, j.tree.nodes.length⟩
            ⟨name', id', j'.tree.childDepth id', j'.tree.nodes.length⟩) new new' := by
  intro run run'
  have htwin : Twin True False { id, depth, name, seed, operations := ops }
      { id := id', depth := depth', name := name', seed, operations := ops } :=
    ⟨rfl, rfl, rfl, rfl, fun _ => rfl, fun _ => rfl, nofun, nofun⟩
  obtain ⟨hresult, hcontexts, y, hj, hj'⟩ :=
    process_twin host htwin (.inl trivial) (.inr (Operation.customFree_iff.1 hcustom)) hid hid'
  refine ⟨hresult, hcontexts.operations, ⟨y.reads, ?_, ?_⟩, _, _, ?_, ?_, y.forest.nodes_moved _ _⟩
  · exact (congrArg Journal.reads hj).trans (Journal.reads_close _ _ _)
  · exact (congrArg Journal.reads hj').trans (Journal.reads_close _ _ _)
  · exact (congrArg (·.tree.nodes) hj).trans (Journal.nodes_close_extend hid name y _)
  · exact (congrArg (·.tree.nodes) hj').trans (Journal.nodes_close_extend hid' name' y _)

/-- A resource becomes a part of another one, behind a part that is there already. -/
theorem process_anywhere_nested :
    let page : Operation := { directives := [("md", .null), ("with", .obj [("raw", .str "a")])] }
    let part : Context :=
      { id := 2, depth := 1, name := "site", seed := .null, operations := [page] }
    let j : Journal := ⟨.root "page", [], []⟩
    let j' : Journal :=
      ⟨((((ContextTree.root "site").pushChild 0 "site").2).pushChild 0 "site").2, [], []⟩
    Operation.CustomFree [page] ∧ 0 < j.tree.nodes.length ∧ part.id < j'.tree.nodes.length ∧
      (part.process .bare j').1.toOption = some (.str "a") := by
  intro page part j j'
  have hcustom : Operation.CustomFree [page] := Operation.customFree_iff.2 <|
    .singleton rfl fun _ hbelow => by cases hbelow; exact .singleton rfl nofun
  refine ⟨hcustom, by decide, by decide, ?_⟩
  have hsame :=
    (process_anywhere .bare hcustom .null 0 2 0 1 "page" "site" j j' (by decide) (by decide)).1
  exact hsame.toOption_eq.trans (by decide +kernel)

end Context

end Folio
