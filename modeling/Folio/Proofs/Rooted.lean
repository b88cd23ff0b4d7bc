import Folio.Proofs.Steps
import Folio.Proofs.Twins

/-!
# The trees of a session

All contexts below one root share a tree, and so do the lists that they evaluate. They add to it in
any order, and what fails leaves nodes behind; but a tree is a tree after each step. Its first node
is the root, and every other one stands below a node before it, one level deeper.

What a step does to a tree it does at one context: it may fill the output of the node of this
context, and it adds nodes below it (`ContextTree.Local`). All that is said here of trees is kept by
whatever is local in this sense.

* `ContextTree.Rooted`: a root and nodes below it;
* `ContextTree.Rooted.ancestor_eq_root`: the depth of a node is its distance from the root;
* `ContextTree.Persists`: what has been there stays as it is, but for outputs that are filled;
* `Session.WellFormed`: all trees are rooted, and each context stands at a node of its own;
* `Session.run_wellFormed`: sessions are well-formed whatever is done in them.
-/

namespace Folio

namespace ContextTree

variable {t t' t'' : ContextTree} {id : Nat} {name : String} {i k : Nat} {n p : ContextNode}

theorem lt_length_of_node? (h : t.node? i = some n) : i < t.nodes.length :=
  (List.getElem?_eq_some_iff.1 h).1

theorem exists_node? (h : i < t.nodes.length) : ∃ n, t.node? i = some n :=
  ⟨_, List.getElem?_eq_getElem h⟩

theorem childDepth_of_node? (h : t.node? k = some p) : t.childDepth k = p.depth + 1 := by
  rw [childDepth, h]
  rfl

/-! ## Roots -/

/-- The node that is reached by going up from a node some number of times. -/
def ancestor (t : ContextTree) : Nat → Nat → Option Nat
  | 0, i => some i
  | m + 1, i => ((t.node? i).bind ContextNode.parent).bind (t.ancestor m)

/-- A tree of contexts of one resource. The first node is the root, and every other one stands below
    a node before it. -/
structure Rooted (t : ContextTree) (name : String) : Prop where
  root : ∃ out, t.node? 0 = some { depth := 0, parent := none, name, out }
  below : ∀ i n, t.node? i = some n → i ≠ 0 → ∃ k p, k < i ∧ n.parent = some k ∧
    t.node? k = some p ∧ n.depth = p.depth + 1 ∧ n.name = name

theorem rooted_root (name : String) : (ContextTree.root name).Rooted name where
  root := ⟨none, rfl⟩
  below i n hn hi := by
    have hlt : i < 1 := lt_length_of_node? hn
    exact absurd (Nat.lt_one_iff.1 hlt) hi

theorem Rooted.name_eq (h : t.Rooted name) (hn : t.node? i = some n) : n.name = name := by
  by_cases hi : i = 0
  · obtain ⟨out, hroot⟩ := h.root
    rw [hi, hroot] at hn
    exact (Option.some.inj hn) ▸ rfl
  · obtain ⟨_, _, -, -, -, -, hname⟩ := h.below i n hn hi
    exact hname

/-- Going up from a node one comes to the root after as many steps as the node is deep, and neither
    before nor after that. -/
theorem Rooted.ancestor_eq_root (h : t.Rooted name) (hn : t.node? i = some n) (m : Nat) :
    t.ancestor m i = some 0 ↔ m = n.depth := by
  obtain ⟨out, hroot⟩ := h.root
  induction m generalizing i n with
  | zero =>
    rw [ancestor, Option.some_inj]
    constructor
    · rintro rfl
      exact (Option.some.inj (hroot.symm.trans hn)) ▸ rfl
    · intro hdepth
      -- Any other node lies one deeper than its parent, and so not at depth zero.
      by_contra hi
      obtain ⟨_, _, -, -, -, hdepth', -⟩ := h.below i n hn hi
      omega
  | succ m ih =>
    rw [ancestor, hn, Option.bind_some]
    by_cases hi : i = 0
    · rw [hi, hroot] at hn
      obtain rfl := Option.some.inj hn
      simp
    · obtain ⟨k, p, -, hparent, hp, hdepth, -⟩ := h.below i n hn hi
      rw [hparent, Option.bind_some, ih hp, hdepth]
      omega

/-! ## What stays -/

/-- A later state of a tree: every node is where it was and as it was, but for its output, and an
    output is never lost. -/
def Persists (t t' : ContextTree) : Prop :=
  ∀ i n, t.node? i = some n →
    ∃ out, t'.node? i = some { n with out } ∧ (n.out.isSome → out.isSome)

theorem Persists.refl (t : ContextTree) : t.Persists t := fun _ n hn => ⟨n.out, hn, id⟩

theorem Persists.trans (h : t.Persists t') (h' : t'.Persists t'') : t.Persists t'' := by
  intro i n hn
  obtain ⟨out, hn', hout⟩ := h i n hn
  obtain ⟨out', hn'', hout'⟩ := h' i _ hn'
  exact ⟨out', hn'', hout' ∘ hout⟩

/-- A later state of a tree, where only the context at some node has done anything: of the nodes
    that were there no other has changed, and those that have come stand below it. -/
structure Local (id : Nat) (name : String) (t t' : ContextTree) : Prop where
  persists : t.Persists t'
  others : ∀ i n, t.node? i = some n → i ≠ id → t'.node? i = some n
  new : ∀ i n, t'.node? i = some n → t.nodes.length ≤ i → ∃ k < i, n.parent = some k ∧
    (k = id ∨ t.nodes.length ≤ k) ∧ n.depth = t'.childDepth k ∧ n.name = name

theorem Local.refl (id : Nat) (name : String) (t : ContextTree) : t.Local id name t where
  persists := .refl t
  others _ _ hn _ := hn
  new _ _ hn hi := absurd (lt_length_of_node? hn) (Nat.not_lt_of_le hi)

/-- A node stands below another one, maybe with others between them. -/
inductive Descends (t : ContextTree) (id : Nat) : Nat → Prop
  | child {k : Nat} {n : ContextNode} (hn : t.node? k = some n) (hparent : n.parent = some id) :
      Descends t id k
  | deeper {k p : Nat} {n : ContextNode} (hn : t.node? k = some n) (hparent : n.parent = some p)
      (h : Descends t id p) : Descends t id k

/-- All that has come stands below the context. -/
theorem Local.descends (h : t.Local id name t') :
    ∀ k n, t'.node? k = some n → t.nodes.length ≤ k → t'.Descends id k := by
  intro k
  induction k using Nat.strongRecOn with
  | ind k ih =>
    intro n hn hk
    obtain ⟨p, hp, hparent, hplace, -⟩ := h.new k n hn hk
    rcases hplace with rfl | hp'
    · exact .child hn hparent
    · obtain ⟨m, hm⟩ := exists_node? (Nat.lt_trans hp (lt_length_of_node? hn))
      exact .deeper hn hparent (ih p hp m hm hp')

/-- A tree stays rooted. -/
theorem Rooted.local (h : t.Rooted name) (hlocal : t.Local id name t') : t'.Rooted name where
  root := by
    obtain ⟨out, hroot⟩ := h.root
    obtain ⟨out', hroot', -⟩ := hlocal.persists 0 _ hroot
    exact ⟨out', hroot'⟩
  below i n hn hi := by
    rcases Nat.lt_or_ge i t.nodes.length with hlt | hge
    · obtain ⟨n₀, hn₀⟩ := exists_node? hlt
      obtain ⟨out, hn', -⟩ := hlocal.persists i n₀ hn₀
      obtain rfl := Option.some.inj (hn'.symm.trans hn)
      obtain ⟨k, p, hk, hparent, hp, hdepth, hname⟩ := h.below i n₀ hn₀ hi
      obtain ⟨out', hp', -⟩ := hlocal.persists k p hp
      exact ⟨k, _, hk, hparent, hp', hdepth, hname⟩
    · obtain ⟨k, hk, hparent, -, hdepth, hname⟩ := hlocal.new i n hn hge
      obtain ⟨p, hp⟩ := exists_node? (Nat.lt_trans hk (lt_length_of_node? hn))
      exact ⟨k, p, hk, hparent, hp, hdepth.trans (childDepth_of_node? hp), hname⟩

/-- A child is added below its parent. -/
theorem local_pushChild (hid : id < t.nodes.length) (name : String) :
    t.Local id name (t.pushChild id name).2 := by
  have hold : ∀ i n, t.node? i = some n → (t.pushChild id name).2.node? i = some n := by
    intro i n hn
    rw [← hn]
    exact List.getElem?_append_left (lt_length_of_node? hn)
  refine ⟨fun i n hn => ⟨n.out, hold i n hn, fun h => h⟩, fun i n hn _ => hold i n hn,
    fun i n hn hi => ?_⟩
  have hlt := lt_length_of_node? hn
  rw [length_pushChild] at hlt
  obtain rfl : i = t.nodes.length := by omega
  have hlast : (t.pushChild id name).2.node? t.nodes.length =
      some { depth := t.childDepth id, parent := some id, name } :=
    List.getElem?_concat_length
  obtain rfl := Option.some.inj (hlast.symm.trans hn)
  obtain ⟨p, hp⟩ := exists_node? hid
  refine ⟨id, hid, rfl, .inl rfl, ?_, rfl⟩
  rw [childDepth_of_node? hp, childDepth_of_node? (hold id p hp)]

end ContextTree

/-! ## Moves are local -/

namespace Journal

variable {j : Journal} {id i : Nat} {n : ContextNode}

/-- When a context ends, at most its own node changes, and of that at most the output. -/
theorem node?_close (j : Journal) (id : Nat) (out : Option Json) (i : Nat) :
    (j.close id out).tree.node? i =
      (j.tree.node? i).map fun n => if i = id then { n with out := out.or n.out } else n := by
  cases out with
  | none => simp [close]
  | some v =>
    simp only [close, ContextTree.node?, ContextTree.recordOut, List.getElem?_modify, eq_comm]
    rfl

theorem length_close (j : Journal) (id : Nat) (out : Option Json) :
    (j.close id out).tree.nodes.length = j.tree.nodes.length := by
  cases out with
  | none => rfl
  | some v => exact List.length_modify ..

/-- What a context adds stands behind the nodes that have been there. -/
theorem node?_close_extend (hid : id < j.tree.nodes.length) (name : String) (y : Yield)
    (out : Option Json) (hn : j.tree.node? i = some n) :
    ((j.extend id name y).close id out).tree.node? i =
      some (if i = id then { n with out := out.or n.out } else n) := by
  have hlt : i < (j.close id out).tree.nodes.length :=
    j.length_close id out ▸ ContextTree.lt_length_of_node? hn
  rw [ContextTree.node?, nodes_close_extend hid, List.getElem?_append_left hlt]
  exact (j.node?_close id out i).trans (by rw [hn]; rfl)

/-- What a context adds and how it ends is local to it. -/
theorem local_close_extend (hid : id < j.tree.nodes.length) (name : String) (y : Yield)
    (out : Option Json) :
    j.tree.Local id name ((j.extend id name y).close id out).tree := by
  have hnodes := nodes_close_extend hid name y out
  have hold (i : Nat) (n : ContextNode) (hn : j.tree.node? i = some n) :=
    node?_close_extend hid name y out hn
  generalize ((j.extend id name y).close id out).tree = t at hnodes hold ⊢
  refine ⟨fun i n hn => ?_, fun i n hn hi => ?_, fun i n hn hi => ?_⟩
  · rw [hold i n hn]
    split
    · exact ⟨_, rfl, by cases out <;> simp⟩
    · exact ⟨n.out, rfl, fun h => h⟩
  · rw [hold i n hn, if_neg hi]
  · -- What is new are the nodes of a forest, put behind those that were there.
    obtain ⟨own, hown⟩ := ContextTree.exists_node? hid
    have hdepth : t.childDepth id = j.tree.childDepth id := by
      rw [ContextTree.childDepth_of_node? hown, ContextTree.childDepth_of_node? (hold id own hown),
        if_pos rfl]
    rw [← j.length_close id out] at hid hi hnodes ⊢
    rw [← hdepth, ← List.append_nil (_ ++ _)] at hnodes
    have hlt := ContextTree.lt_length_of_node? hn
    rw [hnodes, List.append_nil, List.length_append] at hlt
    exact Forest.hangs hid hnodes hn hi hlt

end Journal

namespace Context

variable {c : Context} {j : Journal}

/-- A move is local to the context that it is made on. -/
theorem take_local (host : Host) (hid : c.id < j.tree.nodes.length) (m : Move) :
    j.tree.Local c.id c.name (c.take host j m).2.2.tree := by
  cases m with
  | prepare =>
    rw [take]
    cases c.prepare <;> exact .refl ..
  | process =>
    obtain ⟨-, -, y, hj, -⟩ :=
      process_twin host (.refl True True c) (.inl trivial) (.inl ⟨trivial, trivial⟩) hid hid
    rw [take, hj]
    exact Journal.local_close_extend hid c.name y _

end Context

/-! ## Sessions -/

namespace Session

open ContextTree

variable {s : Session} {e : Entry} {t : ContextTree}

/-- A context stands at a node of its tree. -/
def Entry.Stands (trees : List ContextTree) (e : Entry) : Prop :=
  ∃ t n, trees[e.tree]? = some t ∧ t.node? e.context.id = some n ∧ n.depth = e.context.depth ∧
    n.name = e.context.name

/-- A session whose trees are rooted and whose contexts stand at nodes of their own. -/
structure WellFormed (s : Session) : Prop where
  trees : ∀ t ∈ s.trees, ∃ name, t.Rooted name
  contexts : ∀ e ∈ s.contexts, e.Stands s.trees
  distinct : s.contexts.Pairwise fun e e' => e.tree = e'.tree → e.context.id ≠ e'.context.id

/-- A later state of a session: no tree is lost, and each one persists. -/
def Persists (s s' : Session) : Prop :=
  ∀ (k : Nat) (t : ContextTree), s.trees[k]? = some t →
    ∃ t', s'.trees[k]? = some t' ∧ t.Persists t'

theorem Persists.refl (s : Session) : s.Persists s := fun _ t ht => ⟨t, ht, .refl t⟩

theorem Persists.trans {s' s'' : Session} (h : s.Persists s') (h' : s'.Persists s'') :
    s.Persists s'' := by
  intro k t ht
  obtain ⟨t', ht', hpersists⟩ := h k t ht
  obtain ⟨t'', ht'', hpersists'⟩ := h' k t' ht'
  exact ⟨t'', ht'', hpersists.trans hpersists'⟩

theorem Entry.Stands.mono {s' : Session} (h : e.Stands s.trees) (hpersists : s.Persists s') :
    e.Stands s'.trees := by
  obtain ⟨t, n, ht, hn, hdepth, hname⟩ := h
  obtain ⟨t', ht', hpersists⟩ := hpersists _ t ht
  obtain ⟨out, hn', -⟩ := hpersists _ n hn
  exact ⟨t', _, ht', hn', hdepth, hname⟩

/-- Where a context of a session stands, its tree included. -/
def Entry.spot (e : Entry) : Nat × Nat × Nat × String := (e.tree, e.context.place)

theorem Entry.stands_congr {e' : Entry} {trees : List ContextTree} (h : e.spot = e'.spot) :
    e.Stands trees ↔ e'.Stands trees := by
  simp only [spot, Context.place, Prod.mk.injEq] at h
  obtain ⟨htree, hid, hdepth, hname⟩ := h
  rw [Stands, Stands, htree, hid, hdepth, hname]

theorem wellFormed_empty : WellFormed {} := ⟨nofun, nofun, .nil⟩

theorem journal_tree {k : Nat} (ht : s.trees[k]? = some t) : (s.journal k).tree = t := by
  rw [journal, ht]
  rfl

/-- A step that is about a context is local to it, in its tree, and leaves all other trees alone. -/
theorem step_local (host : Host) (store : Store) {step : Step} {i : Nat}
    (hsubject : step.subject? = some i) (he : s.contexts[i]? = some e)
    (ht : s.trees[e.tree]? = some t) (hid : e.context.id < t.nodes.length) :
    ∃ t', (s.step host store step).2.trees = s.trees.set e.tree t' ∧
      t.Local e.context.id e.context.name t' := by
  have hjournal := journal_tree ht
  cases step with
  | root name seed => cases hsubject
  | nested parent seed operations =>
    cases hsubject
    rw [step_nested he, hjournal]
    exact ⟨_, rfl, local_pushChild hid _⟩
  | move index m =>
    cases hsubject
    rw [step_move he]
    have hlocal := Context.take_local host (hjournal ▸ hid) m
    rw [hjournal] at hlocal
    exact ⟨_, rfl, hlocal⟩

/-- No step takes anything away. -/
theorem WellFormed.step_persists (h : s.WellFormed) (host : Host) (store : Store) (step : Step) :
    s.Persists (s.step host store step).2 := by
  rcases step_cases host store s step with hnone | ⟨name, seed, ops, hroot⟩ | ⟨i, e, hsubject, he⟩
  · rw [hnone]
    exact .refl s
  · rw [hroot]
    intro k t ht
    have hlt := (List.getElem?_eq_some_iff.1 ht).1
    exact ⟨t, (List.getElem?_append_left hlt).trans ht, .refl t⟩
  · obtain ⟨t, n, ht, hn, -⟩ := h.contexts e (List.mem_of_getElem? he)
    obtain ⟨t', htrees, hlocal⟩ :=
      step_local host store hsubject he ht (lt_length_of_node? hn)
    intro k t₀ ht₀
    rw [htrees]
    by_cases hk : e.tree = k
    · subst hk
      obtain rfl := Option.some.inj (ht.symm.trans ht₀)
      exact ⟨t', List.getElem?_set_self (List.getElem?_eq_some_iff.1 ht).1, hlocal.persists⟩
    · exact ⟨t₀, (List.getElem?_set_ne hk).trans ht₀, .refl t₀⟩

theorem WellFormed.step_rooted (h : s.WellFormed) (host : Host) (store : Store) (step : Step) :
    ∀ t ∈ (s.step host store step).2.trees, ∃ name, t.Rooted name := by
  rcases step_cases host store s step with hnone | ⟨name, seed, ops, hroot⟩ | ⟨i, e, hsubject, he⟩
  · rw [hnone]
    exact h.trees
  · rw [hroot, List.forall_mem_append, List.forall_mem_singleton]
    exact ⟨h.trees, name, rooted_root name⟩
  · obtain ⟨t, n, ht, hn, -, hname⟩ := h.contexts e (List.mem_of_getElem? he)
    obtain ⟨t', htrees, hlocal⟩ :=
      step_local host store hsubject he ht (lt_length_of_node? hn)
    rw [htrees]
    intro t₀ ht₀
    rcases List.mem_or_eq_of_mem_set ht₀ with ht₀ | rfl
    · exact h.trees t₀ ht₀
    · obtain ⟨name, hrooted⟩ := h.trees t (List.mem_of_getElem? ht)
      rw [← hname, hrooted.name_eq hn] at hlocal
      exact ⟨name, hrooted.local hlocal⟩

/-- The contexts of a session stay where they stand, and there is at most one more. This one stands
    at a node that no other one has. -/
theorem WellFormed.step_contexts (h : s.WellFormed) (host : Host) (store : Store) (step : Step) :
    (s.step host store step).2.contexts.map Entry.spot = s.contexts.map Entry.spot ∨
      ∃ e, (s.step host store step).2.contexts = s.contexts ++ [e] ∧
        e.Stands (s.step host store step).2.trees ∧
        ∀ e' ∈ s.contexts, e'.tree = e.tree → e'.context.id ≠ e.context.id := by
  have hstands (e : Entry) (he : e ∈ s.contexts) : e.tree < s.trees.length := by
    obtain ⟨t, -, ht, -⟩ := h.contexts e he
    exact (List.getElem?_eq_some_iff.1 ht).1
  rcases step_cases host store s step with hnone | ⟨name, seed, ops, hroot⟩ | ⟨i, e, hsubject, he⟩
  · exact .inl (by rw [hnone])
  · refine .inr ⟨_, by rw [hroot], ⟨.root name, _, by simp [hroot], rfl, rfl, rfl⟩, ?_⟩
    exact fun e' he' htree => absurd (hstands e' he') (htree ▸ Nat.lt_irrefl _)
  · have hmem := List.mem_of_getElem? he
    obtain ⟨t, n, ht, hn, hdepth, hname⟩ := h.contexts e hmem
    cases step with
    | root name seed => cases hsubject
    | nested parent seed operations =>
      cases hsubject
      refine .inr ⟨⟨e.tree, e.context.child t.nodes.length seed operations⟩, ?_, ?_, ?_⟩
      · rw [step_nested he, journal_tree ht]
      · rw [step_nested he, journal_tree ht]
        refine ⟨_, _, List.getElem?_set_self (hstands e hmem), List.getElem?_concat_length, ?_, rfl⟩
        rw [childDepth_of_node? hn, hdepth]
        rfl
      · intro e' he' htree
        obtain ⟨t₀, n', ht₀, hn', -⟩ := h.contexts e' he'
        rw [htree, ht] at ht₀
        obtain rfl := Option.some.inj ht₀
        exact Nat.ne_of_lt (lt_length_of_node? hn')
    | move index m =>
      cases hsubject
      refine .inl ?_
      rw [step_move he]
      refine map_modify_of_eq fun e' he' => ?_
      obtain rfl := Option.some.inj (he.symm.trans he')
      exact congrArg (Prod.mk e.tree) (Context.place_take host e.context _ m)

theorem WellFormed.step_stands (h : s.WellFormed) (host : Host) (store : Store) (step : Step) :
    ∀ e ∈ (s.step host store step).2.contexts, e.Stands (s.step host store step).2.trees := by
  have hold : ∀ e ∈ s.contexts, e.Stands (s.step host store step).2.trees :=
    fun e he => (h.contexts e he).mono (h.step_persists host store step)
  rcases h.step_contexts host store step with hspots | ⟨e, hcontexts, he, -⟩
  · intro e he
    have hmem := List.mem_map_of_mem (f := Entry.spot) he
    rw [hspots] at hmem
    obtain ⟨e', he', hspot⟩ := List.mem_map.1 hmem
    exact (Entry.stands_congr hspot).1 (hold e' he')
  · rw [hcontexts, List.forall_mem_append, List.forall_mem_singleton]
    exact ⟨hold, he⟩

theorem WellFormed.step_distinct (h : s.WellFormed) (host : Host) (store : Store) (step : Step) :
    (s.step host store step).2.contexts.Pairwise fun e e' =>
      e.tree = e'.tree → e.context.id ≠ e'.context.id := by
  rcases h.step_contexts host store step with hspots | ⟨e, hcontexts, -, hid⟩
  · have hdistinct : (s.contexts.map Entry.spot).Pairwise fun x y => x.1 = y.1 → x.2.1 ≠ y.2.1 :=
      List.pairwise_map.2 h.distinct
    rw [← hspots] at hdistinct
    exact List.pairwise_map.1 hdistinct
  · rw [hcontexts, List.pairwise_append]
    refine ⟨h.distinct, List.pairwise_singleton _ _, fun e' he' e₀ he₀ => ?_⟩
    obtain rfl := List.mem_singleton.1 he₀
    exact hid e' he'

/-- Every step keeps a session well-formed. -/
theorem WellFormed.step (h : s.WellFormed) (host : Host) (store : Store) (step : Step) :
    (s.step host store step).2.WellFormed :=
  ⟨h.step_rooted host store step, h.step_stands host store step, h.step_distinct host store step⟩

/-- In every session, whatever has been done in it, with whatever hosts, and however that has ended,
    all trees are rooted and each context stands at a node of its own, which has its depth and its
    name. The depth of a node is the number of steps from it to the root. And what is done next
    takes nothing away: nodes stay where and as they are but for their outputs, and no output is
    lost. -/
theorem run_wellFormed (store : Store) (steps next : List (Host × Step)) :
    let s := run store steps {}
    s.WellFormed ∧
      (∀ t ∈ s.trees, ∀ i n, t.node? i = some n → ∀ m, t.ancestor m i = some 0 ↔ m = n.depth) ∧
      s.Persists (run store next s) := by
  intro s
  have hs : s.WellFormed :=
    run_induction (fun _ host step h => h.step host store step) steps wellFormed_empty
  refine ⟨hs, fun t ht i n hn m => ?_, ?_⟩
  · obtain ⟨name, hrooted⟩ := hs.trees t ht
    exact hrooted.ancestor_eq_root hn m
  · have hnext : (run store next s).WellFormed ∧ s.Persists (run store next s) :=
      run_induction (P := fun s' => s'.WellFormed ∧ s.Persists s')
        (fun s' host step h =>
          ⟨h.1.step host store step, h.2.trans (h.1.step_persists host store step)⟩)
        next ⟨hs, .refl s⟩
    exact hnext.2

end Session

end Folio
