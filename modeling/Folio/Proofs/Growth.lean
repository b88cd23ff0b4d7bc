import Folio.Proofs.Actions

/-!
# How the tree of contexts grows

Only nested lists touch the tree: each gets a node at the end, below the context that evaluates it,
and fills it when its evaluation is over. So an evaluation that succeeds leaves the nodes alone that
were there before, its own apart, and whatever it has added is *finished*: it has an output, and it
stands below the context.

* `ContextTree.Grown`: a tree to which finished nodes have been added;
* `Context.dispatch_grown`: an action that succeeds lets the tree grow;
* `Context.process_grown`: so does an evaluation that succeeds, and it fills its own node.
-/

namespace Folio

/-- A node that is done with, somewhere below a context: contexts are made in the order of their
    indices, so that none of them stands below a later one. -/
structure ContextNode.Finished (id : Nat) (n : ContextNode) : Prop where
  out : n.out.isSome
  parent : ∃ k, id ≤ k ∧ n.parent = some k

theorem ContextNode.Finished.mono {id id' : Nat} {n : ContextNode} (h : n.Finished id')
    (hid : id ≤ id') : n.Finished id := by
  obtain ⟨k, hk, hparent⟩ := h.parent
  exact ⟨h.out, k, Nat.le_trans hid hk, hparent⟩

namespace ContextTree

/-- A tree has got more nodes at its end, all of them finished and below a context. -/
def Grown (id : Nat) (t t' : ContextTree) : Prop :=
  ∃ new, t'.nodes = t.nodes ++ new ∧ ∀ n ∈ new, n.Finished id

variable {id : Nat} {t t' t'' : ContextTree}

theorem Grown.refl (id : Nat) (t : ContextTree) : Grown id t t :=
  ⟨[], (List.append_nil _).symm, List.forall_mem_nil _⟩

theorem Grown.trans (h : Grown id t t') (h' : Grown id t' t'') : Grown id t t'' := by
  obtain ⟨new, hnew, hfinished⟩ := h
  obtain ⟨new', hnew', hfinished'⟩ := h'
  refine ⟨new ++ new', by rw [hnew', hnew, List.append_assoc], fun n hn => ?_⟩
  exact (List.mem_append.1 hn).elim (hfinished n) (hfinished' n)

theorem Grown.length_le (h : Grown id t t') : t.nodes.length ≤ t'.nodes.length := by
  obtain ⟨new, hnew, -⟩ := h
  rw [hnew, List.length_append]
  exact Nat.le_add_right _ _

/-- An output is written to a node that has been there before, whatever has been added since. -/
theorem recordOut_append {new : List ContextNode} (hid : id < t.nodes.length)
    (h : t'.nodes = t.nodes ++ new) (out : Json) :
    (t'.recordOut id out).nodes = (t.recordOut id out).nodes ++ new := by
  rw [recordOut, recordOut, h]
  refine List.ext_getElem? fun k => ?_
  grind

theorem Grown.recordOut (h : Grown id t t') (hid : id < t.nodes.length) (out : Json) :
    Grown id (t.recordOut id out) (t'.recordOut id out) := by
  obtain ⟨new, hnew, hfinished⟩ := h
  exact ⟨new, recordOut_append hid hnew out, hfinished⟩

/-- A new node stands at the end, and there its output is written. -/
theorem recordOut_pushChild (t : ContextTree) (parent : Nat) (name : String) (out : Json) :
    ((t.pushChild parent name).2.recordOut t.nodes.length out).nodes =
      t.nodes ++ [{ depth := t.childDepth parent, parent := some parent, name, out := some out }] :=
  Context.modify_length t.nodes [] _ _

theorem length_pushChild (t : ContextTree) (parent : Nat) (name : String) :
    (t.pushChild parent name).2.nodes.length = t.nodes.length + 1 :=
  List.length_append

/-- A child that has been evaluated to its end makes the tree of its parent grow. -/
theorem grown_of_child {parent : Nat} (hparent : parent < t.nodes.length) {name : String}
    {out : Json}
    (h : Grown t.nodes.length ((t.pushChild parent name).2.recordOut t.nodes.length out) t') :
    Grown parent t t' := by
  obtain ⟨new, hnew, hfinished⟩ := h
  rw [recordOut_pushChild, List.append_assoc, List.singleton_append] at hnew
  refine ⟨_, hnew, List.forall_mem_cons.2 ⟨⟨rfl, parent, Nat.le_refl _, rfl⟩, fun n hn => ?_⟩⟩
  exact (hfinished n hn).mono (Nat.le_of_lt hparent)

end ContextTree

namespace Context

open ContextTree

variable {host : Host} {nested : Evaluator} {ctx : Context} {d : Queued} {p p' : Progress}

/-- An evaluator fills the node of a context over some list, wherever the context stands, and lets
    the tree grow below it. -/
def GrowsOn (nested : Evaluator) (ops : List Operation) : Prop :=
  ∀ (c : Context) (j : Journal) (v : Json), c.operations = ops → c.id < j.tree.nodes.length →
    (nested c j).1 = .ok v → Grown c.id (j.tree.recordOut c.id v) (nested c j).2.tree

theorem id_nestedContext_lt (ctx : Context) (j : Journal) (ops : List Operation) :
    (ctx.nestedContext j ops).id < (ctx.nestedJournal j).tree.nodes.length := by
  rw [nestedJournal, length_pushChild]
  exact Nat.lt_succ_self _

/-- An action that succeeds lets the tree grow, if nested lists do. -/
theorem dispatch_grown {o : Outcome}
    (hnested : ∀ below, (ctx.operation d.index).Nests below → GrowsOn nested below)
    (hid : ctx.id < p.journal.tree.nodes.length) (h : ctx.dispatch host nested d p = (.ok o, p')) :
    Grown ctx.id p.journal.tree p'.journal.tree := by
  rcases dispatch_cases host ctx d p with ⟨below, -, hbelow, hdispatch⟩ | halone
  · rw [hdispatch] at h
    obtain ⟨v, hv, -⟩ := Result.map_eq_ok.1 (congrArg Prod.fst h)
    obtain rfl := congrArg Prod.snd h
    exact grown_of_child hid
      (hnested below hbelow _ _ v rfl (id_nestedContext_lt ctx p.journal below) hv)
  · have htree := (halone nested nested).2
    rw [h] at htree
    rw [← htree]
    exact .refl _ _

/-- What has grown so far keeps growing with every action that succeeds. -/
theorem keeps_grown {row : List Queued} {t : ContextTree}
    (hnested : ∀ c, ctx.Continues c → ∀ i below, (c.operation i).Nests below → GrowsOn nested below)
    (hid : ctx.id < t.nodes.length) :
    Keeps host nested ctx row fun _ j => Grown ctx.id t j.tree := by
  intro c hc done d hd p o p' hgrown hdispatch
  have hstep := dispatch_grown (hnested c hc d.index)
    (hc.id ▸ Nat.lt_of_lt_of_le hid hgrown.length_le) hdispatch
  rw [hc.id] at hstep
  exact hgrown.trans hstep

theorem growsOn_evaluator (host : Host) (ops : List Operation) : GrowsOn (evaluator host) ops := by
  intro ctx j v hops hid h
  subst hops
  simp only [evaluator] at h ⊢
  rcases process_cases host ctx j with ⟨e, -, hprocess⟩ | ⟨c, hc, hprocess⟩
  · rw [hprocess] at h
    cases h
  · have hid' : c.id = ctx.id := (prepare_eq_ok hc).2.1
    have hkeeps : Keeps host (evaluator host) c c.phases.flatten fun _ j' =>
        Grown c.id j.tree j'.tree := by
      refine keeps_grown (fun c' hc' i below hbelow => ?_) (hid' ▸ hid)
      -- What some state of the context nests was nested in its list, and so less deeply.
      obtain ⟨op, hop, hnests⟩ := exists_nests hc hc' hbelow
      have hlt := hnests.maxNesting_lt hop
      exact growsOn_evaluator host below
    rw [hprocess] at h ⊢
    obtain ⟨-, j', hgrown, hj'⟩ := runPhases_ok h hkeeps (.refl _ _)
    rw [hj', hid'] at *
    exact hgrown.recordOut hid v
termination_by Operation.maxNesting ops

/-- An evaluation that succeeds fills the node of its context, and lets the tree grow below it. -/
theorem process_grown {j : Journal} {v : Json} (hid : ctx.id < j.tree.nodes.length)
    (h : (ctx.process host j).1 = .ok v) :
    Grown ctx.id (j.tree.recordOut ctx.id v) (ctx.process host j).2.2.tree :=
  growsOn_evaluator host ctx.operations ctx j v rfl hid h

end Context

end Folio
