import Mathlib.Data.List.Basic
import Folio.Proofs.Direct
import Folio.Proofs.Growth

/-!
# Where an evaluation has failed

A failure ends the context that has produced it, then the context that was evaluating this one, and
so on up to the root. None of them has an output; every other context has been done with before, as
only one list is evaluated at a time. So what is open in the tree tells the way that the failure has
come.

* `Context.FailsAlong`: the way of a failure, from the context that is evaluated down to the one
  that has produced it;
* `ContextTree.LeftOpen`: the open nodes of a tree are such a way;
* `Context.process_error_open`: an evaluation that fails leaves just this way open.
-/

namespace Folio

namespace ContextTree

/-- The nodes without an output, in the order of their indices. -/
def openNodes (t : ContextTree) : List Nat := t.nodes.findIdxs fun n => n.out.isNone

/-- The indices lead down the tree: each node is a child of the one before it. -/
def IsPath (t : ContextTree) (path : List Nat) : Prop :=
  path.IsChain fun a b => (t.node? b).bind ContextNode.parent = some a

/-- Nodes have been added to a tree, and those among them that are open lead down from a context. -/
def LeftOpen (id : Nat) (t t' : ContextTree) (path : List Nat) : Prop :=
  ∃ new, t'.nodes = t.nodes ++ new ∧
    new.findIdxs (fun n => n.out.isNone) t.nodes.length = path ∧ t'.IsPath (id :: path)

variable {id : Nat} {t t' t'' : ContextTree} {path : List Nat}

theorem findIdxs_of_finished {new : List ContextNode} (h : ∀ n ∈ new, n.Finished id) (s : Nat) :
    new.findIdxs (fun n => n.out.isNone) s = [] := by
  refine List.findIdxs_eq_nil_iff.2 fun n hn => ?_
  rw [Option.isNone_eq_false_iff]
  exact (h n hn).out

/-- Where nothing has failed below a context, no node below it is open. -/
theorem Grown.leftOpen (h : Grown id t t') : LeftOpen id t t' [] := by
  obtain ⟨new, hnew, hfinished⟩ := h
  exact ⟨new, hnew, findIdxs_of_finished hfinished _, .singleton _⟩

/-- The way down from a child is one from its parent, once the child is put in front. -/
theorem LeftOpen.ofChild {name : String} (hgrown : Grown id t t')
    (h : LeftOpen t'.nodes.length (t'.pushChild id name).2 t'' path) :
    LeftOpen id t t'' (t'.nodes.length :: path) := by
  obtain ⟨new, hnew, hfinished⟩ := hgrown
  obtain ⟨new', hnew', hopen, hpath⟩ := h
  have hchild : t''.nodes = t'.nodes ++
      { depth := t'.childDepth id, parent := some id, name } :: new' := by
    rw [hnew', pushChild, List.append_assoc, List.singleton_append]
  refine ⟨_, by rw [hchild, hnew, List.append_assoc], ?_, ?_⟩
  · rw [length_pushChild] at hopen
    rw [List.findIdxs_append, findIdxs_of_finished hfinished, List.nil_append, List.findIdxs_cons,
      ← List.length_append, ← hnew, hopen]
    rfl
  · refine List.isChain_cons_cons.2 ⟨?_, hpath⟩
    rw [node?, hchild, List.getElem?_append_right (Nat.le_refl _), Nat.sub_self]
    rfl

end ContextTree

namespace Context

open ContextTree

/-- The way of a failure through contexts, by their indices, from the one that is evaluated down:
    the last of them has produced it, and each other one was evaluating the next. -/
inductive FailsAlong (host : Host) (f : Failure) : Context → Journal → List Nat → Prop
  /-- The list of the context is refused. -/
  | refused {ctx : Context} {j : Journal} {e : EngineError} (hprepare : ctx.prepare = .error e)
      (hf : f = .ofEngine e) : FailsAlong host f ctx j [ctx.id]
  /-- An action of the context fails by itself: it does so whatever nested lists evaluate to. -/
  | action {ctx ctx₀ c : Context} {j : Journal} {d : Queued} {p : Progress}
      (hprepare : ctx.prepare = .ok ctx₀)
      (hreaches : Reaches host (evaluator host) ctx₀.phases ctx₀ j c d p)
      (hfails : ∀ nested, (c.dispatch host nested d p).1 = .error f) :
      FailsAlong host f ctx j [ctx.id]
  /-- An action of the context evaluates a nested list, and this fails. -/
  | nested {ctx ctx₀ c : Context} {j : Journal} {d : Queued} {p : Progress}
      {below : List Operation} {path : List Nat} (hprepare : ctx.prepare = .ok ctx₀)
      (hreaches : Reaches host (evaluator host) ctx₀.phases ctx₀ j c d p)
      (hdirective : d.directive = .secondary .nested) (hbelow : (c.operation d.index).Nests below)
      (hfails : FailsAlong host f (c.nestedContext p.journal below) (c.nestedJournal p.journal)
        path) :
      FailsAlong host f ctx j (ctx.id :: path)

/-- An evaluation that fails leaves the way open that the failure has come. The induction is on how
    deeply lists are nested, as the failure may come from a nested one. -/
theorem process_leftOpen (host : Host) (ctx : Context) {j : Journal} {f : Failure}
    (hid : ctx.id < j.tree.nodes.length) (h : (ctx.process host j).1 = .error f) :
    ∃ path, FailsAlong host f ctx j (ctx.id :: path) ∧
      LeftOpen ctx.id j.tree (ctx.process host j).2.2.tree path := by
  rcases process_cases host ctx j with ⟨e, he, hprocess⟩ | ⟨ctx₀, hprepare, hprocess⟩
  · rw [hprocess] at h ⊢
    cases h
    exact ⟨[], .refused he rfl, (Grown.refl _ _).leftOpen⟩
  · rw [hprocess] at h ⊢
    obtain ⟨c, d, p, hreaches, hd, hj⟩ := runPhases_error h
    have hid₀ : ctx₀.id = ctx.id := (prepare_eq_ok hprepare).2.1
    -- Up to the action that fails, all has gone well.
    have hkeeps : Keeps host (evaluator host) ctx₀ ctx₀.phases.flatten fun _ j' =>
        Grown ctx₀.id j.tree j'.tree :=
      keeps_grown (fun _ _ _ below _ => growsOn_evaluator host below) (hid₀ ▸ hid)
    obtain ⟨hc, -, -, -, hgrown⟩ := hreaches.invariant hkeeps (.refl _ _)
    rw [hid₀] at hgrown
    have hidc : c.id = ctx.id := hc.id.trans hid₀
    rw [hj]
    rcases dispatch_cases host c d p with ⟨below, hdirective, hbelow, hdispatch⟩ | halone
    · rw [hdispatch] at hd ⊢
      have hfails := Result.map_eq_error.1 hd
      obtain ⟨op, hop, hnests⟩ := exists_nests hprepare hc hbelow
      have hlt := hnests.maxNesting_lt hop
      obtain ⟨path, hpath, hopen⟩ := process_leftOpen host (c.nestedContext p.journal below)
        (id_nestedContext_lt c p.journal below) hfails
      refine ⟨_, .nested hprepare hreaches hdirective hbelow hpath, ?_⟩
      rw [← hidc] at hgrown ⊢
      exact .ofChild hgrown hopen
    · obtain ⟨-, htree⟩ := halone (evaluator host) (evaluator host)
      rw [htree]
      refine ⟨[], .action hprepare hreaches fun nested => ?_, hgrown.leftOpen⟩
      rw [(halone nested (evaluator host)).1, hd]
termination_by Operation.maxNesting ctx.operations

/-- An evaluation that fails leaves one path open in the tree: it starts at the root, each next node
    is a child of the one before, and the last is the context that has produced the failure. All
    other nodes have an output. -/
theorem process_error_open {host : Host} {name : String} {seed : Json} {ops : List Operation}
    {reads : List Path} {calls : List String} {f : Failure}
    (h : ((root name seed ops).process host ⟨.root name, reads, calls⟩).1 = .error f) :
    let tree := ((root name seed ops).process host ⟨.root name, reads, calls⟩).2.2.tree
    FailsAlong host f (root name seed ops) ⟨.root name, reads, calls⟩ tree.openNodes ∧
      tree.openNodes.head? = some 0 ∧ tree.IsPath tree.openNodes := by
  intro tree
  have hid : (root name seed ops).id < (ContextTree.root name).nodes.length := Nat.zero_lt_one
  obtain ⟨path, hfails, new, hnew, hopen, hpath⟩ :=
    process_leftOpen host (root name seed ops) hid h
  have hroot : tree.openNodes = 0 :: path := by
    rw [openNodes, hnew, List.findIdxs_append, Nat.zero_add, hopen]
    rfl
  rw [hroot]
  exact ⟨hfails, rfl, hpath⟩

/-- The second of two nested lists fails. The first one is done with, so that only the root and the
    second one are open. -/
theorem process_error_open_nested :
    let ops : List Operation :=
      [{ directives := [("with", .obj [("raw", .str "a")])] },
        { directives := [("with", .obj [("md", .null)])] }]
    let f : Failure := .ofEngine (.missingInput "md")
    ((root "page" .null ops).process .bare ⟨.root "page", [], []⟩).1 = .error f ∧
      FailsAlong .bare f (root "page" .null ops) ⟨.root "page", [], []⟩ [0, 2] := by
  intro ops f
  have hfails : ((root "page" .null ops).process .bare ⟨.root "page", [], []⟩).1 = .error f := by
    decide +kernel
  have hopen : ((root "page" .null ops).process .bare
      ⟨.root "page", [], []⟩).2.2.tree.openNodes = [0, 2] := by
    decide +kernel
  obtain ⟨hpath, -⟩ := process_error_open hfails
  rw [hopen] at hpath
  exact ⟨hfails, hpath⟩

end Context

end Folio
