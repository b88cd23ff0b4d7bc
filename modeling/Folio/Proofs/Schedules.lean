import Mathlib.Data.List.Nodup
import Mathlib.Data.List.Perm.Basic
import Folio.Proofs.Lifetime
import Folio.Proofs.Twins

/-!
# Schedules of a phase

The actions of a phase are meant to run at the same time, so nothing may depend on the order in
which they are taken. It does not. An action sees the context as it was before the phase, and of
what other actions of the phase have left it observes nothing but its own mark, which none of them
sets: no operation stands twice on the queue of primary directives. So what an action does is the
same in every schedule (`Context.Does`): its outcome, what it starts and, but for indices, what it
adds to the tree. And outcomes may be written in any order, as two of them that are meant for one
field are equal.

* `Context.runPhase_of_does`: a queue does what its actions do, in whatever order they stand;
* `Context.applyOne_comm`: outcomes for different fields may be written in either order;
* `Context.Enters`: an evaluation comes to one of its phases;
* `Context.runPhase_perm`: no schedule of a phase can change its result.
-/

namespace Folio

open Result

/-! ## What can be seen of a node -/

/-- What a node shows: its depth, its name and its output. -/
abbrev ContextNode.Look := Nat × String × Option Json

/-- A node apart from its place among the others. -/
def ContextNode.look (n : ContextNode) : Look := (n.depth, n.name, n.out)

/-- A forest looks the same wherever its nodes have got their indices. -/
theorem Forest.map_look_nodes (f : Forest) (name : String) (depth parent next parent' next' : Nat) :
    (f.nodes name depth parent next).map ContextNode.look =
      (f.nodes name depth parent' next').map ContextNode.look := by
  induction f generalizing depth parent next parent' next' with
  | empty => rfl
  | tree out below rest ihbelow ihrest =>
    simp only [nodes, List.map_append, List.map_cons]
    rw [ihbelow (depth + 1) next (next + 1) next' (next' + 1), ihrest depth parent _ parent' _]
    rfl

/-- A journal whose tree has got some nodes more at its end. -/
def Journal.Adds (looks : List ContextNode.Look) (j j' : Journal) : Prop :=
  ∃ new, j'.tree.nodes = j.tree.nodes ++ new ∧ new.map ContextNode.look = looks

namespace Journal

variable {looks looks' : List ContextNode.Look} {j j' j'' : Journal} {id : Nat}

theorem Adds.refl (j : Journal) : Adds [] j j := ⟨[], (List.append_nil _).symm, rfl⟩

theorem Adds.trans (h : Adds looks j j') (h' : Adds looks' j' j'') :
    Adds (looks ++ looks') j j'' := by
  obtain ⟨new, hnew, rfl⟩ := h
  obtain ⟨new', hnew', rfl⟩ := h'
  exact ⟨new ++ new', by rw [hnew', hnew, List.append_assoc], List.map_append⟩

theorem Adds.lt (h : Adds looks j j') (hid : id < j.tree.nodes.length) :
    id < j'.tree.nodes.length := by
  obtain ⟨new, hnew, -⟩ := h
  rw [hnew, List.length_append]
  exact Nat.lt_add_right _ hid

/-- A node that has been there before has children as deep as before. -/
theorem Adds.childDepth (h : Adds looks j j') (hid : id < j.tree.nodes.length) :
    j'.tree.childDepth id = j.tree.childDepth id := by
  obtain ⟨new, hnew, -⟩ := h
  rw [ContextTree.childDepth, ContextTree.node?, hnew, List.getElem?_append_left hid]
  rfl

theorem adds_extend (j : Journal) (id : Nat) (name : String) (y : Yield) :
    j.Adds ((y.forest.nodes name (j.tree.childDepth id) 0 0).map ContextNode.look)
      (j.extend id name y) :=
  ⟨_, rfl, y.forest.map_look_nodes name _ _ _ _ _⟩

theorem Adds.unique (h : Adds looks j j') (h' : Adds looks' j j') : looks = looks' := by
  obtain ⟨new, hnew, rfl⟩ := h
  obtain ⟨new', hnew', rfl⟩ := h'
  rw [List.append_cancel_left (hnew.symm.trans hnew')]

theorem Adds.map_look (h : Adds looks j j') :
    j'.tree.nodes.map ContextNode.look = j.tree.nodes.map ContextNode.look ++ looks := by
  obtain ⟨new, hnew, rfl⟩ := h
  rw [hnew, List.map_append]

end Journal

/-- Outcomes of contexts with the same input are the same. -/
theorem Outcome.Alike.eq {o o' : Outcome} (h : Outcome.Alike True o o') : o' = o := by
  cases h with
  | same => rfl
  | input h => rw [h trivial]

namespace Context

variable {host : Host} {ctx c c₁ : Context} {d d' : Queued} {o o' : Outcome} {p p' : Progress}
  {q q' : List Queued} {depth : Nat}

/-! ## What an action does -/

/-- Of all the marks an action observes at most its own. -/
theorem dispatch_marks (host : Host) (nested : Evaluator) (c : Context)
    (hjournal : p'.journal = p.journal)
    (h : d.directive.primary?.isSome → p'.marks.isMarked d.index = p.marks.isMarked d.index) :
    (c.dispatch host nested d p').1 = (c.dispatch host nested d p).1 ∧
      (c.dispatch host nested d p').2.journal = (c.dispatch host nested d p).2.journal := by
  obtain ⟨m, j⟩ := p
  obtain ⟨m', j'⟩ := p'
  obtain ⟨i, d⟩ := d
  obtain rfl : j' = j := hjournal
  cases d with
  | input => exact ⟨rfl, rfl⟩
  | secondary s => cases s <;> exact ⟨rfl, rfl⟩
  | output =>
    simp only [dispatch]
    split <;> exact ⟨rfl, rfl⟩
  | primary directive =>
    simp only [dispatch, startPrimary, h rfl]
    by_cases hstarted : (c.operation i).executed || m.isMarked i
    · simp only [if_pos hstarted, and_self]
    · simp only [if_neg hstarted, and_self]

theorem unmarked_of_dispatch {nested : Evaluator} (h : (c.dispatch host nested d p).1 = .ok o)
    (hprimary : d.directive.primary?.isSome) : p.marks.isMarked d.index = false := by
  obtain ⟨i, d⟩ := d
  cases d with
  | primary directive =>
    simp only [dispatch, startPrimary] at h
    split at h
    · cases h
    · rename_i hstart
      split at hstart
      · cases hstart
      · grind
  | input | output | secondary s => cases hprimary

/-- An action has some outcome and adds nodes of some looks, whatever has been started, read and
    nested before, if only it has not been started itself. -/
def Does (host : Host) (c : Context) (depth : Nat) (d : Queued)
    (a : Outcome × List ContextNode.Look) : Prop :=
  ∀ p : Progress, p.journal.tree.childDepth c.id = depth →
    (∀ w ∈ starting [d], p.marks.isMarked w.index = false) →
    ∃ j, c.dispatch host (evaluator host) d p = (.ok a.1, ⟨p.marks.start (starting [d]), j⟩) ∧
      p.journal.Adds a.2 j

/-- What an action has done once it would have done at any other time. -/
theorem does_of_dispatch (h : c.dispatch host (evaluator host) d p = (.ok o, p')) :
    ∃ looks, p.journal.Adds looks p'.journal ∧
      c.Does host (p.journal.tree.childDepth c.id) d (o, looks) := by
  have htwin (p₁ : Progress) (hmarks : p₁.marks = p.marks) :=
    @dispatch_twin host (evaluator host) True True c c (.refl True True c) d (.inl trivial)
      (.inl ⟨trivial, trivial⟩)
      (fun below _ => parallelOn_evaluator host below (.inl trivial) (.inl ⟨trivial, trivial⟩))
      p p₁ hmarks
  obtain ⟨-, -, y, hy, -⟩ := htwin p rfl
  rw [h] at hy
  have hadds := p.journal.adds_extend c.id c.name y
  rw [← hy] at hadds
  refine ⟨_, hadds, fun p₁ hdepth hunmarked => ?_⟩
  have hmark (hprimary : d.directive.primary?.isSome) :
      p₁.marks.isMarked d.index = p.marks.isMarked d.index := by
    rw [unmarked_of_dispatch (congrArg Prod.fst h) hprimary]
    exact hunmarked d (List.mem_filter.2 ⟨List.mem_singleton_self d, hprimary⟩)
  -- The action is taken with the marks of the first time, and then with those that there are.
  obtain ⟨hresult, -, y₁, hy₁, hadded⟩ := htwin { p₁ with marks := p.marks } rfl
  have hjournal : p₁.journal = ({ p₁ with marks := p.marks } : Progress).journal := rfl
  obtain ⟨hr, hj⟩ := dispatch_marks host (evaluator host) c hjournal hmark
  obtain ⟨n, hmarks, hall⟩ := marks_dispatch host (evaluator host) c d p₁
  rcases hrun : c.dispatch host (evaluator host) d p₁ with ⟨r, p₂⟩
  rw [hrun] at hr hj hmarks hall
  rw [h, ← hr] at hresult
  rw [h] at hy₁
  rw [← hj] at hadded
  cases hresult with
  | ok ho =>
    obtain rfl := ho.eq
    rw [List.take_of_length_le (hall _ rfl)] at hmarks
    refine ⟨p₂.journal, by rw [← hmarks], ?_⟩
    have hadds₁ := p₁.journal.adds_extend c.id c.name y₁
    have hsame := p.journal.adds_extend c.id c.name y₁
    rw [hdepth, ← hadded] at hadds₁
    rw [← hy₁] at hsame
    rwa [hadds.unique hsame]

/-! ## What a queue does -/

/-- All actions of a queue have succeeded: each of them does something. -/
theorem does_of_runPhase {os : List Outcome} (hid : c.id < p.journal.tree.nodes.length)
    (h : c.runPhase host (evaluator host) q p = (.ok os, p')) :
    ∃ as, List.Forall₂ (c.Does host (p.journal.tree.childDepth c.id)) q as ∧
      os = as.map Prod.fst ∧ ∀ d ∈ starting q, p.marks.isMarked d.index = false := by
  induction q generalizing p os with
  | nil =>
    cases h
    exact ⟨[], .nil, rfl, List.forall_mem_nil _⟩
  | cons d q ih =>
    rw [runPhase_cons] at h
    obtain ⟨o, p₁, hd, h⟩ := andThen_eq.1 h
    obtain ⟨os, p₂, hq, h⟩ := andThen_eq.1 h
    cases h
    obtain ⟨looks, hadds, hdoes⟩ := does_of_dispatch hd
    obtain ⟨as, has, rfl, hunmarked⟩ := ih (hadds.lt hid) hq
    rw [hadds.childDepth hid] at has
    refine ⟨(o, looks) :: as, .cons hdoes has, rfl, ?_⟩
    rw [starting_cons, List.forall_mem_append]
    refine ⟨fun w hw => ?_, fun w hw => ?_⟩
    · obtain ⟨hw, hprimary⟩ := List.mem_filter.1 hw
      obtain rfl := List.mem_singleton.1 hw
      exact unmarked_of_dispatch (congrArg Prod.fst hd) hprimary
    · -- Marks are only ever added.
      obtain ⟨n, hmarks, -⟩ := marks_dispatch host (evaluator host) c d p
      have hlater := hunmarked w hw
      rw [hd] at hmarks
      rw [hmarks, Bool.eq_false_iff, ne_eq, isMarked_start, not_or] at hlater
      exact Bool.eq_false_iff.2 hlater.1

/-- A queue does what its actions do, whatever the order in which they stand. -/
theorem runPhase_of_does {as : List (Outcome × List ContextNode.Look)}
    (h : List.Forall₂ (c.Does host depth) q as) (hid : c.id < p.journal.tree.nodes.length)
    (hdepth : p.journal.tree.childDepth c.id = depth)
    (hunmarked : ∀ d ∈ starting q, p.marks.isMarked d.index = false)
    (hnodup : ((starting q).map Queued.index).Nodup) :
    ∃ j, c.runPhase host (evaluator host) q p =
        (.ok (as.map Prod.fst), ⟨p.marks.start (starting q), j⟩) ∧
      p.journal.Adds (as.flatMap Prod.snd) j := by
  induction h generalizing p with
  | nil => exact ⟨p.journal, rfl, .refl _⟩
  | @cons d a q as hd has ih =>
    rw [starting_cons, List.forall_mem_append] at hunmarked
    rw [starting_cons, List.map_append, List.nodup_append] at hnodup
    obtain ⟨j₁, hdispatch, hadds⟩ := hd p hdepth hunmarked.1
    -- The first action marks its own operation, which no other action starts.
    have hlater (w : Queued) (hw : w ∈ starting q) :
        (p.marks.start (starting [d])).isMarked w.index = false := by
      rw [Bool.eq_false_iff, ne_eq, isMarked_start, not_or]
      refine ⟨Bool.eq_false_iff.1 (hunmarked.2 w hw), ?_⟩
      rintro ⟨w', hw', hindex⟩
      exact hnodup.2.2 _ (List.mem_map_of_mem hw') _ (List.mem_map_of_mem hw) hindex
    obtain ⟨j, hrun, hadds'⟩ := @ih ⟨p.marks.start (starting [d]), j₁⟩ (hadds.lt hid)
      ((hadds.childDepth hid).trans hdepth) hlater hnodup.2.1
    refine ⟨j, ?_, hadds.trans hadds'⟩
    rw [runPhase_cons, hdispatch, andThen_ok, hrun, andThen_ok, Marks.start_start, ← starting_cons]
    rfl

/-! ## What is written -/

theorem modify_comm {α : Type} {f g : α → α} {i k : Nat} (h : i = k → ∀ a, g (f a) = f (g a))
    (l : List α) : (l.modify i f).modify k g = (l.modify k g).modify i f := by
  refine List.ext_getElem? fun n => ?_
  simp only [List.getElem?_modify]
  cases l[n]? with
  | none => rfl
  | some a => grind

/-- Outcomes that are meant for different fields may be written in either order. -/
theorem applyOne_comm (h : o.field ≠ o'.field) (c : Context) :
    (c.applyOne o).applyOne o' = (c.applyOne o').applyOne o := by
  have hoperations {f g : Operation → Operation} {i k : Nat}
      (hfg : i = k → ∀ op, g (f op) = f (g op)) :
      ({ c with operations := (c.operations.modify i f).modify k g } : Context) =
        { c with operations := (c.operations.modify k g).modify i f } := by
    rw [modify_comm hfg]
  cases o with
  | input v | output v =>
    cases o' <;> first
      | rfl
      | exact absurd rfl h
  | nested i v | key i v | data i v =>
    -- Different fields may well be fields of one operation.
    cases o' <;> first
      | rfl
      | exact hoperations fun _ _ => rfl
      | exact hoperations fun hi => absurd (by rw [hi]; rfl) h

theorem apply_of_perm {os os' : List Outcome} (hperm : os'.Perm os)
    (hfields : ∀ o ∈ os, ∀ o' ∈ os, o.field = o'.field → o = o') (c : Context) :
    c.apply os' = c.apply os := by
  refine (hperm.symm.foldl_eq' (fun o ho o' ho' c => ?_) c).symm
  by_cases hfield : o.field = o'.field
  · rw [hfields o ho o' ho' hfield]
  · exact applyOne_comm hfield c

/-! ## Queues whose order does not matter -/

/-- A queue whose order does not matter: no operation is to be started twice, and there is no
    output, of which the last counts. -/
structure Unordered (q : List Queued) : Prop where
  single : ((starting q).map Queued.index).Nodup
  noOutput : ∀ d ∈ q, d.directive ≠ .output

/-- Two of its actions that compute one field are one, or both take the input. -/
theorem Unordered.eq_or_input (h : Unordered q) (hd : d ∈ q) (hd' : d' ∈ q)
    (hfield : d.field = d'.field) : d = d' ∨ d.directive = .input ∧ d'.directive = .input := by
  obtain ⟨i, d⟩ := d
  obtain ⟨k, d'⟩ := d'
  cases d with
  | output => exact absurd rfl (h.noOutput _ hd)
  | input =>
    cases d' with
    | input => exact .inr ⟨rfl, rfl⟩
    | secondary s => cases s <;> cases hfield
    | primary p | output => cases hfield
  | secondary s =>
    cases d' with
    | secondary s' => cases s <;> cases s' <;> cases hfield <;> exact .inl rfl
    | input | primary p | output => cases s <;> cases hfield
  | primary p =>
    cases d' with
    | primary p' =>
      -- The field does not tell which directive computes it, but there is only one.
      cases hfield
      exact .inl (List.inj_on_of_nodup_map h.single (List.mem_filter.2 ⟨hd, rfl⟩)
        (List.mem_filter.2 ⟨hd', rfl⟩) rfl)
    | secondary s => cases s <;> cases hfield
    | input | output => cases hfield

theorem Unordered.perm (h : Unordered q) (hperm : q'.Perm q) : Unordered q' where
  single := ((hperm.filter _).map _).nodup_iff.2 h.single
  noOutput d hd := h.noOutput d (hperm.subset hd)

/-- What its actions compute for one field is the same. -/
theorem Unordered.eq_of_field {as : List (Outcome × List ContextNode.Look)}
    (h : Unordered q) (has : List.Forall₂ (c.Does host depth) q as)
    (hdepth : p.journal.tree.childDepth c.id = depth) :
    ∀ o ∈ as.map Prod.fst, ∀ o' ∈ as.map Prod.fst, o.field = o'.field → o = o' := by
  -- Whatever is done at all would also be done at first.
  have hfirst (a : Outcome × List ContextNode.Look) (ha : a ∈ as) :
      ∃ d ∈ q, (c.dispatch host (evaluator host) d ⟨{}, p.journal⟩).1 = .ok a.1 := by
    obtain ⟨i, hi⟩ := List.mem_iff_getElem?.1 ha
    obtain ⟨d, hd, hdoes⟩ := forall₂_getElem? has.flip hi
    obtain ⟨j, hj, -⟩ := hdoes ⟨{}, p.journal⟩ hdepth fun _ _ => rfl
    exact ⟨d, List.mem_of_getElem? hd, congrArg Prod.fst hj⟩
  simp only [List.forall_mem_map]
  intro a ha a' ha' hfield
  obtain ⟨d, hd, hrun⟩ := hfirst a ha
  obtain ⟨d', hd', hrun'⟩ := hfirst a' ha'
  rw [field_of_dispatch hrun, field_of_dispatch hrun'] at hfield
  rcases h.eq_or_input hd hd' hfield with rfl | ⟨hinput, hinput'⟩
  · exact Except.ok.inj (hrun.symm.trans hrun')
  · rw [dispatch, hinput] at hrun
    rw [dispatch, hinput'] at hrun'
    exact Except.ok.inj (hrun.symm.trans hrun')

/-- A queue may be run in any order. -/
theorem Unordered.runPhase_of_perm (h : Unordered q) (hperm : q'.Perm q)
    (hid : c.id < p.journal.tree.nodes.length) {os : List Outcome}
    (hrun : c.runPhase host (evaluator host) q p = (.ok os, p')) :
    ∃ os' p'', c.runPhase host (evaluator host) q' p = (.ok os', p'') ∧ c.apply os' = c.apply os ∧
      (∀ i, p''.marks.isMarked i = p'.marks.isMarked i) ∧
      (p''.journal.tree.nodes.map ContextNode.look).Perm
        (p'.journal.tree.nodes.map ContextNode.look) := by
  obtain ⟨as, has, rfl, hunmarked⟩ := does_of_runPhase hid hrun
  obtain ⟨as', has', hperm'⟩ := List.perm_comp_forall₂ hperm has
  have hstarting : (starting q').Perm (starting q) := hperm.filter _
  obtain ⟨j, hj, hadds⟩ := runPhase_of_does has hid rfl hunmarked h.single
  obtain ⟨j', hj', hadds'⟩ := runPhase_of_does has' hid rfl
    (fun d hd => hunmarked d (hstarting.subset hd)) (h.perm hperm).single
  obtain rfl := congrArg Prod.snd (hrun.symm.trans hj)
  refine ⟨_, _, hj', apply_of_perm (hperm'.map _) (h.eq_of_field has rfl) c, fun i => ?_, ?_⟩
  · rw [Bool.eq_iff_iff, isMarked_start, isMarked_start]
    simp only [hstarting.mem_iff]
  · rw [hadds.map_look, hadds'.map_look]
    exact (hperm'.flatMap fun _ _ => .refl _).append_left _

/-! ## Phases of an evaluation -/

/-- The input, the secondary and the primary queue of a ready context may be run in any order. -/
theorem Ready.unordered (h : c.Ready)
    (hq : q ∈ [c.queues.input, c.queues.secondary, c.queues.primary]) : Unordered q := by
  obtain ⟨hkeyed, hqueues⟩ := Queues.classify_eq_ok.1 h.queues
  have hphases : q ∈ c.phases := List.mem_append_left [c.queues.output] hq
  constructor
  · rcases h.primary_or_of_phases hphases with rfl | hnone
    · have hincreasing : (c.queues.primary.map Queued.index).Pairwise (· < ·) := by
        rw [hqueues]
        refine Queued.pairwise_index_listing (fun op hop => ?_) 0
        rw [List.length_map]
        exact (hkeyed op hop).single
      exact (hincreasing.imp Nat.ne_of_lt).sublist (List.filter_sublist.map _)
    · have hstarting : starting q = [] := List.filter_eq_nil_iff.2 fun d hd => by
        rw [hnone d hd]
        decide
      rw [hstarting]
      exact List.nodup_nil
  · intro d hd houtput
    rw [hqueues, Queues.ofOperations_eq_filter] at hq
    simp only [List.mem_cons, List.not_mem_nil, or_false] at hq
    rcases hq with rfl | rfl | rfl <;>
    · have hclass := (List.mem_filter.1 hd).2
      rw [houtput] at hclass
      cases hclass

/-- An evaluation comes to a queue: those before it have succeeded and are written back. -/
inductive Enters (host : Host) :
    List (List Queued) → Context → Journal → Context → List Queued → Journal → Prop
  /-- The queue is the first one. -/
  | here {q : List Queued} {qs : List (List Queued)} {c : Context} {j : Journal} :
      Enters host (q :: qs) c j c q j
  /-- The first queue has been run, and what it has computed is written back. -/
  | later {q q' : List Queued} {qs : List (List Queued)} {c c' : Context} {j j' : Journal}
      {os : List Outcome} {p : Progress}
      (hq : c.runPhase host (evaluator host) q ⟨c.marks, j⟩ = (.ok os, p))
      (hqs : Enters host qs ({ c with marks := p.marks }.apply os) p.journal c' q' j') :
      Enters host (q :: qs) c j c' q' j'

theorem Enters.mem {qs : List (List Queued)} {j j₁ : Journal} (h : Enters host qs c j c₁ q j₁) :
    q ∈ qs := by
  induction h with
  | here => exact List.mem_cons_self
  | later _ _ ih => exact List.mem_cons_of_mem _ ih

/-- A context has a node in the tree when it comes to its next queue, if it had one before. -/
theorem Enters.id_lt {qs : List (List Queued)} {j j₁ : Journal} (h : Enters host qs c j c₁ q j₁)
    (hid : c.id < j.tree.nodes.length) : c₁.id < j₁.tree.nodes.length := by
  induction h with
  | here => exact hid
  | @later q _ qs c _ j _ os p hq _ ih =>
    have hnested (i : Nat) (below : List Operation) (_ : (c.operation i).Nests below) :
        ParallelOn True True (evaluator host) below :=
      parallelOn_evaluator host below (.inl trivial) (.inl ⟨trivial, trivial⟩)
    obtain ⟨-, -, y, hy, -⟩ := runPhase_twin (p := ⟨c.marks, j⟩) (.refl True True c) (.inl trivial)
      (.inl ⟨trivial, trivial⟩) hnested (q := q) rfl hid hid
    rw [hq] at hy
    refine ih ?_
    rw [(continues_phase c p.marks os).id, show p.journal = _ from hy]
    exact Nat.lt_of_lt_of_le hid (j.length_le_extend c.id c.name y)

/-- No schedule of a phase can change its result. When an evaluation comes to its input, its
    secondary or its primary phase, the actions of that phase may be run in any order: they succeed
    in one exactly if they do in the other, and then what they compute leaves the same context, the
    same operations are marked, and the trees have as many nodes and, but for the indices, the
    same. -/
theorem runPhase_perm {j j₁ : Journal} (hprepare : ctx.prepare = .ok c)
    (hid : ctx.id < j.tree.nodes.length)
    (henters : Enters host [c.queues.input, c.queues.secondary, c.queues.primary] c j c₁ q j₁)
    (hperm : q'.Perm q) :
    let run (q : List Queued) := c₁.runPhase host (evaluator host) q ⟨c₁.marks, j₁⟩
    ((∃ os, (run q).1 = .ok os) ↔ ∃ os, (run q').1 = .ok os) ∧
      ∀ os os', (run q).1 = .ok os → (run q').1 = .ok os' →
        c₁.apply os' = c₁.apply os ∧
        (∀ i, (run q').2.marks.isMarked i = (run q).2.marks.isMarked i) ∧
        (run q').2.journal.tree.nodes.length = (run q).2.journal.tree.nodes.length ∧
        ((run q').2.journal.tree.nodes.map ContextNode.look).Perm
          ((run q).2.journal.tree.nodes.map ContextNode.look) := by
  intro run
  have hready := ready_of_prepare hprepare
  have hunordered : Unordered q := hready.unordered henters.mem
  have hid₁ : c₁.id < j₁.tree.nodes.length := by
    refine henters.id_lt ?_
    rwa [(prepare_eq_ok hprepare).2.1]
  refine ⟨⟨?_, ?_⟩, fun os os' hos hos' => ?_⟩
  · rintro ⟨os, hos⟩
    obtain ⟨os', p', hrun, -⟩ :=
      hunordered.runPhase_of_perm hperm hid₁ (Prod.ext hos rfl : run q = (.ok os, (run q).2))
    exact ⟨os', congrArg Prod.fst hrun⟩
  · rintro ⟨os', hos'⟩
    obtain ⟨os, p', hrun, -⟩ := (hunordered.perm hperm).runPhase_of_perm hperm.symm hid₁
      (Prod.ext hos' rfl : run q' = (.ok os', (run q').2))
    exact ⟨os, congrArg Prod.fst hrun⟩
  · obtain ⟨os'', p', hrun, happly, hmarks, hnodes⟩ :=
      hunordered.runPhase_of_perm hperm hid₁ (Prod.ext hos rfl : run q = (.ok os, (run q).2))
    change run q' = _ at hrun
    rw [hrun] at hos' ⊢
    cases hos'
    exact ⟨happly, hmarks, by simpa using hnodes.length_eq, hnodes⟩

/-- Two nested lists, evaluated in either order: the trees differ in the order of their nodes
    alone. -/
theorem runPhase_perm_nested :
    let page (text : String) : Operation := { directives := [("with", .obj [("raw", .str text)])] }
    let ctx := root "page" .null [page "a", page "b"]
    let j : Journal := ⟨.root "page", [], []⟩
    let c₁ : Context := { ctx.prepared with input := some .null }
    let q := ctx.prepared.queues.secondary
    let run (q : List Queued) := c₁.runPhase .bare (evaluator .bare) q ⟨{}, j⟩
    (ctx.prepare = .ok ctx.prepared ∧ ctx.id < j.tree.nodes.length) ∧
      (∃ os os', (run q).1 = .ok os ∧ (run q.reverse).1 = .ok os' ∧ c₁.apply os' = c₁.apply os) ∧
      (run q.reverse).2.journal.tree ≠ (run q).2.journal.tree ∧
      ((run q.reverse).2.journal.tree.nodes.map ContextNode.look).Perm
        ((run q).2.journal.tree.nodes.map ContextNode.look) := by
  intro page ctx j c₁ q run
  have hprepare : ctx.prepare = .ok ctx.prepared := rfl
  have hid : ctx.id < j.tree.nodes.length := Nat.one_pos
  have henters : Enters .bare [ctx.prepared.queues.input, ctx.prepared.queues.secondary,
      ctx.prepared.queues.primary] ctx.prepared j c₁ q j := .later rfl .here
  obtain ⟨hiff, hsame⟩ := runPhase_perm hprepare hid henters (List.reverse_perm q)
  have hok : (run q).1 = .ok [.nested 1 (.str "a"), .nested 2 (.str "b")] := by decide +kernel
  obtain ⟨os', hos'⟩ := hiff.1 ⟨_, hok⟩
  obtain ⟨happly, -, -, hnodes⟩ := hsame _ os' hok hos'
  exact ⟨⟨hprepare, hid⟩, ⟨_, os', hok, hos', happly⟩, by decide +kernel, hnodes⟩

end Context

end Folio
