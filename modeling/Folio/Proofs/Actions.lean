import Folio.Proofs.Nesting

/-!
# Evaluation, action by action

An evaluation is a row of actions, those of four queues, and goes on as long as they succeed. This
is all that has to be known of it to say what it leaves behind. What every action that succeeds
keeps (`Keeps`) holds when the last one is done (`runPhases_ok`). An evaluation that fails has
*reached* the action that fails (`runPhases_error`), and what the actions before it keep holds
there (`Reaches.invariant`).

Between two actions only what is computed changes of a context; its place in the tree and the
directives of its operations do not (`Continues`).

* `Context.process_cases`: how an evaluation ends: it is refused, or it fails at an action it has
  reached, or it has run all of them.
-/

namespace Folio

/-- Lists that look the same still do when an element of each is changed, if these look the same. -/
theorem map_modify_congr {α β γ : Type} {p : α → γ} {q : β → γ} {f : α → α} {g : β → β} {i : Nat}
    {l : List α} {l' : List β} (h : l.map p = l'.map q)
    (hi : ∀ a b, l[i]? = some a → l'[i]? = some b → p (f a) = q (g b)) :
    (l.modify i f).map p = (l'.modify i g).map q := by
  induction l generalizing l' i with
  | nil =>
    obtain rfl := List.map_eq_nil_iff.1 h.symm
    cases i <;> rfl
  | cons a l ih =>
    obtain ⟨b, l', rfl, hb, hl⟩ := List.map_eq_cons_iff.1 h.symm
    cases i with
    | zero => simp only [List.modify_zero_cons, List.map_cons, hi a b rfl rfl, hl]
    | succ i => simp only [List.modify_succ_cons, List.map_cons, hb, ih hl.symm hi]

/-- What a change of one element does not touch, all elements keep. -/
theorem map_modify_of_eq {α β : Type} {g : α → β} {f : α → α} {i : Nat} {l : List α}
    (h : ∀ a, l[i]? = some a → g (f a) = g a) : (l.modify i f).map g = l.map g := by
  have hid : (l.modify i f).map g = (l.modify i id).map g :=
    map_modify_congr rfl fun a b ha hb => Option.some.inj (ha.symm.trans hb) ▸ h a ha
  rwa [List.modify_id] at hid

/-! ## Fields -/

/-- What an outcome is written to: a field of the context, or of one of its operations. -/
inductive Field where
  /-- The effective input. -/
  | input
  /-- The output. -/
  | output
  /-- The result of the nested list of an operation. -/
  | withValue (index : Nat)
  /-- The key of an operation. -/
  | asValue (index : Nat)
  /-- The data of an operation. -/
  | data (index : Nat)
deriving DecidableEq

/-- The field that an outcome is meant for. -/
def Outcome.field : Outcome → Field
  | .input _ => .input
  | .nested i _ => .withValue i
  | .key i _ => .asValue i
  | .data i _ => .data i
  | .output _ => .output

/-- The field that an action computes. -/
def Queued.field (d : Queued) : Field :=
  match d.directive with
  | .input => .input
  | .secondary .nested => .withValue d.index
  | .secondary .key => .asValue d.index
  | .primary _ => .data d.index
  | .output => .output

namespace Context

variable {host : Host} {nested : Evaluator} {ctx c c' : Context}

/-! ## Later states of a context -/

/-- A later state of a context: it has the same place in the tree, and of its operations only
    computed fields have changed. -/
structure Continues (ctx c : Context) : Prop where
  id : c.id = ctx.id
  directives : c.operations.map Operation.directives = ctx.operations.map Operation.directives

theorem Continues.refl (ctx : Context) : ctx.Continues ctx := ⟨rfl, rfl⟩

theorem Continues.trans (h : ctx.Continues c) (h' : c.Continues c') : ctx.Continues c' :=
  ⟨h'.id.trans h.id, h'.directives.trans h.directives⟩

theorem continues_applyOne (c : Context) (o : Outcome) : c.Continues (c.applyOne o) := by
  cases o with
  | input v | output v => exact ⟨rfl, rfl⟩
  | nested i v | key i v | data i v =>
    exact ⟨rfl, map_modify_of_eq fun op _ => rfl⟩

theorem continues_apply (c : Context) (os : List Outcome) : c.Continues (c.apply os) := by
  induction os generalizing c with
  | nil => exact .refl c
  | cons o os ih => exact (continues_applyOne c o).trans (ih (c.applyOne o))

theorem Continues.operation (h : ctx.Continues c) (i : Nat) :
    (c.operation i).directives = (ctx.operation i).directives := by
  have hget (ops : List Operation) :
      (ops[i]?.getD {}).directives = (ops.map Operation.directives)[i]?.getD [] := by
    rw [List.getElem?_map]
    cases ops[i]? <;> rfl
  rw [Context.operation, Context.operation, hget, hget, h.directives]

/-- Where a context stands: its index, its depth and the name of its resource. -/
def place (c : Context) : Nat × Nat × String := (c.id, c.depth, c.name)

theorem place_applyOne (c : Context) (o : Outcome) : (c.applyOne o).place = c.place := by
  cases o <;> rfl

theorem place_apply (c : Context) (os : List Outcome) : (c.apply os).place = c.place := by
  induction os generalizing c with
  | nil => rfl
  | cons o os ih => exact (ih (c.applyOne o)).trans (place_applyOne c o)

theorem queues_apply (c : Context) (os : List Outcome) : (c.apply os).queues = c.queues := by
  induction os generalizing c with
  | nil => rfl
  | cons o os ih =>
    refine (ih (c.applyOne o)).trans ?_
    cases o <;> rfl

/-! ## One action -/

theorem tree_runPrimary (host : Host) (ctx : Context) (directive : Primary) (op : Operation)
    (j : Journal) : (runPrimary host ctx directive op j).2.tree = j.tree := by
  cases directive with
  | raw => rfl
  | scss | md | yml =>
    simp only [runPrimary]
    split <;> rfl
  | file | njk =>
    simp only [runPrimary, readTarget]
    cases FileRef.ofOperation _ op with
    | error e => rfl
    | ok ref =>
      dsimp only
      cases host.fileText (host.contentPath ref.path) ref.name <;> rfl
  | custom =>
    simp only [runPrimary, runCustom]
    cases FileRef.ofOperation .custom op with
    | error e => rfl
    | ok ref =>
      dsimp only
      cases host.handler? ref.key <;> rfl

/-- An action evaluates the list that its operation nests, or else it goes by itself: nested lists
    have no part in it, and it leaves the tree alone. -/
theorem dispatch_cases (host : Host) (ctx : Context) (d : Queued) (p : Progress) :
    (∃ below, d.directive = .secondary .nested ∧ (ctx.operation d.index).Nests below ∧
        ∀ nested : Evaluator, ctx.dispatch host nested d p =
          (Outcome.nested d.index <$>
              (nested (ctx.nestedContext p.journal below) (ctx.nestedJournal p.journal)).1,
            { p with
              journal :=
                (nested (ctx.nestedContext p.journal below) (ctx.nestedJournal p.journal)).2 })) ∨
      ∀ nested nested' : Evaluator,
        ctx.dispatch host nested d p = ctx.dispatch host nested' d p ∧
          (ctx.dispatch host nested d p).2.journal.tree = p.journal.tree := by
  obtain ⟨i, d⟩ := d
  cases d with
  | input => exact .inr fun _ _ => ⟨rfl, rfl⟩
  | output =>
    refine .inr fun _ _ => ⟨rfl, ?_⟩
    simp only [dispatch]
    split <;> rfl
  | primary directive =>
    refine .inr fun _ _ => ⟨rfl, ?_⟩
    simp only [dispatch]
    split
    · rfl
    · exact tree_runPrimary host ctx directive _ _
  | secondary s =>
    cases s with
    | key => exact .inr fun _ _ => ⟨rfl, rfl⟩
    | nested =>
      rcases runNested_cases (ctx.operation i) with ⟨below, hbelow⟩ | ⟨e, he⟩
      · refine .inl ⟨below, rfl, hbelow, fun nested => ?_⟩
        rw [dispatch, runNested_nests hbelow]
        rfl
      · refine .inr fun nested nested' => ?_
        simp only [dispatch, he, and_self]

theorem field_of_dispatch {d : Queued} {p : Progress} {o : Outcome}
    (h : (ctx.dispatch host nested d p).1 = .ok o) : o.field = d.field := by
  obtain ⟨i, d⟩ := d
  cases d with
  | input =>
    cases h
    rfl
  | output =>
    rw [dispatch_output rfl] at h
    obtain ⟨v, -, rfl⟩ := Result.map_eq_ok.1 h
    rfl
  | primary directive =>
    simp only [dispatch] at h
    split at h
    · cases h
    · obtain ⟨v, -, rfl⟩ := Result.map_eq_ok.1 h
      rfl
  | secondary s =>
    cases s with
    | key =>
      cases h
      rfl
    | nested =>
      obtain ⟨v, -, rfl⟩ := Result.map_eq_ok.1 h
      rfl

/-- A queue that succeeds has computed the field of each of its actions, in their order. -/
theorem map_field_of_runPhase {q : List Queued} {p p' : Progress} {os : List Outcome}
    (h : ctx.runPhase host nested q p = (.ok os, p')) :
    os.map Outcome.field = q.map Queued.field := by
  induction q generalizing p os with
  | nil =>
    cases h
    rfl
  | cons d q ih =>
    rw [runPhase_cons] at h
    obtain ⟨o, p₁, hd, h⟩ := Result.andThen_eq.1 h
    obtain ⟨os, p₂, hq, h⟩ := Result.andThen_eq.1 h
    cases h
    rw [List.map_cons, List.map_cons, field_of_dispatch (congrArg Prod.fst hd), ih hq]

/-! ## One queue -/

/-- What is known of the actions done so far and of the journal still is once one more action of a
    row has succeeded, at whatever state of the context. -/
def Keeps (host : Host) (nested : Evaluator) (ctx : Context) (row : List Queued)
    (M : List Queued → Journal → Prop) : Prop :=
  ∀ c, ctx.Continues c → ∀ done, ∀ d ∈ row, ∀ p o p', M done p.journal →
    c.dispatch host nested d p = (.ok o, p') → M (done ++ [d]) p'.journal

theorem Keeps.mono {M : List Queued → Journal → Prop} {row row' : List Queued}
    (h : Keeps host nested ctx row M) (hsub : row' ⊆ row) : Keeps host nested ctx row' M :=
  fun c hc done d hd => h c hc done d (hsub hd)

theorem Keeps.continues {M : List Queued → Journal → Prop} {row : List Queued}
    (h : Keeps host nested ctx row M) (hc : ctx.Continues c) : Keeps host nested c row M :=
  fun c' hc' => h c' (hc.trans hc')

/-- What has been done before may be counted in. -/
theorem Keeps.after {M : List Queued → Journal → Prop} {row : List Queued}
    (h : Keeps host nested ctx row M) (front : List Queued) :
    Keeps host nested ctx row fun done => M (front ++ done) := by
  intro c hc done d hd p o p' hM hdispatch
  rw [← List.append_assoc]
  exact h c hc (front ++ done) d hd p o p' hM hdispatch

theorem runPhase_ok {M : List Queued → Journal → Prop} {q : List Queued} {p p' : Progress}
    {os : List Outcome} (hkeeps : Keeps host nested ctx q M) (hstart : M [] p.journal)
    (h : ctx.runPhase host nested q p = (.ok os, p')) : M q p'.journal := by
  induction q generalizing p os M with
  | nil =>
    cases h
    exact hstart
  | cons d q ih =>
    rw [runPhase] at h
    split at h
    · cases h
    · rename_i o p₁ hd
      split at h
      · cases h
      · rename_i os' p₂ hq
        cases h
        have hstep := hkeeps ctx (.refl ctx) [] d List.mem_cons_self p o p₁ hstart hd
        -- The rest of the queue goes on after its first action.
        exact ih ((hkeeps.mono (List.subset_cons_self d q)).after [d]) hstep hq

/-- A queue that fails has a first action that fails. -/
theorem runPhase_error {q : List Queued} {p p' : Progress} {f : Failure}
    (h : ctx.runPhase host nested q p = (.error f, p')) :
    ∃ before d after os p₁, q = before ++ d :: after ∧
      ctx.runPhase host nested before p = (.ok os, p₁) ∧
      ctx.dispatch host nested d p₁ = (.error f, p') := by
  induction q generalizing p with
  | nil => cases h
  | cons d q ih =>
    rw [runPhase] at h
    split at h
    · rename_i hd
      cases h
      exact ⟨[], d, q, [], p, rfl, rfl, hd⟩
    · rename_i o p₁ hd
      split at h
      · rename_i f' p₂ hq
        cases h
        obtain ⟨before, e, after, os, p₃, rfl, hbefore, he⟩ := ih hq
        exact ⟨d :: before, e, after, o :: os, p₃, rfl, by simp only [runPhase, hd, hbefore], he⟩
      · cases h

/-! ## All queues -/

/-- Running queues one after the other comes to an action: all actions before it have succeeded. It
    sees the context as it is at the start of its phase, and goes on from the progress there is. -/
inductive Reaches (host : Host) (nested : Evaluator) :
    List (List Queued) → Context → Journal → Context → Queued → Progress → Prop
  /-- The action stands on the queue that runs. -/
  | here {before after : List Queued} {d : Queued} {qs : List (List Queued)} {ctx : Context}
      {j : Journal} {os : List Outcome} {p : Progress}
      (hbefore : ctx.runPhase host nested before ⟨ctx.marks, j⟩ = (.ok os, p)) :
      Reaches host nested ((before ++ d :: after) :: qs) ctx j ctx d p
  /-- The queue has been run, and what it has computed is written back. -/
  | later {q : List Queued} {qs : List (List Queued)} {ctx c : Context} {j : Journal} {d : Queued}
      {os : List Outcome} {p p' : Progress}
      (hq : ctx.runPhase host nested q ⟨ctx.marks, j⟩ = (.ok os, p))
      (hqs : Reaches host nested qs ({ ctx with marks := p.marks }.apply os) p.journal c d p') :
      Reaches host nested (q :: qs) ctx j c d p'

theorem continues_phase (ctx : Context) (m : Marks) (os : List Outcome) :
    ctx.Continues ({ ctx with marks := m }.apply os) := by
  rw [apply_marks]
  exact (continues_apply ctx os).trans ⟨rfl, rfl⟩

theorem place_phase (ctx : Context) (m : Marks) (os : List Outcome) :
    (({ ctx with marks := m } : Context).apply os).place = ctx.place :=
  (place_apply _ os).trans rfl

theorem place_runPhases (host : Host) (nested : Evaluator) (qs : List (List Queued)) (ctx : Context)
    (j : Journal) : (runPhases host nested qs ctx j).2.1.place = ctx.place := by
  induction qs generalizing ctx j with
  | nil => rfl
  | cons q qs ih =>
    rw [runPhases]
    split
    · rfl
    · exact (ih _ _).trans (place_phase ctx _ _)

/-- Where an action is reached, all that stands before it has been done. -/
theorem Reaches.invariant {M : List Queued → Journal → Prop} {qs : List (List Queued)} {j : Journal}
    {d : Queued} {p : Progress} (h : Reaches host nested qs ctx j c d p)
    (hkeeps : Keeps host nested ctx qs.flatten M) (hstart : M [] j) :
    ctx.Continues c ∧ ∃ before after, qs.flatten = before ++ d :: after ∧ M before p.journal := by
  induction h generalizing M with
  | @here before after d qs ctx j os p hbefore =>
    refine ⟨.refl ctx, before, after ++ qs.flatten, by simp, ?_⟩
    exact runPhase_ok (hkeeps.mono (by simp)) hstart hbefore
  | @later q qs ctx c j d os p p' hq hqs ih =>
    rw [List.flatten_cons] at hkeeps
    have hcontinues := continues_phase ctx p.marks os
    have hphase := runPhase_ok (hkeeps.mono (List.subset_append_left q _)) hstart hq
    have hrest := (hkeeps.continues hcontinues).mono (List.subset_append_right q _)
    obtain ⟨hc, before, after, hflatten, hM⟩ :=
      ih (hrest.after q) (by rwa [List.append_nil])
    refine ⟨hcontinues.trans hc, q ++ before, after, ?_, hM⟩
    rw [List.flatten_cons, hflatten, List.append_assoc]

/-- An evaluation that has come to its end has done every action, and has recorded its output. -/
theorem runPhases_ok {M : List Queued → Journal → Prop} {qs : List (List Queued)} {j : Journal}
    {v : Json} (h : (runPhases host nested qs ctx j).1 = .ok v)
    (hkeeps : Keeps host nested ctx qs.flatten M) (hstart : M [] j) :
    ctx.Continues (runPhases host nested qs ctx j).2.1 ∧
      ∃ j', M qs.flatten j' ∧ (runPhases host nested qs ctx j).2.2 =
        { j' with tree := j'.tree.recordOut ctx.id v } := by
  induction qs generalizing ctx j M with
  | nil =>
    cases h
    exact ⟨.refl ctx, j, hstart, rfl⟩
  | cons q qs ih =>
    rw [List.flatten_cons] at hkeeps ⊢
    rw [runPhases] at h ⊢
    split at h
    · cases h
    · rename_i os p hq
      -- The later queues start from the context as this one has left it.
      have hcontinues := continues_phase ctx p.marks os
      have hphase := runPhase_ok (hkeeps.mono (List.subset_append_left q _)) hstart hq
      have hrest := (hkeeps.continues hcontinues).mono (List.subset_append_right q _)
      obtain ⟨hc, j', hM, hj'⟩ := ih h (hrest.after q) (by rwa [List.append_nil])
      rw [hcontinues.id] at hj'
      exact ⟨hcontinues.trans hc, j', hM, hj'⟩

/-- An evaluation that fails has reached an action that fails, and ends where this action does. -/
theorem runPhases_error {qs : List (List Queued)} {j : Journal} {f : Failure}
    (h : (runPhases host nested qs ctx j).1 = .error f) :
    ∃ c d p, Reaches host nested qs ctx j c d p ∧ (c.dispatch host nested d p).1 = .error f ∧
      (runPhases host nested qs ctx j).2.2 = (c.dispatch host nested d p).2.journal := by
  induction qs generalizing ctx j with
  | nil => cases h
  | cons q qs ih =>
    rw [runPhases] at h ⊢
    split at h
    · rename_i f' p hq
      cases h
      obtain ⟨before, d, after, os, p₁, rfl, hbefore, hd⟩ := runPhase_error hq
      exact ⟨ctx, d, p₁, .here hbefore, by rw [hd], by rw [hd]⟩
    · rename_i os p hq
      obtain ⟨c, d, p', hreaches, hd, hj⟩ := ih h
      exact ⟨c, d, p', .later hq hreaches, hd, hj⟩

/-! ## Whole evaluations -/

/-- The queues of a context in the order in which they run. -/
def phases (ctx : Context) : List (List Queued) :=
  [ctx.queues.input, ctx.queues.secondary, ctx.queues.primary, ctx.queues.output]

/-- How an evaluation ends. -/
theorem process_cases (host : Host) (ctx : Context) (j : Journal) :
    (∃ e, ctx.prepare = .error e ∧ ctx.process host j = (.error (.ofEngine e), ctx, j)) ∨
      ∃ c, ctx.prepare = .ok c ∧ ctx.process host j =
        runPhases host (evaluator host) c.phases c j := by
  rw [process_eq, processVia]
  cases ctx.prepare with
  | error e => exact .inl ⟨e, rfl, rfl⟩
  | ok c => exact .inr ⟨c, rfl, rfl⟩

theorem place_prepare (h : ctx.prepare = .ok c) : c.place = ctx.place := by
  rw [prepare_eq, Result.map_eq_ok] at h
  obtain ⟨_, -, rfl⟩ := h
  rfl

/-- An evaluation leaves a context where it stands. -/
theorem place_process (host : Host) (ctx : Context) (j : Journal) :
    (ctx.process host j).2.1.place = ctx.place := by
  rcases process_cases host ctx j with ⟨e, -, hprocess⟩ | ⟨c, hc, hprocess⟩
  · rw [hprocess]
  · rw [hprocess]
    exact (place_runPhases host _ _ c j).trans (place_prepare hc)

/-- A context that has been prepared stands in the same place, and its list is the one with
    defaults. -/
theorem prepare_eq_ok (h : ctx.prepare = .ok c) :
    (∀ op ∈ ctx.operations, op.WellKeyed) ∧ c.id = ctx.id ∧
      c.operations = Operation.withDefaults ctx.operations ∧
      c.queues = Queues.ofOperations c.operations := by
  rw [prepare_eq, Result.map_eq_ok] at h
  obtain ⟨q, hq, rfl⟩ := h
  exact ⟨(Queues.classify_eq_ok.1 hq).1, rfl, rfl, rfl⟩

/-- An operation of a prepared context is one of the list, or a default; none stands behind them. -/
theorem operation_prepared (h : ctx.prepare = .ok c) (i : Nat) :
    c.operation i ∈ ctx.operations ∨
      c.operation i = Operation.defaultInput ∨ c.operation i = Operation.defaultOutput ∨
        c.operation i = {} := by
  rw [operation]
  cases hop : c.operations[i]? with
  | none => exact .inr (.inr (.inr rfl))
  | some op =>
    obtain ⟨-, -, hops, -⟩ := prepare_eq_ok h
    have hmem := List.mem_of_getElem? hop
    rw [hops] at hmem
    exact (Operation.mem_withDefaults hmem).imp_right (Or.imp_right .inl)

/-- What is on the queues of an accepted list are directives of its operations. -/
theorem runs_of_phases {ctx₀ : Context} (h : ctx.prepare = .ok ctx₀) :
    ∀ d ∈ ctx₀.phases.flatten, d.directive ∈ (ctx₀.operation d.index).runs := by
  obtain ⟨-, -, -, hqueues⟩ := prepare_eq_ok h
  have hlisted (f : Operation → List Directive) (hf : ∀ op, f op ⊆ op.runs) :
      ∀ d ∈ Queued.listing f 0 ctx₀.operations, d.directive ∈ (ctx₀.operation d.index).runs :=
    Queued.forall_listing.2 fun op _ _ hd => hf op hd
  simp only [phases, hqueues, Queues.ofOperations, List.flatten_cons, List.flatten_nil,
    List.append_nil, List.forall_mem_append]
  refine ⟨hlisted _ fun op => List.filter_sublist.subset, hlisted _ fun op => ?_,
    hlisted _ fun op => ?_, hlisted _ fun op => List.filter_sublist.subset⟩
  · rw [Operation.map_secondaries]
    exact List.filter_sublist.subset
  · rw [Operation.map_primaries]
    exact List.filter_sublist.subset

/-- A directive that no operation of a list has is not on its queues, unless it is one of the
    defaults. -/
theorem ne_of_phases {ctx₀ : Context} (h : ctx.prepare = .ok ctx₀) {directive : Directive}
    (hinput : directive ≠ .input) (houtput : directive ≠ .output)
    (hnone : ∀ op ∈ ctx.operations, op.argument directive.name = none) :
    ∀ d ∈ ctx₀.phases.flatten, d.directive ≠ directive := by
  intro d hd hdirective
  have hruns := runs_of_phases h d hd
  rw [hdirective] at hruns
  rcases operation_prepared h d.index with hop | hop | hop | hop
  · rw [Operation.mem_runs, hnone _ hop] at hruns
    exact Bool.false_ne_true hruns
  all_goals rw [hop] at hruns
  · rw [Operation.runs_defaultInput, List.mem_singleton] at hruns
    exact hinput hruns
  · rw [Operation.runs_defaultOutput, List.mem_singleton] at hruns
    exact houtput hruns
  · exact List.not_mem_nil hruns

/-- What an operation nests in some state of a prepared context, it has nested in the list. -/
theorem exists_nests {ctx₀ : Context} {i : Nat} {below : List Operation}
    (h : ctx.prepare = .ok ctx₀) (hc : ctx₀.Continues c) (hbelow : (c.operation i).Nests below) :
    ∃ op ∈ ctx.operations, op.Nests below := by
  rw [Operation.Nests, Operation.nested?_congr (hc.operation i)] at hbelow
  rcases operation_prepared h i with hop | hop | hop | hop
  · exact ⟨_, hop, hbelow⟩
  all_goals
    rw [hop] at hbelow
    cases hbelow

end Context

end Folio
