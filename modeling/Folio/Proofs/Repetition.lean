import Folio.Proofs.Refinement

/-!
# Evaluating a context again

A context may be evaluated any number of times. The first time it is prepared, and its operations
get the results of their secondary directives; both stay as they are when they are done again, so
the context is *settled*. Evaluating a settled context comes to the primary phase with the context
as it was.

What happens there is decided by the marks. Once a primary phase has begun, its first directive is
marked for good, whether or not anything has failed later; the context is *spent*, and refuses every
further evaluation in the same way. Without a primary directive there is nothing to mark, and the
output is computed anew each time.

* `Context.Settled.process_eq`: how a settled context is evaluated;
* `Context.Settled.spent`: a settled context is spent once the first of its primary directives is
  marked;
* `Context.process_again`: what all later evaluations of a context answer.
-/

namespace Folio

open Result

/-! ## Operations that have been carried -/

namespace Direct

variable {host : Host} {resource : String} {seed : Json} {depth : Nat}

/-- An operation that has the results of its secondary directives already. -/
structure Carried (host : Host) (resource : String) (seed : Json) (depth : Nat) (op : Operation) :
    Prop where
  key : (op.argument "as").isSome → op.asValue = some seed
  nested : ∀ parsed, op.nested? = some parsed → ∃ below v,
    parsed = .ok below ∧ eval host resource seed (depth + 1) below = .ok v ∧ op.withValue = some v

theorem capture_eq_self {op : Operation} (h : (op.argument "as").isSome → op.asValue = some seed) :
    capture seed op = op := by
  rw [capture]
  split
  · rename_i has
    rw [← h has]
  · rfl

/-- Secondary directives leave the operation as it is that has their results. -/
theorem Carried.carry_eq {op : Operation} (h : Carried host resource seed depth op) :
    carry host resource seed depth op = .ok op := by
  rw [Direct.carry_eq, capture_eq_self h.key]
  split <;> rename_i hparsed
  · rfl
  · obtain ⟨_, _, hok, -⟩ := h.nested _ hparsed
    cases hok
  · obtain ⟨_, v, hok, hv, hvalue⟩ := h.nested _ hparsed
    cases hok
    rw [hv, ok_bind, ← hvalue]
    rfl

theorem carried_of_carry {op op' : Operation} (h : carry host resource seed depth op = .ok op') :
    Carried host resource seed depth op' := by
  have hframe := (carry_frame h).1
  have hkey : (op'.argument "as").isSome → (capture seed op).asValue = some seed := fun has => by
    rw [Operation.argument_congr hframe] at has
    rw [capture, if_pos has]
  rw [Direct.carry_eq] at h
  split at h <;> rename_i hparsed <;> rw [← Operation.nested?_congr hframe] at hparsed
  · cases h
    exact ⟨hkey, fun _ h => by rw [hparsed] at h; cases h⟩
  · cases h
  · obtain ⟨v, hv, h⟩ := bind_eq_ok.1 h
    cases h
    refine ⟨hkey, fun _ h => ⟨_, v, ?_, hv, rfl⟩⟩
    rw [hparsed] at h
    exact (Option.some.inj h).symm

theorem Carried.congr {op op' : Operation} (h : Carried host resource seed depth op)
    (hdirectives : op'.directives = op.directives) (hwith : op'.withValue = op.withValue)
    (has : op'.asValue = op.asValue) : Carried host resource seed depth op' := by
  constructor
  · rw [Operation.argument_congr hdirectives, has]
    exact h.key
  · rw [Operation.nested?_congr hdirectives, hwith]
    exact h.nested

end Direct

namespace Context

variable {host : Host} {nested : Evaluator} {ctx : Context}

/-! ## Settled contexts -/

/-- A context whose secondary phase has been run: it has been prepared, it has its input, and its
    operations have the results of their secondary directives. -/
structure Settled (host : Host) (ctx : Context) : Prop where
  wellKeyed : ∀ op ∈ ctx.operations, op.WellKeyed
  hasInput : ctx.operations.any (.input ∈ ·.runs)
  hasOutput : ctx.operations.any (.output ∈ ·.runs)
  queues : ctx.queues = Queues.ofOperations ctx.operations
  input : ctx.input = some ctx.seed
  carried : ∀ op ∈ ctx.operations, Direct.Carried host ctx.name ctx.seed ctx.depth op

/-- The first secondary phase settles a context. -/
theorem settled_of_carry {q : Queues} {ops : List Operation}
    (hclassify : Queues.classify ctx.name ctx.operations = .ok q)
    (h : ctx.opened.operations.mapM (Direct.carry host ctx.name ctx.seed ctx.depth) = .ok ops) :
    ({ ctx.opened with operations := ops } : Context).Settled host where
  wellKeyed := (Operation.wellKeyed_congr (Direct.map_directives_of_carry h)).2
    (wellKeyed_opened hclassify)
  hasInput := (Operation.any_runs_congr .input (Direct.map_directives_of_carry h)).trans
    (Operation.any_input_withDefaults ctx.operations)
  hasOutput := (Operation.any_runs_congr .output (Direct.map_directives_of_carry h)).trans
    (Operation.any_output_withDefaults ctx.operations)
  queues := Queues.ofOperations_congr (Direct.map_directives_of_carry h).symm
  input := rfl
  carried := fun op hop => by
    obtain ⟨op', -, hcarry⟩ := (exists_ok_of_mapM h).2 op hop
    exact Direct.carried_of_carry hcarry

/-- What primary directives, marks and outputs change does not unsettle a context. -/
theorem Settled.update (h : ctx.Settled host) {ops : List Operation}
    (hops : ops.map Operation.directives = ctx.operations.map Operation.directives)
    (hcarried : ∀ op ∈ ops, Direct.Carried host ctx.name ctx.seed ctx.depth op) (marks : Marks)
    (out : Option Json) :
    ({ ctx with operations := ops, marks, out } : Context).Settled host where
  wellKeyed := (Operation.wellKeyed_congr hops).2 h.wellKeyed
  hasInput := (Operation.any_runs_congr .input hops).trans h.hasInput
  hasOutput := (Operation.any_runs_congr .output hops).trans h.hasOutput
  queues := h.queues.trans (Queues.ofOperations_congr hops.symm)
  input := h.input
  carried := hcarried

theorem Settled.opened (h : ctx.Settled host) : ctx.opened = ctx := by
  have hdefaults := Operation.withDefaults_eq_self h.hasInput h.hasOutput
  rw [Context.opened, prepared, hdefaults, ← h.queues, ← h.input]

/-- Evaluating a settled context comes to its primary phase with the context as it was. -/
theorem Settled.process_eq (h : ctx.Settled host) (j : Journal) :
    ctx.process host j =
      runPhases host (evaluator host) [ctx.queues.primary, ctx.queues.output] ctx
        (ctx.runPhase host (evaluator host) ctx.queues.secondary ⟨ctx.marks, j⟩).2.journal := by
  obtain ⟨j', hvisit⟩ := visit_carry_evaluator host ctx j
  rw [h.opened, mapM_eq_self fun op hop => (h.carried op hop).carry_eq] at hvisit
  have hphase := runPhase_secondary_snd host (evaluator host) ctx j
  rw [← h.queues, hvisit] at hphase
  rw [Context.process_eq, processVia_ok (Queues.classify_eq_ok.2 ⟨h.wellKeyed, rfl⟩), h.opened,
    hvisit, hphase]
  rfl

/-! ## Spent contexts -/

/-- A context that is spent: the engine refuses to evaluate it again. -/
structure Spent (host : Host) (ctx : Context) (e : EngineError) : Prop where
  /-- The refusal leaves the context as it is, and in the journal only what nested lists have
      done. -/
  process : ∀ j, ctx.process host j = (.error (.ofEngine e), ctx,
    (ctx.runPhase host (evaluator host) ctx.queues.secondary ⟨ctx.marks, j⟩).2.journal)
  /-- No primary directive is started: whatever the host is, the phase ends in the same way. -/
  primary : ∀ host nested j, ctx.runPhase host nested ctx.queues.primary ⟨ctx.marks, j⟩ =
    (.error (.ofEngine e), ⟨ctx.marks, j⟩)

/-- A settled context is spent once the first of its primary directives is marked. -/
theorem Settled.spent (h : ctx.Settled host) {i : Nat} {p : Primary} {q : List Queued}
    (hq : ctx.queues.primary = ⟨i, .primary p⟩ :: q) (hmarked : ctx.marks.isMarked i) :
    ctx.Spent host (.duplicatePrimary ctx.name i p.name) := by
  have hprimary (host : Host) (nested : Evaluator) (j : Journal) :
      ctx.runPhase host nested ctx.queues.primary ⟨ctx.marks, j⟩ =
        (.error (.ofEngine (.duplicatePrimary ctx.name i p.name)), ⟨ctx.marks, j⟩) := by
    simp only [hq, runPhase, dispatch, startPrimary, hmarked, Bool.or_true, if_true]
  refine ⟨fun j => ?_, hprimary⟩
  rw [h.process_eq, runPhases, hprimary]

/-- The context after it has been evaluated a number of times, with the journal that is there each
    time. -/
def processAll (host : Host) (ctx : Context) : List Journal → Context
  | [] => ctx
  | j :: js => processAll host (ctx.process host j).2.1 js

theorem Spent.processAll {e : EngineError} (h : ctx.Spent host e) (js : List Journal) :
    ctx.processAll host js = ctx := by
  induction js with
  | nil => rfl
  | cons j js ih => rw [Context.processAll, h.process, ih]

/-! ## Up to the primary phase, and on -/

/-- The output phase of a settled context changes the output at most. -/
theorem Settled.runPhases_output (h : ctx.Settled host) (nested : Evaluator) (j : Journal) :
    ∃ out, (runPhases host nested [ctx.queues.output] ctx j).2.1 = { ctx with out } := by
  have hrun := Context.runPhases_output host nested ctx j
  rw [h.queues, hrun, ← h.queues]
  cases ctx.outputs with
  | error e => exact ⟨ctx.out, rfl⟩
  | ok vs => exact ⟨_, rfl⟩

/-- The primary phase of a context that is settled but in which nothing has been started: however it
    ends, and however the output phase does, the context stays settled and the first primary
    directive is marked. -/
theorem Settled.runPhases_primary (h : ctx.Settled host) (hfresh : ctx.Fresh) {d : Queued}
    {q : List Queued} (hq : ctx.queues.primary = d :: q) (nested : Evaluator) (j : Journal) :
    ∃ c, (runPhases host nested [ctx.queues.primary, ctx.queues.output] ctx j).2.1 = c ∧
      c.Settled host ∧ c.queues = ctx.queues ∧ c.name = ctx.name ∧ c.marks.isMarked d.index := by
  obtain ⟨n, hn, hrun⟩ := Context.runPhases_primary host nested h.wellKeyed hfresh.startable
    hfresh.marks [ctx.queues.output] j
  rw [← h.queues] at hn hrun
  -- However early the phase has failed, its first directive had been marked by then.
  have hmarked : (ctx.marks.start (ctx.queues.primary.take n)).isMarked d.index := by
    obtain ⟨m, rfl⟩ := Nat.exists_eq_succ_of_ne_zero (Nat.ne_of_gt (hn (hq ▸ List.cons_ne_nil d q)))
    rw [hq, List.take_succ_cons]
    simp [Marks.start, Marks.isMarked]
  have hproduce := visit_produce_fst host ctx j
  rw [hrun]
  rcases hvisit : Operation.visit (ctx.produce host) ctx.operations j with ⟨f | ops, j'⟩
  · exact ⟨_, rfl, h.update rfl h.carried _ ctx.out, rfl, rfl, hmarked⟩
  · rw [hvisit] at hproduce
    have hdone := mapError_eq_ok.1 hproduce.symm
    have hcarried : ∀ op ∈ ops, Direct.Carried host ctx.name ctx.seed ctx.depth op := by
      intro op' hop'
      obtain ⟨op, hop, hproduce⟩ := (exists_ok_of_mapM hdone).2 op' hop'
      obtain ⟨hdirectives, hwith, has⟩ := Direct.produce_frame hproduce
      exact (h.carried op hop).congr hdirectives hwith has
    have hsettled := h.update (Direct.map_directives_of_produce hdone) hcarried
      (ctx.marks.start (ctx.queues.primary.take n))
    obtain ⟨out, hout⟩ := (hsettled ctx.out).runPhases_output nested j'
    exact ⟨_, hout, hsettled out, rfl, rfl, hmarked⟩

/-- An evaluation comes as far as a primary directive: the phases before succeed, and there is
    one. -/
def ReachesPrimary (host : Host) (ctx : Context) (j : Journal) : Prop :=
  ∃ c, ctx.prepare = .ok c ∧ c.queues.primary ≠ [] ∧
    ∃ v, (runPhases host (evaluator host) [c.queues.input, c.queues.secondary] c j).1 = .ok v

/-- What happens up to the primary phase depends on the list alone: it is refused, or a nested list
    fails, or its operations are carried. -/
theorem reachesPrimary_iff {j : Journal} :
    ctx.ReachesPrimary host j ↔
      ∃ q ops, Queues.classify ctx.name ctx.operations = .ok q ∧ ctx.opened.queues.primary ≠ [] ∧
        ctx.opened.operations.mapM (Direct.carry host ctx.name ctx.seed ctx.depth) = .ok ops := by
  obtain ⟨j', hvisit⟩ := visit_carry_evaluator host ctx j
  constructor
  · rintro ⟨c, hc, hne, v, hv⟩
    rw [prepare_eq, map_eq_ok] at hc
    obtain ⟨q, hq, rfl⟩ := hc
    rw [runPhases_prepared, hvisit] at hv
    cases hops : ctx.opened.operations.mapM (Direct.carry host ctx.name ctx.seed ctx.depth) with
    | error stop =>
      rw [hops] at hv
      cases hv
    | ok ops => exact ⟨q, ops, hq, hne, rfl⟩
  · rintro ⟨q, ops, hq, hne, hops⟩
    refine ⟨ctx.prepared, by rw [prepare_eq, hq]; rfl, hne, ?_⟩
    rw [runPhases_prepared, hvisit, hops]
    exact ⟨_, rfl⟩

/-! ## All later evaluations -/

/-- If every evaluation of a context of some kind leads to a context of that kind, so do any number
    of them. -/
theorem processAll_keeps {S : Context → Prop}
    (hstep : ∀ c, S c → ∀ j, S (c.process host j).2.1) (h : S ctx) (js : List Journal) :
    S (ctx.processAll host js) := by
  induction js generalizing ctx with
  | nil => exact h
  | cons j js ih => exact ih (hstep ctx h j)

/-- If, moreover, every evaluation of such a context answers the same, so does each later one. -/
theorem process_processAll {r : Except Failure Json} {S : Context → Prop}
    (hstep : ∀ c, S c → ∀ j, (c.process host j).1 = r ∧ S (c.process host j).2.1)
    (h : S ctx) (js : List Journal) (j : Journal) :
    ((ctx.processAll host js).process host j).1 = r :=
  (hstep _ (processAll_keeps (fun c hc j => (hstep c hc j).2) h js) j).1

theorem opened_opened (ctx : Context) : ctx.opened.opened = ctx.opened := by
  simp only [opened, prepared, Operation.withDefaults_withDefaults]

/-- A settled context without primary directives comes to its output at once, and changes nothing
    else. -/
theorem Settled.runPhases_of_no_primary (h : ctx.Settled host) (hq : ctx.queues.primary = [])
    (nested : Evaluator) (j : Journal) :
    (runPhases host nested [ctx.queues.primary, ctx.queues.output] ctx j).1 =
        ((Direct.output ctx.operations).mapError Stop.refused).mapError Stop.failure ∧
      ∃ out, (runPhases host nested [ctx.queues.primary, ctx.queues.output] ctx j).2.1 =
        { ctx with out } := by
  have hskip : runPhases host nested [ctx.queues.primary, ctx.queues.output] ctx j =
      runPhases host nested [ctx.queues.output] ctx j := by
    rw [hq, runPhases, runPhase]
    rfl
  rw [hskip]
  refine ⟨?_, h.runPhases_output nested j⟩
  rw [h.queues]
  exact runPhases_output_fst ctx h.hasOutput j

/-- A context that has come as far as a primary directive is spent. -/
theorem spent_of_reachesPrimary (hfresh : ctx.Fresh) {j : Journal}
    (h : ctx.ReachesPrimary host j) :
    ∃ c i p, ctx.prepare = .ok c ∧ c.operations.findIdx? (·.primary?.isSome) = some i ∧
      (c.operation i).primary? = some p ∧
      (ctx.process host j).2.1.Spent host (.duplicatePrimary ctx.name i p.name) := by
  obtain ⟨q, ops, hclassify, hne, hcarried⟩ := reachesPrimary_iff.1 h
  obtain ⟨d, rest, hq⟩ := List.exists_cons_of_ne_nil hne
  obtain ⟨i, p, rfl, hfind, hp⟩ := Queued.listing_primaries_eq_cons (wellKeyed_opened hclassify) hq
  rw [Nat.zero_add] at hq
  obtain ⟨k, -, hprocess⟩ := process_of_carry hclassify hcarried j
  have hnew : ({ ctx.opened with operations := ops } : Context).Fresh :=
    ⟨hfresh.marks, (Direct.startable_of_carry hcarried).2 hfresh.opened.startable⟩
  obtain ⟨c, hc, hsettled, hqueues, hname, hmarked⟩ :=
    (settled_of_carry hclassify hcarried).runPhases_primary hnew hq (evaluator host) k
  have hspent := hsettled.spent ((congrArg Queues.primary hqueues).trans hq) hmarked
  rw [hname] at hspent
  refine ⟨ctx.prepared, i, p, by rw [prepare_eq, hclassify]; rfl, hfind, hp, ?_⟩
  rw [hprocess]
  exact hc ▸ hspent

/-- A context that has not come as far as a primary directive answers the same again and again. -/
theorem process_of_not_reachesPrimary {j : Journal} (h : ¬ctx.ReachesPrimary host j)
    (js : List Journal) (j' : Journal) :
    (((ctx.process host j).2.1.processAll host js).process host j').1 = (ctx.process host j).1 := by
  rw [reachesPrimary_iff] at h
  cases hclassify : Queues.classify ctx.name ctx.operations with
  | error e =>
    -- A context that is refused stays as it is, and is refused again.
    have hstep (j : Journal) : ctx.process host j = (.error (.ofEngine e), ctx, j) := by
      rw [Context.process_eq, processVia_error hclassify]
    refine process_processAll (S := (· = ctx)) ?_ ?_ js j'
    · rintro c rfl j'
      rw [hstep, hstep]
      exact ⟨rfl, rfl⟩
    · rw [hstep]
  | ok q =>
    cases hcarried : ctx.opened.operations.mapM
        (Direct.carry host ctx.name ctx.seed ctx.depth) with
    | error stop =>
      have hfirst := process_of_carry_error hclassify hcarried j
      -- By now the context is prepared and has its input, but the same list goes on to fail.
      have hclassify' : Queues.classify ctx.opened.name ctx.opened.operations = .ok _ :=
        Queues.classify_eq_ok.2 ⟨wellKeyed_opened hclassify, rfl⟩
      have hagain := process_of_carry_error hclassify' (by rw [opened_opened]; exact hcarried)
      refine process_processAll (S := (· = ctx.opened)) ?_ hfirst.2 js j'
      rintro c rfl j'
      rw [hfirst.1, (hagain j').1, (hagain j').2]
      exact ⟨rfl, opened_opened ctx⟩
    | ok ops =>
      have hq : ctx.opened.queues.primary = [] :=
        Classical.byContradiction fun hne => h ⟨q, ops, hclassify, hne, hcarried⟩
      have hsettled := settled_of_carry hclassify hcarried
      obtain ⟨k, -, hprocess⟩ := process_of_carry hclassify hcarried j
      obtain ⟨hresult, hout⟩ := hsettled.runPhases_of_no_primary hq (evaluator host) k
      -- Only the output may have changed, and it is computed anew each time.
      refine process_processAll
        (S := fun c => ∃ out, c = { ctx.opened with operations := ops, out }) ?_
        (by rw [hprocess]; exact hout) js j'
      rintro c ⟨out, rfl⟩ j'
      have hsettled := hsettled.update rfl hsettled.carried ctx.opened.marks out
      obtain ⟨hresult', hout'⟩ := hsettled.runPhases_of_no_primary hq (evaluator host) _
      rw [hsettled.process_eq, hprocess]
      exact ⟨hresult'.trans hresult.symm, hout'⟩

/-- A context may be evaluated any number of times. If the first evaluation has come as far as a
    primary directive, however it went on, the context is spent: each later one is refused at the
    first primary directive of its list. If it has not, each later one answers what the first has
    answered. -/
theorem process_again (hfresh : ctx.Fresh) (host : Host) (j : Journal) (js : List Journal) :
    let later := (ctx.process host j).2.1.processAll host js
    (ctx.ReachesPrimary host j → ∃ c i p, ctx.prepare = .ok c ∧
      c.operations.findIdx? (·.primary?.isSome) = some i ∧ (c.operation i).primary? = some p ∧
      later.Spent host (.duplicatePrimary ctx.name i p.name)) ∧
    (¬ctx.ReachesPrimary host j → ∀ j', (later.process host j').1 = (ctx.process host j).1) := by
  refine ⟨fun h => ?_, fun h => process_of_not_reachesPrimary h js⟩
  obtain ⟨c, i, p, hc, hi, hp, hspent⟩ := spent_of_reachesPrimary hfresh h
  exact ⟨c, i, p, hc, hi, hp, by rwa [hspent.processAll]⟩

/-- The input in front of the list has moved its only operation to the second place. -/
theorem process_again_raw :
    let ctx := root "page" .null [{ directives := [("raw", .str "a")] }]
    let j : Journal := ⟨.root "page", [], []⟩
    ctx.Fresh ∧ ctx.ReachesPrimary .bare j ∧ ∃ c i p, ctx.prepare = .ok c ∧
      c.operations.findIdx? (·.primary?.isSome) = some i ∧ (c.operation i).primary? = some p ∧
      ((ctx.process .bare j).2.1.processAll .bare [j, j]).Spent .bare
        (.duplicatePrimary ctx.name i p.name) := by
  intro ctx j
  have hfresh : ctx.Fresh := ⟨rfl, by simp [ctx, root, Operation.Startable]⟩
  have hreaches : ctx.ReachesPrimary .bare j := ⟨_, rfl, by decide, _, rfl⟩
  exact ⟨hfresh, hreaches, (process_again hfresh .bare j [j, j]).1 hreaches⟩

end Context

end Folio
