import Folio.Proofs.Direct

/-!
# The phases compute what direct evaluation says

An evaluation goes through four queues, finds operations by their index, writes back what a phase
has computed and keeps a journal all the while. None of this shows in its result: on a *fresh*
context, in which no primary directive has been started, it is the one that direct evaluation of the
list gives (`Fresh.process_fst`).

Read as walks through the list, the phases match direct evaluation step by step: secondary
directives (`carry_fst`), primary directives (`produce_fst`) and outputs (`runPhases_output_fst`).
The defaults that are put around a list do not show either. What is left is a list nested in
another one, whose context is always fresh, and which is nested less deeply.

* `process_eq_eval`: a context that has just been made evaluates to what direct evaluation says;
* `visit_carry_evaluator`: so does the secondary phase of any context, fresh or not;
* `process_of_carry`: what evaluation goes on with if this phase succeeds.
-/

namespace Folio

open Result

/-! ## Visits -/

namespace Operation

variable {f : Operation → Journal → Except Failure Operation × Journal}

/-- A visit whose steps do not depend on the journal. -/
theorem visit_fst {g : Operation → Except Stop Operation} {ops : List Operation}
    (h : ∀ op ∈ ops, ∀ j, (f op j).1 = (g op).mapError Stop.failure) (j : Journal) :
    (visit f ops j).1 = (ops.mapM g).mapError Stop.failure := by
  induction ops generalizing j with
  | nil => rfl
  | cons op ops ih =>
    rw [List.forall_mem_cons] at h
    rw [visit, List.mapM_cons, mapError_bind, ← h.1 j]
    refine andThen_fst fun op j => ?_
    rw [mapError_bind, ← ih h.2 j]
    exact andThen_fst fun rest j => rfl

end Operation

namespace Context

variable {host : Host} {nested : Evaluator} {ctx : Context}

/-! ## Single operations -/

/-- The secondary directives of an operation, where nested lists have a value of their own. -/
theorem carryEach_fst {w : Except Failure Json} {op : Operation} {ss : List Secondary}
    (hw : .nested ∈ ss → ∀ op' j, op'.directives = op.directives →
      (runNested nested ctx op' j).1 = w) (j : Journal) :
    (carryEach nested ctx ss op j).1 =
      (fun withValue =>
        { op with
          withValue
          asValue := if .key ∈ ss then some (ctx.input.getD .null) else op.asValue }) <$>
        if .nested ∈ ss then some <$> w else .ok op.withValue := by
  induction ss generalizing op j with
  | nil => rfl
  | cons s ss ih =>
    cases s with
    | key =>
      rw [carryEach, @ih { op with asValue := some (ctx.input.getD .null) }
        fun h => hw (List.mem_cons_of_mem _ h)]
      simp
    | nested =>
      rw [carryEach]
      have hw' := hw List.mem_cons_self
      rcases hrun : runNested nested ctx op j with ⟨f | v, j'⟩
      · obtain rfl : .error f = w := by rw [← hw' op j rfl, hrun]
        rfl
      · obtain rfl : .ok v = w := by rw [← hw' op j rfl, hrun]
        rw [andThen_ok, @ih { op with withValue := some v } fun _ => hw']
        simp [Functor.map, Except.map]

/-- The secondary directives of an operation do what direct evaluation says, if that holds of the
    list it nests. -/
theorem carry_fst (ctx : Context) {op : Operation}
    (hnested : ∀ ops, op.Nests ops → ∀ id j,
      (nested (ctx.child id (ctx.input.getD .null) ops) j).1 =
        (Direct.eval host ctx.name (ctx.input.getD .null) (ctx.depth + 1) ops).mapError
          Stop.failure)
    (j : Journal) :
    (ctx.carry nested op j).1 =
      (Direct.carry host ctx.name (ctx.input.getD .null) ctx.depth op).mapError Stop.failure := by
  have hkey : .key ∈ op.secondaries ↔ (op.argument "as").isSome := Operation.mem_secondaries
  have hwith : .nested ∈ op.secondaries ↔ op.nested?.isSome := by
    rw [Operation.mem_secondaries, Operation.nested?, Option.isSome_map, Secondary.name]
  rw [carry, Direct.carry_eq]
  cases hops : op.nested? with
  | none =>
    -- No nested list is met, so that the value of one does not matter.
    have hnone : .nested ∉ op.secondaries := by rw [hwith, hops]; exact Bool.false_ne_true
    rw [carryEach_fst (w := .ok .null) (fun h => absurd h hnone), if_neg hnone]
    simp only [hkey]
    rfl
  | some parsed =>
    have hsome : .nested ∈ op.secondaries := by rw [hwith, hops]; rfl
    cases parsed with
    | error e =>
      rw [carryEach_fst (w := .error (.ofEngine e)) fun _ op' j h => by
        rw [runNested_error ((Operation.nested?_congr h).trans hops)], if_pos hsome]
      rfl
    | ok ops =>
      rw [carryEach_fst
        (w := (Direct.eval host ctx.name (ctx.input.getD .null) (ctx.depth + 1) ops).mapError
          Stop.failure)
        fun _ op' j h => by
          rw [runNested_nests ((Operation.nested?_congr h).trans hops)]
          exact hnested ops hops _ _,
        if_pos hsome]
      simp only [hkey]
      cases Direct.eval host ctx.name (ctx.input.getD .null) (ctx.depth + 1) ops <;> rfl

/-! ### Primary directives -/

theorem runPrimary_fst (directive : Primary) (op : Operation) (j : Journal) :
    (runPrimary host ctx directive op j).1 =
      (Direct.handle host ctx.name (ctx.input.getD .null) ctx.depth directive op).mapError
        Stop.failure := by
  cases directive with
  | raw => rfl
  | scss =>
    simp only [runPrimary, Direct.handle, Direct.text]
    cases withText .scss op with
    | error e => rfl
    | ok source =>
      simp only [mapError_ok, ok_bind]
      cases host.compileStyle source <;> rfl
  | md =>
    simp only [runPrimary, Direct.handle, Direct.text]
    cases withText .md op <;> rfl
  | yml =>
    simp only [runPrimary, Direct.handle, Direct.text]
    cases withText .yml op with
    | error e => rfl
    | ok source =>
      simp only [mapError_ok, ok_bind]
      cases host.readData source <;> rfl
  | file =>
    simp only [runPrimary, readTarget, Direct.handle, Direct.target, Direct.fileText]
    cases FileRef.ofOperation .file op with
    | error e => rfl
    | ok ref =>
      simp only [mapError_ok, ok_bind]
      cases host.fileText (host.contentPath ref.path) ref.name <;> rfl
  | njk =>
    simp only [runPrimary, readTarget, Direct.handle, Direct.target, Direct.fileText]
    cases FileRef.ofOperation .njk op with
    | error e => rfl
    | ok ref =>
      simp only [mapError_ok, ok_bind]
      cases host.fileText (host.contentPath ref.path) ref.name with
      | error f => rfl
      | ok source =>
        simp only [mapError_ok, ok_bind]
        cases host.renderTemplate ref.name source op.withValue <;> rfl
  | custom =>
    simp only [runPrimary, runCustom, Direct.handle, Direct.target]
    cases FileRef.ofOperation .custom op with
    | error e => rfl
    | ok ref =>
      simp only [mapError_ok, ok_bind]
      cases host.handler? ref.key with
      | none => rfl
      | some handler =>
        dsimp only
        cases (handler _).result <;> rfl

theorem produce_fst (op : Operation) (j : Journal) :
    (ctx.produce host op j).1 =
      (Direct.produce host ctx.name (ctx.input.getD .null) ctx.depth op).mapError Stop.failure := by
  rw [produce, Direct.produce]
  cases op.primary? with
  | none => rfl
  | some directive =>
    rw [mapError_bind, ← runPrimary_fst directive op j]
    exact andThen_fst fun v j => rfl

theorem runOutput_eq (op : Operation) :
    ctx.runOutput op = Direct.reduction ctx.operations op := by
  rw [runOutput, Direct.reduction]
  cases OutputMode.ofArgument (op.argument "out") with
  | error e => rfl
  | ok mode =>
    simp only [propertyKey]
    cases op.asValue <;> rfl

/-! ## Whole contexts -/

/-- The visit of the primary phase. -/
theorem visit_produce_fst (host : Host) (ctx : Context) (j : Journal) :
    (Operation.visit (ctx.produce host) ctx.operations j).1 =
      (ctx.operations.mapM
        (Direct.produce host ctx.name (ctx.input.getD .null) ctx.depth)).mapError Stop.failure :=
  Operation.visit_fst (fun op _ j => produce_fst op j) j

theorem outputs_eq (ctx : Context) :
    ctx.outputs =
      (ctx.operations.filter fun op => (op.argument "out").isSome).mapM
        (Direct.reduction ctx.operations) := by
  have hfilter : ctx.operations.filter (.output ∈ ·.runs) =
      ctx.operations.filter fun op => (op.argument "out").isSome :=
    List.filter_congr fun op _ => Bool.eq_iff_iff.2 (decide_eq_true_iff.trans Operation.mem_runs)
  rw [outputs, hfilter, funext runOutput_eq]

/-- The output phase of a context that has an `out`. -/
theorem runPhases_output_fst (ctx : Context) (hout : ctx.operations.any (.output ∈ ·.runs))
    (j : Journal) :
    (runPhases host nested [(Queues.ofOperations ctx.operations).output] ctx j).1 =
      ((Direct.output ctx.operations).mapError Stop.refused).mapError Stop.failure := by
  rw [runPhases_output, Direct.output, ← outputs_eq]
  cases houts : ctx.outputs with
  | error e => rfl
  | ok vs =>
    -- There is a last output, so that an output from before does not matter.
    have hne : vs ≠ [] := by
      refine ne_nil_of_mapM houts fun hnil => ?_
      obtain ⟨op, hop, houtput⟩ := List.any_eq_true.1 hout
      exact List.filter_eq_nil_iff.1 hnil op hop houtput
    change Except.ok ((vs.getLast?.or ctx.out).getD .null) = Except.ok (vs.getLast?.getD _)
    rw [List.getLast?_eq_some_getLast hne]
    rfl

/-- The primary and the output phase of a context that has an `out` and in which nothing has been
    started. -/
theorem runPhases_fst (ctx : Context) (hkeyed : ∀ op ∈ ctx.operations, op.WellKeyed)
    (hnew : ∀ op ∈ ctx.operations, op.Startable) (hmarks : ctx.marks = {})
    (hout : ctx.operations.any (.output ∈ ·.runs)) (j : Journal) :
    let q := Queues.ofOperations ctx.operations
    (runPhases host nested [q.primary, q.output] ctx j).1 =
      (do
        let done ← ctx.operations.mapM
          (Direct.produce host ctx.name (ctx.input.getD .null) ctx.depth)
        (Direct.output done).mapError Stop.refused).mapError Stop.failure := by
  intro q
  have hvisit := visit_produce_fst host ctx j
  obtain ⟨n, -, hrun⟩ := runPhases_primary host nested hkeyed hnew hmarks [q.output] j
  rw [hrun, mapError_bind, ← hvisit]
  rcases hstep : Operation.visit (ctx.produce host) ctx.operations j with ⟨f | ops, j'⟩
  · rfl
  · rw [hstep] at hvisit
    have hsame := Direct.map_directives_of_produce (mapError_eq_ok.1 hvisit.symm)
    have hq : q = Queues.ofOperations ops := Queues.ofOperations_congr hsame.symm
    rw [hq]
    exact runPhases_output_fst { ctx with operations := ops, marks := _ }
      ((Operation.any_runs_congr .output hsame).trans hout) j'

/-- A context in which no primary directive has been started. -/
structure Fresh (ctx : Context) : Prop where
  /-- Nothing is marked. -/
  marks : ctx.marks = {}
  /-- No primary directive has been run. -/
  startable : ∀ op ∈ ctx.operations, op.Startable

theorem Fresh.child {ctx : Context} {op : Operation} {ops : List Operation} (h : op.Nests ops)
    (id : Nat) (seed : Json) : (ctx.child id seed ops).Fresh := by
  obtain ⟨argument, -, hops⟩ := Option.map_eq_some_iff.1 h
  exact ⟨rfl, fun op hop _ => Operation.executed_of_parseList hops op hop⟩

theorem Fresh.opened (h : ctx.Fresh) : ctx.opened.Fresh := by
  refine ⟨h.marks, fun op hop => ?_⟩
  rcases Operation.mem_withDefaults hop with hop | rfl | rfl
  · exact h.startable op hop
  · exact fun _ => rfl
  · exact fun _ => rfl

theorem wellKeyed_opened {q : Queues} (h : Queues.classify ctx.name ctx.operations = .ok q) :
    ∀ op ∈ ctx.opened.operations, op.WellKeyed :=
  Operation.wellKeyed_withDefaults (Queues.classify_eq_ok.1 h).1

/-- The secondary phase, once the evaluator of nested lists computes what direct evaluation says. -/
theorem visit_carry_fst
    (hnested : ∀ op ∈ ctx.operations, ∀ ops, op.Nests ops → ∀ id j,
      (nested (ctx.child id ctx.seed ops) j).1 =
        (Direct.eval host ctx.name ctx.seed (ctx.depth + 1) ops).mapError Stop.failure)
    (j : Journal) :
    (Operation.visit (ctx.opened.carry nested) ctx.opened.operations j).1 =
      (ctx.opened.operations.mapM (Direct.carry host ctx.name ctx.seed ctx.depth)).mapError
        Stop.failure := by
  refine Operation.visit_fst (fun op hop => carry_fst ctx.opened fun ops hops => ?_) j
  rcases Operation.mem_withDefaults hop with hop | rfl | rfl
  · exact hnested op hop ops hops
  · cases hops
  · cases hops

/-- The phases of a context in which nothing has been started compute what direct evaluation says,
    if the evaluator of nested lists does. -/
theorem processVia_fst (hfresh : ctx.Fresh)
    (hnested : ∀ op ∈ ctx.operations, ∀ ops, op.Nests ops → ∀ id j,
      (nested (ctx.child id ctx.seed ops) j).1 =
        (Direct.eval host ctx.name ctx.seed (ctx.depth + 1) ops).mapError Stop.failure)
    (j : Journal) :
    (ctx.processVia host nested j).1 =
      (Direct.eval host ctx.name ctx.seed ctx.depth ctx.operations).mapError Stop.failure := by
  cases hclassify : Queues.classify ctx.name ctx.operations with
  | error e =>
    rw [processVia_error hclassify, Direct.eval_error hclassify]
    rfl
  | ok q =>
    have hcarry := visit_carry_fst hnested j
    rw [processVia_ok hclassify, Direct.eval_ok hclassify, ← Direct.body_withDefaults]
    change _ = (Direct.body host ctx.name ctx.seed ctx.depth ctx.opened.operations).mapError _
    rw [Direct.body, mapError_bind, ← hcarry]
    rcases hstep : Operation.visit (ctx.opened.carry nested) ctx.opened.operations j with
      ⟨f | ops, j'⟩
    · rfl
    · rw [hstep] at hcarry
      have hcarried := mapError_eq_ok.1 hcarry.symm
      have hsame := Direct.map_directives_of_carry hcarried
      have hnew := (Direct.startable_of_carry hcarried).2 hfresh.opened.startable
      -- The queues are still those of the list, which has kept its keys.
      have hqueues : ctx.opened.queues = Queues.ofOperations ops :=
        Queues.ofOperations_congr hsame.symm
      rw [hqueues]
      exact runPhases_fst { ctx.opened with operations := ops }
        ((Operation.wellKeyed_congr hsame).2 (wellKeyed_opened hclassify)) hnew hfresh.marks
        ((Operation.any_runs_congr .output hsame).trans
          (Operation.any_output_withDefaults ctx.operations)) j'

/-- The first evaluation of a context is direct evaluation of its list. The induction is on how
    deeply lists are nested in it. -/
theorem Fresh.process_fst {ctx : Context} (h : ctx.Fresh) (host : Host) (j : Journal) :
    (ctx.process host j).1 =
      (Direct.eval host ctx.name ctx.seed ctx.depth ctx.operations).mapError Stop.failure := by
  rw [process_eq]
  refine processVia_fst h (fun op hop ops hops id j => ?_) j
  have hlt : Operation.maxNesting ops < Operation.maxNesting ctx.operations :=
    hops.maxNesting_lt hop
  exact Fresh.process_fst (Fresh.child hops id ctx.seed) host j
termination_by Operation.maxNesting ctx.operations

/-- The secondary phase of any context computes what direct evaluation says, whatever has happened
    to the context before: the contexts of nested lists are always fresh. -/
theorem visit_carry_evaluator (host : Host) (ctx : Context) (j : Journal) :
    ∃ j', Operation.visit (ctx.opened.carry (evaluator host)) ctx.opened.operations j =
      ((ctx.opened.operations.mapM (Direct.carry host ctx.name ctx.seed ctx.depth)).mapError
        Stop.failure, j') := by
  refine ⟨_, Prod.ext (visit_carry_fst (fun op _ ops hops id j => ?_) j) rfl⟩
  exact (Fresh.child hops id ctx.seed).process_fst host j

/-- A context whose secondary phase fails is left as it is before that phase. -/
theorem process_of_carry_error {q : Queues} {stop : Stop}
    (hclassify : Queues.classify ctx.name ctx.operations = .ok q)
    (h : ctx.opened.operations.mapM (Direct.carry host ctx.name ctx.seed ctx.depth) = .error stop)
    (j : Journal) :
    (ctx.process host j).1 = .error stop.failure ∧ (ctx.process host j).2.1 = ctx.opened := by
  obtain ⟨j', hvisit⟩ := visit_carry_evaluator host ctx j
  rw [Context.process_eq, processVia_ok hclassify, hvisit, h]
  exact ⟨rfl, rfl⟩

/-- A context whose secondary phase succeeds for the first time goes on with its primary phase. -/
theorem process_of_carry {q : Queues} {ops : List Operation}
    (hclassify : Queues.classify ctx.name ctx.operations = .ok q)
    (h : ctx.opened.operations.mapM (Direct.carry host ctx.name ctx.seed ctx.depth) = .ok ops)
    (j : Journal) :
    ∃ j', Operation.visit (ctx.opened.carry (evaluator host)) ctx.opened.operations j =
        (.ok ops, j') ∧
      ctx.process host j = runPhases host (evaluator host)
        [ctx.opened.queues.primary, ctx.opened.queues.output]
        { ctx.opened with operations := ops } j' := by
  obtain ⟨j', hvisit⟩ := visit_carry_evaluator host ctx j
  rw [h] at hvisit
  refine ⟨j', hvisit, ?_⟩
  rw [Context.process_eq, processVia_ok hclassify, hvisit]
  rfl

/-- An evaluation that succeeds has come through the secondary phase. -/
theorem carry_of_process {j : Journal} {v : Json} (h : (ctx.process host j).1 = .ok v) :
    ∃ q ops, Queues.classify ctx.name ctx.operations = .ok q ∧
      ctx.opened.operations.mapM (Direct.carry host ctx.name ctx.seed ctx.depth) = .ok ops := by
  cases hclassify : Queues.classify ctx.name ctx.operations with
  | error e =>
    rw [Context.process_eq, processVia_error hclassify] at h
    cases h
  | ok q =>
    cases hcarried : ctx.opened.operations.mapM
        (Direct.carry host ctx.name ctx.seed ctx.depth) with
    | error stop =>
      rw [(process_of_carry_error hclassify hcarried j).1] at h
      cases h
    | ok ops => exact ⟨q, ops, rfl, rfl⟩

/-- A context that has just been made, at any place in a tree and at any depth, evaluates to what
    direct evaluation says of its list, or fails with the same failure. -/
theorem process_eq_eval (host : Host) (id depth : Nat) (name : String) (seed : Json)
    {ops : List Operation} (hnew : ∀ op ∈ ops, op.executed = false) (j : Journal) :
    (({ id, depth, name, seed, operations := ops } : Context).process host j).1 =
      (Direct.eval host name seed depth ops).mapError Stop.failure :=
  Fresh.process_fst ⟨rfl, fun op hop _ => hnew op hop⟩ host j

/-- The value of a list nested in `with` becomes the text of another directive. -/
theorem eval_nested_text :
    let below : Json := .arr [.obj [("raw", .str "a")], .obj [("raw", .str "b")]]
    let ops : List Operation := [{ directives := [("md", .null), ("with", below)] }]
    (∀ op ∈ ops, op.executed = false) ∧
      (Direct.eval .bare "page" (.str "seed") 0 ops).mapError Stop.failure = .ok (.str "ab") :=
  ⟨by decide, (process_eq_eval .bare 0 0 "page" (.str "seed") (by decide)
    ⟨.root "page", [], []⟩).symm.trans (by rfl)⟩

end Context

end Folio
