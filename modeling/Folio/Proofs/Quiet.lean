import Folio.Proofs.Refinement
import Folio.Proofs.Yield

/-!
# Operations that compute nothing

Of the directives only primary and secondary ones compute anything. An operation that has no others
than `in` and `out` is *quiet*: an evaluation passes it by, and it stays as it is. So it makes no
difference to the two walks of an evaluation through its list where quiet operations stand, or
whether they stand there at all.

* `Operation.Quiet`: operations that compute nothing, as the defaults do;
* `Context.walk_insertIdx`: a quiet operation may stand anywhere in the list;
* `Context.process_walk`: what an evaluation leaves in its journal is what the walks do, and its
  output.
-/

namespace Folio

open Result

/-! ## Quiet operations -/

namespace Operation

/-- An operation that has neither primary nor secondary directives. -/
structure Quiet (op : Operation) : Prop where
  primaries : op.primaries = []
  secondaries : op.secondaries = []

variable {op : Operation}

/-- An operation is quiet if it only has input and output directives. -/
theorem quiet_of_runs (h : ∀ d ∈ op.runs, d.primary? = none ∧ d.secondary? = none) : op.Quiet :=
  ⟨List.filterMap_eq_nil_iff.2 fun d hd => (h d hd).1,
    List.filterMap_eq_nil_iff.2 fun d hd => (h d hd).2⟩

/-- The defaults are quiet. -/
theorem quiet_default (h : op = defaultInput ∨ op = defaultOutput) : op.Quiet := by
  rcases h with rfl | rfl <;> exact ⟨by decide, by decide⟩

/-- A list of quiet operations is quiet with its defaults, too. -/
theorem quiet_withDefaults {ops : List Operation} (h : ∀ op ∈ ops, op.Quiet) :
    ∀ op ∈ withDefaults ops, op.Quiet := by
  intro op hop
  rcases mem_withDefaults hop with hop | hdefault
  · exact h op hop
  · exact quiet_default hdefault

namespace Quiet

theorem primary?_eq_none (h : op.Quiet) : op.primary? = none := by
  rw [primary?, h.primaries, List.head?_nil]

theorem startable (h : op.Quiet) : op.Startable := by
  intro hprimary
  rw [h.primary?_eq_none] at hprimary
  cases hprimary

theorem argument_eq_none (h : op.Quiet) (s : Secondary) : op.argument s.name = none := by
  rw [← Option.not_isSome_iff_eq_none, ← mem_secondaries, h.secondaries]
  exact List.not_mem_nil

theorem nested?_eq_none (h : op.Quiet) : op.nested? = none :=
  Option.map_eq_none_iff.2 (h.argument_eq_none .nested)

theorem carry_eq (h : op.Quiet) (host : Host) (resource : String) (seed : Json) (depth : Nat) :
    Direct.carry host resource seed depth op = .ok op := by
  have hkey : op.argument "as" = none := h.argument_eq_none .key
  rw [Direct.carry_eq, h.nested?_eq_none]
  simp [Direct.capture, hkey]

theorem produce_eq (h : op.Quiet) (host : Host) (resource : String) (seed : Json) (depth : Nat) :
    Direct.produce host resource seed depth op = .ok op := by
  rw [Direct.produce, h.primary?_eq_none]
  rfl

end Quiet

/-! ### Visits that pass them by -/

variable {f : Operation → Journal → Except Failure Operation × Journal}

/-- Where each step leaves its operation alone, a visit does nothing. -/
theorem visit_eq_self {ops : List Operation} (h : ∀ op ∈ ops, ∀ j, f op j = (.ok op, j))
    (j : Journal) : visit f ops j = (.ok ops, j) := by
  induction ops with
  | nil => rfl
  | cons op ops ih =>
    rw [List.forall_mem_cons] at h
    rw [visit, h.1, andThen_ok, ih h.2, andThen_ok]

/-- One operation that the steps leave alone may stand anywhere in the list. -/
theorem visit_insertIdx (h : ∀ j, f op j = (.ok op, j)) (i : Nat) (ops : List Operation)
    (j : Journal) :
    visit f (ops.insertIdx i op) j =
      andThen (visit f ops j) fun ops j => (.ok (ops.insertIdx i op), j) := by
  induction ops generalizing i j with
  | nil =>
    cases i with
    | zero =>
      rw [List.insertIdx_zero]
      simp only [visit, h, andThen_ok, List.insertIdx_zero]
    | succ i => rfl
  | cons op' ops ih =>
    cases i with
    | zero =>
      rw [List.insertIdx_zero, visit, h, andThen_ok]
      rfl
    | succ i => simp only [List.insertIdx_succ_cons, visit, ih, andThen_assoc, andThen_ok]

end Operation

/-! ## Direct evaluation -/

namespace Direct

variable {ops ops' : List Operation}

/-- Reductions look at data and keys only. -/
theorem reduction_congr (hdata : ops.filterMap Operation.data = ops'.filterMap Operation.data)
    (has : ops.filterMap Operation.asValue = ops'.filterMap Operation.asValue) :
    reduction ops = reduction ops' := by
  funext op
  rw [reduction, reduction, hdata, ← List.head?_filterMap, has, List.head?_filterMap]

/-- Defaults do not show in the output. -/
theorem output_withDefaults (ops : List Operation) :
    output (Operation.withDefaults ops) = output ops := by
  have hinput : output (Operation.withInput ops) = output ops := by
    rw [Operation.withInput]
    split <;> rfl
  rw [Operation.withDefaults, Operation.withOutput]
  split
  · exact hinput
  · rename_i hnone
    rw [output_defaultOutput, hinput]
    exact fun op hop hout =>
      hnone (List.any_eq_true.2 ⟨op, hop, decide_eq_true (Operation.mem_runs.2 hout)⟩)

end Direct

/-! ## The walks of an evaluation -/

namespace Context

variable {ctx c : Context} {op : Operation}

theorem carry_quiet (h : op.Quiet) (nested : Evaluator) (ctx : Context) (j : Journal) :
    ctx.carry nested op j = (.ok op, j) := by
  rw [carry, h.secondaries, carryEach]

theorem produce_quiet (h : op.Quiet) (host : Host) (ctx : Context) (j : Journal) :
    ctx.produce host op j = (.ok op, j) := by
  rw [produce, h.primary?_eq_none]

/-- The two walks of an evaluation through a list: for the results of secondary directives, and then
    for the data of primary ones. -/
def walk (host : Host) (ctx : Context) (ops : List Operation) (j : Journal) :
    Except Failure (List Operation) × Journal :=
  andThen (Operation.visit (ctx.carry (evaluator host)) ops j)
    (Operation.visit (ctx.produce host))

/-- A quiet operation may stand anywhere in the list. -/
theorem walk_insertIdx (h : op.Quiet) (host : Host) (ctx : Context) (i : Nat)
    (ops : List Operation) (j : Journal) :
    ctx.walk host (ops.insertIdx i op) j =
      andThen (ctx.walk host ops j) fun ops j => (.ok (ops.insertIdx i op), j) := by
  rw [walk, walk, Operation.visit_insertIdx (carry_quiet h _ ctx), andThen_assoc, andThen_assoc]
  congr 1
  funext carried j
  exact Operation.visit_insertIdx (produce_quiet h host ctx) i carried j

theorem walk_insertIdx_snd (h : op.Quiet) (host : Host) (ctx : Context) (i : Nat)
    (ops : List Operation) (j : Journal) :
    (ctx.walk host (ops.insertIdx i op) j).2 = (ctx.walk host ops j).2 := by
  rw [walk_insertIdx h, andThen_snd]

/-- Defaults leave no trace. -/
theorem walk_withDefaults_snd (host : Host) (ctx : Context) (ops : List Operation) (j : Journal) :
    (ctx.walk host (Operation.withDefaults ops) j).2 = (ctx.walk host ops j).2 := by
  have hinput : (ctx.walk host (Operation.withInput ops) j).2 = (ctx.walk host ops j).2 := by
    rw [Operation.withInput]
    split
    · rfl
    · rw [← List.insertIdx_zero, walk_insertIdx_snd (Operation.quiet_default (.inl rfl))]
  rw [Operation.withDefaults, Operation.withOutput]
  split
  · exact hinput
  · rw [← List.insertIdx_length_self, walk_insertIdx_snd (Operation.quiet_default (.inr rfl)),
      hinput]

theorem carryEach_congr (hplace : c.place = ctx.place) (hinput : c.input = ctx.input)
    (nested : Evaluator) (ss : List Secondary) (op : Operation) (j : Journal) :
    c.carryEach nested ss op j = ctx.carryEach nested ss op j := by
  have hid : c.id = ctx.id := congrArg Prod.fst hplace
  have hdepth : c.depth = ctx.depth := congrArg (·.2.1) hplace
  have hname : c.name = ctx.name := congrArg (·.2.2) hplace
  induction ss generalizing op j with
  | nil => rfl
  | cons s ss ih =>
    cases s with
    | key => rw [carryEach, carryEach, hinput, ih]
    | nested =>
      have hnested : c.runNested nested op j = ctx.runNested nested op j := by
        simp only [runNested, child, hid, hdepth, hname, hinput]
      simp only [carryEach, hnested, ih]

theorem runPrimary_congr (hplace : c.place = ctx.place) (hinput : c.input = ctx.input)
    (host : Host) (directive : Primary) (op : Operation) (j : Journal) :
    c.runPrimary host directive op j = ctx.runPrimary host directive op j := by
  have hdepth : c.depth = ctx.depth := congrArg (·.2.1) hplace
  have hname : c.name = ctx.name := congrArg (·.2.2) hplace
  cases directive with
  | custom => simp only [runPrimary, runCustom, hdepth, hname, hinput]
  | _ => rfl

/-- The walks depend on where a context stands and on its input. -/
theorem walk_congr (hplace : c.place = ctx.place) (hinput : c.input = ctx.input) (host : Host)
    (ops : List Operation) (j : Journal) : c.walk host ops j = ctx.walk host ops j := by
  have hcarry : c.carry (evaluator host) = ctx.carry (evaluator host) :=
    funext fun op => funext fun j => carryEach_congr hplace hinput _ op.secondaries op j
  have hproduce : c.produce host = ctx.produce host := by
    funext op j
    rw [produce, produce]
    simp only [runPrimary_congr hplace hinput]
  rw [walk, walk, hcarry, hproduce]

/-- The output phase records the output it comes to. -/
theorem runPhases_output_journal (host : Host) (nested : Evaluator) (c : Context) (j : Journal) :
    let r := runPhases host nested [(Queues.ofOperations c.operations).output] c j
    r.2.2 = j.close c.id r.1.toOption := by
  intro r
  have hr : r = _ := runPhases_output host nested c j
  rw [hr]
  cases c.outputs <;> rfl

/-- What the first evaluation of a context leaves in the journal is what the two walks through its
    list do, and its output. -/
theorem process_walk {host : Host} (hfresh : ctx.Fresh) {q : Queues}
    (hclassify : Queues.classify ctx.name ctx.operations = .ok q) (j : Journal) :
    (ctx.process host j).2.2 =
      (ctx.opened.walk host ctx.operations j).2.close ctx.id (ctx.process host j).1.toOption := by
  obtain ⟨j', hvisit⟩ := visit_carry_evaluator host ctx j
  rw [← walk_withDefaults_snd, process_eq, processVia_ok hclassify, walk]
  change _ = (andThen (Operation.visit (ctx.opened.carry (evaluator host)) ctx.opened.operations j)
    _).2.close _ _
  rw [hvisit]
  -- Either walk may end the evaluation: then nothing is recorded, and there is no output either.
  cases hcarried : ctx.opened.operations.mapM
      (Direct.carry host ctx.name ctx.seed ctx.depth) with
  | error stop => rfl
  | ok ops =>
    have hsame := Direct.map_directives_of_carry hcarried
    let c : Context := { ctx.opened with operations := ops }
    have hproduce := visit_produce_fst host c j'
    obtain ⟨n, -, hrun⟩ := @runPhases_primary host (evaluator host) c
      ((Operation.wellKeyed_congr hsame).2 (wellKeyed_opened hclassify))
      ((Direct.startable_of_carry hcarried).2 hfresh.opened.startable) hfresh.marks
      [ctx.opened.queues.output] j'
    have hqueues : ctx.opened.queues = Queues.ofOperations ops :=
      Queues.ofOperations_congr hsame.symm
    rw [← hqueues] at hrun
    dsimp only [mapError_ok]
    rw [hrun, andThen_ok]
    change _ = (Operation.visit (c.produce host) c.operations j').2.close _ _
    rcases hstep : Operation.visit (c.produce host) c.operations j' with ⟨f | done, j''⟩
    · rfl
    · rw [hstep] at hproduce
      have hdone := Direct.map_directives_of_produce (mapError_eq_ok.1 hproduce.symm)
      rw [hqueues, Queues.ofOperations_congr hdone.symm]
      exact runPhases_output_journal host (evaluator host)
        { c with operations := done, queues := _, marks := _ } j''

end Context

end Folio
