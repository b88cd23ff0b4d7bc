import Folio.Proofs.Fields
import Folio.Proofs.Quiet
import Folio.Proofs.Record
import Folio.Proofs.Repetition

/-!
# The list as a record

After an evaluation the operations hold all that has been computed: the results of nested lists, the
keys of properties and the data. Nothing more is needed for the output. Take away the directives
that have computed something, and the operations are quiet: evaluating them again, with whatever
seed and in whatever context, reads nothing, calls nothing and enters no nested list, and comes to
the same output, as often as one likes.

* `Operation.record`: an operation with what it holds, and without what has computed it;
* `Context.output_of_process`: the output of an evaluation is that of the list it leaves behind;
* `Context.process_quiet`: how a list of quiet operations is evaluated;
* `Context.process_replay`: the record of an evaluation evaluates to the same value.
-/

namespace Folio

open Result

/-- The names of the directives that compute something. -/
def Directive.computing : List String := Primary.all.map Primary.name ++ ["with", "as"]

theorem Directive.eq_of_notMem_computing {d : Directive} (h : d.name ∉ computing) :
    d = .input ∨ d = .output := by
  cases d with
  | primary p => exact absurd (by cases p <;> decide) h
  | secondary s => exact absurd (by cases s <;> decide) h
  | input => exact .inl rfl
  | output => exact .inr rfl

namespace Operation

/-- What is left of an operation that has been evaluated when the directives are taken away that
    have computed something. -/
def record (op : Operation) : Operation :=
  { op with directives := op.directives.filter fun field => field.1 ∉ Directive.computing }

variable {op : Operation}

theorem quiet_record (op : Operation) : op.record.Quiet := by
  refine quiet_of_runs fun d hd => ?_
  obtain ⟨field, hfield, hname⟩ := List.mem_filterMap.1 hd
  have hkept : field.1 ∉ Directive.computing := of_decide_eq_true (List.mem_filter.1 hfield).2
  rw [Directive.ofName?_eq_some.1 hname] at hkept
  rcases Directive.eq_of_notMem_computing hkept with rfl | rfl <;> exact ⟨rfl, rfl⟩

theorem wellKeyed_record (h : op.WellKeyed) : op.record.WellKeyed := by
  refine ⟨fun field hfield => h.known field (List.mem_filter.1 hfield).1, ?_⟩
  rw [(quiet_record op).primaries]
  exact Nat.zero_le 1

theorem argument_out_record (op : Operation) : op.record.argument "out" = op.argument "out" := by
  rw [argument, record, Json.Fields.get?_filter (fun name => name ∉ Directive.computing)]
  exact if_pos (by decide)

end Operation

/-- The output of a list is that of its record. -/
theorem Direct.output_record (ops : List Operation) :
    output (ops.map Operation.record) = output ops := by
  have hdata : (ops.map Operation.record).filterMap Operation.data = ops.filterMap Operation.data :=
    List.filterMap_map
  have hreduction : reduction (ops.map Operation.record) ∘ Operation.record = reduction ops := by
    rw [reduction_congr hdata List.filterMap_map]
    funext op
    simp only [Function.comp_apply, reduction, Operation.argument_out_record]
    rfl
  have hout : (ops.map Operation.record).filter (fun op => (op.argument "out").isSome) =
      (ops.filter fun op => (op.argument "out").isSome).map Operation.record := by
    rw [List.filter_map]
    simp only [Function.comp_def, Operation.argument_out_record]
  rw [output, output, hout, List.mapM_map, hreduction, hdata]

namespace Context

variable {host : Host} {ctx : Context} {v : Json}

/-- The output of an evaluation is that of the list it leaves behind. -/
theorem output_of_process (hmarks : ctx.marks = {}) {j : Journal}
    (h : (ctx.process host j).1 = .ok v) :
    Direct.output (ctx.process host j).2.1.operations = .ok v ∧
      ∀ op ∈ (ctx.process host j).2.1.operations, op.WellKeyed := by
  have hfresh : ctx.Fresh := ⟨hmarks, startable_of_process h⟩
  obtain ⟨q, carried, hclassify, hcarried⟩ := carry_of_process h
  obtain ⟨carried', j₁, j₂, hcarry, hproduce, -⟩ := process_visits hmarks h
  obtain ⟨j', hvisit⟩ := visit_carry_evaluator host ctx j
  -- The list that the nested results are in is the same, seen with a journal and without.
  obtain rfl : carried = carried' := by
    rw [hvisit, hcarried] at hcarry
    cases hcarry
    rfl
  have hdone := visit_produce_fst host { ctx.opened with operations := carried } j₁
  rw [hproduce] at hdone
  have hdone := mapError_eq_ok.1 hdone.symm
  have hsame := (Direct.map_directives_of_produce hdone).trans
    (Direct.map_directives_of_carry hcarried)
  refine ⟨?_, (Operation.wellKeyed_congr hsame).2 (wellKeyed_opened hclassify)⟩
  rw [hfresh.process_fst, Direct.eval_ok hclassify, ← Direct.body_withDefaults, mapError_eq_ok] at h
  obtain ⟨_, hcarried', h⟩ := bind_eq_ok.1 h
  cases hcarried.symm.trans hcarried'
  obtain ⟨_, hdone', h⟩ := bind_eq_ok.1 h
  cases hdone.symm.trans hdone'
  exact mapError_eq_ok.1 h

/-- How a list of quiet operations is evaluated: it comes to its output at once, and nothing else
    happens. -/
theorem process_quiet (hquiet : ∀ op ∈ ctx.operations, op.Quiet)
    (hkeyed : ∀ op ∈ ctx.operations, op.WellKeyed) (hv : Direct.output ctx.operations = .ok v)
    (host : Host) (j : Journal) :
    (ctx.process host j).1 = .ok v ∧
      (ctx.process host j).2.2 = { j with tree := j.tree.recordOut ctx.id v } ∧
      (ctx.process host j).2.1.operations = Operation.withDefaults ctx.operations := by
  have hopened : ∀ op ∈ ctx.opened.operations, op.Quiet := Operation.quiet_withDefaults hquiet
  have hprimary : ctx.opened.queues.primary = [] :=
    Queued.listing_eq_nil.2 fun op hop => by rw [(hopened op hop).primaries, List.map_nil]
  have hprocess : ctx.process host j = runPhases host (evaluator host)
      [(Queues.ofOperations ctx.opened.operations).output] ctx.opened j := by
    rw [Context.process_eq, processVia_ok (Queues.classify_eq_ok.2 ⟨hkeyed, rfl⟩),
      Operation.visit_eq_self fun op hop => carry_quiet (hopened op hop) _ ctx.opened]
    dsimp only
    rw [hprimary, runPhases, runPhase]
    rfl
  have houtput : Direct.output ctx.opened.operations = .ok v :=
    (Direct.output_withDefaults ctx.operations).trans hv
  have hresult := @runPhases_output_fst host (evaluator host) ctx.opened
    (Operation.any_output_withDefaults ctx.operations) j
  rw [hprocess]
  rw [houtput, runPhases_output] at hresult
  rw [runPhases_output]
  cases houts : ctx.opened.outputs with
  | error e =>
    rw [houts] at hresult
    cases hresult
  | ok vs =>
    rw [houts] at hresult
    have hlast : (vs.getLast?.or ctx.opened.out).getD .null = v := Except.ok.inj hresult
    dsimp only
    rw [hlast]
    exact ⟨rfl, rfl, rfl⟩

/-- Contexts over a list of quiet operations with some output. -/
structure Replays (id : Nat) (v : Json) (ctx : Context) : Prop where
  id_eq : ctx.id = id
  quiet : ∀ op ∈ ctx.operations, op.Quiet
  wellKeyed : ∀ op ∈ ctx.operations, op.WellKeyed
  output : Direct.output ctx.operations = .ok v

/-- Evaluating such a context changes no more in it than to add the defaults. -/
theorem Replays.process {id : Nat} (h : ctx.Replays id v) (host : Host) (j : Journal) :
    (ctx.process host j).2.1.Replays id v := by
  obtain ⟨-, -, hoperations⟩ := process_quiet h.quiet h.wellKeyed h.output host j
  have hid : (ctx.process host j).2.1.id = ctx.id := congrArg Prod.fst (place_process host ctx j)
  refine ⟨hid.trans h.id_eq, ?_, ?_, ?_⟩ <;> rw [hoperations]
  · exact Operation.quiet_withDefaults h.quiet
  · exact Operation.wellKeyed_withDefaults h.wellKeyed
  · exact (Direct.output_withDefaults ctx.operations).trans h.output

/-- What is left in the operations after an evaluation is a faithful record of it. Without the
    directives that have computed something they evaluate to the same value: with any seed, in any
    new context and at any later time. Nothing is read or called, and no nested list is entered;
    only the output is written down. -/
theorem process_replay (host : Host) (id depth : Nat) (name : String) (seed : Json)
    (ops : List Operation) (j : Journal) {v : Json}
    (h : (({ id, depth, name, seed, operations := ops } : Context).process host j).1 = .ok v) :
    let final :=
      (({ id, depth, name, seed, operations := ops } : Context).process host j).2.1.operations
    ∀ (host' : Host) (id' depth' : Nat) (name' : String) (seed' : Json) (js : List Journal)
      (j' : Journal),
      let again : Context :=
        { id := id', depth := depth', name := name', seed := seed'
          operations := final.map Operation.record }
      ∃ c, (again.processAll host' js).process host' j' =
        (.ok v, c, { j' with tree := j'.tree.recordOut id' v }) := by
  intro final host' id' depth' name' seed' js j' again
  obtain ⟨hv, hkeyed⟩ := output_of_process rfl h
  have hagain : again.Replays id' v :=
    ⟨rfl, List.forall_mem_map.2 fun op _ => Operation.quiet_record op,
      List.forall_mem_map.2 fun op hop => Operation.wellKeyed_record (hkeyed op hop),
      (Direct.output_record final).trans hv⟩
  have hlater := processAll_keeps (S := Replays id' v) (fun c hc j => hc.process host' j) hagain js
  obtain ⟨hresult, hjournal, -⟩ :=
    process_quiet hlater.quiet hlater.wellKeyed hlater.output host' j'
  rw [hlater.id_eq] at hjournal
  exact ⟨_, Prod.ext hresult (Prod.ext rfl hjournal)⟩

/-- The key of the property is still known when there is no `as` any more and the seed is another
    one. -/
theorem process_replay_property :
    let ops : List Operation :=
      [{ directives := [("as", .null), ("md", .null), ("with", .obj [("raw", .str "a")])] },
        { directives := [("raw", .obj [("title", .str "b")])] },
        { directives := [("out", .str "property")] }]
    let j : Journal := ⟨.root "page", [], []⟩
    let first := (root "page" (.str "title") ops).process .bare j
    let again := root "record" .null (first.2.1.operations.map Operation.record)
    first.1 = .ok (.str "b") ∧
      ∃ c, (again.processAll .bare [j]).process .bare j =
        (.ok (.str "b"), c, { j with tree := j.tree.recordOut 0 (.str "b") }) := by
  intro ops j first again
  have hfirst : first.1 = .ok (.str "b") := by decide +kernel
  exact ⟨hfirst, process_replay .bare 0 0 "page" (.str "title") ops j hfirst .bare 0 0 "record"
    .null [j] j⟩

end Context

end Folio
