import Mathlib.Data.List.InsertIdx
import Folio.Proofs.Concatenation
import Folio.Proofs.Faults
import Folio.Proofs.Quiet

/-!
# Places that do not matter

Operations are evaluated in their order, but for input and output it does not matter where they
stand. An *idle* operation, which has nothing to do but to take the input, may be put anywhere: the
evaluation goes on as without it, and a list that is refused is refused for the same fault, which
may have moved one place back. An operation that has nothing but an output may stand anywhere, too,
as the data of all operations are reduced, those behind it not less than those before it; and one
that joins texts at the end may as well be left out.

* `Operation.Idle`: operations that add nothing to an evaluation;
* `EngineError.moved`: an error in a list in which operations have got other indices;
* `Queues.classify_insertIdx_error`: a fault stays one when an operation is inserted;
* `Direct.body_insertIdx`: the value of a list into which a quiet operation is inserted;
* `Context.process_placement`: where inputs and outputs stand does not matter.
-/

namespace Folio

open Result

/-! ## Lists with one more element -/

section

variable {ε α β : Type}

/-- A step that leaves an element alone leaves it in its place. -/
theorem mapM_insertIdx {f : α → Except ε α} {a : α} (h : f a = .ok a) (i : Nat) (as : List α) :
    (as.insertIdx i a).mapM f = (·.insertIdx i a) <$> as.mapM f := by
  induction as generalizing i with
  | nil =>
    cases i with
    | zero =>
      rw [List.insertIdx_zero, List.mapM_cons, h, ok_bind]
      rfl
    | succ i => rfl
  | cons b as ih =>
    cases i with
    | zero =>
      rw [List.insertIdx_zero, List.mapM_cons, h, ok_bind]
      rfl
    | succ i =>
      rw [List.insertIdx_succ_cons, List.mapM_cons, List.mapM_cons, ih]
      cases f b with
      | error e => rfl
      | ok b => cases as.mapM f <;> rfl

theorem filterMap_insertIdx {f : α → Option β} {a : α} (h : f a = none) (i : Nat) (as : List α) :
    (as.insertIdx i a).filterMap f = as.filterMap f := by
  induction as generalizing i with
  | nil => cases i <;> simp [h]
  | cons b as ih =>
    cases i with
    | zero => rw [List.insertIdx_zero, List.filterMap_cons, h]
    | succ i => simp only [List.insertIdx_succ_cons, List.filterMap_cons, ih]

/-- Of a list that an element has been inserted into, a filter finds that one only, if it finds no
    other. -/
theorem filter_insertIdx_eq_singleton {p : α → Bool} {a : α} {as : List α} (ha : p a = true)
    (has : ∀ b ∈ as, p b = false) {i : Nat} (hi : i ≤ as.length) :
    (as.insertIdx i a).filter p = [a] := by
  have hnone : as.filter p = [] := List.filter_eq_nil_iff.2 fun b hb => by simp [has b hb]
  have hperm := (List.perm_insertIdx a as hi).filter p
  rw [List.filter_cons_of_pos ha, hnone] at hperm
  exact List.perm_singleton.1 hperm

end

/-! ## Errors that move -/

/-- The same error in a list in which the operations have got other indices. -/
def EngineError.moved (place : Nat → Nat) : EngineError → EngineError
  | .duplicatePrimary resource operation directive =>
    .duplicatePrimary resource (place operation) directive
  | .unknownDirective resource operation directive =>
    .unknownDirective resource (place operation) directive
  | e => e

/-- The index of an operation once another one has been inserted at an index. -/
def placeAfterInsert (i n : Nat) : Nat := if n < i then n else n + 1

namespace Queues

variable {resource : String} {place : Nat → Nat} {op : Operation} {ops : List Operation}
  {e : EngineError}

/-- Keys are refused in the same way wherever their operation stands. -/
theorem directivesOf_moved {i : Nat} {seen : Bool} {keys : List String}
    (h : directivesOf resource i seen keys = .error e) :
    directivesOf resource (place i) seen keys = .error (e.moved place) := by
  induction keys generalizing seen with
  | nil => cases h
  | cons key keys ih =>
    rw [directivesOf] at h ⊢
    split at h
    · exact ih h
    · cases h
      rfl
    · cases seen with
      | true =>
        cases h
        rfl
      | false => exact bind_pure_eq_error.2 (ih (bind_pure_eq_error.1 h))
    · exact bind_pure_eq_error.2 (ih (bind_pure_eq_error.1 h))

/-- A list is refused in the same way wherever it starts. -/
theorem collect_moved {i i' : Nat} (hplace : ∀ n, place (i + n) = i' + n)
    (h : collect resource i ops = .error e) : collect resource i' ops = .error (e.moved place) := by
  induction ops generalizing i i' with
  | nil => cases h
  | cons op ops ih =>
    rw [collect] at h ⊢
    have hfirst : place i = i' := hplace 0
    rcases bind_eq_error.1 h with h | ⟨ds, hds, h⟩
    · rw [← hfirst, directivesOf_moved h]
      rfl
    · rw [directivesOf_fields_eq_ok.2 (directivesOf_fields_eq_ok.1 hds), ok_bind]
      refine bind_pure_eq_error.2 (ih (fun n => ?_) (bind_pure_eq_error.1 h))
      rw [Nat.add_assoc, hplace, Nat.add_assoc]

/-- A list that is refused is so for the same fault when an operation without faults is inserted. -/
theorem collect_insertIdx_error (hop : op.WellKeyed) {k i : Nat}
    (h : collect resource k ops = .error e) :
    collect resource k (ops.insertIdx i op) = .error (e.moved (placeAfterInsert (k + i))) := by
  induction ops generalizing k i with
  | nil => cases h
  | cons op' ops ih =>
    cases i with
    | zero =>
      rw [List.insertIdx_zero, collect, directivesOf_fields_eq_ok.2 ⟨hop, rfl⟩, ok_bind]
      refine bind_pure_eq_error.2 (collect_moved (fun n => ?_) h)
      rw [placeAfterInsert, if_neg (by omega), Nat.add_right_comm]
    | succ i =>
      rw [List.insertIdx_succ_cons, collect]
      rw [collect] at h
      rcases bind_eq_error.1 h with h | ⟨ds, hds, h⟩
      · have hplace : placeAfterInsert (k + (i + 1)) k = k := if_pos (by omega)
        have hmoved := @directivesOf_moved _ (placeAfterInsert (k + (i + 1))) _ _ _ _ h
        rw [hplace] at hmoved
        rw [hmoved]
        rfl
      · rw [hds, ok_bind, Nat.add_comm i 1, ← Nat.add_assoc]
        exact bind_pure_eq_error.2 (ih (bind_pure_eq_error.1 h))

/-- Inserting an operation without faults changes no more in what a list is refused for than the
    place of the fault. -/
theorem classify_insertIdx_error (hop : op.WellKeyed) (i : Nat)
    (h : classify resource ops = .error e) :
    classify resource (ops.insertIdx i op) = .error (e.moved (placeAfterInsert i)) := by
  have hcollect := collect_insertIdx_error (i := i) hop (bind_pure_eq_error.1 h)
  rw [Nat.zero_add] at hcollect
  exact bind_pure_eq_error.2 hcollect

theorem classify_insertIdx_ok (hop : op.WellKeyed) (i : Nat) {q : Queues}
    (h : classify resource ops = .ok q) :
    ∃ q', classify resource (ops.insertIdx i op) = .ok q' := by
  refine ⟨_, classify_eq_ok.2 ⟨fun op' hop' => ?_, rfl⟩⟩
  rcases List.eq_or_mem_of_mem_insertIdx hop' with rfl | hop'
  · exact hop
  · exact (classify_eq_ok.1 h).1 op' hop'

theorem collect_append_error (rest : List Operation) {k : Nat}
    (h : collect resource k ops = .error e) : collect resource k (ops ++ rest) = .error e := by
  induction ops generalizing k with
  | nil => cases h
  | cons op ops ih =>
    rw [List.cons_append, collect]
    rw [collect] at h
    rcases bind_eq_error.1 h with h | ⟨ds, hds, h⟩
    · rw [h]
      rfl
    · rw [hds, ok_bind]
      exact bind_pure_eq_error.2 (ih (bind_pure_eq_error.1 h))

/-- What is put behind a list does not move its faults. -/
theorem classify_append_error (rest : List Operation) (h : classify resource ops = .error e) :
    classify resource (ops ++ rest) = .error e :=
  bind_pure_eq_error.2 (collect_append_error rest (bind_pure_eq_error.1 h))

end Queues

/-! ## Operations without effect -/

namespace Operation

/-- An operation that adds nothing to an evaluation: of all directives it can only have `in`, and
    there is nothing in it that an output looks at. -/
structure Idle (op : Operation) : Prop where
  keys : ∀ key ∈ op.keys, key = "in" ∨ key ∈ Directive.auxiliary
  data : op.data = none
  asValue : op.asValue = none

/-- The operation that has nothing but an output, of some mode. -/
def reducing (mode : Json) : Operation := { directives := [("out", mode)] }

variable {op : Operation}

theorem Idle.eq_input (h : op.Idle) {d : Directive} (hd : d ∈ op.runs) : d = .input := by
  obtain ⟨field, hfield, hname⟩ := List.mem_filterMap.1 hd
  rcases h.keys field.1 (List.mem_map_of_mem hfield) with hinput | hauxiliary
  · rw [hinput] at hname
    exact (Option.some.inj ((Directive.ofName?_name .input).symm.trans hname)).symm
  · rw [Directive.ofName?_eq_some.1 hname] at hauxiliary
    exact absurd hauxiliary (Directive.name_notMem_auxiliary d)

theorem Idle.quiet (h : op.Idle) : op.Quiet := by
  refine quiet_of_runs fun d hd => ?_
  obtain rfl := h.eq_input hd
  exact ⟨rfl, rfl⟩

theorem Idle.wellKeyed (h : op.Idle) : op.WellKeyed := by
  constructor
  · intro field hfield hunknown
    obtain ⟨hdirective, hauxiliary⟩ := Directive.classify_eq_unknown.1 hunknown
    rcases h.keys field.1 (List.mem_map_of_mem hfield) with hinput | hkey
    · exact hdirective .input hinput.symm
    · exact hauxiliary hkey
  · rw [h.quiet.primaries]
    exact Nat.zero_le 1

theorem Idle.no_out (h : op.Idle) : op.argument "out" = none := by
  rw [← Option.not_isSome_iff_eq_none]
  intro hout
  have hinput := h.eq_input (mem_runs (d := .output).2 hout)
  cases hinput

theorem quiet_reducing (mode : Json) : (reducing mode).Quiet := ⟨rfl, rfl⟩

theorem wellKeyed_reducing (mode : Json) : (reducing mode).WellKeyed :=
  ⟨List.forall_mem_singleton.2 (show Directive.Kind.classify "out" ≠ .unknown by decide),
    Nat.zero_le 1⟩

end Operation

namespace Direct

open Operation

variable {host : Host} {resource : String} {seed : Json} {depth : Nat} {op : Operation}
  {ops : List Operation}

/-- An idle operation adds nothing to the output. -/
theorem output_insertIdx (h : op.Idle) (i : Nat) (ops : List Operation) :
    output (ops.insertIdx i op) = output ops := by
  have hdata := filterMap_insertIdx h.data i ops
  have hreduction := reduction_congr hdata (filterMap_insertIdx h.asValue i ops)
  have hout : (ops.insertIdx i op).filter (fun op => (op.argument "out").isSome) =
      ops.filter fun op => (op.argument "out").isSome := by
    rw [← List.filterMap_eq_filter]
    exact filterMap_insertIdx (by simp [Option.guard, h.no_out]) i ops
  rw [output, output, hout, hdata, hreduction]

/-- The only output of a list may stand anywhere. -/
theorem output_insertIdx_reducing (mode : Json) (h : ∀ op ∈ ops, op.argument "out" = none) {i : Nat}
    (hi : i ≤ ops.length) :
    output (ops.insertIdx i (reducing mode)) = reduction ops (reducing mode) := by
  have hreduction : reduction (ops.insertIdx i (reducing mode)) = reduction ops :=
    reduction_congr (filterMap_insertIdx rfl i ops) (filterMap_insertIdx rfl i ops)
  rw [output, hreduction, filter_insertIdx_eq_singleton rfl (fun op hop => by simp [h op hop]) hi,
    List.mapM_cons, List.mapM_nil]
  cases reduction ops (reducing mode) <;> rfl

/-- The value of a list that a quiet operation has been inserted into: when all others have got
    their data it is where it was put. -/
theorem body_insertIdx (h : op.Quiet) (i : Nat) (ops : List Operation) :
    body host resource seed depth (ops.insertIdx i op) = (do
      let carried ← ops.mapM (carry host resource seed depth)
      let done ← carried.mapM (produce host resource seed depth)
      (output (done.insertIdx i op)).mapError .refused) := by
  rw [body, mapM_insertIdx (h.carry_eq host resource seed depth)]
  cases ops.mapM (carry host resource seed depth) with
  | error stop => rfl
  | ok carried =>
    change (carried.insertIdx i op).mapM (produce host resource seed depth) >>=
      (fun done => (output done).mapError Stop.refused) = _
    rw [mapM_insertIdx (h.produce_eq host resource seed depth), ok_bind]
    cases carried.mapM (produce host resource seed depth) <;> rfl

theorem body_insertIdx_idle (h : op.Idle) (i : Nat) (ops : List Operation) :
    body host resource seed depth (ops.insertIdx i op) = body host resource seed depth ops := by
  rw [body_insertIdx h.quiet, body]
  simp only [output_insertIdx h]

/-- What the steps of an evaluation make of a list without `out` has none either. -/
theorem body_congr_of_no_out {f g : List Operation → Except EngineError Json}
    (h : ∀ op ∈ ops, op.argument "out" = none)
    (hfg : ∀ done : List Operation, done.length = ops.length →
      (∀ op ∈ done, op.argument "out" = none) → f done = g done) :
    (do
      let carried ← ops.mapM (carry host resource seed depth)
      let done ← carried.mapM (produce host resource seed depth)
      (f done).mapError Stop.refused) = (do
      let carried ← ops.mapM (carry host resource seed depth)
      let done ← carried.mapM (produce host resource seed depth)
      (g done).mapError Stop.refused) := by
  cases hcarried : ops.mapM (carry host resource seed depth) with
  | error stop => rfl
  | ok carried =>
    rw [ok_bind, ok_bind]
    cases hdone : carried.mapM (produce host resource seed depth) with
    | error stop => rfl
    | ok done =>
      have hsame := (map_directives_of_produce hdone).trans (map_directives_of_carry hcarried)
      have hlength : done.length = ops.length := by simpa using congrArg List.length hsame
      rw [ok_bind, ok_bind, hfg done hlength]
      exact (forall_directives (fun fields => Json.Fields.get? fields "out" = none) hsame).2 h

/-- Wherever the only output of a list stands, it reduces the data of all operations. -/
theorem body_insertIdx_reducing (mode : Json) (h : ∀ op ∈ ops, op.argument "out" = none) {i k : Nat}
    (hi : i ≤ ops.length) (hk : k ≤ ops.length) :
    body host resource seed depth (ops.insertIdx i (reducing mode)) =
      body host resource seed depth (ops.insertIdx k (reducing mode)) := by
  rw [body_insertIdx (quiet_reducing mode), body_insertIdx (quiet_reducing mode)]
  refine body_congr_of_no_out h fun done hlength hnone => ?_
  rw [output_insertIdx_reducing mode hnone (hlength ▸ hi),
    output_insertIdx_reducing mode hnone (hlength ▸ hk)]

/-- Joining texts at the end is what happens without it. -/
theorem body_append_reducing {mode : Json} (hmode : OutputMode.ofArgument (some mode) = .ok .raw)
    (h : ∀ op ∈ ops, op.argument "out" = none) :
    body host resource seed depth (ops ++ [reducing mode]) =
      body host resource seed depth ops := by
  -- The steps before the output keep the number of operations: the last one stays the last.
  rw [← List.insertIdx_length_self, body_insertIdx (quiet_reducing mode), body]
  refine body_congr_of_no_out h fun done hlength hnone => ?_
  have hargument : (reducing mode).argument "out" = some mode := rfl
  rw [← hlength, output_insertIdx_reducing mode hnone (Nat.le_refl _), output_of_no_out hnone,
    reduction, hargument, hmode, ok_bind, reduce, joinTexts_filterMap]

end Direct

namespace Context

open Operation

variable {host : Host} {ctx : Context} {op : Operation} {q : Queues}

/-- The context over the list that an operation has been inserted into. -/
def insertAt (ctx : Context) (i : Nat) (op : Operation) : Context :=
  { ctx with operations := ctx.operations.insertIdx i op }

theorem Fresh.insertAt (h : ctx.Fresh) (hop : op.Quiet) (i : Nat) : (ctx.insertAt i op).Fresh := by
  refine ⟨h.marks, fun op' hop' => ?_⟩
  rcases List.eq_or_mem_of_mem_insertIdx hop' with rfl | hop'
  · exact hop.startable
  · exact h.startable op' hop'

/-- The value of an accepted list that a quiet operation has been inserted into. -/
theorem process_insertAt_fst (hfresh : ctx.Fresh) (hop : op.Quiet) (hkeyed : op.WellKeyed)
    (hclassify : Queues.classify ctx.name ctx.operations = .ok q) (i : Nat) (j : Journal) :
    ((ctx.insertAt i op).process host j).1 =
      (Direct.body host ctx.name ctx.seed ctx.depth (ctx.operations.insertIdx i op)).mapError
        Stop.failure := by
  obtain ⟨q', hq'⟩ := Queues.classify_insertIdx_ok hkeyed i hclassify
  rw [(hfresh.insertAt hop i).process_fst]
  exact congrArg _ (Direct.eval_ok hq')

/-- Its evaluation does the same on the way there. -/
theorem process_insertAt_snd (hfresh : ctx.Fresh) (hop : op.Quiet) (hkeyed : op.WellKeyed)
    (hclassify : Queues.classify ctx.name ctx.operations = .ok q) (i : Nat) (j : Journal) :
    ((ctx.insertAt i op).process host j).2.2 =
      (ctx.opened.walk host ctx.operations j).2.close ctx.id
        ((ctx.insertAt i op).process host j).1.toOption := by
  obtain ⟨q', hq'⟩ := Queues.classify_insertIdx_ok hkeyed i hclassify
  rw [process_walk (hfresh.insertAt hop i) hq']
  have hwalk := @walk_congr ctx.opened (ctx.insertAt i op).opened rfl rfl host
  rw [hwalk, insertAt, walk_insertIdx_snd hop]

/-- A list that is refused is refused for the same fault, in its new place. -/
theorem process_insertAt_error (hkeyed : op.WellKeyed) {e : EngineError}
    (hclassify : Queues.classify ctx.name ctx.operations = .error e) (i : Nat) (j : Journal) :
    (ctx.insertAt i op).process host j =
      (.error (.ofEngine (e.moved (placeAfterInsert i))), ctx.insertAt i op, j) :=
  (process_eq host (ctx.insertAt i op) j).trans
    (processVia_error (Queues.classify_insertIdx_error hkeyed i hclassify) j)

/-- Where an idle operation is inserted an accepted list is evaluated as without it. -/
theorem process_insertAt_idle (hfresh : ctx.Fresh) (hop : op.Idle)
    (hclassify : Queues.classify ctx.name ctx.operations = .ok q) (i : Nat) (j : Journal) :
    ((ctx.insertAt i op).process host j).1 = (ctx.process host j).1 ∧
      ((ctx.insertAt i op).process host j).2.2 = (ctx.process host j).2.2 := by
  have hresult : ((ctx.insertAt i op).process host j).1 = (ctx.process host j).1 := by
    rw [process_insertAt_fst hfresh hop.quiet hop.wellKeyed hclassify,
      Direct.body_insertIdx_idle hop, hfresh.process_fst, Direct.eval_ok hclassify]
  refine ⟨hresult, ?_⟩
  rw [process_insertAt_snd hfresh hop.quiet hop.wellKeyed hclassify, hresult,
    process_walk hfresh hclassify]

/-- An output that joins texts may be put behind a list without one. -/
theorem process_insertAt_length (hfresh : ctx.Fresh) {mode : Json}
    (hmode : OutputMode.ofArgument (some mode) = .ok .raw)
    (hout : ∀ op ∈ ctx.operations, op.argument "out" = none) (j : Journal) :
    ((ctx.insertAt ctx.operations.length (reducing mode)).process host j).1 =
        (ctx.process host j).1 ∧
      ((ctx.insertAt ctx.operations.length (reducing mode)).process host j).2.2 =
        (ctx.process host j).2.2 := by
  cases hclassify : Queues.classify ctx.name ctx.operations with
  | error e =>
    -- What is put behind the list has no part in what it is refused for.
    have hclassify' : Queues.classify (ctx.insertAt ctx.operations.length (reducing mode)).name
        (ctx.insertAt ctx.operations.length (reducing mode)).operations = .error e := by
      rw [insertAt, List.insertIdx_length_self]
      exact Queues.classify_append_error _ hclassify
    rw [process_eq, processVia_error hclassify', process_eq, processVia_error hclassify]
    exact ⟨rfl, rfl⟩
  | ok q =>
    have hresult : ((ctx.insertAt ctx.operations.length (reducing mode)).process host j).1 =
        (ctx.process host j).1 := by
      rw [process_insertAt_fst hfresh (quiet_reducing mode) (wellKeyed_reducing mode) hclassify,
        List.insertIdx_length_self, Direct.body_append_reducing hmode hout, hfresh.process_fst,
        Direct.eval_ok hclassify]
    refine ⟨hresult, ?_⟩
    rw [process_insertAt_snd hfresh (quiet_reducing mode) (wellKeyed_reducing mode) hclassify,
      hresult, process_walk hfresh hclassify]

/-- The only output of a list may stand anywhere. -/
theorem process_insertAt_reducing (hfresh : ctx.Fresh) (mode : Json)
    (hout : ∀ op ∈ ctx.operations, op.argument "out" = none) {i k : Nat}
    (hi : i ≤ ctx.operations.length) (hk : k ≤ ctx.operations.length) (j : Journal) :
    let run (i : Nat) := (ctx.insertAt i (reducing mode)).process host j
    (run i).1.toOption = (run k).1.toOption ∧ (run i).2.2 = (run k).2.2 := by
  intro run
  have hquiet := quiet_reducing mode
  have hkeyed := wellKeyed_reducing mode
  cases hclassify : Queues.classify ctx.name ctx.operations with
  | error e =>
    have hrun (i : Nat) : run i = _ := process_insertAt_error hkeyed hclassify i j
    rw [hrun, hrun]
    exact ⟨rfl, rfl⟩
  | ok q =>
    have hresult : (run i).1 = (run k).1 := by
      rw [process_insertAt_fst hfresh hquiet hkeyed hclassify,
        process_insertAt_fst hfresh hquiet hkeyed hclassify,
        Direct.body_insertIdx_reducing mode hout hi hk]
    refine ⟨congrArg _ hresult, ?_⟩
    rw [process_insertAt_snd hfresh hquiet hkeyed hclassify,
      process_insertAt_snd hfresh hquiet hkeyed hclassify, hresult]

/-- Where inputs and outputs stand does not matter. An idle operation may be inserted anywhere: a
    list that is accepted has the same result and leaves the same journal as without it, and one
    that is refused is refused for the same fault, in its new place. An output that joins texts may
    be put behind a list without one. And wherever the only output of a list stands, as long as it
    is alone in its operation, the list has the same value and leaves the same journal, or has none
    in all places. -/
theorem process_placement (host : Host) (id depth : Nat) (name : String) (seed : Json)
    {ops : List Operation} (hnew : ∀ op ∈ ops, op.executed = false) (j : Journal) :
    let run (ops : List Operation) :=
      ({ id, depth, name, seed, operations := ops } : Context).process host j
    (∀ op : Operation, op.Idle → ∀ i,
      (run (ops.insertIdx i op)).2.2 = (run ops).2.2 ∧
      (∀ q, Queues.classify name ops = .ok q → (run (ops.insertIdx i op)).1 = (run ops).1) ∧
      ∀ e, Queues.classify name ops = .error e → (run ops).1 = .error (.ofEngine e) ∧
        (run (ops.insertIdx i op)).1 = .error (.ofEngine (e.moved (placeAfterInsert i)))) ∧
    ((∀ op ∈ ops, op.argument "out" = none) →
      (∀ mode ∈ [Json.str "raw", .str "string", .str "", .null],
        (run (ops ++ [reducing mode])).1 = (run ops).1 ∧
        (run (ops ++ [reducing mode])).2.2 = (run ops).2.2) ∧
      ∀ mode, ∀ i ≤ ops.length, ∀ k ≤ ops.length,
        (run (ops.insertIdx i (reducing mode))).1.toOption =
          (run (ops.insertIdx k (reducing mode))).1.toOption ∧
        (run (ops.insertIdx i (reducing mode))).2.2 =
          (run (ops.insertIdx k (reducing mode))).2.2) := by
  intro run
  let ctx : Context := { id, depth, name, seed, operations := ops }
  have hfresh : ctx.Fresh := ⟨rfl, fun op hop _ => hnew op hop⟩
  refine ⟨fun op hop i => ?_, fun hout => ⟨fun mode hmode => ?_, fun mode i hi k hk => ?_⟩⟩
  · cases hclassify : Queues.classify name ops with
    | error e =>
      have hrun : run ops = (.error (.ofEngine e), ctx, j) :=
        (process_eq host ctx j).trans (processVia_error hclassify j)
      have hinsert : run (ops.insertIdx i op) = _ :=
        @process_insertAt_error host ctx op hop.wellKeyed e hclassify i j
      rw [hrun, hinsert]
      refine ⟨rfl, nofun, fun e he => ?_⟩
      cases he
      exact ⟨rfl, rfl⟩
    | ok q =>
      obtain ⟨hresult, hjournal⟩ := process_insertAt_idle hfresh hop hclassify i j
      exact ⟨hjournal, fun _ _ => hresult, nofun⟩
  · have hraw : OutputMode.ofArgument (some mode) = .ok .raw := by
      simp only [List.mem_cons, List.not_mem_nil, or_false] at hmode
      rcases hmode with rfl | rfl | rfl | rfl <;> rfl
    rw [← List.insertIdx_length_self]
    exact process_insertAt_length hfresh hraw hout j
  · exact process_insertAt_reducing hfresh mode hout hi hk j

/-- An input moves the fault behind it. An output by property may stand in front of the key that it
    looks for, and of the data. -/
theorem process_placement_property :
    let faulty : List Operation :=
      [{ directives := [("raw", .null)] }, { directives := [("rav", .null)] }]
    let idle : Operation := { directives := [("in", .str "raw"), ("primaryCounter", .null)] }
    let ops : List Operation :=
      [{ directives := [("as", .null)] }, { directives := [("raw", .obj [("title", .str "a")])] }]
    let run (ops : List Operation) :=
      (root "page" (.str "title") ops).process .bare ⟨.root "page", [], []⟩
    (∀ op ∈ faulty, op.executed = false) ∧ idle.Idle ∧
      (run (faulty.insertIdx 1 idle)).1 = .error (.ofEngine (.unknownDirective "page" 2 "rav")) ∧
      (∀ op ∈ ops, op.executed = false) ∧ (∀ op ∈ ops, op.argument "out" = none) ∧
      (run (ops.insertIdx 0 (reducing (.str "property")))).1.toOption = some (.str "a") := by
  intro faulty idle ops run
  have hfaulty : ∀ op ∈ faulty, op.executed = false := by decide
  have hidle : idle.Idle := ⟨by decide, rfl, rfl⟩
  have hops : ∀ op ∈ ops, op.executed = false := by decide
  have hout : ∀ op ∈ ops, op.argument "out" = none := by decide
  have hclassify : Queues.classify "page" faulty = .error (.unknownDirective "page" 1 "rav") := by
    decide
  obtain ⟨hinsert, -⟩ :=
    process_placement .bare 0 0 "page" (.str "title") hfaulty ⟨.root "page", [], []⟩
  obtain ⟨-, hmove⟩ := process_placement .bare 0 0 "page" (.str "title") hops ⟨.root "page", [], []⟩
  have hlast : (run (ops.insertIdx 2 (reducing (.str "property")))).1.toOption =
      some (.str "a") := by
    decide +kernel
  refine ⟨hfaulty, hidle, ((hinsert idle hidle 1).2.2 _ hclassify).2, hops, hout, ?_⟩
  exact ((hmove hout).2 (.str "property") 0 (by decide) 2 (by decide)).1.trans hlast

end Context

end Folio
