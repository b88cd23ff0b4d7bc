import Folio.Proofs.Classification

/-!
# Phases, operation by operation

A phase runs the actions of a queue, and what they compute is written back by index once all of them
have succeeded. As the queues list their directives operation by operation, a phase can as well be
read as a walk through the list: each operation in turn is replaced by what it has become
(`Operation.visit`), and no index is needed.

* `Context.runQueue`: a phase that writes each outcome at once, to a context apart;
* `Context.runPhases_secondary`: the secondary phase replaces each operation by one that carries the
  results of `with` and `as` (`Context.carry`);
* `Context.runPhases_primary`: the primary phase replaces each operation by one that holds its data
  (`Context.produce`), provided that nothing has been started before; at least its first directive
  stays marked;
* `Context.runPhases_output`: the last output counts;
* `Context.processVia_ok`: how a whole evaluation goes, phase by phase.
-/

namespace Folio

open Result

/-- Visits the operations of a list in order, each of which may be replaced, up to the first
    failure. -/
def Operation.visit (f : Operation → Journal → Except Failure Operation × Journal) :
    List Operation → Journal → Except Failure (List Operation) × Journal
  | [], j => (.ok [], j)
  | op :: rest, j =>
    andThen (f op j) fun op j => andThen (visit f rest j) fun rest j => (.ok (op :: rest), j)

/-- A visit that succeeds has gone through each step. -/
theorem Operation.visit_cons_eq_ok {f : Operation → Journal → Except Failure Operation × Journal}
    {op : Operation} {ops ops' : List Operation} {j j' : Journal} :
    visit f (op :: ops) j = (.ok ops', j') ↔
      ∃ op' rest j₁, f op j = (.ok op', j₁) ∧ visit f ops j₁ = (.ok rest, j') ∧
        ops' = op' :: rest := by
  rw [visit, andThen_eq]
  constructor
  · rintro ⟨op', j₁, hop, h⟩
    obtain ⟨rest, j₂, hrest, h⟩ := andThen_eq.1 h
    cases h
    exact ⟨op', rest, j₁, hop, hrest, rfl⟩
  · rintro ⟨op', rest, j₁, hop, hrest, rfl⟩
    exact ⟨op', j₁, hop, andThen_eq.2 ⟨rest, j', hrest, rfl⟩⟩

/-- What no step of a visit changes is as it was after the visit. -/
theorem Operation.visit_frame {α β : Type}
    {f : Operation → Journal → Except Failure Operation × Journal} {g : Operation → α}
    {t : Journal → β} (hstep : ∀ op j op' j', f op j = (.ok op', j') → g op' = g op ∧ t j' = t j)
    {ops ops' : List Operation} {j j' : Journal} (h : visit f ops j = (.ok ops', j')) :
    ops'.map g = ops.map g ∧ t j' = t j := by
  induction ops generalizing ops' j with
  | nil =>
    cases h
    exact ⟨rfl, rfl⟩
  | cons op ops ih =>
    obtain ⟨op', rest, j₁, hop, hrest, rfl⟩ := visit_cons_eq_ok.1 h
    obtain ⟨hg, ht⟩ := hstep op j op' j₁ hop
    obtain ⟨hgs, hts⟩ := ih hrest
    exact ⟨by rw [List.map_cons, List.map_cons, hg, hgs], hts.trans ht⟩

/-- The marks after some directives have been started, one after the other. -/
def Marks.start (m : Marks) (q : List Queued) : Marks :=
  ⟨(q.map Queued.index).reverse ++ m.marked⟩

theorem Marks.start_start (m : Marks) (xs ys : List Queued) :
    (m.start xs).start ys = m.start (xs ++ ys) := by
  simp [start]

/-- A result together with the progress it leaves, where only the journal has changed. -/
def Progress.lift {α : Type} (p : Progress) (r : Except Failure α × Journal) :
    Except Failure α × Progress :=
  (r.1, { p with journal := r.2 })

theorem Progress.lift_andThen {α β : Type} (p : Progress) (r : Except Failure α × Journal)
    (k : α → Journal → Except Failure β × Journal) :
    p.lift (andThen r k) = andThen (p.lift r) fun a q => q.lift (k a q.journal) := by
  rcases r with ⟨_ | _, _⟩ <;> rfl

namespace Context

variable {host : Host} {nested : Evaluator} {ctx : Context}

/-- Runs a queue in a context and writes each outcome at once, to a context apart. -/
def runQueue (host : Host) (nested : Evaluator) (ctx : Context) :
    List Queued → Context → Progress → Except Failure Context × Progress
  | [], c, p => (.ok c, p)
  | d :: rest, c, p =>
    andThen (ctx.dispatch host nested d p) fun o p => runQueue host nested ctx rest (c.applyOne o) p

theorem runPhase_cons (d : Queued) (q : List Queued) (p : Progress) :
    ctx.runPhase host nested (d :: q) p =
      andThen (ctx.dispatch host nested d p) fun o p =>
        andThen (ctx.runPhase host nested q p) fun os p => (.ok (o :: os), p) := by
  rw [runPhase]
  rcases ctx.dispatch host nested d p with ⟨_ | o, p'⟩
  · rfl
  · simp only [andThen_ok]
    rcases ctx.runPhase host nested q p' with ⟨_ | os, p''⟩ <;> rfl

/-- The actions of a phase read the context as it was before, so it makes no difference whether
    their outcomes are written one by one or all at the end. -/
theorem runPhase_apply (q : List Queued) (c : Context) (p : Progress) :
    andThen (ctx.runPhase host nested q p) (fun os p => (.ok (c.apply os), p)) =
      runQueue host nested ctx q c p := by
  induction q generalizing c p with
  | nil => rfl
  | cons d q ih =>
    rw [runPhase_cons, runQueue, andThen_assoc]
    congr 1
    funext o p
    rw [andThen_assoc, ← ih]
    rfl

theorem runQueue_append (xs ys : List Queued) (c : Context) (p : Progress) :
    runQueue host nested ctx (xs ++ ys) c p =
      andThen (runQueue host nested ctx xs c p) fun c p => runQueue host nested ctx ys c p := by
  induction xs generalizing c p with
  | nil => rfl
  | cons d xs ih => simp only [List.cons_append, runQueue, ih, andThen_assoc]

/-- The operation that stands behind a list of others is found by their number. -/
theorem operation_eq {done rest : List Operation} {op : Operation}
    (h : ctx.operations = done ++ op :: rest) : ctx.operation done.length = op := by
  simp [operation, h]

theorem modify_length {α : Type} (done rest : List α) (a : α) (f : α → α) :
    (done ++ a :: rest).modify done.length f = done ++ f a :: rest := by
  induction done with
  | nil => rfl
  | cons d done ih => simpa using ih

/-! ## The secondary phase -/

theorem runNested_congr {op op' : Operation} (h : op.directives = op'.directives) (j : Journal) :
    runNested nested ctx op j = runNested nested ctx op' j := by
  simp only [runNested, Operation.argument, h]

/-- Runs secondary directives of an operation, and writes to it what they compute. -/
def carryEach (nested : Evaluator) (ctx : Context) :
    List Secondary → Operation → Journal → Except Failure Operation × Journal
  | [], op, j => (.ok op, j)
  | .key :: rest, op, j =>
    carryEach nested ctx rest { op with asValue := some (ctx.input.getD .null) } j
  | .nested :: rest, op, j =>
    andThen (runNested nested ctx op j) fun v j =>
      carryEach nested ctx rest { op with withValue := some v } j

/-- The operation with the results of its secondary directives. -/
def carry (nested : Evaluator) (ctx : Context) (op : Operation) (j : Journal) :
    Except Failure Operation × Journal :=
  carryEach nested ctx op.secondaries op j

/-- Secondary directives that succeed evaluate the nested list if there is one, and the operation
    carries its value. -/
theorem carryEach_ok {ss : List Secondary} {op op' : Operation} {j j' : Journal} (hss : ss.Nodup)
    (h : carryEach nested ctx ss op j = (.ok op', j')) :
    op'.directives = op.directives ∧
      if .nested ∈ ss then
        ∃ v, runNested nested ctx op j = (.ok v, j') ∧ op'.withValue = some v
      else j' = j ∧ op'.withValue = op.withValue := by
  induction ss generalizing op j with
  | nil =>
    cases h
    exact ⟨rfl, rfl, rfl⟩
  | cons s ss ih =>
    rw [List.nodup_cons] at hss
    cases s with
    | key =>
      obtain ⟨hdirectives, hvalue⟩ := ih hss.2 h
      refine ⟨hdirectives, ?_⟩
      simp only [List.mem_cons, reduceCtorEq, false_or]
      -- A nested list depends on the directives of the operation alone.
      exact hvalue
    | nested =>
      obtain ⟨v, j₁, hv, h⟩ := andThen_eq.1 h
      obtain ⟨hdirectives, hvalue⟩ := ih hss.2 h
      rw [if_neg hss.1] at hvalue
      obtain ⟨rfl, hvalue⟩ := hvalue
      refine ⟨hdirectives, ?_⟩
      rw [if_pos List.mem_cons_self]
      exact ⟨v, hv, hvalue⟩

/-- The secondary directives of one operation, run by the phase and written back. -/
theorem runQueue_carryEach {c : Context} {done rest : List Operation} {op : Operation}
    (ss : List Secondary) (hctx : (ctx.operation done.length).directives = op.directives)
    (hc : c.operations = done ++ op :: rest) (p : Progress) :
    runQueue host nested ctx ((ss.map .secondary).map (⟨done.length, ·⟩)) c p =
      andThen (p.lift (carryEach nested ctx ss op p.journal)) fun op p =>
        (.ok { c with operations := done ++ op :: rest }, p) := by
  induction ss generalizing c op p with
  | nil => simp [runQueue, carryEach, Progress.lift, ← hc]
  | cons s ss ih =>
    -- The phase sees the operation as it was, but a nested list depends on its directives alone.
    cases s with
    | key =>
      have hdispatch : ctx.dispatch host nested ⟨done.length, .secondary .key⟩ p =
          (.ok (.key done.length (ctx.input.getD .null)), p) := rfl
      rw [List.map_cons, List.map_cons, runQueue, hdispatch, andThen_ok, carryEach,
        @ih _ { op with asValue := some (ctx.input.getD .null) } hctx
          (by rw [applyOne, hc, modify_length])]
      rfl
    | nested =>
      have hdispatch : ctx.dispatch host nested ⟨done.length, .secondary .nested⟩ p =
          andThen (p.lift (runNested nested ctx op p.journal)) fun v p =>
            (.ok (.nested done.length v), p) := by
        rw [dispatch, runNested_congr hctx]
        rcases runNested nested ctx op p.journal with ⟨_ | _, _⟩ <;> rfl
      rw [List.map_cons, List.map_cons, runQueue, hdispatch, carryEach, Progress.lift_andThen,
        andThen_assoc, andThen_assoc]
      congr 1
      funext v p
      rw [andThen_ok, @ih _ { op with withValue := some v } hctx
          (by rw [applyOne, hc, modify_length])]
      rfl

/-- The secondary phase, on the operations from some place on. -/
theorem runQueue_visit_carry {c : Context} {done done' rest : List Operation}
    (hctx : ctx.operations = done' ++ rest) (hc : c.operations = done ++ rest)
    (hlength : done'.length = done.length) (p : Progress) :
    runQueue host nested ctx
        (Queued.listing (fun op => op.secondaries.map .secondary) done.length rest) c p =
      andThen (p.lift (Operation.visit (ctx.carry nested) rest p.journal)) fun rest p =>
        (.ok { c with operations := done ++ rest }, p) := by
  induction rest generalizing c done done' p with
  | nil => simp [Queued.listing, runQueue, Operation.visit, Progress.lift, ← hc]
  | cons op rest ih =>
    have hop : (ctx.operation done.length).directives = op.directives := by
      rw [← hlength, operation_eq hctx]
    -- Once visited, an operation joins those in front, as it was and as it has become.
    have ih' (op' : Operation) (p : Progress) :=
      @ih { c with operations := done ++ op' :: rest } (done ++ [op']) (done' ++ [op])
        (by simp [hctx]) (by simp) (by simp [hlength]) p
    simp only [List.length_append, List.length_singleton, List.append_assoc,
      List.singleton_append] at ih'
    rw [Queued.listing, runQueue_append, runQueue_carryEach _ hop hc, Operation.visit,
      Progress.lift_andThen, andThen_assoc, andThen_assoc]
    congr 1
    funext op' p
    rw [andThen_ok, ih', Progress.lift_andThen, andThen_assoc]
    rfl

/-! ## The primary phase -/

/-- The operation with the data of its primary directive. -/
def produce (host : Host) (ctx : Context) (op : Operation) (j : Journal) :
    Except Failure Operation × Journal :=
  match op.primary? with
  | none => (.ok op, j)
  | some p =>
    andThen (runPrimary host ctx p op j) fun v j =>
      (.ok { op with data := some v, executed := true }, j)

theorem dispatch_primary {i : Nat} {op : Operation} {p : Progress} (hop : ctx.operation i = op)
    (hnew : op.executed = false) (hmark : p.marks.isMarked i = false) (directive : Primary) :
    ctx.dispatch host nested ⟨i, .primary directive⟩ p =
      andThen
        (({ p with marks := p.marks.start [⟨i, .primary directive⟩] } : Progress).lift
          (runPrimary host ctx directive op p.journal))
        fun v p => (.ok (.data i v), p) := by
  simp only [dispatch, startPrimary, hop, hnew, hmark, Bool.or_self, Bool.false_eq_true, if_false,
    Marks.tryMark]
  rcases runPrimary host ctx directive op p.journal with ⟨_ | _, _⟩ <;> rfl

/-- The primary phase, on the operations from some place on, all of which can be started. A front of
    the queue is marked: all of it, or up to the directive that has failed. -/
theorem runQueue_visit_produce {c : Context} {done done' rest : List Operation}
    (hctx : ctx.operations = done' ++ rest) (hc : c.operations = done ++ rest)
    (hlength : done'.length = done.length) (hkeyed : ∀ op ∈ rest, op.WellKeyed)
    (hnew : ∀ op ∈ rest, op.Startable) (p : Progress)
    (hmarks : ∀ i, done.length ≤ i → p.marks.isMarked i = false) :
    let q := Queued.listing (fun op => op.primaries.map .primary) done.length rest
    ∃ n, (q ≠ [] → 0 < n) ∧
      runQueue host nested ctx q c p =
        andThen
          (({ p with marks := p.marks.start (q.take n) } : Progress).lift
            (Operation.visit (ctx.produce host) rest p.journal))
          fun rest p => (.ok { c with operations := done ++ rest }, p) := by
  induction rest generalizing c done done' p with
  | nil => exact ⟨0, by simp [Queued.listing], by
      simp [Queued.listing, runQueue, Operation.visit, Progress.lift, Marks.start, ← hc]⟩
  | cons op rest ih =>
    have hop : ctx.operation done.length = op := hlength ▸ operation_eq hctx
    rw [List.forall_mem_cons] at hkeyed hnew
    have ih' (op' : Operation) (p : Progress) :=
      @ih { c with operations := done ++ op' :: rest } (done ++ [op']) (done' ++ [op])
        (by simp [hctx]) (by simp) (by simp [hlength]) hkeyed.2 hnew.2 p
    simp only [List.length_append, List.length_singleton, List.append_assoc,
      List.singleton_append] at ih'
    simp only [Queued.listing, hkeyed.1.primaries_eq, Operation.visit, produce]
    cases hprimary : op.primary? with
    | none =>
      obtain ⟨n, hn, hrun⟩ := ih' op p fun i hi => hmarks i (Nat.le_of_succ_le hi)
      refine ⟨n, hn, ?_⟩
      rw [← hc] at hrun
      simp only [Option.toList_none, List.map_nil, List.nil_append, hrun, andThen_ok,
        Progress.lift_andThen, andThen_assoc]
      rfl
    | some directive =>
      simp only [Option.toList_some, List.map_cons, List.map_nil, List.singleton_append, runQueue,
        dispatch_primary hop (hnew.1 (hprimary ▸ rfl)) (hmarks _ (Nat.le_refl _)), andThen_assoc]
      rcases runPrimary host ctx directive op p.journal with ⟨f | v, j⟩
      · exact ⟨1, fun _ => Nat.one_pos, rfl⟩
      · obtain ⟨n, -, hrun⟩ := ih' { op with data := some v, executed := true }
          ⟨p.marks.start [⟨done.length, .primary directive⟩], j⟩ fun i hi => by
            -- The mark is that of this operation, and all others stand behind it.
            have hne : i ≠ done.length := by omega
            simpa [Marks.isMarked, Marks.start, hne] using hmarks i (Nat.le_of_succ_le hi)
        refine ⟨n + 1, fun _ => Nat.succ_pos _, ?_⟩
        simp only [Progress.lift, andThen_ok, applyOne, hc, modify_length, hrun,
          List.take_succ_cons]
        rw [Marks.start_start]
        rcases Operation.visit (ctx.produce host) rest j with ⟨_ | _, _⟩ <;> rfl

/-! ## The input and the output phase -/

/-- A queue whose actions all have one outcome writes it. -/
theorem runQueue_same {o : Outcome} {p : Progress} {q : List Queued} (hq : q ≠ [])
    (hdispatch : ∀ d ∈ q, ctx.dispatch host nested d p = (.ok o, p))
    (happly : ∀ c : Context, (c.applyOne o).applyOne o = c.applyOne o) (c : Context) :
    runQueue host nested ctx q c p = (.ok (c.applyOne o), p) := by
  induction q generalizing c with
  | nil => exact absurd rfl hq
  | cons d q ih =>
    rw [List.forall_mem_cons] at hdispatch
    rw [runQueue, hdispatch.1, andThen_ok]
    cases q with
    | nil => rfl
    | cons d' q => rw [ih (List.cons_ne_nil _ _) hdispatch.2, happly]

theorem runQueue_input {c : Context} {ops : List Operation} (h : ops.any (.input ∈ ·.runs))
    (p : Progress) :
    runQueue host nested ctx (Queues.ofOperations ops).input c p =
      (.ok { c with input := some ctx.seed }, p) := by
  have hq : (Queues.ofOperations ops).input ≠ [] := by
    rw [ne_eq, ← List.isEmpty_iff, Queues.ofOperations, Queues.isEmpty_listing_runs, h]
    simp
  refine runQueue_same (o := .input ctx.seed) hq (fun d hd => ?_) (fun _ => rfl) c
  obtain ⟨_, _, _, _, hinput⟩ := Queued.mem_listing.1 hd
  rw [dispatch, of_decide_eq_true (List.mem_filter.1 hinput).2]

theorem dispatch_output {i : Nat} {op : Operation} {p : Progress} (hop : ctx.operation i = op) :
    ctx.dispatch host nested ⟨i, .output⟩ p =
      (Outcome.output <$> (ctx.runOutput op).mapError .ofEngine, p) := by
  rw [dispatch, hop]
  cases ctx.runOutput op <;> rfl

/-- The output phase, on the operations from some place on: the last output counts. -/
theorem runQueue_mapM_output {c : Context} {done rest : List Operation}
    (hctx : ctx.operations = done ++ rest) (p : Progress) :
    runQueue host nested ctx
        (Queued.listing (fun op => op.runs.filter (· = .output)) done.length rest) c p =
      (((fun vs : List Json => { c with out := vs.getLast?.or c.out }) <$>
        (rest.filter (.output ∈ ·.runs)).mapM ctx.runOutput).mapError .ofEngine, p) := by
  induction rest generalizing c done with
  | nil => rfl
  | cons op rest ih =>
    have hop : ctx.operation done.length = op := operation_eq hctx
    have ih' (c : Context) := @ih c (done ++ [op]) (by simp [hctx])
    rw [List.length_append, List.length_singleton] at ih'
    rw [Queued.listing, runQueue_append]
    by_cases hout : .output ∈ op.runs
    · -- However often the key occurs, the action is the same each time.
      have hall : ∀ d ∈ (op.runs.filter (· = .output)).map (⟨done.length, ·⟩ : Directive → Queued),
          ctx.dispatch host nested d p =
            (Outcome.output <$> (ctx.runOutput op).mapError .ofEngine, p) := by
        simp only [List.forall_mem_map, List.mem_filter, decide_eq_true_eq]
        rintro _ ⟨-, rfl⟩
        exact dispatch_output hop
      have hne : (op.runs.filter (· = .output)).map (⟨done.length, ·⟩ : Directive → Queued) ≠ [] :=
        fun h => List.not_mem_nil (List.map_eq_nil_iff.1 h ▸ List.mem_filter.2 ⟨hout, by simp⟩)
      rw [List.filter_cons_of_pos (by simpa using hout), List.mapM_cons]
      cases hrun : ctx.runOutput op with
      | error e =>
        obtain ⟨d, q, hq⟩ := List.exists_cons_of_ne_nil hne
        rw [hrun] at hall
        rw [hq, runQueue, hall d (hq ▸ List.mem_cons_self)]
        rfl
      | ok v =>
        rw [hrun] at hall
        rw [runQueue_same (o := .output v) hne hall (fun _ => rfl), andThen_ok, ih']
        cases (rest.filter (.output ∈ ·.runs)).mapM ctx.runOutput with
        | error e => rfl
        | ok vs =>
          have hlast : vs.getLast?.or (some v) = (v :: vs).getLast?.or c.out := by
            rw [List.getLast?_cons]
            cases vs.getLast? <;> rfl
          simp only [applyOne, Functor.map, Except.map, mapError_ok, ok_bind, pure,
            Except.pure, hlast]
    · have hnil : op.runs.filter (· = .output) = [] :=
        List.filter_eq_nil_iff.2 fun d hd h => hout (of_decide_eq_true h ▸ hd)
      rw [List.filter_cons_of_neg (by simpa using hout), hnil, List.map_nil, runQueue, andThen_ok,
        ih']

/-! ## All phases -/

theorem applyOne_marks (c : Context) (m : Marks) (o : Outcome) :
    ({ c with marks := m } : Context).applyOne o = { c.applyOne o with marks := m } := by
  cases o <;> rfl

theorem apply_marks (c : Context) (m : Marks) (os : List Outcome) :
    ({ c with marks := m } : Context).apply os = { c.apply os with marks := m } := by
  induction os generalizing c with
  | nil => rfl
  | cons o os ih => rw [apply, List.foldl_cons, applyOne_marks]; exact ih _

theorem runPhases_cons (q : List Queued) (qs : List (List Queued)) (c : Context) (j : Journal) :
    runPhases host nested (q :: qs) c j =
      match runQueue host nested c q c ⟨c.marks, j⟩ with
      | (.error f, p) => (.error f, { c with marks := p.marks }, p.journal)
      | (.ok c, p) => runPhases host nested qs { c with marks := p.marks } p.journal := by
  rw [runPhases, ← runPhase_apply]
  rcases c.runPhase host nested q ⟨c.marks, j⟩ with ⟨f | os, p⟩
  · rfl
  · simp only [andThen_ok, apply_marks]

theorem runPhases_input {c : Context} (h : c.operations.any (.input ∈ ·.runs))
    (qs : List (List Queued)) (j : Journal) :
    runPhases host nested ((Queues.ofOperations c.operations).input :: qs) c j =
      runPhases host nested qs { c with input := some c.seed } j := by
  rw [runPhases_cons, runQueue_input h]

theorem runQueue_secondary (c : Context) (p : Progress) :
    runQueue host nested c (Queues.ofOperations c.operations).secondary c p =
      andThen (p.lift (Operation.visit (c.carry nested) c.operations p.journal)) fun ops p =>
        (.ok { c with operations := ops }, p) :=
  @runQueue_visit_carry host nested c c [] [] c.operations rfl rfl rfl p

theorem runPhases_secondary (qs : List (List Queued)) (c : Context) (j : Journal) :
    runPhases host nested ((Queues.ofOperations c.operations).secondary :: qs) c j =
      match Operation.visit (c.carry nested) c.operations j with
      | (.error f, j) => (.error f, c, j)
      | (.ok ops, j) => runPhases host nested qs { c with operations := ops } j := by
  rw [runPhases_cons, runQueue_secondary]
  rcases Operation.visit (c.carry nested) c.operations j with ⟨_ | _, _⟩ <;> rfl

variable (host nested) in
/-- What the secondary phase leaves behind. -/
theorem runPhase_secondary_snd (c : Context) (j : Journal) :
    (c.runPhase host nested (Queues.ofOperations c.operations).secondary ⟨c.marks, j⟩).2 =
      ⟨c.marks, (Operation.visit (c.carry nested) c.operations j).2⟩ := by
  have hrun := @runQueue_secondary host nested c ⟨c.marks, j⟩
  rw [← runPhase_apply] at hrun
  have hsnd := congrArg Prod.snd hrun
  rw [andThen_snd, andThen_snd] at hsnd
  exact hsnd

variable (host nested) in
/-- The primary phase of a context in which nothing has been started. -/
theorem runPhases_primary {c : Context} (hkeyed : ∀ op ∈ c.operations, op.WellKeyed)
    (hnew : ∀ op ∈ c.operations, op.Startable) (hmarks : c.marks = {})
    (qs : List (List Queued)) (j : Journal) :
    let q := (Queues.ofOperations c.operations).primary
    ∃ n, (q ≠ [] → 0 < n) ∧
      runPhases host nested (q :: qs) c j =
        match Operation.visit (c.produce host) c.operations j with
        | (.error f, j) => (.error f, { c with marks := c.marks.start (q.take n) }, j)
        | (.ok ops, j) =>
          runPhases host nested qs
            { c with operations := ops, marks := c.marks.start (q.take n) } j := by
  obtain ⟨n, hn, hrun⟩ := @runQueue_visit_produce host nested c c [] [] c.operations rfl rfl rfl
    hkeyed hnew ⟨c.marks, j⟩ (by rw [hmarks]; exact fun _ _ => rfl)
  refine ⟨n, hn, ?_⟩
  rw [runPhases_cons, Queues.ofOperations]
  dsimp only
  rw [← List.length_nil (α := Operation), hrun]
  rcases Operation.visit (c.produce host) c.operations j with ⟨_ | _, _⟩ <;> rfl

/-- The outputs of a context, one for each operation that has `out`. -/
def outputs (ctx : Context) : Except EngineError (List Json) :=
  (ctx.operations.filter (.output ∈ ·.runs)).mapM ctx.runOutput

variable (host nested) in
theorem runPhases_output (c : Context) (j : Journal) :
    runPhases host nested [(Queues.ofOperations c.operations).output] c j =
      match c.outputs with
      | .error e => (.error (.ofEngine e), c, j)
      | .ok vs =>
        let out := (vs.getLast?.or c.out).getD .null
        (.ok out, { c with out := vs.getLast?.or c.out },
          { j with tree := j.tree.recordOut c.id out }) := by
  have hrun := @runQueue_mapM_output host nested c c [] c.operations rfl ⟨c.marks, j⟩
  rw [runPhases_cons, Queues.ofOperations]
  dsimp only
  rw [← List.length_nil (α := Operation), hrun, outputs]
  cases (c.operations.filter (.output ∈ ·.runs)).mapM c.runOutput <;> rfl

/-- The context once it has been prepared and has its input. -/
def opened (ctx : Context) : Context := { ctx.prepared with input := some ctx.seed }

/-- Up to the primary phase a context is given its input, and its list is visited to carry the
    results of secondary directives. -/
theorem runPhases_prepared (qs : List (List Queued)) (j : Journal) :
    runPhases host nested (ctx.prepared.queues.input :: ctx.prepared.queues.secondary :: qs)
        ctx.prepared j =
      match Operation.visit (ctx.opened.carry nested) ctx.opened.operations j with
      | (.error f, j) => (.error f, ctx.opened, j)
      | (.ok ops, j) => runPhases host nested qs { ctx.opened with operations := ops } j :=
  (runPhases_input (Operation.any_input_withDefaults ctx.operations) _ j).trans
    (runPhases_secondary _ ctx.opened j)

theorem processVia_error {e : EngineError}
    (h : Queues.classify ctx.name ctx.operations = .error e) (j : Journal) :
    ctx.processVia host nested j = (.error (.ofEngine e), ctx, j) := by
  rw [processVia, prepare_eq, h]
  rfl

theorem processVia_ok {q : Queues} (h : Queues.classify ctx.name ctx.operations = .ok q)
    (j : Journal) :
    ctx.processVia host nested j =
      match Operation.visit (ctx.opened.carry nested) ctx.opened.operations j with
      | (.error f, j) => (.error f, ctx.opened, j)
      | (.ok ops, j) =>
        runPhases host nested [ctx.opened.queues.primary, ctx.opened.queues.output]
          { ctx.opened with operations := ops } j := by
  rw [processVia, prepare_eq, h]
  exact runPhases_prepared _ j

end Context

end Folio
