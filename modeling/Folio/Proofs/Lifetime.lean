import Folio.Proofs.Direct
import Folio.Proofs.Filling
import Folio.Proofs.Steps

/-!
# The life of a context

A context may be prepared and processed any number of times, and whatever it is asked may succeed or
fail. All that can become of it comes about in one of two ways. The first time its list is accepted
it is prepared: defaults stand where there have to be some, and its queues are filled. From then on
it is *ready*, and what changes is what phases leave behind: they mark operations whose primary
directive they start, and they fill computed fields.

Each move is made with the host as it is then (`Context.Turn`). A context whose nested lists have
failed for want of a file gets further once the file is there, so that later moves need not repeat
the first one. Nothing that is said here relies on hosts that stay the same.

* `Context.takeAll_keeps`: what every phase keeps of a ready context, any number of moves does;
* `Context.Ready.advances_takeAll`: a ready context stays ready; its operations stay where they are,
  and only computed fields of theirs are filled;
* `Context.takeAll_ready`: once a list has been accepted, its queues are right for good, and marks
  stand for the operations they have been set for.
-/

namespace Folio

namespace Context

open Result

variable {host : Host} {nested : Evaluator} {ctx c c' : Context} {q : List Queued} {j : Journal}

/-! ## Phases -/

/-- The context after a phase: what has been started stays marked, and what has been computed is
    written back if all actions have succeeded. -/
def afterPhase (c : Context) (r : Except Failure (List Outcome) × Progress) : Context :=
  ({ c with marks := r.2.marks } : Context).apply (r.1.toOption.getD [])

/-- What every phase keeps, all of them do. -/
theorem runPhases_keeps {P : Context → Prop} {qs : List (List Queued)}
    (hphase : ∀ q ∈ qs, ∀ c j, P c → P (c.afterPhase (c.runPhase host nested q ⟨c.marks, j⟩)))
    (h : P ctx) (j : Journal) : P (runPhases host nested qs ctx j).2.1 := by
  induction qs generalizing ctx j with
  | nil => exact h
  | cons q qs ih =>
    rw [List.forall_mem_cons] at hphase
    have hq := hphase.1 ctx j h
    rw [runPhases]
    rcases hrun : ctx.runPhase host nested q ⟨ctx.marks, j⟩ with ⟨f | os, p⟩
    · rw [hrun] at hq
      exact hq
    · rw [hrun] at hq
      exact ih hphase.2 hq p.journal

/-- And so it holds at every action that is reached. -/
theorem Reaches.keeps {P : Context → Prop} {qs : List (List Queued)} {d : Queued} {p : Progress}
    (hreaches : Reaches host nested qs ctx j c d p)
    (hphase : ∀ q ∈ qs, ∀ c j, P c → P (c.afterPhase (c.runPhase host nested q ⟨c.marks, j⟩)))
    (h : P ctx) : P c := by
  induction hreaches with
  | here => exact h
  | @later q qs ctx c j d os p p' hq _ ih =>
    rw [List.forall_mem_cons] at hphase
    have hafter := hphase.1 ctx j h
    rw [hq] at hafter
    exact ih hphase.2 hafter

/-! ### What is started -/

/-- The actions of a queue that start a primary directive. -/
def starting (q : List Queued) : List Queued := q.filter (·.directive.primary?.isSome)

theorem starting_cons (d : Queued) (q : List Queued) :
    starting (d :: q) = starting [d] ++ starting q := by
  rw [starting, ← List.singleton_append, List.filter_append]
  rfl

/-- An action marks its own operation at most, and if it starts a primary directive and succeeds, it
    has done so. -/
theorem marks_dispatch (host : Host) (nested : Evaluator) (c : Context) (d : Queued)
    (p : Progress) :
    ∃ n, (c.dispatch host nested d p).2.marks = p.marks.start ((starting [d]).take n) ∧
      ∀ o, (c.dispatch host nested d p).1 = .ok o → (starting [d]).length ≤ n := by
  obtain ⟨i, d⟩ := d
  cases d with
  | input => exact ⟨0, rfl, fun _ _ => Nat.le_refl 0⟩
  | secondary s => cases s <;> exact ⟨0, rfl, fun _ _ => Nat.le_refl 0⟩
  | output =>
    refine ⟨0, ?_, fun _ _ => Nat.le_refl 0⟩
    rw [dispatch_output rfl]
    rfl
  | primary directive =>
    simp only [dispatch, startPrimary]
    by_cases hstarted : (c.operation i).executed || p.marks.isMarked i
    · rw [if_pos hstarted]
      refine ⟨0, rfl, fun o ho => ?_⟩
      cases ho
    · have hmark : p.marks.isMarked i = false := by grind
      rw [if_neg hstarted, Marks.tryMark, hmark]
      exact ⟨1, rfl, fun _ _ => Nat.le_refl 1⟩

/-- Primary directives are started in the order of the queue, up to some place. -/
theorem marks_runPhase (host : Host) (nested : Evaluator) (c : Context) (q : List Queued)
    (p : Progress) :
    ∃ n, (c.runPhase host nested q p).2.marks = p.marks.start ((starting q).take n) := by
  induction q generalizing p with
  | nil => exact ⟨0, rfl⟩
  | cons d q ih =>
    obtain ⟨n, hn, hall⟩ := marks_dispatch host nested c d p
    rw [runPhase_cons, starting_cons]
    rcases hd : c.dispatch host nested d p with ⟨f | o, p₁⟩
    · -- What it has marked is a front of the queue, as it is the first to be run.
      rw [hd] at hn
      refine ⟨min n (starting [d]).length, ?_⟩
      rw [List.take_append_of_le_length (Nat.min_le_right _ _), ← List.take_take, List.take_length]
      exact hn
    · rw [hd] at hn hall
      rw [List.take_of_length_le (hall o rfl)] at hn
      obtain ⟨m, hm⟩ := ih p₁
      refine ⟨(starting [d]).length + m, ?_⟩
      rw [andThen_ok, List.take_length_add_append, ← Marks.start_start, ← hn, andThen_snd]
      exact hm

theorem isMarked_start {m : Marks} {q : List Queued} {i : Nat} :
    (m.start q).isMarked i ↔ m.isMarked i ∨ ∃ d ∈ q, d.index = i := by
  simp only [Marks.start, Marks.isMarked, List.contains_iff_mem, List.mem_append, List.mem_reverse,
    List.mem_map]
  exact or_comm

/-! ## Ready contexts -/

/-- A context that has been prepared: its queues are those of its list, and it has an input and an
    output directive. -/
structure Ready (c : Context) : Prop where
  queues : Queues.classify c.name c.operations = .ok c.queues
  input : c.queues.input ≠ []
  output : c.queues.output ≠ []

theorem Ready.withDefaults_eq (h : c.Ready) :
    Operation.withDefaults c.operations = c.operations := by
  obtain ⟨-, hqueues⟩ := Queues.classify_eq_ok.1 h.queues
  have hany {d : Directive} (hne : Queued.listing (fun op => op.runs.filter (· = d)) 0
      c.operations ≠ []) : c.operations.any (d ∈ ·.runs) := by
    rw [ne_eq, ← List.isEmpty_iff, Queues.isEmpty_listing_runs] at hne
    simpa using hne
  have hinput := h.input
  have houtput := h.output
  rw [hqueues] at hinput houtput
  exact Operation.withDefaults_eq_self (hany hinput) (hany houtput)

/-- A ready context may be prepared again, which changes nothing. -/
theorem Ready.prepare_eq (h : c.Ready) : c.prepare = .ok c := by
  obtain ⟨-, hqueues⟩ := Queues.classify_eq_ok.1 h.queues
  rw [Context.prepare_eq, h.queues]
  refine congrArg Except.ok ?_
  rw [prepared, h.withDefaults_eq, ← hqueues]

/-- A context that has been prepared is ready. -/
theorem ready_of_prepare (h : ctx.prepare = .ok c) : c.Ready := by
  obtain ⟨hkeyed, -, hops, hqueues⟩ := prepare_eq_ok h
  have hne {d : Directive} (hany : c.operations.any (d ∈ ·.runs)) :
      Queued.listing (fun op => op.runs.filter (· = d)) 0 c.operations ≠ [] := by
    rw [ne_eq, ← List.isEmpty_iff, Queues.isEmpty_listing_runs, hany]
    decide
  refine ⟨Queues.classify_eq_ok.2 ⟨?_, hqueues⟩, ?_, ?_⟩
  · rw [hops]
    exact Operation.wellKeyed_withDefaults hkeyed
  · rw [hqueues]
    exact hne (hops ▸ Operation.any_input_withDefaults ctx.operations)
  · rw [hqueues]
    exact hne (hops ▸ Operation.any_output_withDefaults ctx.operations)

/-- Where an operation has anything at all, it stands in the list. -/
theorem getElem?_operation {i : Nat} (h : c.operation i ≠ {}) :
    c.operations[i]? = some (c.operation i) := by
  rw [operation] at h ⊢
  cases hop : c.operations[i]? with
  | none =>
    rw [hop] at h
    exact absurd rfl h
  | some op => rfl

/-- Whatever stands on the queues of a ready context, there is an operation of its index, and this
    operation has the directive. -/
theorem Ready.exists_operation (h : c.Ready) {d : Queued} (hd : d ∈ c.phases.flatten) :
    ∃ op, c.operations[d.index]? = some op ∧ d.directive ∈ op.runs := by
  have hruns := runs_of_phases h.prepare_eq d hd
  refine ⟨_, getElem?_operation fun hnone => ?_, hruns⟩
  rw [hnone] at hruns
  cases hruns

/-- Primary directives stand on a queue of their own. -/
theorem Ready.primary_or_of_phases (h : c.Ready) (hq : q ∈ c.phases) :
    q = c.queues.primary ∨ ∀ d ∈ q, d.directive.primary? = none := by
  obtain ⟨-, hqueues⟩ := Queues.classify_eq_ok.1 h.queues
  rw [phases, hqueues, Queues.ofOperations_eq_filter] at hq
  rw [hqueues, Queues.ofOperations_eq_filter]
  simp only [List.mem_cons, List.not_mem_nil, or_false] at hq
  rcases hq with rfl | rfl | rfl | rfl
  · refine .inr fun d hd => ?_
    rw [of_decide_eq_true (List.mem_filter.1 hd).2, Directive.primary?]
  · refine .inr fun d hd => ?_
    obtain ⟨s, hs⟩ := Option.isSome_iff_exists.1 (List.mem_filter.1 hd).2
    rw [Directive.secondary?_eq_some.1 hs, Directive.primary?]
  · exact .inl rfl
  · refine .inr fun d hd => ?_
    rw [of_decide_eq_true (List.mem_filter.1 hd).2, Directive.primary?]

/-! ## What a ready context becomes -/

/-- A later state of a ready context: its queues are the same, some computed fields may have been
    filled, and some primary directives may have been started. -/
structure Advances (ctx c : Context) : Prop where
  name : c.name = ctx.name
  queues : c.queues = ctx.queues
  operations : List.Forall₂ Operation.Filled ctx.operations c.operations
  marked : ∀ i, ctx.marks.isMarked i → c.marks.isMarked i
  started : ∀ i, c.marks.isMarked i →
    ctx.marks.isMarked i ∨ ∃ d ∈ starting ctx.phases.flatten, d.index = i

theorem Advances.refl (c : Context) : c.Advances c :=
  ⟨rfl, rfl, List.forall₂_same.2 fun op _ => .refl op, fun _ h => h, fun _ h => .inl h⟩

theorem Advances.phases (h : ctx.Advances c) : c.phases = ctx.phases := by
  rw [Context.phases, Context.phases, h.queues]

theorem Advances.trans (h : ctx.Advances c) (h' : c.Advances c') : ctx.Advances c' where
  name := h'.name.trans h.name
  queues := h'.queues.trans h.queues
  operations := forall₂_trans (fun _ _ _ => .trans) h.operations h'.operations
  marked i hi := h'.marked i (h.marked i hi)
  started i hi := by
    rcases h'.started i hi with hi | hi
    · exact h.started i hi
    · exact .inr (h.phases ▸ hi)

/-- The queues come from directives alone, so they are still right. -/
theorem Advances.ready (h : ctx.Advances c) (hready : ctx.Ready) : c.Ready := by
  have hdirectives := Operation.map_directives_of_filled h.operations
  obtain ⟨hkeyed, hqueues⟩ := Queues.classify_eq_ok.1 hready.queues
  refine ⟨Queues.classify_eq_ok.2 ⟨(Operation.wellKeyed_congr hdirectives).2 hkeyed, ?_⟩, ?_, ?_⟩
  · rw [h.queues, hqueues, Queues.ofOperations_congr hdirectives]
  · rw [h.queues]
    exact hready.input
  · rw [h.queues]
    exact hready.output

/-- A phase of a ready context fills fields and starts primary directives, whether it succeeds or
    fails. -/
theorem Ready.advances_phase (h : c.Ready) {q : List Queued} (hq : q ∈ c.phases) (host : Host)
    (nested : Evaluator) (j : Journal) :
    c.Advances (c.afterPhase (c.runPhase host nested q ⟨c.marks, j⟩)) := by
  obtain ⟨n, hmarks⟩ := marks_runPhase host nested c q ⟨c.marks, j⟩
  rcases hrun : c.runPhase host nested q ⟨c.marks, j⟩ with ⟨r, p⟩
  rw [hrun] at hmarks
  have hrow {d : Queued} (hd : d ∈ q) : d ∈ c.phases.flatten := List.mem_flatten_of_mem hq hd
  -- What has been started stays marked, whether or not anything is written back.
  have hafter : c.afterPhase (r, p) =
      { c.apply (r.toOption.getD []) with marks := c.marks.start ((starting q).take n) } := by
    rw [← hmarks]
    exact apply_marks c p.marks _
  rw [hafter]
  refine ⟨?_, queues_apply c _, ?_, fun i hi => isMarked_start.2 (.inl hi), fun i hi => ?_⟩
  · exact congrArg (fun place => place.2.2) (place_apply c _)
  · cases r with
    | error f => exact List.forall₂_same.2 fun op _ => .refl op
    | ok os =>
      exact filled_apply (map_field_of_runPhase hrun) fun d hd =>
        runs_of_phases h.prepare_eq d (hrow hd)
  · rcases isMarked_start.1 hi with hi | ⟨d, hd, hi⟩
    · exact .inl hi
    · obtain ⟨hdq, hprimary⟩ := List.mem_filter.1 (List.mem_of_mem_take hd)
      exact .inr ⟨d, List.mem_filter.2 ⟨hrow hdq, hprimary⟩, hi⟩

/-- A state of a context: as it is, or as an action sees it that its evaluation comes to, with
    whatever host. -/
def During (c c' : Context) : Prop :=
  c' = c ∨ ∃ host j d p, Reaches host (evaluator host) c.phases c j c' d p

theorem Ready.advances_during (h : ctx.Ready) (hduring : ctx.During c) : ctx.Advances c := by
  rcases hduring with rfl | ⟨host, j, d, p, hreaches⟩
  · exact .refl _
  · refine hreaches.keeps (P := ctx.Advances) (fun q hq c j hc => ?_) (.refl ctx)
    exact hc.trans ((hc.ready h).advances_phase (hc.phases ▸ hq) host _ j)

/-- What has been started is the primary directive of an operation. -/
theorem Ready.exists_of_marked (h : ctx.Ready) (hmarks : ctx.marks = {})
    (hadvances : ctx.Advances c) {i : Nat} (hi : c.marks.isMarked i) :
    ∃ op, ctx.operations[i]? = some op ∧ op.primary?.isSome := by
  rcases hadvances.started i hi with hold | ⟨d, hd, rfl⟩
  · rw [hmarks] at hold
    cases hold
  · obtain ⟨hrow, hprimary⟩ := List.mem_filter.1 hd
    obtain ⟨op, hop, hruns⟩ := h.exists_operation hrow
    exact ⟨op, hop, Operation.isSome_primary?_of_mem hruns hprimary⟩

/-! ## Any number of moves -/

/-- A move on a context, with the host as it is then and the journal that the context continues. -/
structure Turn where
  /-- The host. -/
  host : Host
  /-- The move. -/
  move : Move
  /-- The journal before the move. -/
  journal : Journal

/-- The context after some moves. -/
def takeAll (ctx : Context) : List Turn → Context
  | [] => ctx
  | turn :: turns => takeAll (ctx.take turn.host turn.journal turn.move).2.1 turns

/-- What all phases of ready contexts keep, any number of moves does. -/
theorem takeAll_keeps {P : Context → Prop} (hready : ∀ c, P c → c.Ready)
    (hphase : ∀ c, P c → ∀ host, ∀ q ∈ c.phases, ∀ j,
      P (c.afterPhase (c.runPhase host (evaluator host) q ⟨c.marks, j⟩)))
    (h : P ctx) (turns : List Turn) : P (ctx.takeAll turns) := by
  induction turns generalizing ctx with
  | nil => exact h
  | cons turn turns ih =>
    obtain ⟨host, m, j⟩ := turn
    refine ih ?_
    cases m with
    | prepare =>
      rw [take, (hready ctx h).prepare_eq]
      exact h
    | process =>
      rcases process_cases host ctx j with ⟨e, he, -⟩ | ⟨c, hc, hprocess⟩
      · rw [(hready ctx h).prepare_eq] at he
        cases he
      · rw [(hready ctx h).prepare_eq] at hc
        cases hc
        rw [take, hprocess]
        -- The queues stay the same from one phase to the next, so they are always its own.
        refine (runPhases_keeps (P := fun c => P c ∧ c.phases = ctx.phases) ?_ ⟨h, rfl⟩ j).1
        rintro q hq c j ⟨hc, hphases⟩
        rw [← hphases] at hq
        refine ⟨hphase c hc host q hq j, ?_⟩
        exact ((hready c hc).advances_phase hq host _ j).phases.trans hphases

theorem Ready.advances_takeAll (h : ctx.Ready) (turns : List Turn) :
    ctx.Advances (ctx.takeAll turns) :=
  takeAll_keeps (P := ctx.Advances) (fun _ hc => hc.ready h)
    (fun _ hc host _ hq j => hc.trans ((hc.ready h).advances_phase hq host _ j)) (.refl ctx) turns

/-- A context that cannot be prepared stays as it is, and so does the journal. -/
theorem take_of_error {e : EngineError} (h : ctx.prepare = .error e) (host : Host) (j : Journal) :
    ctx.take host j .prepare = (.prepared (.error e), ctx, j) ∧
      ctx.take host j .process = (.processed (.error (.ofEngine e)), ctx, j) := by
  rcases process_cases host ctx j with ⟨e', he, hprocess⟩ | ⟨c, hc, -⟩
  · obtain rfl : e' = e := by
      rw [h] at he
      exact (Except.error.inj he).symm
    exact ⟨by rw [take, h], by rw [take, hprocess]⟩
  · rw [h] at hc
    cases hc

/-- A list that is refused is refused each time. -/
theorem takeAll_of_error {e : EngineError} (h : ctx.prepare = .error e) (turns : List Turn) :
    ctx.takeAll turns = ctx := by
  induction turns with
  | nil => rfl
  | cons turn turns ih =>
    obtain ⟨host, m, j⟩ := turn
    have hstays := take_of_error h host j
    have htake : (ctx.take host j m).2.1 = ctx := by
      cases m with
      | prepare => rw [hstays.1]
      | process => rw [hstays.2]
    rw [takeAll, htake, ih]

/-- The first move on a list that is accepted may as well be made on the context it prepares. -/
theorem takeAll_of_prepare (h : ctx.prepare = .ok c) {turns : List Turn} (hturns : turns ≠ []) :
    ctx.takeAll turns = c.takeAll turns := by
  obtain ⟨⟨host, m, j⟩, turns, rfl⟩ := List.exists_cons_of_ne_nil hturns
  have hprepare : ctx.prepare = c.prepare := h.trans (ready_of_prepare h).prepare_eq.symm
  have htake : (ctx.take host j m).2.1 = (c.take host j m).2.1 := by
    cases m with
    | prepare => rw [take, take, ← hprepare, h]
    | process => rw [take, take, process_eq, process_eq, processVia, processVia, ← hprepare, h]
  rw [takeAll, takeAll, htake]

/-- At some of the moves on a context its list has been accepted. -/
def Classified (ctx : Context) (turns : List Turn) : Prop :=
  ∃ before turn after, turns = before ++ turn :: after ∧
    ∃ c, (ctx.takeAll before).prepare = .ok c

/-- A list is accepted at the first move, or never. -/
theorem classified_iff {turns : List Turn} :
    ctx.Classified turns ↔ turns ≠ [] ∧ ∃ c, ctx.prepare = .ok c := by
  constructor
  · rintro ⟨before, turn, after, rfl, c, hc⟩
    refine ⟨by simp, ?_⟩
    cases hprepare : ctx.prepare with
    | error e =>
      -- What is refused at first is refused at every other move.
      rw [takeAll_of_error hprepare, hprepare] at hc
      cases hc
    | ok c => exact ⟨c, rfl⟩
  · rintro ⟨hturns, c, hc⟩
    obtain ⟨turn, turns, rfl⟩ := List.exists_cons_of_ne_nil hturns
    exact ⟨[], turn, turns, rfl, c, hc⟩

/-- What becomes of a context: as long as no move has been made, or if its list is refused, it
    stays as it is; otherwise it is prepared, and goes on from there. -/
theorem takeAll_cases (ctx : Context) (turns : List Turn) :
    (¬ctx.Classified turns ∧ ctx.takeAll turns = ctx) ∨
      ∃ c, ctx.prepare = .ok c ∧ ctx.Classified turns ∧ c.Ready ∧
        ctx.takeAll turns = c.takeAll turns ∧ c.Advances (ctx.takeAll turns) := by
  by_cases hturns : turns = []
  · subst hturns
    exact .inl ⟨fun h => (classified_iff.1 h).1 rfl, rfl⟩
  cases hprepare : ctx.prepare with
  | error e =>
    refine .inl ⟨fun h => ?_, takeAll_of_error hprepare turns⟩
    obtain ⟨-, c, hc⟩ := classified_iff.1 h
    rw [hprepare] at hc
    cases hc
  | ok c =>
    have hready := ready_of_prepare hprepare
    have htake := takeAll_of_prepare hprepare hturns
    refine .inr ⟨c, rfl, classified_iff.2 ⟨hturns, c, hprepare⟩, hready, htake, ?_⟩
    rw [htake]
    exact hready.advances_takeAll turns

/-- Once the list of a context has been accepted, at whatever move, its queues are right for good,
    also while it is evaluated: they are those of its list, with an input and an output, each entry
    names an operation that has the directive, and preparing the context once more changes nothing.
    What is marked is an operation of the original list, and remains so, whatever else happens. And
    a move that is refused changes nothing. The host may be another one at each move. -/
theorem takeAll_ready (id depth : Nat) (name : String) (seed : Json) (ops : List Operation)
    (turns : List Turn) :
    let ctx : Context := { id, depth, name, seed, operations := ops }
    let c := ctx.takeAll turns
    (ctx.Classified turns → ∀ c', c.During c' →
      c'.Ready ∧ c'.prepare = .ok c' ∧
        ∀ d ∈ c'.phases.flatten, ∃ op, c'.operations[d.index]? = some op ∧
          (op.argument d.directive.name).isSome) ∧
    (∀ i, c.marks.isMarked i → ∃ k op, i = (Operation.leading ops).length + k ∧
      ops[k]? = some op ∧ op.primary?.isSome ∧
        ∀ turns' c', (c.takeAll turns').During c' → c'.marks.isMarked i ∧
          ∃ op', c'.operations[i]? = some op' ∧ op.Filled op') ∧
    ∀ e, c.prepare = .error e → ∀ host j,
      c.take host j .prepare = (.prepared (.error e), c, j) ∧
        c.take host j .process = (.processed (.error (.ofEngine e)), c, j) := by
  intro ctx c
  refine ⟨fun hclassified c' hc' => ?_, fun i hi => ?_, fun e he => take_of_error he⟩
  · rcases takeAll_cases ctx turns with ⟨hnot, -⟩ | ⟨c₀, -, -, hready, -, hadvances⟩
    · exact absurd hclassified hnot
    have hc : c.Ready := hadvances.ready hready
    have hready' : c'.Ready := (hc.advances_during hc').ready hc
    refine ⟨hready', hready'.prepare_eq, fun d hd => ?_⟩
    obtain ⟨op, hop, hruns⟩ := hready'.exists_operation hd
    exact ⟨op, hop, Operation.mem_runs.1 hruns⟩
  · rcases takeAll_cases ctx turns with ⟨-, hstays⟩ | ⟨c₀, hc₀, -, hready, -, hadvances⟩
    · rw [show c = ctx from hstays] at hi
      cases hi
    rw [prepare_eq, map_eq_ok] at hc₀
    obtain ⟨_, -, rfl⟩ := hc₀
    -- The mark has been set in the prepared list, where the operation has got its index for good.
    obtain ⟨op, hop, hprimary⟩ := hready.exists_of_marked rfl hadvances hi
    obtain ⟨k, hk, hopk⟩ := Operation.exists_of_withDefaults hop hprimary
    refine ⟨k, op, hk, hopk, hprimary, fun turns' c' hc' => ?_⟩
    have hmoves := (hadvances.ready hready).advances_takeAll turns'
    have hlater := hmoves.trans ((hmoves.ready (hadvances.ready hready)).advances_during hc')
    exact ⟨hlater.marked i hi, forall₂_getElem? (hadvances.trans hlater).operations hop⟩

/-- The input in front moves the only operation to the second place. There it is marked for good
    when its file is asked for, although there is none yet; a list with a misspelt key is refused.
    -/
theorem takeAll_ready_file :
    let j : Journal := ⟨.root "page", [], []⟩
    let written : Host := { Host.bare with fileText := fun _ _ => .ok "a" }
    let page (key : String) :=
      root "page" .null [{ directives := [(key, .arr [.str "", .str "a"])] }]
    let turns : List Turn := [⟨.bare, .process, j⟩, ⟨written, .process, j⟩]
    let c := (page "file").takeAll turns
    (page "file").Classified turns ∧
      (c.Ready ∧ c.prepare = .ok c ∧ c.operations.length = 3) ∧
      (c.marks.isMarked 1 ∧ ∀ turns', (c.takeAll turns').marks.isMarked 1) ∧
      ∀ host, (page "flie").take host j .process =
        (.processed (.error (.ofEngine (.unknownDirective "page" 0 "flie"))), page "flie", j) := by
  intro j written page turns c
  have haccepted := takeAll_ready 0 0 "page" .null (page "file").operations turns
  have hrefused := takeAll_ready 0 0 "page" .null (page "flie").operations []
  have hclassified : (page "file").Classified turns := ⟨[], _, _, rfl, _, rfl⟩
  have hmarked : c.marks.isMarked 1 := by decide +kernel
  obtain ⟨hready, hprepare, -⟩ := haccepted.1 hclassified c (.inl rfl)
  obtain ⟨k, op, -, -, -, hlater⟩ := haccepted.2.1 1 hmarked
  refine ⟨hclassified, ⟨hready, hprepare, by decide +kernel⟩, ⟨hmarked, fun turns' => ?_⟩, ?_⟩
  · exact (hlater turns' _ (.inl rfl)).1
  · exact fun host => (hrefused.2.2 _ rfl host j).2

end Context

end Folio
