import Folio.Proofs.Actions
import Folio.Session

/-!
# Steps of a session

What happens in a session is a row of steps. Some open contexts, at the root of a new tree or below
a context there is; the others ask a context to prepare or to be processed, as often as one likes
and in any order (`Session.Step`). A step may fail, and one that names a context there is not does
nothing.

A move only concerns the context it is made on and the journal that this context continues: that is
all `Context.take` is given, besides the host. The host need not stay the same. Files are written
between two steps, and handlers remember what they have been asked; so each step of a row has a host
of its own.

* `Session.step`, `Session.run`: the session after a step, and after a row of steps;
* `Session.step_move`: a move gives the session a later state of one context and of its tree.
-/

namespace Folio

/-! ## Moves -/

/-- What may be asked of a context. -/
inductive Move where
  /-- To fill its queues. -/
  | prepare
  /-- To be evaluated. -/
  | process

/-- The answer to a move. -/
inductive Reply where
  /-- The queues, or why there are none. -/
  | prepared (r : Except EngineError Queues)
  /-- The output, or why there is none. -/
  | processed (r : Except Failure Json)
deriving DecidableEq

/-- Makes a move on a context that continues some journal. -/
def Context.take (host : Host) (ctx : Context) (j : Journal) : Move → Reply × Context × Journal
  | .prepare =>
    match ctx.prepare with
    | .error e => (.prepared (.error e), ctx, j)
    | .ok ctx => (.prepared (.ok ctx.queues), ctx, j)
  | .process =>
    let (r, ctx, j) := ctx.process host j
    (.processed r, ctx, j)

/-- A move leaves a context where it stands. -/
theorem Context.place_take (host : Host) (ctx : Context) (j : Journal) (m : Move) :
    (ctx.take host j m).2.1.place = ctx.place := by
  cases m with
  | prepare =>
    rw [take]
    cases h : ctx.prepare with
    | error e => rfl
    | ok c => exact place_prepare h
  | process => exact place_process host ctx j

namespace Session

/-! ## Steps -/

/-- What may happen in a session. -/
inductive Step where
  /-- A root context is opened over the stored definition of a resource. -/
  | root (name : String) (seed : Json)
  /-- A context is opened below another one. -/
  | nested (parent : Nat) (seed : Json) (operations : List Operation)
  /-- A move is made on a context. -/
  | move (index : Nat) (m : Move)

/-- The context that a step is about, if there has to be one before. -/
def Step.subject? : Step → Option Nat
  | .root _ _ => none
  | .nested parent _ _ => some parent
  | .move index _ => some index

/-- Takes a step: the answer, if a move is made, and the session afterwards. -/
def step (host : Host) (store : Store) (s : Session) : Step → Option Reply × Session
  | .root name seed => (none, (s.openRoot store name seed).2)
  | .nested parent seed operations =>
    match s.openNested parent seed operations with
    | none => (none, s)
    | some (_, s) => (none, s)
  | .move index .prepare =>
    match s.prepare index with
    | none => (none, s)
    | some (r, s) => (some (.prepared (r.map Context.queues)), s)
  | .move index .process =>
    match s.process host index with
    | none => (none, s)
    | some (r, s) => (some (.processed r), s)

/-- Takes some steps, one after the other, each with the host as it is then. -/
def run (store : Store) (steps : List (Host × Step)) (s : Session) : Session :=
  steps.foldl (fun s (host, step) => (s.step host store step).2) s

variable {host : Host} {store : Store} {s : Session} {e : Entry}

/-- What a step keeps whatever the host, holds after any number of them. -/
theorem run_induction {P : Session → Prop}
    (hstep : ∀ s host step, P s → P (s.step host store step).2) (steps : List (Host × Step))
    (hs : P s) : P (run store steps s) := by
  induction steps generalizing s with
  | nil => exact hs
  | cons first steps ih =>
    obtain ⟨host, step⟩ := first
    exact ih (hstep s host step hs)

/-! ### What a step does -/

theorem withJournal_journal (s : Session) (tree : Nat) :
    s.withJournal tree (s.journal tree) = s := by
  have htrees : s.trees.set tree (s.trees[tree]?.getD {}) = s.trees := by
    rcases Nat.lt_or_ge tree s.trees.length with hlt | hge
    · rw [List.getElem?_eq_getElem hlt, Option.getD_some, List.set_getElem_self]
    · exact List.set_eq_of_length_le hge
  rw [withJournal, journal, htrees]

theorem withContext_context {i : Nat} (he : s.contexts[i]? = some e) :
    s.withContext i e.context = s := by
  have hcontexts : (s.contexts.modify i fun e' => { e' with context := e.context }).map id =
      s.contexts.map id :=
    map_modify_of_eq fun e' he' => by rw [Option.some.inj (he.symm.trans he')]
  rw [List.map_id, List.map_id] at hcontexts
  rw [withContext, hcontexts]

theorem step_root_error {name : String} {err : EngineError} (h : store.get name = .error err)
    (seed : Json) : (s.step host store (.root name seed)).2 = s := by
  simp only [step, openRoot, h]

theorem step_root_ok {name : String} {definition : Definition} (h : store.get name = .ok definition)
    (seed : Json) : (s.step host store (.root name seed)).2 =
      { s with
        trees := s.trees ++ [.root name]
        contexts := s.contexts ++ [⟨s.trees.length, .root name seed definition.main⟩] } := by
  simp only [step, openRoot, h]

theorem step_nested {parent : Nat} (he : s.contexts[parent]? = some e) (seed : Json)
    (operations : List Operation) :
    (s.step host store (.nested parent seed operations)).2 =
      let t := (s.journal e.tree).tree
      { s with
        trees := s.trees.set e.tree (t.pushChild e.context.id e.context.name).2
        contexts := s.contexts ++ [⟨e.tree, e.context.child t.nodes.length seed operations⟩] } := by
  simp only [step, openNested, he]
  rfl

/-- A move gives the session a later state of its context and of the journal that this context
    continues. -/
theorem step_move {i : Nat} (he : s.contexts[i]? = some e) (m : Move) :
    s.step host store (.move i m) =
      let after := e.context.take host (s.journal e.tree) m
      (some after.1, (s.withContext i after.2.1).withJournal e.tree after.2.2) := by
  cases m with
  | prepare =>
    simp only [step, prepare, he, Option.bind_eq_bind, Option.bind_some, Context.take]
    cases e.context.prepare with
    | error err => simp only [withContext_context he, withJournal_journal]; rfl
    | ok c =>
      have hjournal := (s.withContext i c).withJournal_journal e.tree
      exact congrArg (Prod.mk _) hjournal.symm
  | process =>
    simp only [step, process, he]
    rfl

/-- What names a context there is not does nothing. -/
theorem step_missing {step : Step} {i : Nat} (hsubject : step.subject? = some i)
    (hi : s.contexts[i]? = none) : s.step host store step = (none, s) := by
  cases step with
  | root name seed => cases hsubject
  | nested parent seed operations =>
    cases hsubject
    simp only [step, openNested, hi]
    rfl
  | move index m =>
    cases hsubject
    cases m <;> simp only [step, prepare, process, hi] <;> rfl

/-- A step does nothing, or it opens a root context, or else it is about a context there is. -/
theorem step_cases (host : Host) (store : Store) (s : Session) (step : Step) :
    (s.step host store step).2 = s ∨
      (∃ name seed operations, (s.step host store step).2 =
        { s with
          trees := s.trees ++ [.root name]
          contexts := s.contexts ++ [⟨s.trees.length, .root name seed operations⟩] }) ∨
      ∃ i e, step.subject? = some i ∧ s.contexts[i]? = some e := by
  cases hsubject : step.subject? with
  | none =>
    cases step with
    | root name seed =>
      cases hdefinition : store.get name with
      | error err => exact .inl (step_root_error hdefinition seed)
      | ok definition => exact .inr (.inl ⟨name, seed, _, step_root_ok hdefinition seed⟩)
    | nested parent seed operations => cases hsubject
    | move index m => cases hsubject
  | some i =>
    cases he : s.contexts[i]? with
    | none => exact .inl (by rw [step_missing hsubject he])
    | some e => exact .inr (.inr ⟨i, e, rfl, he⟩)

end Session

end Folio
