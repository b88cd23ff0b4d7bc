import Folio.Proofs.Rooted

/-!
# The contexts of a session by themselves

The contexts of a session share trees, and the moves on them come in any order. Still no context
takes notice of another one. What it answers, and what becomes of it, is what would be if it were
*alone*: in a tree of its own, where nothing happens but the moves on itself. All that has to be
known of a session is then how each context was opened, and which moves have been made on it since,
with which hosts (`Session.histories`).

* `Context.take_detached`: a move on a context is the same move as on the context alone;
* `Session.Tracks.step`: a session keeps to the histories of its contexts, step by step;
* `Session.run_isolated`: a context answers what it answers alone, and does nothing to a tree except
  at and below its own node.
-/

namespace Folio

open Result

/-! ## Contexts alone -/

namespace Context

variable {c c' : Context} {j : Journal}

/-- A context in a tree of its own. -/
def detached (c : Context) : Context := { c with id := 0 }

/-- The journal of a context in a tree of its own, when nothing has happened there. -/
def ownJournal (c : Context) : Journal := ⟨.root c.name, [], []⟩

/-- Contexts that agree in all that can be observed of them are the same but for their indices. -/
theorem Twin.eq_detached (h : Twin True True c c') (hid : c'.id = 0) : c' = c.detached := by
  obtain ⟨hoperations, hqueues, hmarks, hout, hseed, hinput, hname, hdepth⟩ := h
  rw [detached, ← hoperations, ← hqueues, ← hmarks, ← hout, ← hseed trivial, ← hinput trivial,
    ← hname trivial, ← hdepth trivial, ← hid]

/-- A move on a context, wherever it stands, is answered as it is answered alone, and makes of the
    context the same. -/
theorem take_detached (host : Host) (hid : c.id < j.tree.nodes.length) (m : Move) :
    (c.detached.take host c.ownJournal m).1 = (c.take host j m).1 ∧
      (c.detached.take host c.ownJournal m).2.1 = (c.take host j m).2.1.detached := by
  cases m with
  | prepare =>
    have hprepare : c.detached.prepare = detached <$> c.prepare := by
      rw [prepare_eq, prepare_eq]
      change _ <$> Queues.classify c.name c.operations = _
      cases Queues.classify c.name c.operations <;> rfl
    rw [take, take, hprepare]
    cases c.prepare <;> exact ⟨rfl, rfl⟩
  | process =>
    have htwin : Twin True True c c.detached :=
      ⟨rfl, rfl, rfl, rfl, fun _ => rfl, fun _ => rfl, fun _ => rfl, fun _ => rfl⟩
    have hown : c.detached.id < c.ownJournal.tree.nodes.length := Nat.zero_lt_one
    obtain ⟨hresult, hafter, -⟩ :=
      process_twin host htwin (.inl trivial) (.inl ⟨trivial, trivial⟩) hid hown
    have hid' : (c.detached.process host c.ownJournal).2.1.id = 0 :=
      congrArg Prod.fst (place_process host c.detached c.ownJournal)
    simp only [take]
    exact ⟨congrArg _ (hresult.eq fun _ _ => Failure.Alike.eq).symm, hafter.eq_detached hid'⟩

end Context

/-! ## Histories -/

/-- How a context has been opened, and the moves that have been made on it since. -/
structure Context.History where
  /-- The context as it was opened, alone. -/
  origin : Context
  /-- The moves on it, in order, each with the host as it was then. -/
  moves : List (Host × Move) := []

namespace Context.History

/-- What becomes of the context when all moves are made on it alone. -/
def state (h : History) : Context :=
  h.moves.foldl (fun c (host, m) => (c.take host c.ownJournal m).2.1) h.origin

/-- What the context answers, alone, to one more move. -/
def answer (h : History) (host : Host) (m : Move) : Reply :=
  (h.state.take host h.state.ownJournal m).1

/-- The history when one more move has been made. -/
def extend (h : History) (host : Host) (m : Move) : History :=
  { h with moves := h.moves ++ [(host, m)] }

theorem state_extend (h : History) (host : Host) (m : Move) :
    (h.extend host m).state = (h.state.take host h.state.ownJournal m).2.1 := by
  rw [state, extend, List.foldl_append]
  rfl

/-- A context stays where it has been opened. -/
theorem place_state (h : History) : h.state.place = h.origin.place := by
  obtain ⟨origin, moves⟩ := h
  rw [state]
  induction moves generalizing origin with
  | nil => rfl
  | cons first moves ih =>
    obtain ⟨host, m⟩ := first
    exact (ih _).trans (place_take host origin _ m)

end Context.History

namespace Session

open Context

/-- What a step adds to the histories of the contexts of a session. -/
def record (store : Store) (hs : List History) (host : Host) : Step → List History
  | .root name seed =>
    match store.get name with
    | .error _ => hs
    | .ok definition => hs ++ [⟨.root name seed definition.main, []⟩]
  | .nested parent seed operations =>
    match hs[parent]? with
    | none => hs
    | some h => hs ++ [⟨h.origin.child 0 seed operations, []⟩]
  | .move index m => hs.modify index (·.extend host m)

/-- The histories of the contexts of a session, in order of creation. They are put together from the
    steps, and no evaluation has a part in that. -/
def histories (store : Store) (steps : List (Host × Step)) : List History :=
  steps.foldl (fun hs (host, step) => record store hs host step) []

/-- A session keeps to the histories of its contexts: each is as it would be alone. -/
structure Tracks (s : Session) (hs : List History) : Prop where
  wellFormed : s.WellFormed
  contexts : s.contexts.map (·.context.detached) = hs.map History.state

variable {s : Session} {hs : List History} {e : Entry} {i : Nat}

theorem Tracks.getElem? (h : Tracks s hs) (i : Nat) :
    (s.contexts[i]?).map (·.context.detached) = (hs[i]?).map History.state := by
  rw [← List.getElem?_map, h.contexts, List.getElem?_map]

/-- A context has a history, and is as it would be alone. -/
theorem Tracks.exists_history (h : Tracks s hs) (he : s.contexts[i]? = some e) :
    ∃ history, hs[i]? = some history ∧ history.state = e.context.detached := by
  have hget := h.getElem? i
  rw [he] at hget
  exact Option.map_eq_some_iff.1 hget.symm

/-- Where there is no context there is no history. -/
theorem Tracks.getElem?_eq_none (h : Tracks s hs) (hi : s.contexts[i]? = none) :
    hs[i]? = none := by
  have hget := h.getElem? i
  rw [hi] at hget
  exact Option.map_eq_none_iff.1 hget.symm

/-- A context has its node in the tree whose journal it continues. -/
theorem Tracks.id_lt (h : Tracks s hs) (he : s.contexts[i]? = some e) :
    e.context.id < (s.journal e.tree).tree.nodes.length := by
  obtain ⟨t, n, ht, hn, -⟩ := h.wellFormed.contexts e (List.mem_of_getElem? he)
  rw [journal_tree ht]
  exact ContextTree.lt_length_of_node? hn

theorem Tracks.step (h : Tracks s hs) (host : Host) (store : Store) (step : Step) :
    Tracks (s.step host store step).2 (record store hs host step) := by
  refine ⟨h.wellFormed.step host store step, ?_⟩
  cases step with
  | root name seed =>
    rw [record]
    cases hdefinition : store.get name with
    | error err =>
      rw [step_root_error hdefinition]
      exact h.contexts
    | ok definition =>
      rw [step_root_ok hdefinition, List.map_append, List.map_append, h.contexts]
      rfl
  | nested parent seed operations =>
    rw [record]
    cases he : s.contexts[parent]? with
    | none =>
      rw [step_missing rfl he, h.getElem?_eq_none he]
      exact h.contexts
    | some e =>
      obtain ⟨history, hhistory, hstate⟩ := h.exists_history he
      -- The parent stands where it has been opened, whatever it has done since.
      have hplace : e.context.detached.place = history.origin.place :=
        hstate ▸ history.place_state
      injection hplace with _ hplace
      injection hplace with hdepth hname
      rw [step_nested he, hhistory]
      simp only [List.map_append, h.contexts]
      refine congrArg (_ ++ [·]) ?_
      simp only [detached, child, History.state, List.foldl_nil] at hdepth hname ⊢
      rw [hdepth, hname]
  | move index m =>
    rw [record]
    cases he : s.contexts[index]? with
    | none =>
      rw [step_missing rfl he,
        List.modify_eq_self (List.getElem?_eq_none_iff.1 (h.getElem?_eq_none he))]
      exact h.contexts
    | some e =>
      rw [step_move he]
      refine map_modify_congr h.contexts fun e' history he' hhistory => ?_
      obtain rfl := Option.some.inj (he.symm.trans he')
      obtain ⟨history', hhistory', hstate⟩ := h.exists_history he
      obtain rfl := Option.some.inj (hhistory.symm.trans hhistory')
      rw [History.state_extend, hstate]
      exact (take_detached host (h.id_lt he) m).2.symm

/-- A session keeps to its histories whatever is done in it. -/
theorem run_tracks (store : Store) (steps : List (Host × Step)) :
    Tracks (run store steps {}) (histories store steps) := by
  suffices hrun : ∀ s hs, Tracks s hs → Tracks (run store steps s)
      (steps.foldl (fun hs (host, step) => record store hs host step) hs) from
    hrun {} [] ⟨wellFormed_empty, rfl⟩
  induction steps with
  | nil => exact fun _ _ h => h
  | cons first steps ih =>
    obtain ⟨host, step⟩ := first
    exact fun s hs h => ih _ _ (h.step host store step)

/-- Whatever has been done in a session, each of its contexts is, but for its index, what it would
    be alone after the moves on it, and answers the next move as it would alone, whatever the hosts
    are. And a step that is about this context leaves all other trees as they are; in its own tree
    no node changes but its own, and of that only the output, and what is added stands below it. -/
theorem run_isolated (store : Store) (steps : List (Host × Step))
    (he : (run store steps {}).contexts[i]? = some e) :
    let s := run store steps {}
    ∃ history t, (histories store steps)[i]? = some history ∧ s.trees[e.tree]? = some t ∧
      e.context = { history.state with id := e.context.id } ∧
      (∀ host m, (s.step host store (.move i m)).1 = some (history.answer host m)) ∧
      ∀ (host : Host) (step : Step), step.subject? = some i → ∃ t',
        (s.step host store step).2.trees = s.trees.set e.tree t' ∧ t.Persists t' ∧
          (∀ k n, t.node? k = some n → k ≠ e.context.id → t'.node? k = some n) ∧
          ∀ k n, t'.node? k = some n → t.nodes.length ≤ k → t'.Descends e.context.id k := by
  intro s
  have htracks : Tracks s (histories store steps) := run_tracks store steps
  obtain ⟨history, hhistory, hstate⟩ := htracks.exists_history he
  obtain ⟨t, n, ht, hn, -⟩ := htracks.wellFormed.contexts e (List.mem_of_getElem? he)
  refine ⟨history, t, hhistory, ht, ?_, fun host m => ?_, fun host step hsubject => ?_⟩
  · rw [hstate]
    rfl
  · rw [step_move he, History.answer, hstate]
    exact congrArg some (take_detached host (htracks.id_lt he) m).1.symm
  · obtain ⟨t', htrees, hlocal⟩ :=
      step_local host store hsubject he ht (ContextTree.lt_length_of_node? hn)
    exact ⟨t', htrees, hlocal.persists, hlocal.others, hlocal.descends⟩

/-- A resource is spent once it has been processed, and stays so after another context in its tree
    has been processed as well. -/
theorem run_isolated_nested :
    let page : Operation := { directives := [("md", .null), ("with", .obj [("raw", .str "a")])] }
    let store : Store := ⟨[("page", ⟨[page]⟩)]⟩
    let steps : List Step :=
      [.root "page" .null, .move 0 .process, .nested 0 .null [page], .move 1 .process]
    let s := run store (steps.map (.bare, ·)) {}
    ∃ e, s.contexts[0]? = some e ∧ (s.step .bare store (.move 0 .process)).1 =
      some (.processed (.error (.ofEngine (.duplicatePrimary "page" 1 "md")))) := by
  intro page store steps s
  have hsome : s.contexts[0]?.isSome := by decide +kernel
  obtain ⟨e, he⟩ := Option.isSome_iff_exists.1 hsome
  obtain ⟨history, -, hhistory, -, -, hanswer, -⟩ := run_isolated store _ he
  obtain rfl : ⟨.root "page" .null [page], [(.bare, .process)]⟩ = history :=
    Option.some.inj hhistory
  refine ⟨e, he, (hanswer .bare .process).trans ?_⟩
  decide +kernel

end Session

end Folio
