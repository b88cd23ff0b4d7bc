import Folio.Proofs.Validation

/-!
# Lists one after the other

Without `out` the data of a list are joined as text, so that each operation adds its share of the
output (`Direct.share`). The share depends on nothing but the operation: neither its place nor the
operations around it have a part in it. So a list can be cut in two anywhere, and each part be
evaluated on its own.

* `Direct.body_eq_ok_of_no_out`: the output of a list is made of the shares of its operations;
* `Context.process_eq_ok_of_no_out`: and so is what a context evaluates to;
* `Context.process_append`: two lists evaluated as one.
-/

namespace Folio

open Result

namespace Direct

variable {host : Host} {resource : String} {seed : Json} {depth : Nat} {ops : List Operation}

/-- The text of the data of an operation, if it has any. -/
def addedText (op : Operation) : String := (op.data.map Json.toText).getD ""

/-- The text that an operation adds to the output of its list where texts are joined. -/
def share (host : Host) (resource : String) (seed : Json) (depth : Nat) (op : Operation) :
    Except Stop String := do
  let carried ← carry host resource seed depth op
  let done ← produce host resource seed depth carried
  return addedText done

/-- The walks of an evaluation through its list may as well be taken as one. -/
theorem mapM_share_eq_ok {texts : List String} :
    ops.mapM (share host resource seed depth) = .ok texts ↔
      ∃ carried done, ops.mapM (carry host resource seed depth) = .ok carried ∧
        carried.mapM (produce host resource seed depth) = .ok done ∧
        texts = done.map addedText := by
  have hpure (done : List Operation) :
      done.mapM (fun op => pure (addedText op)) =
        (.ok (done.map addedText) : Except Stop (List String)) := List.mapM_pure
  unfold share
  simp only [mapM_bind_eq_ok, hpure, Except.ok.injEq]
  constructor
  · rintro ⟨carried, hcarried, done, hdone, rfl⟩
    exact ⟨carried, done, hcarried, hdone, rfl⟩
  · rintro ⟨carried, done, hcarried, hdone, rfl⟩
    exact ⟨carried, hcarried, done, hdone, rfl⟩

/-- Data that are absent add nothing when data are joined. -/
theorem joinTexts_filterMap (ops : List Operation) :
    Json.joinTexts (ops.filterMap Operation.data) =
      String.join (ops.map addedText) := by
  induction ops with
  | nil => rfl
  | cons op ops ih =>
    rw [Json.joinTexts] at ih ⊢
    cases hdata : op.data <;> simp [hdata, ih, String.join_cons, addedText]

theorem output_of_no_out (h : ∀ op ∈ ops, op.argument "out" = none) :
    output ops = .ok (.str (String.join (ops.map addedText))) := by
  have hnone : ops.filter (fun op => (op.argument "out").isSome) = [] :=
    List.filter_eq_nil_iff.2 fun op hop => by simp [h op hop]
  rw [output, hnone, ← joinTexts_filterMap]
  rfl

/-- The value of a list without `out` is made of the shares of its operations. -/
theorem body_eq_ok_of_no_out (h : ∀ op ∈ ops, op.argument "out" = none) {v : Json} :
    body host resource seed depth ops = .ok v ↔
      ∃ texts, ops.mapM (share host resource seed depth) = .ok texts ∧
        v = .str (String.join texts) := by
  have houtput (carried done : List Operation)
      (hcarried : ops.mapM (carry host resource seed depth) = .ok carried)
      (hdone : carried.mapM (produce host resource seed depth) = .ok done) :
      output done = .ok (.str (String.join (done.map addedText))) := by
    refine output_of_no_out fun op hop => ?_
    -- No step has added an `out`.
    have hsame := (map_directives_of_produce hdone).trans (map_directives_of_carry hcarried)
    exact (Operation.forall_directives (fun fields => Json.Fields.get? fields "out" = none)
      hsame).2 h op hop
  simp only [body, bind_eq_ok, mapM_share_eq_ok, mapError_eq_ok]
  constructor
  · rintro ⟨carried, hcarried, done, hdone, hv⟩
    rw [houtput carried done hcarried hdone] at hv
    cases hv
    exact ⟨_, ⟨carried, done, hcarried, hdone, rfl⟩, rfl⟩
  · rintro ⟨_, ⟨carried, done, hcarried, hdone, rfl⟩, rfl⟩
    exact ⟨carried, hcarried, done, hdone, houtput carried done hcarried hdone⟩


end Direct

namespace Context

variable {host : Host} {ops xs ys : List Operation}

/-- A context over a list without `out` that has just been made evaluates to the shares of its
    operations. It does so if all of them are accepted and can be started, and each has a share. -/
theorem process_eq_ok_of_no_out (id depth : Nat) (name : String) (seed : Json)
    (h : ∀ op ∈ ops, op.argument "out" = none) (j : Journal) {v : Json} :
    (({ id, depth, name, seed, operations := ops } : Context).process host j).1 = .ok v ↔
      (∀ op ∈ ops, op.WellKeyed ∧ op.Startable) ∧
        ∃ texts, ops.mapM (Direct.share host name seed depth) = .ok texts ∧
          v = .str (String.join texts) := by
  constructor
  · intro hv
    have hnew := startable_of_process hv
    rw [Fresh.process_fst ⟨rfl, hnew⟩, mapError_eq_ok] at hv
    cases hclassify : Queues.classify name ops with
    | error e =>
      rw [Direct.eval_error hclassify] at hv
      cases hv
    | ok q =>
      rw [Direct.eval_ok hclassify, Direct.body_eq_ok_of_no_out h] at hv
      have hkeyed := (Queues.classify_eq_ok.1 hclassify).1
      exact ⟨fun op hop => ⟨hkeyed op hop, hnew op hop⟩, hv⟩
  · rintro ⟨hops, hv⟩
    have hclassify : Queues.classify name ops = .ok (Queues.ofOperations ops) :=
      Queues.classify_eq_ok.2 ⟨fun op hop => (hops op hop).1, rfl⟩
    rw [Fresh.process_fst ⟨rfl, fun op hop => (hops op hop).2⟩, mapError_eq_ok,
      Direct.eval_ok hclassify, Direct.body_eq_ok_of_no_out h]
    exact hv

/-- Two lists without `out` may be evaluated one after the other or as one, wherever their contexts
    stand: the evaluation succeeds if it does so on both, and the text of the first list is followed
    by that of the second. -/
theorem process_append (host : Host) (depth : Nat) (name : String) (seed : Json)
    (hxs : ∀ op ∈ xs, op.argument "out" = none) (hys : ∀ op ∈ ys, op.argument "out" = none)
    (id id₁ id₂ : Nat) (j j₁ j₂ : Journal) :
    let run (id : Nat) (j : Journal) (ops : List Operation) :=
      (({ id, depth, name, seed, operations := ops } : Context).process host j).1
    ((∃ v, run id j (xs ++ ys) = .ok v) ↔
        (∃ v, run id₁ j₁ xs = .ok v) ∧ ∃ v, run id₂ j₂ ys = .ok v) ∧
      ∀ v, run id j (xs ++ ys) = .ok v →
        ∃ s t, run id₁ j₁ xs = .ok (.str s) ∧ run id₂ j₂ ys = .ok (.str t) ∧
          v = .str (s ++ t) := by
  intro run
  have hboth : ∀ op ∈ xs ++ ys, op.argument "out" = none := by
    rw [List.forall_mem_append]
    exact ⟨hxs, hys⟩
  have hrun (v : Json) : run id j (xs ++ ys) = .ok v ↔
      ∃ s t, run id₁ j₁ xs = .ok (.str s) ∧ run id₂ j₂ ys = .ok (.str t) ∧ v = .str (s ++ t) := by
    simp only [run, process_eq_ok_of_no_out _ _ _ _ hboth, process_eq_ok_of_no_out _ _ _ _ hxs,
      process_eq_ok_of_no_out _ _ _ _ hys, List.forall_mem_append, mapM_append_eq_ok]
    constructor
    · rintro ⟨⟨hx, hy⟩, _, ⟨ss, ts, hss, hts, rfl⟩, rfl⟩
      exact ⟨_, _, ⟨hx, ss, hss, rfl⟩, ⟨hy, ts, hts, rfl⟩, by rw [String.join_append]⟩
    · rintro ⟨_, _, ⟨hx, ss, hss, hs⟩, ⟨hy, ts, hts, ht⟩, rfl⟩
      cases hs
      cases ht
      exact ⟨⟨hx, hy⟩, _, ⟨ss, ts, hss, hts, rfl⟩, by rw [String.join_append]⟩
  have htext {id : Nat} {j : Journal} {ops : List Operation} {v : Json}
      (hops : ∀ op ∈ ops, op.argument "out" = none) (hv : run id j ops = .ok v) :
      ∃ s, v = .str s := by
    obtain ⟨-, texts, -, rfl⟩ := (process_eq_ok_of_no_out _ _ _ _ hops _).1 hv
    exact ⟨_, rfl⟩
  refine ⟨⟨?_, ?_⟩, fun v => (hrun v).1⟩
  · rintro ⟨v, hv⟩
    obtain ⟨s, t, hs, ht, -⟩ := (hrun v).1 hv
    exact ⟨⟨_, hs⟩, _, ht⟩
  · rintro ⟨⟨v, hv⟩, w, hw⟩
    obtain ⟨s, rfl⟩ := htext hxs hv
    obtain ⟨t, rfl⟩ := htext hys hw
    exact ⟨_, (hrun _).2 ⟨s, t, hv, hw, rfl⟩⟩

/-- The text of a nested list and a plain one. -/
theorem process_append_nested :
    let xs : List Operation :=
      [{ directives := [("md", .null), ("with", .obj [("raw", .str "a")])] }]
    let ys : List Operation := [{ directives := [("in", .null), ("raw", .str "b")] }]
    (∀ op ∈ xs, op.argument "out" = none) ∧ (∀ op ∈ ys, op.argument "out" = none) ∧
      ∃ s t, ((root "page" .null xs).process .bare ⟨.root "page", [], []⟩).1 = .ok (.str s) ∧
        ((root "page" .null ys).process .bare ⟨.root "page", [], []⟩).1 = .ok (.str t) ∧
        Json.str "ab" = .str (s ++ t) := by
  intro xs ys
  have hxs : ∀ op ∈ xs, op.argument "out" = none := by decide
  have hys : ∀ op ∈ ys, op.argument "out" = none := by decide
  have hok : ((root "page" .null (xs ++ ys)).process .bare ⟨.root "page", [], []⟩).1 =
      .ok (.str "ab") := by
    decide +kernel
  exact ⟨hxs, hys, (process_append .bare 0 "page" .null hxs hys 0 0 0 _ _ _).2 _ hok⟩

end Context

end Folio
