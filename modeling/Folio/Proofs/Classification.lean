import Folio.Context
import Folio.Proofs.Result

/-!
# What is on the queues

Classification visits the keys one by one and pushes directives on four queues. What it answers can
be said without visiting anything: a list is accepted when each of its operations is *well keyed*,
and then every queue lists the directives of its class, operation by operation
(`Queues.ofOperations`).

* `Queues.classify_eq_ok`: when a list is accepted, and its queues;
* `Queues.ofOperations_congr`: the queues depend on the directives alone, and not on anything that
  has been computed;
* `Context.prepare_eq`: preparing a context puts defaults around its list, and its queues are those
  of the list with the defaults.
-/

namespace Folio

open Result

namespace Directive

/-- The primary directive that this is, if it is one. -/
def primary? : Directive → Option Primary
  | .primary p => some p
  | .secondary _ | .input | .output => none

/-- The secondary directive that this is, if it is one. -/
def secondary? : Directive → Option Secondary
  | .secondary s => some s
  | .primary _ | .input | .output => none

theorem secondary?_eq_some {d : Directive} {s : Secondary} :
    d.secondary? = some s ↔ d = .secondary s := by
  cases d <;> simp [secondary?]

theorem ofName?_name (d : Directive) : ofName? d.name = some d := by
  rw [ofName?, classify_name]
  rfl

/-- A key names a directive exactly when it is the name of that directive. -/
theorem ofName?_eq_some {key : String} {d : Directive} : ofName? key = some d ↔ key = d.name := by
  refine ⟨fun h => ?_, fun h => h ▸ ofName?_name d⟩
  unfold ofName? Kind.classify at h
  split at h
  · rename_i d' hfind
    cases h
    have hname := List.find?_some hfind
    exact (beq_iff_eq.1 hname).symm
  · split at h <;> cases h

end Directive

/-! ## The directives of an operation -/

namespace Operation

/-- The keys of an operation; those of a map stand in their order. -/
def keys (op : Operation) : List String := op.directives.map Prod.fst

/-- The directives of an operation, in the order of its keys. -/
def runs (op : Operation) : List Directive :=
  op.directives.filterMap fun field => Directive.ofName? field.1

/-- The primary directives of an operation. -/
def primaries (op : Operation) : List Primary := op.runs.filterMap Directive.primary?

/-- The secondary directives of an operation. -/
def secondaries (op : Operation) : List Secondary := op.runs.filterMap Directive.secondary?

/-- The primary directive of an operation; one that has been accepted has no second. -/
def primary? (op : Operation) : Option Primary := op.primaries.head?

/-- An operation that classification accepts: every key is known, and at most one of them is a
    primary directive. -/
structure WellKeyed (op : Operation) : Prop where
  known : ∀ field ∈ op.directives, Directive.Kind.classify field.1 ≠ .unknown
  single : op.primaries.length ≤ 1

/-- An operation whose primary directive, if it has one, has not been run. -/
def Startable (op : Operation) : Prop := op.primary?.isSome → op.executed = false

variable {op op' : Operation}

/-- An operation has the directives that it has an argument for. -/
theorem mem_runs {d : Directive} : d ∈ op.runs ↔ (op.argument d.name).isSome := by
  simp only [runs, List.mem_filterMap, Directive.ofName?_eq_some, argument, Json.Fields.get?,
    Option.isSome_map, List.find?_isSome, beq_iff_eq]

theorem runs_congr (h : op.directives = op'.directives) : op.runs = op'.runs := by
  rw [runs, runs, h]

/-- Directives stand in the order of their keys. -/
theorem pairwise_runs (h : op.keys.Pairwise (· < ·)) :
    op.runs.Pairwise fun d d' => d.name < d'.name := by
  refine List.Pairwise.filterMap _ ?_ (List.pairwise_map.1 h)
  rintro ⟨name, _⟩ ⟨name', _⟩ hlt d hd d' hd'
  rwa [Directive.ofName?_eq_some.1 hd, Directive.ofName?_eq_some.1 hd'] at hlt

/-- In a map no directive stands twice. -/
theorem nodup_runs (h : op.keys.Pairwise (· < ·)) : op.runs.Nodup := by
  refine (pairwise_runs h).imp ?_
  rintro d _ hlt rfl
  exact String.lt_irrefl _ hlt

theorem primaries_congr (h : op.directives = op'.directives) : op.primaries = op'.primaries := by
  rw [primaries, primaries, runs_congr h]

theorem argument_congr (h : op.directives = op'.directives) (name : String) :
    op.argument name = op'.argument name := by
  rw [argument, argument, h]

theorem map_primaries : op.primaries.map .primary = op.runs.filter (·.primary?.isSome) := by
  rw [primaries, List.map_filterMap, ← List.filterMap_eq_filter]
  congr 1
  funext d
  cases d <;> rfl

theorem map_secondaries : op.secondaries.map .secondary = op.runs.filter (·.secondary?.isSome) := by
  rw [secondaries, List.map_filterMap, ← List.filterMap_eq_filter]
  congr 1
  funext d
  cases d <;> rfl

theorem mem_secondaries {s : Secondary} : s ∈ op.secondaries ↔ (op.argument s.name).isSome := by
  simp only [secondaries, List.mem_filterMap, Directive.secondary?_eq_some, exists_eq_right,
    mem_runs, Directive.name]

/-- What holds of all directives of a list holds of those of any list with the same ones. -/
theorem forall_directives (P : Json.Fields → Prop) {ops ops' : List Operation}
    (h : ops.map directives = ops'.map directives) :
    (∀ op ∈ ops, P op.directives) ↔ ∀ op ∈ ops', P op.directives := by
  rw [← List.forall_mem_map (f := directives) (P := P), h, List.forall_mem_map]

theorem wellKeyed_congr {ops ops' : List Operation}
    (h : ops.map directives = ops'.map directives) :
    (∀ op ∈ ops, op.WellKeyed) ↔ ∀ op ∈ ops', op.WellKeyed := by
  have hiff (op : Operation) :
      op.WellKeyed ↔ ({ directives := op.directives } : Operation).WellKeyed :=
    ⟨fun h => ⟨h.known, h.single⟩, fun h => ⟨h.known, h.single⟩⟩
  simp only [hiff]
  exact forall_directives (fun fields => ({ directives := fields } : Operation).WellKeyed) h

theorem any_runs_congr (d : Directive) {ops ops' : List Operation}
    (h : ops.map directives = ops'.map directives) :
    ops.any (d ∈ ·.runs) = ops'.any (d ∈ ·.runs) := by
  have hmap (ops : List Operation) : ops.any (d ∈ ·.runs) =
      (ops.map directives).any fun fields => d ∈ ({ directives := fields } : Operation).runs := by
    rw [List.any_map]
    rfl
  rw [hmap, hmap, h]

theorem startable_congr {ops ops' : List Operation}
    (h : ops.map (fun op => (op.directives, op.executed)) =
      ops'.map fun op => (op.directives, op.executed)) :
    (∀ op ∈ ops, op.Startable) ↔ ∀ op ∈ ops', op.Startable := by
  have hmap (ops : List Operation) : (∀ op ∈ ops, op.Startable) ↔
      ∀ w ∈ ops.map fun op => (op.directives, op.executed),
        ({ directives := w.1, executed := w.2 } : Operation).Startable := by
    rw [List.forall_mem_map]
    rfl
  rw [hmap, hmap, h]

theorem WellKeyed.primaries_eq (h : op.WellKeyed) : op.primaries = op.primary?.toList := by
  have hsingle := h.single
  rw [primary?]
  match hp : op.primaries with
  | [] => rfl
  | [p] => rfl
  | _ :: _ :: _ => simp [hp] at hsingle

end Operation

theorem FileRef.ofOperation_congr {op op' : Operation} (h : op.directives = op'.directives)
    (p : Primary) : ofOperation p op = ofOperation p op' := by
  rw [ofOperation, ofOperation, Operation.argument_congr h]

/-! ## Queues -/

/-- The directives that `f` picks from each operation of a list that starts at an index, in the
    order of the operations. -/
def Queued.listing (f : Operation → List Directive) : (index : Nat) → List Operation → List Queued
  | _, [] => []
  | index, op :: rest => (f op).map (⟨index, ·⟩) ++ listing f (index + 1) rest

namespace Queues

/-- The queues of an accepted list: the directives of each class, operation by operation. -/
def ofOperations (ops : List Operation) : Queues where
  input := Queued.listing (fun op => op.runs.filter (· = .input)) 0 ops
  secondary := Queued.listing (fun op => op.secondaries.map .secondary) 0 ops
  primary := Queued.listing (fun op => op.primaries.map .primary) 0 ops
  output := Queued.listing (fun op => op.runs.filter (· = .output)) 0 ops

end Queues

namespace Queued

theorem listing_append (f : Operation → List Directive) (i : Nat) (xs ys : List Operation) :
    listing f i (xs ++ ys) = listing f i xs ++ listing f (i + xs.length) ys := by
  induction xs generalizing i with
  | nil => rfl
  | cons op xs ih =>
    simp only [List.cons_append, listing, ih, List.append_assoc, List.length_cons]
    congr 3
    omega

/-- Listing from one index further on moves every entry by one. -/
theorem listing_succ (f : Operation → List Directive) (i : Nat) (ops : List Operation) :
    listing f (i + 1) ops = (listing f i ops).map fun d => { d with index := d.index + 1 } := by
  induction ops generalizing i with
  | nil => rfl
  | cons op ops ih => simp [listing, ih]

theorem filter_listing (p : Directive → Bool) (f : Operation → List Directive) (i : Nat)
    (ops : List Operation) :
    (listing f i ops).filter (fun d => p d.directive) =
      listing (fun op => (f op).filter p) i ops := by
  induction ops generalizing i with
  | nil => rfl
  | cons op ops ih => simp [listing, ih, List.filter_map, Function.comp_def]

theorem listing_eq_nil {f : Operation → List Directive} {i : Nat} {ops : List Operation} :
    listing f i ops = [] ↔ ∀ op ∈ ops, f op = [] := by
  induction ops generalizing i with
  | nil => simp [listing]
  | cons op ops ih => simp [listing, ih]

/-- What is listed under an index belongs to the operation of that index. -/
theorem mem_listing {f : Operation → List Directive} {i : Nat} {ops : List Operation} {d : Queued} :
    d ∈ listing f i ops ↔ ∃ k op, ops[k]? = some op ∧ d.index = i + k ∧ d.directive ∈ f op := by
  induction ops generalizing i with
  | nil => simp [listing]
  | cons op ops ih =>
    rw [listing, List.mem_append, List.mem_map, ih]
    constructor
    · rintro (⟨d, hd, rfl⟩ | ⟨k, op', hk, hi, hd⟩)
      · exact ⟨0, op, rfl, rfl, hd⟩
      · exact ⟨k + 1, op', hk, by omega, hd⟩
    · rintro ⟨k, op', hk, hi, hd⟩
      obtain ⟨index, directive⟩ := d
      cases k with
      | zero =>
        cases hk
        obtain rfl : index = i := hi
        exact .inl ⟨directive, hd, rfl⟩
      | succ k => exact .inr ⟨k, op', hk, by omega, hd⟩

/-- What holds of all entries of a listing holds of all operations and what they list. -/
theorem forall_listing {P : Operation → Directive → Prop} {f : Operation → List Directive}
    {ops : List Operation} :
    (∀ d ∈ listing f 0 ops, P (ops[d.index]?.getD {}) d.directive) ↔
      ∀ op ∈ ops, ∀ d ∈ f op, P op d := by
  constructor
  · intro h op hop d hd
    obtain ⟨k, hk⟩ := List.mem_iff_getElem?.1 hop
    have hentry := h ⟨k, d⟩ (mem_listing.2 ⟨k, op, hk, (Nat.zero_add k).symm, hd⟩)
    rwa [hk] at hentry
  · intro h d hd
    obtain ⟨k, op, hk, hindex, hdirective⟩ := mem_listing.1 hd
    rw [hindex, Nat.zero_add, hk]
    exact h op (List.mem_of_getElem? hk) _ hdirective

/-- The first primary directive on the queue is that of the first operation that has one. -/
theorem listing_primaries_eq_cons {ops : List Operation} (hkeyed : ∀ op ∈ ops, op.WellKeyed)
    {i : Nat} {d : Queued} {q : List Queued}
    (h : listing (fun op => op.primaries.map .primary) i ops = d :: q) :
    ∃ k p, d = ⟨i + k, .primary p⟩ ∧ ops.findIdx? (·.primary?.isSome) = some k ∧
      (ops[k]?.getD {}).primary? = some p := by
  induction ops generalizing i with
  | nil => cases h
  | cons op ops ih =>
    rw [List.forall_mem_cons] at hkeyed
    rw [listing, hkeyed.1.primaries_eq] at h
    cases hprimary : op.primary? with
    | none =>
      rw [hprimary] at h
      obtain ⟨k, p, hd, hfind, hp⟩ := ih hkeyed.2 h
      refine ⟨k + 1, p, ?_, by simp [List.findIdx?_cons, hprimary, hfind], hp⟩
      rw [hd, Nat.add_right_comm, Nat.add_assoc]
    | some p =>
      rw [hprimary] at h
      cases h
      exact ⟨0, p, rfl, by simp [List.findIdx?_cons, hprimary], hprimary⟩

/-- Where no operation lists more than one directive, none stands twice on the list. -/
theorem pairwise_index_listing {f : Operation → List Directive} {ops : List Operation}
    (h : ∀ op ∈ ops, (f op).length ≤ 1) (i : Nat) :
    ((listing f i ops).map index).Pairwise (· < ·) := by
  induction ops generalizing i with
  | nil => exact .nil
  | cons op ops ih =>
    rw [List.forall_mem_cons] at h
    rw [listing, List.map_append, List.pairwise_append]
    refine ⟨?_, ih h.2 (i + 1), fun k hk k' hk' => ?_⟩
    · match hop : f op with
      | [] => exact .nil
      | [d] => exact List.pairwise_singleton _ _
      | _ :: _ :: _ => simp [hop] at h
    · -- Behind the first operation all indices are greater than its own.
      obtain ⟨d, hd, rfl⟩ := List.mem_map.1 hk
      obtain ⟨d', hd', rfl⟩ := List.mem_map.1 hk'
      obtain ⟨_, -, rfl⟩ := List.mem_map.1 hd
      obtain ⟨m, _, -, hindex, -⟩ := mem_listing.1 hd'
      dsimp only
      omega

end Queued

namespace Queues

/-- The directives of one class, picked from the queue of all of them. -/
theorem foldl_push (ds : List Queued) (q : Queues) :
    ds.foldl push q =
      { input := q.input ++ ds.filter (·.directive = .input)
        secondary := q.secondary ++ ds.filter (·.directive.secondary?.isSome)
        primary := q.primary ++ ds.filter (·.directive.primary?.isSome)
        output := q.output ++ ds.filter (·.directive = .output) } := by
  induction ds generalizing q with
  | nil => simp
  | cons d ds ih =>
    obtain ⟨i, d⟩ := d
    rw [List.foldl_cons, ih]
    cases d <;> simp [push, Directive.primary?, Directive.secondary?]

/-- The keys of one operation: known, with room for their primary directives; `seen` has taken it
    already. -/
theorem directivesOf_eq_ok {resource : String} {index : Nat} {seen : Bool} {keys : List String}
    {ds : List Directive} :
    directivesOf resource index seen keys = .ok ds ↔
      (∀ key ∈ keys, Directive.Kind.classify key ≠ .unknown) ∧
      seen.toNat + ((keys.filterMap Directive.ofName?).filterMap Directive.primary?).length ≤ 1 ∧
      ds = keys.filterMap Directive.ofName? := by
  induction keys generalizing seen ds with
  | nil => cases seen <;> simp [directivesOf, eq_comm]
  | cons key keys ih =>
    simp only [directivesOf, List.filterMap_cons, List.forall_mem_cons, Directive.ofName?]
    cases Directive.Kind.classify key with
    | auxiliary => simp [ih, Directive.Kind.directive?]
    | unknown => simp
    | runs d =>
      cases d with
      | primary p =>
        -- Here the room is taken, and there must have been some.
        cases seen with
        | false =>
          simp only [Bool.false_eq_true, if_false, bind_pure_comp, map_eq_ok, ih,
            Directive.Kind.directive?, Directive.primary?, List.filterMap_cons, List.length_cons]
          grind
        | true => grind [Directive.Kind.directive?, Directive.primary?]
      | _ =>
        simp only [bind_pure_comp, map_eq_ok, ih, Directive.Kind.directive?, Directive.primary?,
          List.filterMap_cons]
        grind

theorem directivesOf_fields_eq_ok {resource : String} {index : Nat} {op : Operation}
    {ds : List Directive} :
    directivesOf resource index false (op.directives.map Prod.fst) = .ok ds ↔
      op.WellKeyed ∧ ds = op.runs := by
  simp only [directivesOf_eq_ok, List.filterMap_map, List.forall_mem_map, Bool.toNat_false,
    Nat.zero_add]
  constructor
  · rintro ⟨hknown, hsingle, hds⟩
    exact ⟨⟨hknown, hsingle⟩, hds⟩
  · rintro ⟨⟨hknown, hsingle⟩, hds⟩
    exact ⟨hknown, hsingle, hds⟩

theorem collect_eq_ok {resource : String} {index : Nat} {ops : List Operation} {ds : List Queued} :
    collect resource index ops = .ok ds ↔
      (∀ op ∈ ops, op.WellKeyed) ∧ ds = Queued.listing Operation.runs index ops := by
  induction ops generalizing index ds with
  | nil => simp [collect, Queued.listing, eq_comm]
  | cons op ops ih =>
    simp only [collect, bind_eq_ok, directivesOf_fields_eq_ok, ih, pure, Except.pure,
      Except.ok.injEq, Queued.listing, List.forall_mem_cons]
    constructor
    · rintro ⟨_, ⟨hop, rfl⟩, _, ⟨hops, rfl⟩, rfl⟩
      exact ⟨⟨hop, hops⟩, rfl⟩
    · rintro ⟨⟨hop, hops⟩, rfl⟩
      exact ⟨_, ⟨hop, rfl⟩, _, ⟨hops, rfl⟩, rfl⟩

/-- The queues are those on which all directives have been pushed in their order. -/
theorem foldl_push_listing (ops : List Operation) :
    (Queued.listing Operation.runs 0 ops).foldl push {} = ofOperations ops := by
  simp only [foldl_push, List.nil_append, ofOperations, Operation.map_secondaries,
    Operation.map_primaries, ← Queued.filter_listing (· = .input),
    ← Queued.filter_listing (·.secondary?.isSome), ← Queued.filter_listing (·.primary?.isSome),
    ← Queued.filter_listing (· = .output)]

/-- Each queue holds the directives of its class, in the order of the whole list. -/
theorem ofOperations_eq_filter (ops : List Operation) :
    let all := Queued.listing Operation.runs 0 ops
    ofOperations ops =
      { input := all.filter (·.directive = .input)
        secondary := all.filter (·.directive.secondary?.isSome)
        primary := all.filter (·.directive.primary?.isSome)
        output := all.filter (·.directive = .output) } := by
  rw [← foldl_push_listing, foldl_push]
  rfl

/-- Classification accepts the lists whose operations are well keyed, and then queues every
    directive in the place it has in the list. -/
theorem classify_eq_ok {resource : String} {ops : List Operation} {q : Queues} :
    classify resource ops = .ok q ↔ (∀ op ∈ ops, op.WellKeyed) ∧ q = ofOperations ops := by
  simp only [classify, bind_pure_comp, map_eq_ok, collect_eq_ok]
  constructor
  · rintro ⟨_, ⟨hops, rfl⟩, rfl⟩
    exact ⟨hops, foldl_push_listing ops⟩
  · rintro ⟨hops, rfl⟩
    exact ⟨_, ⟨hops, rfl⟩, foldl_push_listing ops⟩

theorem isEmpty_listing_runs (d : Directive) (i : Nat) (ops : List Operation) :
    (Queued.listing (fun op => op.runs.filter (· = d)) i ops).isEmpty =
      !ops.any (d ∈ ·.runs) := by
  rw [Bool.eq_iff_iff, List.isEmpty_iff, Queued.listing_eq_nil]
  simp only [List.filter_eq_nil_iff, decide_eq_true_eq, Bool.not_eq_true', List.any_eq_false]
  refine forall₂_congr fun op _ => ⟨fun h hd => h d hd rfl, fun h d' hd' e => h (e ▸ hd')⟩

theorem listing_congr {f : Operation → List Directive}
    (hf : ∀ op op' : Operation, op.directives = op'.directives → f op = f op') (i : Nat)
    {ops ops' : List Operation}
    (h : ops.map Operation.directives = ops'.map Operation.directives) :
    Queued.listing f i ops = Queued.listing f i ops' := by
  induction ops generalizing i ops' with
  | nil => rw [List.map_eq_nil_iff.1 h.symm]
  | cons op ops ih =>
    obtain ⟨op', ops', rfl, hop, hops⟩ := List.map_eq_cons_iff.1 h.symm
    rw [Queued.listing, Queued.listing, hf op op' hop.symm, ih (i + 1) hops.symm]

/-- The queues depend on the directives alone, and not on what has been computed. -/
theorem ofOperations_congr {ops ops' : List Operation}
    (h : ops.map Operation.directives = ops'.map Operation.directives) :
    ofOperations ops = ofOperations ops' := by
  simp only [ofOperations]
  congr 1 <;> refine listing_congr (fun op op' h => ?_) 0 h
  · rw [Operation.runs_congr h]
  · rw [Operation.secondaries, Operation.runs_congr h, Operation.secondaries]
  · rw [Operation.primaries_congr h]
  · rw [Operation.runs_congr h]

end Queues

/-! ## Defaults -/

namespace Operation

/-- The list with an input directive in front, unless it has one. -/
def withInput (ops : List Operation) : List Operation :=
  if ops.any (.input ∈ ·.runs) then ops else defaultInput :: ops

/-- The list with an output directive at the end, unless it has one. -/
def withOutput (ops : List Operation) : List Operation :=
  if ops.any (.output ∈ ·.runs) then ops else ops ++ [defaultOutput]

/-- The list that a context works on: defaults stand where an input or an output is missing. -/
def withDefaults (ops : List Operation) : List Operation := withOutput (withInput ops)

@[simp] theorem runs_defaultInput : defaultInput.runs = [.input] := by decide

@[simp] theorem runs_defaultOutput : defaultOutput.runs = [.output] := by decide

theorem mem_withDefaults {op : Operation} {ops : List Operation} (h : op ∈ withDefaults ops) :
    op ∈ ops ∨ op = defaultInput ∨ op = defaultOutput := by
  rw [withDefaults, withOutput, withInput] at h
  grind

theorem mem_withDefaults_of_mem {op : Operation} {ops : List Operation} (h : op ∈ ops) :
    op ∈ withDefaults ops := by
  rw [withDefaults, withOutput, withInput]
  grind

/-- Defaults are well keyed. -/
theorem wellKeyed_withDefaults {ops : List Operation} (h : ∀ op ∈ ops, op.WellKeyed) :
    ∀ op ∈ withDefaults ops, op.WellKeyed := by
  intro op hop
  rcases mem_withDefaults hop with hop | rfl | rfl
  · exact h op hop
  · exact ⟨by decide, by decide⟩
  · exact ⟨by decide, by decide⟩

theorem any_input_withDefaults (ops : List Operation) :
    (withDefaults ops).any (.input ∈ ·.runs) := by
  have hinput : (withInput ops).any (.input ∈ ·.runs) := by
    rw [withInput]
    split
    · assumption
    · simp
  rw [withDefaults, withOutput]
  split
  · exact hinput
  · rw [List.any_append, hinput, Bool.true_or]

theorem any_output_withDefaults (ops : List Operation) :
    (withDefaults ops).any (.output ∈ ·.runs) := by
  rw [withDefaults, withOutput]
  split
  · assumption
  · simp

/-- A list that has both directives keeps as it is. -/
theorem withDefaults_eq_self {ops : List Operation} (hinput : ops.any (.input ∈ ·.runs))
    (houtput : ops.any (.output ∈ ·.runs)) : withDefaults ops = ops := by
  rw [withDefaults, withInput, if_pos hinput, withOutput, if_pos houtput]

theorem withDefaults_withDefaults (ops : List Operation) :
    withDefaults (withDefaults ops) = withDefaults ops :=
  withDefaults_eq_self (any_input_withDefaults ops) (any_output_withDefaults ops)

end Operation

namespace Context

/-- The context once it has been prepared, whatever it was before. -/
def prepared (ctx : Context) : Context :=
  { ctx with
    operations := Operation.withDefaults ctx.operations
    queues := Queues.ofOperations (Operation.withDefaults ctx.operations) }

theorem injectInput_eq {ctx : Context} (h : ctx.queues = Queues.ofOperations ctx.operations) :
    ctx.injectInput =
      { ctx with
        operations := Operation.withInput ctx.operations
        queues := Queues.ofOperations (Operation.withInput ctx.operations) } := by
  have hempty := Queues.isEmpty_listing_runs .input 0 ctx.operations
  rw [injectInput, Operation.withInput, h, Queues.ofOperations, hempty]
  cases hin : ctx.operations.any (.input ∈ ·.runs) with
  | true =>
    simp only [Bool.not_true, Bool.false_eq_true, if_false, if_true]
    exact congrArg (fun q => { ctx with queues := q }) h
  | false =>
    -- Put in front, the default moves every other entry up; the queue of inputs has none.
    rw [hin] at hempty
    simp [Queues.ofOperations, Queues.shift, Queued.listing, Queued.listing_succ,
      Operation.primaries, Operation.secondaries, Directive.primary?, Directive.secondary?,
      List.isEmpty_iff.1 hempty]

theorem injectOutput_eq {ctx : Context} (h : ctx.queues = Queues.ofOperations ctx.operations) :
    ctx.injectOutput =
      { ctx with
        operations := Operation.withOutput ctx.operations
        queues := Queues.ofOperations (Operation.withOutput ctx.operations) } := by
  have hempty := Queues.isEmpty_listing_runs .output 0 ctx.operations
  rw [injectOutput, Operation.withOutput, h, Queues.ofOperations, hempty]
  cases hout : ctx.operations.any (.output ∈ ·.runs) with
  | true =>
    simp only [Bool.not_true, Bool.false_eq_true, if_false, if_true]
    exact congrArg (fun q => { ctx with queues := q }) h
  | false =>
    -- Put at the end, the default moves no entry.
    rw [hout] at hempty
    simp [Queues.ofOperations, Queued.listing, Queued.listing_append, Operation.primaries,
      Operation.secondaries, Directive.primary?, Directive.secondary?, List.isEmpty_iff.1 hempty]

/-- Preparing a context refuses what classification refuses, and otherwise leaves the queues of the
    list with its defaults. -/
theorem prepare_eq (ctx : Context) :
    ctx.prepare = (fun _ => ctx.prepared) <$> Queues.classify ctx.name ctx.operations := by
  unfold prepare
  cases h : Queues.classify ctx.name ctx.operations with
  | error e => rfl
  | ok q =>
    obtain ⟨-, rfl⟩ := Queues.classify_eq_ok.1 h
    simp only [injectInput_eq, injectOutput_eq]
    rfl

end Context

end Folio
