import Folio.Proofs.Classification

/-!
# Faults of a list

A key of an operation is at *fault* if nothing is known by that name, or if it is a primary
directive and an earlier key of the operation is one as well. Classification visits the operations
in their order and the keys of each in theirs, and so the fault it reports is the first one of the
list. A list without faults is put on the queues, each directive once.

* `KeyFault`, `Fault`: the faults of an operation and of a list, with the words for them;
* `Queues.directivesOf_eq_error`: the keys of an operation are refused for the first one at fault;
* `Queues.Exact`: queues that hold each directive of a list once, in its order;
* `Queues.classify_faults`: a list with faults is refused for the first of them, and one without is
  put on the queues.
-/

namespace Folio

open Result

/-! ## Faults -/

/-- What is wrong with a key among the keys of one operation, and the error that says so. -/
inductive KeyFault (resource : String) (index : Nat) (keys : List String) :
    String → EngineError → Prop
  /-- It is neither a directive nor the name of a computed field. -/
  | unknown {key : String} (hkey : key ∈ keys) (hdirective : ∀ d : Directive, d.name ≠ key)
      (hauxiliary : key ∉ Directive.auxiliary) :
      KeyFault resource index keys key (.unknownDirective resource index key)
  /-- It is a primary directive, and so is an earlier key. -/
  | second {first second : Primary} (hfirst : first.name ∈ keys) (hsecond : second.name ∈ keys)
      (hlt : first.name < second.name) :
      KeyFault resource index keys second.name (.duplicatePrimary resource index second.name)

/-- What is wrong with a key of the operation of an index, and the error that says so. -/
def Fault (resource : String) (ops : List Operation) (index : Nat) (key : String)
    (e : EngineError) : Prop :=
  ∃ op, ops[index]? = some op ∧ KeyFault resource index op.keys key e

/-- One directive stands before another one: its operation does, or its key on the same
    operation. -/
def Queued.Before (d d' : Queued) : Prop :=
  d.index < d'.index ∨ d.index = d'.index ∧ d.directive.name < d'.directive.name

namespace Directive

theorem mem_all (d : Directive) : d ∈ all := by
  cases d with
  | primary p => cases p <;> decide
  | secondary s => cases s <;> decide
  | input | output => decide

theorem classify_eq_unknown {key : String} :
    Kind.classify key = .unknown ↔ (∀ d : Directive, d.name ≠ key) ∧ key ∉ auxiliary := by
  have hfind : (all.find? fun d => d.name == key) = none ↔ ∀ d : Directive, d.name ≠ key := by
    simp [mem_all]
  rw [← hfind, Kind.classify]
  cases all.find? fun d => d.name == key <;> simp

theorem name_notMem_auxiliary (d : Directive) : d.name ∉ auxiliary := by
  cases d with
  | primary p => cases p <;> decide
  | secondary s => cases s <;> decide
  | input | output => decide

/-- A known key names a directive unless it is auxiliary. -/
theorem isSome_ofName? {key : String} (h : Kind.classify key ≠ .unknown) :
    (ofName? key).isSome ↔ key ∉ auxiliary := by
  cases hkind : Kind.classify key with
  | runs d =>
    have hname : ofName? key = some d := by rw [ofName?, hkind, Kind.directive?]
    rw [hname, ofName?_eq_some.1 hname]
    exact iff_of_true rfl (name_notMem_auxiliary d)
  | auxiliary =>
    rw [ofName?, hkind]
    refine iff_of_false Bool.false_ne_true (not_not_intro ?_)
    unfold Kind.classify at hkind
    split at hkind
    · cases hkind
    · split at hkind
      · rename_i hcontains
        exact List.contains_iff_mem.1 hcontains
      · cases hkind
  | unknown => exact absurd hkind h

end Directive

theorem KeyFault.mem {resource key : String} {index : Nat} {keys : List String} {e : EngineError}
    (h : KeyFault resource index keys key e) : key ∈ keys := by
  cases h <;> assumption

/-! ## One operation -/

namespace Queues

variable {resource key : String} {index : Nat} {seen : Bool} {keys : List String} {e : EngineError}

/-- How many primary directives there are once some keys have been visited; `seen` says that there
    has been one before. -/
def primariesSeen (seen : Bool) (keys : List String) : Nat :=
  seen.toNat + ((keys.filterMap Directive.ofName?).filterMap Directive.primary?).length

/-- Where a primary directive has been seen among keys, one of them names it. -/
theorem exists_primary_of_primariesSeen (h : 0 < primariesSeen false keys) :
    ∃ p : Primary, p.name ∈ keys := by
  rw [primariesSeen, Bool.toNat_false, Nat.zero_add] at h
  obtain ⟨p, hp⟩ := List.exists_mem_of_length_pos h
  obtain ⟨d, hd, hprimary⟩ := List.mem_filterMap.1 hp
  obtain ⟨key, hkey, hname⟩ := List.mem_filterMap.1 hd
  cases d with
  | primary q =>
    cases hprimary
    obtain rfl : key = p.name := Directive.ofName?_eq_some.1 hname
    exact ⟨p, hkey⟩
  | secondary s | input | output => cases hprimary

/-- Keys that are accepted have no fault. -/
theorem not_keyFault (hknown : ∀ key ∈ keys, Directive.Kind.classify key ≠ .unknown)
    (hroom : primariesSeen seen keys ≤ 1) : ¬KeyFault resource index keys key e := by
  rintro (⟨hkey, hdirective, hauxiliary⟩ | @⟨first, second, hfirst, hsecond, hlt⟩)
  · exact hknown key hkey (Directive.classify_eq_unknown.2 ⟨hdirective, hauxiliary⟩)
  · have hmem (p : Primary) (hp : p.name ∈ keys) :
        p ∈ (keys.filterMap Directive.ofName?).filterMap Directive.primary? :=
      List.mem_filterMap.2
        ⟨.primary p, List.mem_filterMap.2 ⟨p.name, hp, Directive.ofName?_name (.primary p)⟩, rfl⟩
    rw [primariesSeen] at hroom
    -- There is no room for two primary directives.
    match hps : (keys.filterMap Directive.ofName?).filterMap Directive.primary? with
    | [] => exact List.not_mem_nil (hps ▸ hmem first hfirst)
    | [p] =>
      rw [hps] at hmem
      rw [List.mem_singleton.1 (hmem first hfirst), List.mem_singleton.1 (hmem second hsecond)]
        at hlt
      exact String.lt_irrefl _ hlt
    | _ :: _ :: _ =>
      rw [hps, List.length_cons, List.length_cons] at hroom
      omega

/-- Keys are refused at one of them: those before it are accepted, and it is unknown, or there is no
    room for it. -/
theorem directivesOf_eq_error (h : directivesOf resource index seen keys = .error e) :
    ∃ before key after, keys = before ++ key :: after ∧
      (∀ k ∈ before, Directive.Kind.classify k ≠ .unknown) ∧ primariesSeen seen before ≤ 1 ∧
      (Directive.Kind.classify key = .unknown ∧ e = .unknownDirective resource index key ∨
        ∃ p : Primary, key = p.name ∧ e = .duplicatePrimary resource index p.name ∧
          primariesSeen seen before = 1) := by
  induction keys generalizing seen with
  | nil => cases h
  | cons key keys ih =>
    -- A key that is accepted joins those before the one that is not.
    have hlater (seen' : Bool) (hkey : Directive.Kind.classify key ≠ .unknown)
        (hseen : ∀ before, primariesSeen seen (key :: before) = primariesSeen seen' before)
        (herror : directivesOf resource index seen' keys = .error e) :
        ∃ before key' after, key :: keys = before ++ key' :: after ∧
          (∀ k ∈ before, Directive.Kind.classify k ≠ .unknown) ∧ primariesSeen seen before ≤ 1 ∧
          (Directive.Kind.classify key' = .unknown ∧ e = .unknownDirective resource index key' ∨
            ∃ p : Primary, key' = p.name ∧ e = .duplicatePrimary resource index p.name ∧
              primariesSeen seen before = 1) := by
      obtain ⟨before, key', after, rfl, hknown, hroom, hfault⟩ := ih herror
      rw [← hseen] at hroom hfault
      exact ⟨key :: before, key', after, rfl, List.forall_mem_cons.2 ⟨hkey, hknown⟩, hroom, hfault⟩
    have hname (d : Directive) (hkind : Directive.Kind.classify key = .runs d) :
        Directive.ofName? key = some d := by
      rw [Directive.ofName?, hkind, Directive.Kind.directive?]
    rw [directivesOf] at h
    split at h <;> rename_i hkind
    · refine hlater seen (by simp [hkind]) (fun before => ?_) h
      simp [primariesSeen, Directive.ofName?, hkind, Directive.Kind.directive?]
    · cases h
      exact ⟨[], key, keys, rfl, List.forall_mem_nil _, by cases seen <;> decide,
        .inl ⟨hkind, rfl⟩⟩
    · rename_i p
      cases seen with
      | true =>
        cases h
        exact ⟨[], key, keys, rfl, List.forall_mem_nil _, Nat.le_refl 1,
          .inr ⟨p, Directive.ofName?_eq_some.1 (hname _ hkind), rfl, rfl⟩⟩
      | false =>
        refine hlater true (by simp [hkind]) (fun before => ?_) (bind_pure_eq_error.1 h)
        simp [primariesSeen, hname _ hkind, Directive.primary?, Nat.add_comm]
    · rename_i d hd
      have hnone : d.primary? = none := by
        cases d with
        | primary p => exact absurd rfl (hd p)
        | secondary s | input | output => rfl
      refine hlater seen (by simp [hkind]) (fun before => ?_) (bind_pure_eq_error.1 h)
      simp [primariesSeen, hname _ hkind, hnone]

/-- Keys in their order are refused for the first of them that is at fault. -/
theorem keyFault_of_directivesOf (hkeys : keys.Pairwise (· < ·))
    (h : directivesOf resource index false keys = .error e) :
    ∃ key, KeyFault resource index keys key e ∧
      ∀ key' e', KeyFault resource index keys key' e' → key ≤ key' := by
  obtain ⟨before, key, after, rfl, hknown, hroom, hfault⟩ := directivesOf_eq_error h
  obtain ⟨hbefore, hrest, hcross⟩ := List.pairwise_append.1 hkeys
  rw [List.pairwise_cons] at hrest
  have hkey : key ∈ before ++ key :: after := by simp
  refine ⟨key, ?_, fun key' e' hfault' hlt => ?_⟩
  · rcases hfault with ⟨hkind, rfl⟩ | ⟨p, rfl, rfl, hseen⟩
    · obtain ⟨hdirective, hauxiliary⟩ := Directive.classify_eq_unknown.1 hkind
      exact .unknown hkey hdirective hauxiliary
    · obtain ⟨first, hfirst⟩ := exists_primary_of_primariesSeen (hseen ▸ Nat.one_pos)
      exact .second (List.mem_append_left _ hfirst) hkey (hcross _ hfirst _ List.mem_cons_self)
  · -- All keys up to one that is less stand in front, and these have been accepted.
    have hfront (k : String) (hk : k ∈ before ++ key :: after) (hle : k < key) : k ∈ before := by
      rcases List.mem_append.1 hk with hk | hk
      · exact hk
      · rcases List.mem_cons.1 hk with rfl | hk
        · exact absurd hle (String.lt_irrefl _)
        · exact absurd (String.lt_trans hle (hrest.1 k hk)) (String.lt_irrefl _)
    refine @not_keyFault resource key' index false before e' hknown hroom ?_
    cases hfault' with
    | unknown hkey' hdirective hauxiliary =>
      exact .unknown (hfront _ hkey' hlt) hdirective hauxiliary
    | second hfirst hsecond hlt' =>
      exact .second (hfront _ hfirst (String.lt_trans hlt' hlt)) (hfront _ hsecond hlt) hlt'

/-! ## Lists -/

theorem not_keyFault_of_wellKeyed {op : Operation} (h : op.WellKeyed) :
    ¬KeyFault resource index op.keys key e := by
  refine @not_keyFault resource key index false op.keys e (List.forall_mem_map.2 h.known) ?_
  rw [primariesSeen, Operation.keys, List.filterMap_map, Bool.toNat_false, Nat.zero_add]
  exact h.single

/-- A list is refused at one of its operations: those before it are accepted, and its own keys are
    refused. -/
theorem collect_eq_error {ops : List Operation} (h : collect resource index ops = .error e) :
    ∃ before op after, ops = before ++ op :: after ∧ (∀ op ∈ before, op.WellKeyed) ∧
      directivesOf resource (index + before.length) false op.keys = .error e := by
  induction ops generalizing index with
  | nil => cases h
  | cons op ops ih =>
    rw [collect] at h
    rcases bind_eq_error.1 h with h | ⟨ds, hds, h⟩
    · exact ⟨[], op, ops, rfl, List.forall_mem_nil _, h⟩
    · obtain ⟨before, op', after, rfl, hbefore, hop'⟩ := ih (bind_pure_eq_error.1 h)
      refine ⟨op :: before, op', after, rfl,
        List.forall_mem_cons.2 ⟨(directivesOf_fields_eq_ok.1 hds).1, hbefore⟩, ?_⟩
      rwa [List.length_cons, Nat.add_comm before.length, ← Nat.add_assoc]

/-- A list is refused for its first fault. -/
theorem fault_of_classify {ops : List Operation} (hkeys : ∀ op ∈ ops, op.keys.Pairwise (· < ·))
    (h : classify resource ops = .error e) :
    ∃ i key, Fault resource ops i key e ∧
      ∀ i' key' e', Fault resource ops i' key' e' → i < i' ∨ i = i' ∧ key ≤ key' := by
  obtain ⟨before, op, after, rfl, hbefore, hop⟩ := collect_eq_error (bind_pure_eq_error.1 h)
  rw [Nat.zero_add] at hop
  obtain ⟨key, hfault, hfirst⟩ := keyFault_of_directivesOf (hkeys op (by simp)) hop
  refine ⟨before.length, key, ⟨op, by simp, hfault⟩, ?_⟩
  rintro i' key' e' ⟨op', hop', hfault'⟩
  rcases Nat.lt_trichotomy before.length i' with hlt | rfl | hlt
  · exact .inl hlt
  · rw [List.getElem?_append_right (Nat.le_refl _), Nat.sub_self] at hop'
    cases hop'
    exact .inr ⟨rfl, hfirst key' e' hfault'⟩
  · rw [List.getElem?_append_left hlt] at hop'
    exact absurd hfault' (not_keyFault_of_wellKeyed (hbefore op' (List.mem_of_getElem? hop')))

theorem not_fault_of_classify {ops : List Operation} {q : Queues}
    (h : classify resource ops = .ok q) (i : Nat) (key : String) (e : EngineError) :
    ¬Fault resource ops i key e := by
  rintro ⟨op, hop, hfault⟩
  exact not_keyFault_of_wellKeyed ((classify_eq_ok.1 h).1 op (List.mem_of_getElem? hop)) hfault

/-! ## What is on the queues -/

/-- The queue of the class of a directive. -/
def ofClass (q : Queues) : Directive → List Queued
  | .input => q.input
  | .secondary _ => q.secondary
  | .primary _ => q.primary
  | .output => q.output

/-- All queues, one after the other. -/
def all (q : Queues) : List Queued := q.input ++ q.secondary ++ q.primary ++ q.output

/-- Queues that hold each directive of a list once, in the order of the list. -/
structure Exact (q : Queues) (ops : List Operation) : Prop where
  /-- A key that is not auxiliary is a directive; it stands once on the queues, and there on that of
      its class. -/
  once : ∀ i op, ops[i]? = some op → ∀ key ∈ op.keys, key ∉ Directive.auxiliary →
    ∃ d : Directive, d.name = key ∧ q.all.count ⟨i, d⟩ = 1 ∧ ⟨i, d⟩ ∈ q.ofClass d
  /-- Each queue is in the order of operations and of their keys. -/
  ordered : ∀ d, (q.ofClass d).Pairwise Queued.Before
  /-- No operation stands twice on the queue of primary directives. -/
  single : (q.primary.map Queued.index).Pairwise (· < ·)
  /-- Nothing else stands on the queues. -/
  size : q.size = (ops.flatMap fun op => op.keys.filter (· ∉ Directive.auxiliary)).length

theorem all_push (q : Queues) (d : Queued) : (q.push d).all.Perm (d :: q.all) := by
  obtain ⟨i, d⟩ := d
  cases d <;> simp only [push, all] <;> grind

/-- Whatever is pushed is on one of the queues. -/
theorem all_foldl_push (ds : List Queued) (q : Queues) :
    (ds.foldl push q).all.Perm (q.all ++ ds) := by
  induction ds generalizing q with
  | nil => simp
  | cons d ds ih =>
    refine (ih (q.push d)).trans (((all_push q d).append_right ds).trans ?_)
    exact List.perm_middle.symm

theorem all_ofOperations (ops : List Operation) :
    (ofOperations ops).all.Perm (Queued.listing Operation.runs 0 ops) := by
  rw [← foldl_push_listing]
  exact all_foldl_push _ {}

/-- The queue of a directive is picked from the whole list. -/
theorem ofClass_ofOperations (ops : List Operation) (d : Directive) :
    ∃ p : Directive → Bool, p d ∧ (ofOperations ops).ofClass d =
      (Queued.listing Operation.runs 0 ops).filter fun w => p w.directive := by
  rw [ofOperations_eq_filter]
  cases d with
  | input => exact ⟨(· = .input), rfl, rfl⟩
  | secondary s => exact ⟨(·.secondary?.isSome), rfl, rfl⟩
  | primary p => exact ⟨(·.primary?.isSome), rfl, rfl⟩
  | output => exact ⟨(· = .output), rfl, rfl⟩

end Queues

namespace Queued

/-- Directives are listed in the order of operations and keys. -/
theorem pairwise_listing_runs {ops : List Operation}
    (hkeys : ∀ op ∈ ops, op.keys.Pairwise (· < ·)) (i : Nat) :
    (listing Operation.runs i ops).Pairwise Before := by
  induction ops generalizing i with
  | nil => exact .nil
  | cons op ops ih =>
    rw [List.forall_mem_cons] at hkeys
    rw [listing, List.pairwise_append, List.pairwise_map]
    refine ⟨(Operation.pairwise_runs hkeys.1).imp fun hlt => .inr ⟨rfl, hlt⟩, ih hkeys.2 (i + 1),
      fun d hd d' hd' => .inl ?_⟩
    obtain ⟨_, -, rfl⟩ := List.mem_map.1 hd
    obtain ⟨k, _, -, hindex, -⟩ := mem_listing.1 hd'
    dsimp only
    omega

theorem Before.ne {d d' : Queued} (h : d.Before d') : d ≠ d' := by
  rintro rfl
  rcases h with h | ⟨-, h⟩
  · exact Nat.lt_irrefl _ h
  · exact String.lt_irrefl _ h

theorem length_listing {f : Operation → List Directive} {g : Operation → List String}
    {ops : List Operation} (h : ∀ op ∈ ops, (f op).length = (g op).length) (i : Nat) :
    (listing f i ops).length = (ops.flatMap g).length := by
  induction ops generalizing i with
  | nil => rfl
  | cons op ops ih =>
    rw [List.forall_mem_cons] at h
    rw [listing, List.flatMap_cons, List.length_append, List.length_append, List.length_map, h.1,
      ih h.2]

end Queued

theorem Operation.WellKeyed.length_runs {op : Operation} (h : op.WellKeyed) :
    op.runs.length = (op.keys.filter (· ∉ Directive.auxiliary)).length := by
  rw [← List.countP_eq_length_filter, runs, List.length_filterMap_eq_countP, keys, List.countP_map]
  refine List.countP_congr fun field hfield => ?_
  rw [Directive.isSome_ofName? (h.known field hfield)]
  simp

namespace Queues

theorem exact_ofOperations {ops : List Operation} (hkeys : ∀ op ∈ ops, op.keys.Pairwise (· < ·))
    (hkeyed : ∀ op ∈ ops, op.WellKeyed) : (ofOperations ops).Exact ops where
  once i op hop key hkey hauxiliary := by
    have hmem := List.mem_of_getElem? hop
    obtain ⟨field, hfield, rfl⟩ := List.mem_map.1 hkey
    obtain ⟨d, hd⟩ := Option.isSome_iff_exists.1
      ((Directive.isSome_ofName? ((hkeyed op hmem).known field hfield)).2 hauxiliary)
    have hlisted : ⟨i, d⟩ ∈ Queued.listing Operation.runs 0 ops :=
      Queued.mem_listing.2 ⟨i, op, hop, (Nat.zero_add i).symm,
        List.mem_filterMap.2 ⟨field, hfield, hd⟩⟩
    refine ⟨d, (Directive.ofName?_eq_some.1 hd).symm, ?_, ?_⟩
    · rw [(all_ofOperations ops).count_eq]
      have hnodup := (Queued.pairwise_listing_runs hkeys 0).imp Queued.Before.ne
      exact Nat.le_antisymm (List.nodup_iff_count.1 hnodup _) (List.count_pos_iff.2 hlisted)
    · obtain ⟨p, hp, hclass⟩ := ofClass_ofOperations ops d
      rw [hclass]
      exact List.mem_filter.2 ⟨hlisted, hp⟩
  ordered d := by
    obtain ⟨p, -, hclass⟩ := ofClass_ofOperations ops d
    rw [hclass]
    exact (Queued.pairwise_listing_runs hkeys 0).filter _
  single := Queued.pairwise_index_listing (fun op hop => by
    rw [List.length_map]
    exact (hkeyed op hop).single) 0
  size := by
    have hlength := (all_ofOperations ops).length_eq
    rw [Queued.length_listing fun op hop => (hkeyed op hop).length_runs] at hlength
    rw [← hlength, size, all]
    simp only [List.length_append]

/-- Classification refuses a list with faults for the first of them, in the order of operations and
    of their keys, and accepts one without: then each directive stands once on the queue of its
    class. -/
theorem classify_faults {ops : List Operation} (hkeys : ∀ op ∈ ops, op.keys.Pairwise (· < ·))
    (resource : String) :
    ((∃ i key e, Fault resource ops i key e) → ∃ i key e, Fault resource ops i key e ∧
      (∀ i' key' e', Fault resource ops i' key' e' → i < i' ∨ i = i' ∧ key ≤ key') ∧
      classify resource ops = .error e) ∧
    ((∀ i key e, ¬Fault resource ops i key e) →
      ∃ q, classify resource ops = .ok q ∧ q.Exact ops) := by
  cases hclassify : classify resource ops with
  | error e =>
    obtain ⟨i, key, hfault, hfirst⟩ := fault_of_classify hkeys hclassify
    exact ⟨fun _ => ⟨i, key, e, hfault, hfirst, rfl⟩, fun h => absurd hfault (h i key e)⟩
  | ok q =>
    refine ⟨fun ⟨i, key, e, hfault⟩ => absurd hfault (not_fault_of_classify hclassify i key e),
      fun _ => ⟨q, rfl, ?_⟩⟩
    obtain ⟨hkeyed, rfl⟩ := classify_eq_ok.1 hclassify
    exact exact_ofOperations hkeys hkeyed

/-- Of two faults the one of the first operation counts, though the key of the other one comes first
    in the order of keys. Without its faulty keys the list is put on the queues. -/
theorem classify_faults_two :
    let faulty : List Operation :=
      [{ directives := [("data", .null), ("md", .null), ("raw", .null), ("with", .null)] },
        { directives := [("fiel", .null)] }]
    let clean : List Operation :=
      [{ directives := [("data", .null), ("md", .null), ("with", .null)] }, {}]
    ((∀ op ∈ faulty, op.keys.Pairwise (· < ·)) ∧ (∃ i key e, Fault "page" faulty i key e) ∧
      ∃ i key e, Fault "page" faulty i key e ∧
        (∀ i' key' e', Fault "page" faulty i' key' e' → i < i' ∨ i = i' ∧ key ≤ key') ∧
        classify "page" faulty = .error e ∧ e = .duplicatePrimary "page" 0 "raw") ∧
    (∀ op ∈ clean, op.keys.Pairwise (· < ·)) ∧ (∀ i key e, ¬Fault "page" clean i key e) ∧
      ∃ q, classify "page" clean = .ok q ∧ q.Exact clean := by
  intro faulty clean
  have hfaulty : ∀ op ∈ faulty, op.keys.Pairwise (· < ·) := by decide
  have hclean : ∀ op ∈ clean, op.keys.Pairwise (· < ·) := by decide
  have hfault : Fault "page" faulty 0 "raw" (.duplicatePrimary "page" 0 "raw") :=
    ⟨_, rfl, @KeyFault.second "page" 0 _ .md .raw (by decide) (by decide) (by decide)⟩
  obtain ⟨i, key, e, hfirst, hleast, he⟩ := (classify_faults hfaulty "page").1 ⟨_, _, _, hfault⟩
  have hclassify : classify "page" faulty = .error (.duplicatePrimary "page" 0 "raw") := by decide
  have hnone : ∀ i key e, ¬Fault "page" clean i key e := not_fault_of_classify rfl
  exact ⟨⟨hfaulty, ⟨_, _, _, hfault⟩, i, key, e, hfirst, hleast, he,
    (Except.error.inj (hclassify.symm.trans he)).symm⟩, hclean, hnone,
    (classify_faults hclean "page").2 hnone⟩

end Queues

end Folio
