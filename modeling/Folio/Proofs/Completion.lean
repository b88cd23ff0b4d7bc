import Folio.Proofs.Lifetime

/-!
# All or none

The data of a list is computed in one phase, and what a phase computes is written back only if all
of its actions succeed. So whatever has been asked of a context, and whatever has failed, either
every operation that produces data has produced it, or none of them has, and their data is what it
was in the beginning. Nothing is ever added to the list but the two defaults, at most once.

* `Context.producedAt_apply`: what writing back produces;
* `Context.Settles`: the data of a context is there as a whole, or not at all; each phase keeps this
  (`Settles.phase`);
* `Context.takeAll_filled`: what the list of a context is after any number of moves.
-/

namespace Folio

/-! ## What primary directives produce -/

namespace Operation

/-- What the primary phase is for: whether it has been run, and the data. -/
def product (op : Operation) : Bool × Option Json := (op.executed, op.data)

/-- The operation has been run and has data. -/
def Produced (op : Operation) : Prop := op.executed = true ∧ op.data.isSome

end Operation

namespace Context

variable {ctx c : Context} {q : List Queued} {i : Nat}

/-! ## What writing back produces -/

/-- The operation of an index, if there is one, has data. -/
def ProducedAt (c : Context) (i : Nat) : Prop := ∀ op, c.operations[i]? = some op → op.Produced

theorem producedAt_applyOne {o : Outcome} (h : c.ProducedAt i ∨ o.field = .data i) :
    (c.applyOne o).ProducedAt i := by
  intro op hop
  cases o with
  | input v | output v =>
    rcases h with h | h
    · exact h op hop
    · cases h
  | nested k v | key k v =>
    simp only [applyOne, List.getElem?_modify, Option.map_eq_map, Option.map_eq_some_iff] at hop
    obtain ⟨op', hop', rfl⟩ := hop
    have hproduced : op'.Produced := by
      rcases h with h | h
      · exact h op' hop'
      · cases h
    split <;> exact hproduced
  | data k v =>
    simp only [applyOne, List.getElem?_modify, Option.map_eq_map, Option.map_eq_some_iff] at hop
    obtain ⟨op', hop', rfl⟩ := hop
    split
    · exact ⟨rfl, rfl⟩
    · rename_i hne
      exact h.elim (· op' hop') fun hfield => absurd (Field.data.inj hfield) hne

/-- Data that is there stays, and every outcome that is meant for some data writes it. -/
theorem producedAt_apply {os : List Outcome}
    (h : c.ProducedAt i ∨ .data i ∈ os.map Outcome.field) : (c.apply os).ProducedAt i := by
  induction os generalizing c with
  | nil => exact h.resolve_right List.not_mem_nil
  | cons o os ih =>
    rw [List.map_cons, List.mem_cons] at h
    rcases h with h | h | h
    · exact ih (.inl (producedAt_applyOne (.inl h)))
    · exact ih (.inl (producedAt_applyOne (.inr h.symm)))
    · exact ih (.inr h)

/-- Other outcomes leave all data as it is. -/
theorem map_product_apply {os : List Outcome} (h : ∀ o ∈ os, ∀ i, o.field ≠ .data i) :
    (c.apply os).operations.map Operation.product = c.operations.map Operation.product := by
  induction os generalizing c with
  | nil => rfl
  | cons o os ih =>
    rw [List.forall_mem_cons] at h
    refine (ih h.2).trans ?_
    cases o with
    | input v | output v => rfl
    | nested k v | key k v => exact map_modify_of_eq fun _ _ => rfl
    | data k v => exact absurd rfl (h.1 k)

/-! ## What phases produce -/

/-- What produces data is on the queue of primary directives. -/
theorem Ready.exists_field_data (h : c.Ready) (hi : (c.operation i).primary?.isSome) :
    .data i ∈ c.queues.primary.map Queued.field := by
  obtain ⟨-, hqueues⟩ := Queues.classify_eq_ok.1 h.queues
  obtain ⟨p, hp⟩ := Option.isSome_iff_exists.1 hi
  have hop : c.operations[i]? = some (c.operation i) := getElem?_operation fun hnone => by
    rw [hnone] at hp
    cases hp
  have hmem : p ∈ (c.operation i).primaries := List.mem_of_head? hp
  rw [hqueues]
  exact List.mem_map.2 ⟨⟨i, .primary p⟩, Queued.mem_listing.2
    ⟨i, _, hop, (Nat.zero_add i).symm, List.mem_map_of_mem hmem⟩, rfl⟩

theorem field_ne_data {d : Queued} (h : d.directive.primary? = none) (i : Nat) :
    d.field ≠ .data i := by
  obtain ⟨k, d⟩ := d
  cases d with
  | primary p => cases h
  | secondary s => cases s <;> nofun
  | input | output => nofun

/-- The data of a context is there as a whole, or it is what it was: either all operations that
    produce data have produced it, or none has. -/
def Settles (ctx c : Context) : Prop :=
  (∀ i, (ctx.operation i).primary?.isSome → c.ProducedAt i) ∨
    c.operations.map Operation.product = ctx.operations.map Operation.product

theorem Settles.apply (h : ctx.Settles c) (hready : ctx.Ready) (hadvances : ctx.Advances c)
    (hq : q ∈ c.phases) {os : List Outcome} (hfields : os.map Outcome.field = q.map Queued.field) :
    ctx.Settles (c.apply os) := by
  rcases h with h | h
  · exact .inl fun i hi => producedAt_apply (.inl (h i hi))
  -- The primary phase writes all data there is to be, and the other phases write none.
  rcases (hadvances.ready hready).primary_or_of_phases hq with rfl | hnone
  · refine .inl fun i hi => producedAt_apply (.inr ?_)
    rw [hfields, hadvances.queues]
    exact hready.exists_field_data hi
  · refine .inr ((map_product_apply fun o ho i => ?_).trans h)
    obtain ⟨d, hd, hfield⟩ := List.mem_map.1 (hfields ▸ List.mem_map_of_mem (f := Outcome.field) ho)
    rw [← hfield]
    exact field_ne_data (hnone d hd) i

/-- Each phase keeps this, as it is written back as a whole or not at all. -/
theorem Settles.phase (h : ctx.Settles c) (hready : ctx.Ready) (hadvances : ctx.Advances c)
    (hq : q ∈ c.phases) (host : Host) (nested : Evaluator) (j : Journal) :
    ctx.Settles (c.afterPhase (c.runPhase host nested q ⟨c.marks, j⟩)) := by
  rcases hrun : c.runPhase host nested q ⟨c.marks, j⟩ with ⟨f | os, p⟩
  · exact h
  · rw [afterPhase, apply_marks]
    exact h.apply hready hadvances hq (map_field_of_runPhase hrun)

theorem Ready.settles_takeAll (h : ctx.Ready) (turns : List Turn) :
    ctx.Settles (ctx.takeAll turns) :=
  (takeAll_keeps (P := fun c => ctx.Advances c ∧ ctx.Settles c) (fun _ hc => hc.1.ready h)
    (fun _ hc host _ hq j => ⟨hc.1.trans ((hc.1.ready h).advances_phase hq host _ j),
      hc.2.phase h hc.1 hq host _ j⟩)
    ⟨.refl ctx, .inr rfl⟩ turns).2

/-- What the list of a context is after any number of moves, whatever has succeeded or failed with
    whatever hosts. Before it has been accepted it is as it was. Afterwards it is the list with its
    defaults, in which fields have been filled; and of the operations that produce data all have
    done so, or none. -/
theorem takeAll_filled (id depth : Nat) (name : String) (seed : Json) {ops : List Operation}
    (hnew : ∀ op ∈ ops, op.executed = false) (turns : List Turn) :
    let ctx : Context := { id, depth, name, seed, operations := ops }
    let c := ctx.takeAll turns
    (¬ctx.Classified turns → c.operations = ops) ∧
      (ctx.Classified turns → ∃ ops',
        c.operations = Operation.leading ops ++ ops' ++ Operation.trailing ops ∧
        List.Forall₂ Operation.Filled ops ops' ∧
        ((∀ op ∈ c.operations, op.primary?.isSome → op.Produced) ∨
          (∀ op ∈ c.operations, op.executed = false) ∧
            ops'.map Operation.data = ops.map Operation.data)) := by
  intro ctx c
  rcases takeAll_cases ctx turns with ⟨hnot, hstays⟩ | ⟨c₀, hc₀, hclassified, hready, htake, hadv⟩
  · exact ⟨fun _ => congrArg operations hstays, fun h => absurd h hnot⟩
  refine ⟨fun h => absurd hclassified h, fun _ => ?_⟩
  obtain ⟨-, -, hops, -⟩ := prepare_eq_ok hc₀
  have hfilled : List.Forall₂ Operation.Filled (Operation.withDefaults ops) c.operations :=
    hops ▸ hadv.operations
  obtain ⟨ops', hc, hops'⟩ := Operation.exists_of_filled_withDefaults hfilled
  refine ⟨ops', hc, hops', ?_⟩
  rcases hready.settles_takeAll turns with h | h
  · refine .inl fun op hop hprimary => ?_
    rw [← htake] at h
    obtain ⟨i, hi⟩ := List.mem_iff_getElem?.1 hop
    obtain ⟨op₀, hop₀, hfilled⟩ := forall₂_getElem? hadv.operations.flip hi
    refine h i ?_ op hi
    rw [operation, hop₀]
    exact Operation.primary?_congr hfilled.directives ▸ hprimary
  · rw [← htake, hops] at h
    refine .inr ⟨fun op hop => ?_, ?_⟩
    · have hmem : op.product ∈ (Operation.withDefaults ops).map Operation.product :=
        h ▸ List.mem_map_of_mem hop
      obtain ⟨op₀, hop₀, hproduct⟩ := List.mem_map.1 hmem
      refine (congrArg Prod.fst hproduct).symm.trans ?_
      rcases Operation.mem_withDefaults hop₀ with hop₀ | rfl | rfl
      · exact hnew op₀ hop₀
      · rfl
      · rfl
    · -- Both lists have the same defaults, so what is between them agrees as well.
      have hdata := congrArg (List.map Prod.snd) h
      rw [List.map_map, List.map_map, Operation.withDefaults_eq] at hdata
      rw [show c.operations = _ from hc] at hdata
      simp only [List.map_append, List.append_assoc] at hdata
      exact List.append_cancel_right (List.append_cancel_left hdata)

/-- A nested list asks for a file that is not there at first. The second operation has then produced
    nothing, though it needs no file, and both do once the file is there; the defaults are put in
    once. -/
theorem takeAll_filled_later :
    let j : Journal := ⟨.root "page", [], []⟩
    let written : Host := { Host.bare with fileText := fun _ _ => .ok "a" }
    let ops : List Operation :=
      [{ directives := [("md", .null), ("with", .obj [("file", .arr [.str "", .str "a"])])] },
        { directives := [("raw", .str "b")] }]
    let ctx := root "page" .null ops
    let early : List Turn := [⟨.bare, .process, j⟩]
    let late : List Turn := [⟨.bare, .process, j⟩, ⟨written, .process, j⟩]
    (∀ op ∈ ops, op.executed = false) ∧ ctx.Classified early ∧ ctx.Classified late ∧
      (ctx.takeAll early).operations.map Operation.product = List.replicate 4 (false, none) ∧
      (ctx.takeAll late).operations.length = 4 ∧
      ∀ op ∈ (ctx.takeAll late).operations, op.primary?.isSome → op.Produced := by
  intro j written ops ctx early late
  have hnew : ∀ op ∈ ops, op.executed = false := by decide
  have hearly : ctx.Classified early := ⟨[], _, _, rfl, _, rfl⟩
  have hlate : ctx.Classified late := ⟨[], _, _, rfl, _, rfl⟩
  have hnone : (ctx.takeAll early).operations.map Operation.product =
      List.replicate 4 (false, none) := by decide +kernel
  have hsome : ¬∀ op ∈ (ctx.takeAll late).operations, op.executed = false := by decide +kernel
  obtain ⟨ops', -, -, hproduced⟩ := (takeAll_filled 0 0 "page" .null hnew late).2 hlate
  exact ⟨hnew, hearly, hlate, hnone, by decide +kernel,
    hproduced.resolve_right fun h => hsome h.1⟩

end Context

end Folio
