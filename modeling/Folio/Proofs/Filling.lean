import Mathlib.Data.List.Forall2
import Folio.Proofs.Actions

/-!
# Computed fields

What an evaluation does to an operation is to fill its computed fields. Each of them belongs to a
directive, `data` to the primary one, and is filled only where the operation has this directive;
everything else of an operation stays as it is (`Operation.Filled`).

* `Operation.Filled`: a later state of an operation;
* `Operation.withDefaults_eq`: what preparing adds to a list stands in front and at the end;
* `Context.filled_apply`: what a queue has computed is written to the operations its actions belong
  to, and nowhere else.
-/

namespace Folio

/-! ## Lists side by side -/

section

variable {α : Type} {R : α → α → Prop} {l l' l'' : List α}

theorem forall₂_trans (hR : ∀ a b c, R a b → R b c → R a c) (h : List.Forall₂ R l l')
    (h' : List.Forall₂ R l' l'') : List.Forall₂ R l l'' := by
  induction h generalizing l'' with
  | nil => exact h'
  | cons hab _ ih =>
    obtain ⟨c, rest, hbc, hrest, rfl⟩ := List.forall₂_cons_left_iff.1 h'
    exact .cons (hR _ _ _ hab hbc) (ih hrest)

theorem forall₂_getElem? {β : Type} {R : α → β → Prop} {l' : List β} (h : List.Forall₂ R l l')
    {i : Nat} {a : α} (ha : l[i]? = some a) : ∃ b, l'[i]? = some b ∧ R a b := by
  induction h generalizing i with
  | nil => cases ha
  | cons hab _ ih =>
    cases i with
    | zero =>
      cases ha
      exact ⟨_, rfl, hab⟩
    | succ i => exact ih ha

/-- A change of one element shows in this element only. -/
theorem forall₂_modify (hR : ∀ a, R a a) {f : α → α} {i : Nat}
    (h : ∀ a, l[i]? = some a → R a (f a)) : List.Forall₂ R l (l.modify i f) := by
  induction l generalizing i with
  | nil => cases i <;> exact .nil
  | cons a l ih =>
    cases i with
    | zero => exact .cons (h a rfl) (List.forall₂_same.2 fun a _ => hR a)
    | succ i => exact .cons (hR a) (ih h)

theorem forall₂_append_left {xs ys zs : List α} (h : List.Forall₂ R (xs ++ ys) zs) :
    ∃ xs' ys', zs = xs' ++ ys' ∧ List.Forall₂ R xs xs' ∧ List.Forall₂ R ys ys' :=
  ⟨zs.take xs.length, zs.drop xs.length, (List.take_append_drop _ _).symm,
    by simpa using List.forall₂_take xs.length h, by simpa using List.forall₂_drop xs.length h⟩

end

/-! ## Computed fields -/

namespace Operation

/-- A later state of an operation, where at most computed fields have changed: only those that a
    directive of the operation computes. -/
structure Filled (op op' : Operation) : Prop where
  directives : op'.directives = op.directives
  data : op.primary? = none → op'.data = op.data ∧ op'.executed = op.executed
  withValue : op.argument "with" = none → op'.withValue = op.withValue
  asValue : op.argument "as" = none → op'.asValue = op.asValue

variable {op op' op'' : Operation}

theorem Filled.refl (op : Operation) : op.Filled op :=
  ⟨rfl, fun _ => ⟨rfl, rfl⟩, fun _ => rfl, fun _ => rfl⟩

theorem primary?_congr (h : op.directives = op'.directives) : op.primary? = op'.primary? := by
  rw [primary?, primary?, primaries_congr h]

theorem Filled.trans (h : op.Filled op') (h' : op'.Filled op'') : op.Filled op'' where
  directives := h'.directives.trans h.directives
  data hnone := by
    obtain ⟨hdata, hexecuted⟩ := h'.data ((primary?_congr h.directives).trans hnone)
    exact ⟨hdata.trans (h.data hnone).1, hexecuted.trans (h.data hnone).2⟩
  withValue hnone :=
    (h'.withValue ((argument_congr h.directives _).trans hnone)).trans (h.withValue hnone)
  asValue hnone :=
    (h'.asValue ((argument_congr h.directives _).trans hnone)).trans (h.asValue hnone)

theorem isSome_primary?_of_mem {d : Directive} (h : d ∈ op.runs) (hd : d.primary?.isSome) :
    op.primary?.isSome := by
  obtain ⟨p, hp⟩ := Option.isSome_iff_exists.1 hd
  have hmem : p ∈ op.primaries := List.mem_filterMap.2 ⟨d, h, hp⟩
  rw [primary?, List.isSome_head?]
  exact List.ne_nil_of_mem hmem

theorem filled_data (h : op.primary?.isSome) (v : Json) :
    op.Filled { op with data := some v, executed := true } :=
  ⟨rfl, fun hnone => absurd hnone (Option.isSome_iff_ne_none.1 h), fun _ => rfl, fun _ => rfl⟩

theorem filled_withValue (h : (op.argument "with").isSome) (v : Json) :
    op.Filled { op with withValue := some v } :=
  ⟨rfl, fun _ => ⟨rfl, rfl⟩, fun hnone => absurd hnone (Option.isSome_iff_ne_none.1 h),
    fun _ => rfl⟩

theorem filled_asValue (h : (op.argument "as").isSome) (v : Json) :
    op.Filled { op with asValue := some v } :=
  ⟨rfl, fun _ => ⟨rfl, rfl⟩, fun _ => rfl,
    fun hnone => absurd hnone (Option.isSome_iff_ne_none.1 h)⟩

/-- Nothing computes a field of a default. -/
theorem Filled.eq_default (hop : op = defaultInput ∨ op = defaultOutput) (h : op.Filled op') :
    op' = op := by
  obtain ⟨hdirectives, hdata, hwith, has⟩ := h
  obtain ⟨directives, data, withValue, asValue, executed⟩ := op'
  rcases hop with rfl | rfl <;>
  · obtain ⟨rfl, rfl⟩ := hdata rfl
    obtain rfl := hwith rfl
    obtain rfl := has rfl
    obtain rfl := hdirectives
    rfl

/-- Operations that have been filled have the same directives. -/
theorem map_directives_of_filled {ops ops' : List Operation} (h : List.Forall₂ Filled ops ops') :
    ops'.map directives = ops.map directives := by
  induction h with
  | nil => rfl
  | cons h _ ih => rw [List.map_cons, List.map_cons, h.directives, ih]

/-! ### Lists with defaults -/

/-- The default in front of a list, if it has no input directive. -/
def leading (ops : List Operation) : List Operation :=
  if ops.any fun op => (op.argument "in").isSome then [] else [defaultInput]

/-- The default at the end of a list, if it has no output directive. -/
def trailing (ops : List Operation) : List Operation :=
  if ops.any fun op => (op.argument "out").isSome then [] else [defaultOutput]

theorem withDefaults_eq (ops : List Operation) :
    withDefaults ops = leading ops ++ ops ++ trailing ops := by
  have hany (d : Directive) (ops : List Operation) :
      ops.any (d ∈ ·.runs) = ops.any fun op => (op.argument d.name).isSome := by
    simp only [mem_runs, Bool.decide_eq_true]
  have hinput : withInput ops = leading ops ++ ops := by
    rw [withInput, hany, leading, Directive.name]
    split <;> rfl
  have houtput : (withInput ops).any (.output ∈ ·.runs) = ops.any (.output ∈ ·.runs) := by
    rw [withInput]
    split <;> rfl
  rw [withDefaults, withOutput, houtput, hany, trailing, Directive.name, hinput]
  split
  · rw [List.append_nil]
  · rfl

theorem mem_leading {op : Operation} {ops : List Operation} (h : op ∈ leading ops) :
    op = defaultInput := by
  rw [leading] at h
  split at h
  · cases h
  · exact List.mem_singleton.1 h

theorem mem_trailing {op : Operation} {ops : List Operation} (h : op ∈ trailing ops) :
    op = defaultOutput := by
  rw [trailing] at h
  split at h
  · cases h
  · exact List.mem_singleton.1 h

/-- Only the operations of the list itself produce anything, and they stand behind the default in
    front. -/
theorem exists_of_withDefaults {ops : List Operation} {i : Nat}
    (hop : (withDefaults ops)[i]? = some op) (hprimary : op.primary?.isSome) :
    ∃ k, i = (leading ops).length + k ∧ ops[k]? = some op := by
  have hleading : op ∉ leading ops := fun h => by
    rw [mem_leading h] at hprimary
    cases hprimary
  have htrailing : op ∉ trailing ops := fun h => by
    rw [mem_trailing h] at hprimary
    cases hprimary
  rw [withDefaults_eq, List.append_assoc] at hop
  -- The index is that of a default in front, of an operation of the list, or of one at the end.
  rcases Nat.lt_or_ge i (leading ops).length with hlt | hge
  · rw [List.getElem?_append_left hlt] at hop
    exact absurd (List.mem_of_getElem? hop) hleading
  rw [List.getElem?_append_right hge] at hop
  rcases Nat.lt_or_ge (i - (leading ops).length) ops.length with hlt' | hge'
  · rw [List.getElem?_append_left hlt'] at hop
    exact ⟨_, (Nat.add_sub_cancel' hge).symm, hop⟩
  · rw [List.getElem?_append_right hge'] at hop
    exact absurd (List.mem_of_getElem? hop) htrailing

/-- Nothing is filled in defaults. -/
theorem eq_of_filled_defaults {ops ops' : List Operation}
    (hops : ∀ op ∈ ops, op = defaultInput ∨ op = defaultOutput)
    (h : List.Forall₂ Filled ops ops') : ops' = ops := by
  induction h with
  | nil => rfl
  | cons h _ ih =>
    rw [List.forall_mem_cons] at hops
    rw [h.eq_default hops.1, ih hops.2]

/-- What a list with defaults is filled to is the list itself, filled, with the same defaults. -/
theorem exists_of_filled_withDefaults {ops l : List Operation}
    (h : List.Forall₂ Filled (withDefaults ops) l) :
    ∃ ops', l = leading ops ++ ops' ++ trailing ops ∧ List.Forall₂ Filled ops ops' := by
  rw [withDefaults_eq] at h
  obtain ⟨front, back, rfl, hfront, hback⟩ := forall₂_append_left h
  obtain ⟨first, ops', rfl, hfirst, hops⟩ := forall₂_append_left hfront
  obtain rfl := eq_of_filled_defaults (fun _ hop => .inl (mem_leading hop)) hfirst
  obtain rfl := eq_of_filled_defaults (fun _ hop => .inr (mem_trailing hop)) hback
  exact ⟨ops', rfl, hops⟩

end Operation

namespace Context

variable {ctx : Context}

/-! ## What is written back -/

/-- What an action of an operation has computed fills a field of this operation. -/
theorem filled_applyOne {o : Outcome} {d : Queued} (hfield : o.field = d.field)
    (hruns : d.directive ∈ (ctx.operation d.index).runs) :
    List.Forall₂ Operation.Filled ctx.operations (ctx.applyOne o).operations := by
  obtain ⟨i, d⟩ := d
  have hop (op : Operation) (h : ctx.operations[i]? = some op) : d ∈ op.runs := by
    rwa [operation, h] at hruns
  cases d with
  | input | output =>
    cases o <;> cases hfield
    exact List.forall₂_same.2 fun op _ => .refl op
  | secondary s =>
    cases s <;> cases o <;> cases hfield
    · exact forall₂_modify Operation.Filled.refl fun op h =>
        Operation.filled_withValue (Operation.mem_runs.1 (hop op h)) _
    · exact forall₂_modify Operation.Filled.refl fun op h =>
        Operation.filled_asValue (Operation.mem_runs.1 (hop op h)) _
  | primary p =>
    cases o <;> cases hfield
    exact forall₂_modify Operation.Filled.refl fun op h =>
      Operation.filled_data (Operation.isSome_primary?_of_mem (hop op h) rfl) _

/-- What a queue has computed fills fields of the operations that its actions belong to. -/
theorem filled_apply {q : List Queued} {os : List Outcome}
    (hfields : os.map Outcome.field = q.map Queued.field)
    (hruns : ∀ d ∈ q, d.directive ∈ (ctx.operation d.index).runs) :
    List.Forall₂ Operation.Filled ctx.operations (ctx.apply os).operations := by
  induction q generalizing ctx os with
  | nil =>
    obtain rfl := List.map_eq_nil_iff.1 hfields
    exact List.forall₂_same.2 fun op _ => .refl op
  | cons d q ih =>
    obtain ⟨o, os, rfl, ho, hos⟩ := List.map_eq_cons_iff.1 hfields
    rw [List.forall_mem_cons] at hruns
    refine forall₂_trans (fun _ _ _ => .trans) (filled_applyOne ho hruns.1) (ih hos fun d hd => ?_)
    rw [Operation.runs_congr ((continues_applyOne ctx o).operation d.index)]
    exact hruns.2 d hd

end Context

end Folio
