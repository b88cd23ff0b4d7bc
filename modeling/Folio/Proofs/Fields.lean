import Folio.Proofs.Nesting

/-!
# Fields as maps

The fields of an object are a list of pairs, in the order of their names. Seen from outside they are
a map: all that can be told of them is which value stands under which name. Names in their order
(`Json.Fields.Ordered`) make up for what a list says beyond that, so that two objects with the same
values under all names are the same (`Json.Fields.Ordered.ext`).

* `Json.Fields.get?_insert`, `Json.Fields.get?_filter`: what stands under a name after a change;
* `Json.Fields.filter_insert`: a field that is put in and taken out again;
* `Json.Fields.Ordered.insert`: a field is put in its place;
* `Json.Fields.ofPairs_eq_self`: fields in their order are read as they are.
-/

namespace Folio.Json.Fields

/-- The names stand in their order, and each stands once. -/
abbrev Ordered (fields : Fields) : Prop := (fields.map Prod.fst).Pairwise (· < ·)

variable {fields fields' : Fields} {name : String} {v : Json}

/-! ## Values under names -/

theorem get?_cons (f : String × Json) (fields : Fields) (name : String) :
    get? (f :: fields) name = if f.1 = name then some f.2 else get? fields name := by
  by_cases h : f.1 = name <;> simp [get?, h]

theorem get?_insert (name key : String) (v : Json) (fields : Fields) :
    get? (insert name v fields) key = if name = key then some v else get? fields key := by
  induction fields with
  | nil => exact get?_cons (name, v) [] key
  | cons f fields ih =>
    rw [insert]
    split
    · exact get?_cons (name, v) (f :: fields) key
    · split
      · -- The field that is written over had the name of the new one.
        rename_i hname
        by_cases hkey : name = key <;> simp [get?_cons, ← hname, hkey]
      · rename_i hne
        rw [get?_cons, get?_cons, ih]
        by_cases hkey : name = key
        · rw [if_neg fun h => hne (hkey.trans h.symm), if_pos hkey, if_pos hkey]
        · rw [if_neg hkey, if_neg hkey]

/-- A choice that depends on the names leaves or takes all that stands under a name. -/
theorem get?_filter (p : String → Bool) (fields : Fields) (name : String) :
    get? (fields.filter fun f => p f.1) name = if p name then get? fields name else none := by
  induction fields with
  | nil => simp [get?]
  | cons f fields ih =>
    by_cases hname : f.1 = name
    · subst hname
      cases hp : p f.1 <;> simp [get?_cons, hp, ih]
    · cases hp : p f.1 <;> simp [get?_cons, hp, hname, ih]

theorem get?_eq_none : get? fields name = none ↔ name ∉ fields.map Prod.fst := by
  simp only [get?, Option.map_eq_none_iff, List.find?_eq_none, beq_iff_eq, List.mem_map, not_exists,
    not_and]

/-- A field that is put in is gone again once fields of its name are taken out. -/
theorem filter_insert {p : String → Bool} (hname : p name = false) (v : Json) (fields : Fields) :
    (insert name v fields).filter (fun f => p f.1) = fields.filter fun f => p f.1 := by
  induction fields with
  | nil => simp [insert, hname]
  | cons f fields ih =>
    rw [insert]
    split
    · rw [List.filter_cons, hname]
      rfl
    · split
      · rename_i heq
        rw [List.filter_cons, List.filter_cons, ← heq, hname]
        rfl
      · rw [List.filter_cons, List.filter_cons, ih]

/-! ## Names in their order -/

namespace Ordered

theorem tail {f : String × Json} (h : Ordered (f :: fields)) : Ordered fields :=
  (List.pairwise_cons.1 h).2

/-- The first name comes before all others. -/
theorem lt {f : String × Json} (h : Ordered (f :: fields)) : ∀ g ∈ fields, f.1 < g.1 :=
  List.forall_mem_map.1 (List.pairwise_cons.1 h).1

theorem filter (h : Ordered fields) (p : String × Json → Bool) : Ordered (fields.filter p) :=
  List.Pairwise.sublist (List.filter_sublist.map Prod.fst) h

theorem pairwise (h : Ordered fields) : fields.Pairwise fun f g => f.1 < g.1 :=
  List.pairwise_map.1 h

theorem nodup (h : Ordered fields) : fields.Nodup := by
  refine h.pairwise.imp ?_
  rintro f _ hlt rfl
  exact String.lt_irrefl _ hlt

/-- What stands under a name is the value of the only field of that name. -/
theorem get?_eq_some (h : Ordered fields) : get? fields name = some v ↔ (name, v) ∈ fields := by
  refine ⟨mem_of_get?, fun hmem => ?_⟩
  induction fields with
  | nil => exact absurd hmem List.not_mem_nil
  | cons f fields ih =>
    rw [get?_cons]
    rcases List.mem_cons.1 hmem with rfl | hmem
    · exact if_pos rfl
    · have hne : f.1 ≠ name := fun heq => String.lt_irrefl _ (heq ▸ h.lt _ hmem)
      rw [if_neg hne, ih h.tail hmem]

/-- Fields in their order are known by their values. -/
theorem ext (h : Ordered fields) (h' : Ordered fields')
    (hget : ∀ name, get? fields name = get? fields' name) : fields = fields' := by
  have hperm : fields.Perm fields' := by
    refine (List.perm_ext_iff_of_nodup h.nodup h'.nodup).2 fun ⟨name, v⟩ => ?_
    rw [← h.get?_eq_some, ← h'.get?_eq_some, hget]
  exact hperm.eq_of_pairwise (fun f g _ _ hlt hgt => absurd hgt (String.lt_asymm hlt))
    h.pairwise h'.pairwise

/-- Where each name stands once, a choice among the fields is one among the values. -/
theorem get?_filter_eq (h : Ordered fields) (p : String × Json → Bool) (name : String) :
    get? (fields.filter p) name = (get? fields name).filter fun v => p (name, v) := by
  ext v
  rw [(h.filter p).get?_eq_some, List.mem_filter, Option.filter_eq_some_iff, h.get?_eq_some]

theorem mem_insert {f : String × Json} (hf : f ∈ Fields.insert name v fields) :
    f = (name, v) ∨ f ∈ fields := by
  induction fields with
  | nil => exact .inl (List.mem_singleton.1 hf)
  | cons g fields ih =>
    rw [Fields.insert] at hf
    grind

/-- A field is put in its place. -/
theorem insert (h : Ordered fields) (name : String) (v : Json) :
    Ordered (Fields.insert name v fields) := by
  induction fields with
  | nil => exact List.pairwise_singleton _ _
  | cons f fields ih =>
    rw [Fields.insert]
    split
    · rename_i hlt
      refine List.pairwise_cons.2 ⟨List.forall_mem_map.2 fun g hg => ?_, h⟩
      rcases List.mem_cons.1 hg with rfl | hg
      · exact hlt
      · exact String.lt_trans hlt (h.lt g hg)
    · split
      · rename_i heq
        exact List.pairwise_cons.2 ⟨List.forall_mem_map.2 (heq ▸ h.lt), h.tail⟩
      · rename_i hle hne
        have hlt : f.1 < name := Classical.byContradiction fun hge =>
          hne (String.le_antisymm (String.not_lt.1 hge) (String.not_lt.1 hle))
        refine List.pairwise_cons.2 ⟨List.forall_mem_map.2 fun g hg => ?_, ih h.tail⟩
        rcases mem_insert hg with rfl | hg
        · exact hlt
        · exact h.lt g hg

end Ordered

/-! ## Fields that are read -/

/-- A name that comes after all others is put at the end. -/
theorem insert_eq_append (h : ∀ f ∈ fields, f.1 < name) (v : Json) :
    insert name v fields = fields ++ [(name, v)] := by
  induction fields with
  | nil => rfl
  | cons f fields ih =>
    rw [List.forall_mem_cons] at h
    have hne : name ≠ f.1 := fun heq => String.lt_irrefl _ (heq ▸ h.1)
    rw [insert, if_neg (String.lt_asymm h.1), if_neg hne, ih h.2, List.cons_append]

/-- Fields in their order are read as they are. -/
theorem ofPairs_eq_self (h : Ordered fields) : ofPairs fields = fields := by
  suffices hall : ∀ read rest : Fields, Ordered (read ++ rest) →
      rest.foldl (fun fields p => insert p.1 p.2 fields) read = read ++ rest from hall [] fields h
  intro read rest hordered
  induction rest generalizing read with
  | nil => simp
  | cons f rest ih =>
    have hlt : ∀ g ∈ read, g.1 < f.1 := by
      rw [Ordered, List.map_append, List.pairwise_append] at hordered
      exact fun g hg => hordered.2.2 g.1 (List.mem_map_of_mem hg) f.1 List.mem_cons_self
    rw [List.append_cons] at hordered ⊢
    rw [List.foldl_cons, insert_eq_append hlt, ih _ hordered]

end Folio.Json.Fields
