import Mathlib.Data.List.Dedup
import Mathlib.Data.List.Induction
import Folio.Store
import Folio.Proofs.Result

/-!
# Stores as maps

A store is a list of pairs, in the order of their names. Seen from outside it is a map: whatever has
been stored under a name last is found there. So the order in which definitions are stored counts
only where two of them have the same name.

* `Store.mem_insert`: what a store holds after a change;
* `Store.Ordered.ext`: stores are known by what they hold;
* `Store.ofList`: definitions stored one after the other, and what is found among them
  (`Store.mem_ofList`);
* `Store.ofList_perm`, `Store.size_ofList`: the order in which they are stored, and how many of them
  stay.
-/

namespace Folio.Store

open Result

variable {s s' : Store} {name key : String} {d d' : Definition}
  {l l' : List (String × Definition)}

/-- The names stand in their order, and each stands once. -/
abbrev Ordered (s : Store) : Prop := s.entries.Pairwise fun e f => e.1 < f.1

/-! ## Entries -/

theorem mem_put {e : String × Definition} (h : l.Pairwise fun e f => e.1 < f.1) :
    e ∈ put name d l ↔ e = (name, d) ∨ e.1 ≠ name ∧ e ∈ l := by
  induction l with
  | nil => simp [put]
  | cons f l ih =>
    obtain ⟨hfirst, hrest⟩ := List.pairwise_cons.1 h
    rw [put]
    split
    · -- The name comes before all others, so that none of them is written over.
      rename_i hlt
      have hne : ∀ g ∈ f :: l, g.1 ≠ name := by
        rintro g hg rfl
        rcases List.mem_cons.1 hg with rfl | hg
        · exact String.lt_irrefl _ hlt
        · exact String.lt_irrefl _ (String.lt_trans hlt (hfirst g hg))
      grind
    · split
      · rename_i heq
        have hne : ∀ g ∈ l, g.1 ≠ name := fun g hg hname =>
          String.lt_irrefl _ (heq ▸ hname ▸ hfirst g hg)
        grind
      · grind

theorem pairwise_put (h : l.Pairwise fun e f => e.1 < f.1) (name : String) (d : Definition) :
    (put name d l).Pairwise fun e f => e.1 < f.1 := by
  induction l with
  | nil => exact List.pairwise_singleton _ _
  | cons f l ih =>
    obtain ⟨hfirst, hrest⟩ := List.pairwise_cons.1 h
    rw [put]
    split
    · rename_i hlt
      refine List.pairwise_cons.2 ⟨List.forall_mem_cons.2 ⟨hlt, fun g hg => ?_⟩, h⟩
      exact String.lt_trans hlt (hfirst g hg)
    · split
      · rename_i heq
        exact List.pairwise_cons.2 ⟨fun g hg => heq ▸ hfirst g hg, hrest⟩
      · rename_i hle hne
        refine List.pairwise_cons.2 ⟨fun g hg => ?_, ih hrest⟩
        rcases (mem_put hrest).1 hg with rfl | ⟨-, hg⟩
        · exact Classical.byContradiction fun hge =>
            hne (String.le_antisymm (String.not_lt.1 hge) (String.not_lt.1 hle))
        · exact hfirst g hg

/-! ## Ordered stores -/

theorem ordered_empty : Ordered {} := List.Pairwise.nil

theorem Ordered.insert (h : s.Ordered) (name : String) (d : Definition) :
    (s.insert name d).Ordered :=
  pairwise_put h name d

/-- A store holds what is put in, and what it held under other names. -/
theorem mem_insert {e : String × Definition} (h : s.Ordered) :
    e ∈ (s.insert name d).entries ↔ e = (name, d) ∨ e.1 ≠ name ∧ e ∈ s.entries :=
  mem_put h

theorem mem_names_insert (h : s.Ordered) :
    key ∈ (s.insert name d).names ↔ key = name ∨ key ∈ s.names := by
  simp only [names, List.mem_map, mem_insert h]
  grind

namespace Ordered

theorem nodup_names (h : s.Ordered) : s.names.Nodup := by
  refine List.pairwise_map.2 (h.imp ?_)
  intro e f hlt heq
  exact String.lt_irrefl _ (heq ▸ hlt)

/-- Stores are known by what they hold. -/
theorem ext (h : s.Ordered) (h' : s'.Ordered) (hmem : ∀ e, e ∈ s.entries ↔ e ∈ s'.entries) :
    s = s' := by
  have hperm : s.entries.Perm s'.entries :=
    (List.perm_ext_iff_of_nodup h.nodup_names.of_map h'.nodup_names.of_map).2 hmem
  have heq := hperm.eq_of_pairwise (fun e f _ _ hlt hgt => absurd hgt (String.lt_asymm hlt)) h h'
  cases s
  cases s'
  exact congrArg mk heq

/-- What is found under a name is what the store holds under it. -/
theorem get_eq_ok (h : s.Ordered) : s.get name = .ok d ↔ (name, d) ∈ s.entries := by
  rw [get]
  constructor
  · intro hget
    split at hget
    · rename_i e hfound
      cases hget
      have hname : e.1 = name := by simpa using List.find?_some hfound
      exact hname ▸ List.mem_of_find?_eq_some hfound
    · cases hget
  · intro hmem
    split
    · rename_i e hfound
      have hname : e.1 = name := by simpa using List.find?_some hfound
      have he := List.mem_of_find?_eq_some hfound
      rw [List.inj_on_of_nodup_map h.nodup_names he hmem hname]
    · rename_i hnone
      exact absurd (List.find?_eq_none.1 hnone _ hmem) (by simp)

end Ordered

/-- Under a name that is not stored nothing is found. -/
theorem get_eq_error (h : name ∉ s.names) : s.get name = .error (.resourceNotFound name) := by
  have hnone : s.entries.find? (fun e => e.1 == name) = none :=
    List.find?_eq_none.2 fun e he heq => h (List.mem_map.2 ⟨e, he, by simpa using heq⟩)
  rw [get, hnone]

/-! ## Definitions stored one after the other -/

/-- The store of some definitions, which are put in one after the other. -/
def ofList (l : List (String × Definition)) : Store := l.foldl (fun s e => s.insert e.1 e.2) {}

theorem ofList_concat (l : List (String × Definition)) (e : String × Definition) :
    ofList (l ++ [e]) = (ofList l).insert e.1 e.2 := by
  simp [ofList]

theorem ordered_ofList (l : List (String × Definition)) : (ofList l).Ordered := by
  induction l using List.reverseRecOn with
  | nil => exact ordered_empty
  | append_singleton l e ih =>
    rw [ofList_concat]
    exact ih.insert e.1 e.2

/-- The names in a store are those of the definitions that were put in. -/
theorem mem_names_ofList : name ∈ (ofList l).names ↔ name ∈ l.map Prod.fst := by
  induction l using List.reverseRecOn with
  | nil => simp [ofList, names]
  | append_singleton l e ih =>
    rw [ofList_concat, mem_names_insert (ordered_ofList l), ih]
    simp [or_comm]

theorem mem_of_mem_ofList {e : String × Definition} (h : e ∈ (ofList l).entries) : e ∈ l := by
  induction l using List.reverseRecOn with
  | nil => exact h
  | append_singleton l f ih =>
    rw [ofList_concat, mem_insert (ordered_ofList l)] at h
    rcases h with rfl | ⟨-, h⟩
    · simp
    · exact List.mem_append_left _ (ih h)

/-- Of several definitions of one name the last one is found. -/
theorem get_ofList_concat (l : List (String × Definition)) (name : String) (d : Definition) :
    (ofList (l ++ [(name, d)])).get name = .ok d := by
  rw [(ordered_ofList _).get_eq_ok, ofList_concat, mem_insert (ordered_ofList l)]
  exact .inl rfl

/-- A definition is found under its name unless there is another one of that name. -/
theorem mem_ofList (h : ∀ d', (name, d') ∈ l → d' = d) :
    (name, d) ∈ (ofList l).entries ↔ (name, d) ∈ l := by
  refine ⟨mem_of_mem_ofList, fun hmem => ?_⟩
  have hname : name ∈ (ofList l).names := mem_names_ofList.2 (List.mem_map_of_mem hmem)
  obtain ⟨⟨_, d'⟩, hmem', rfl⟩ := List.mem_map.1 hname
  rwa [← h d' (mem_of_mem_ofList hmem')]

/-- The order in which definitions are stored does not count as long as those of one name are the
    same. -/
theorem ofList_perm (h : l.Perm l')
    (hsame : ∀ name d d', (name, d) ∈ l → (name, d') ∈ l → d' = d) : ofList l = ofList l' := by
  refine (ordered_ofList l).ext (ordered_ofList l') fun ⟨name, d⟩ => ?_
  constructor
  · intro hmem
    have hl := mem_of_mem_ofList hmem
    exact (mem_ofList fun d' hd' => hsame name d d' hl (h.mem_iff.2 hd')).2 (h.mem_iff.1 hl)
  · intro hmem
    have hl := h.mem_iff.2 (mem_of_mem_ofList hmem)
    exact (mem_ofList fun d' hd' => hsame name d d' hl hd').2 hl

/-- As many definitions stay as there are names. -/
theorem size_ofList (l : List (String × Definition)) :
    (ofList l).size = (l.map Prod.fst).dedup.length := by
  have hnodup := (ordered_ofList l).nodup_names
  have hperm : (ofList l).names.Perm (l.map Prod.fst).dedup :=
    (List.perm_ext_iff_of_nodup hnodup (List.nodup_dedup _)).2 fun name => by
      rw [mem_names_ofList, List.mem_dedup]
  rw [← hperm.length_eq, names, List.length_map, size]

/-- All definitions stay exactly if no two of them have the same name. -/
theorem size_ofList_eq_length : (ofList l).size = l.length ↔ (l.map Prod.fst).Nodup := by
  rw [size_ofList, ← List.length_map Prod.fst, ← List.dedup_eq_self]
  exact ⟨(List.dedup_sublist _).eq_of_length, congrArg List.length⟩

end Folio.Store
