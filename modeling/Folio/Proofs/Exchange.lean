import Folio.Proofs.Fields

/-!
# Operations as objects

An operation is written as an object in which the computed fields stand beside the directives, under
names of their own. Reading it takes the two apart again. As long as no directive has one of these
names, nothing is lost on the way but what `null` cannot tell from nothing, and the mark that the
operation has been run, which is not written.

* `Operation.computedNames`: the names of computed fields;
* `Operation.toFields`: the fields that an operation is written as;
* `Operation.ofFields_toFields`, `Operation.toFields_ofFields`: an operation that is written and
  read, and an object that is read and written;
* `Operation.parseList_toJson`: the same for whole lists.
-/

namespace Folio

open Json

/-! ## Fields that may be absent -/

namespace Json.Fields

/-- Writes a value under a name, if there is one. -/
def put (name : String) (v : Option Json) (fields : Fields) : Fields :=
  match v with
  | some v => insert name v fields
  | none => fields

theorem get?_put (name key : String) (v : Option Json) (fields : Fields) :
    get? (put name v fields) key =
      if name = key then v.or (get? fields key) else get? fields key := by
  cases v with
  | none => simp [put]
  | some v => exact get?_insert name key v fields

theorem filter_put {p : String → Bool} {name : String} (hname : p name = false) (v : Option Json)
    (fields : Fields) :
    (put name v fields).filter (fun f => p f.1) = fields.filter fun f => p f.1 := by
  cases v with
  | none => rfl
  | some v => exact filter_insert hname v fields

theorem Ordered.put {fields : Fields} (h : Ordered fields) (name : String) (v : Option Json) :
    Ordered (Fields.put name v fields) := by
  cases v with
  | none => exact h
  | some v => exact h.insert name v

end Json.Fields

theorem Json.bind_present? (v : Option Json) : v.bind present? = v.filter (· ≠ .null) := by
  cases v with
  | none => rfl
  | some v => cases v <;> rfl

namespace Operation

/-! ## Single operations -/

/-- The names under which computed fields are written. -/
def computedNames : List String := ["data", "_with", "_as"]

/-- An operation that has been written and read again: fields that are `null` are absent, and it is
    forgotten whether it has been run. -/
def settled (op : Operation) : Operation where
  directives := op.directives
  data := op.data.bind present?
  withValue := op.withValue.bind present?
  asValue := op.asValue.bind present?

/-- The fields of the object that an operation is written as. -/
def toFields (op : Operation) : Fields :=
  Fields.put "_as" op.asValue <| Fields.put "_with" op.withValue <|
    Fields.put "data" op.data op.directives

theorem toJson_eq (op : Operation) : op.toJson = .obj op.toFields := rfl

theorem ofFields_directives (fields : Fields) :
    (ofFields fields).directives = fields.filter fun f => f.1 ∉ computedNames := by
  refine List.filter_congr fun f _ => ?_
  simp [computedNames]

/-- No directive that is read has the name of a computed field. -/
theorem notMem_keys_ofFields (fields : Fields) {key : String} (hkey : key ∈ computedNames) :
    key ∉ (ofFields fields).keys := by
  rw [keys, ofFields_directives, ← Fields.get?_eq_none,
    Fields.get?_filter (fun name => name ∉ computedNames)]
  exact if_neg (by simpa using hkey)

theorem get?_toFields (op : Operation) (key : String) :
    Fields.get? op.toFields key =
      if "_as" = key then op.asValue.or (op.argument key)
      else if "_with" = key then op.withValue.or (op.argument key)
      else if "data" = key then op.data.or (op.argument key)
      else op.argument key := by
  simp only [toFields, Fields.get?_put, argument]
  grind

/-- An operation that is written and read is the same but for what is not written. -/
theorem ofFields_toFields {op : Operation} (h : ∀ key ∈ computedNames, key ∉ op.keys) :
    ofFields op.toFields = op.settled := by
  have hnone (key : String) (hkey : key ∈ computedNames) : op.argument key = none :=
    Fields.get?_eq_none.2 (h key hkey)
  have htaken : ∀ name ∈ computedNames, decide (name ∉ computedNames) = false :=
    fun name hname => decide_eq_false (not_not_intro hname)
  have hdirectives : (ofFields op.toFields).directives = op.directives := by
    rw [ofFields_directives, toFields,
      Fields.filter_put (p := fun name => name ∉ computedNames) (htaken "_as" (by decide)),
      Fields.filter_put (p := fun name => name ∉ computedNames) (htaken "_with" (by decide)),
      Fields.filter_put (p := fun name => name ∉ computedNames) (htaken "data" (by decide))]
    exact List.filter_eq_self.2 fun f hf =>
      decide_eq_true fun hkey => h f.1 hkey (List.mem_map_of_mem hf)
  have hdata : (ofFields op.toFields).data = op.data.bind present? := by
    simp [ofFields, get?_toFields, hnone "data" (by decide)]
  have hwith : (ofFields op.toFields).withValue = op.withValue.bind present? := by
    simp [ofFields, get?_toFields, hnone "_with" (by decide)]
  have has : (ofFields op.toFields).asValue = op.asValue.bind present? := by
    simp [ofFields, get?_toFields, hnone "_as" (by decide)]
  rw [settled, ← hdirectives, ← hdata, ← hwith, ← has]
  rfl

/-- An object that is read and written has lost those computed fields that are `null`. -/
theorem toFields_ofFields {fields : Fields} (h : fields.Ordered) :
    (ofFields fields).toFields =
      fields.filter fun f => ¬(f.1 ∈ computedNames ∧ f.2 = .null) := by
  -- Writing puts each field in its place by name, so that it is enough to look up all names.
  refine Fields.Ordered.ext ?_ (h.filter _) fun key => ?_
  · refine (((Fields.Ordered.put ?_ _ _).put _ _).put _ _)
    rw [ofFields_directives]
    exact h.filter _
  · rw [get?_toFields, h.get?_filter_eq, argument, ofFields_directives,
      Fields.get?_filter (fun name => name ∉ computedNames)]
    simp only [ofFields, bind_present?]
    by_cases hkey : key ∈ computedNames
    · simp only [computedNames, List.mem_cons, List.not_mem_nil, or_false] at hkey
      rcases hkey with rfl | rfl | rfl <;> simp [computedNames]
    · have hne : "_as" ≠ key ∧ "_with" ≠ key ∧ "data" ≠ key := by
        simpa [computedNames, eq_comm, and_comm, and_assoc] using hkey
      simp only [hne, if_false, hkey, not_false_eq_true, decide_true, if_true, false_and]
      cases Fields.get? fields key <;> rfl

/-! ## Lists -/

/-- Operation lists may be exchanged for the arrays they are written as. A list in which no
    directive has the name of a computed field is read back as it was, but for fields that are
    `null` and for what has been run. An array of objects is always read, into operations of that
    kind, and it is written back as it was, but for the computed fields of its operations that are
    `null`; what is nested deeper stays. -/
theorem parseList_toJson (directive : String) :
    (∀ ops : List Operation, (∀ op ∈ ops, ∀ key ∈ computedNames, key ∉ op.keys) →
      parseList directive (.arr (ops.map toJson)) = .ok (ops.map settled)) ∧
    ∀ objects : List Fields, (∀ fields ∈ objects, fields.Ordered) →
      ∃ ops, parseList directive (.arr (objects.map .obj)) = .ok ops ∧
        (∀ op ∈ ops, ∀ key ∈ computedNames, key ∉ op.keys) ∧
        ops.map toJson = objects.map fun fields =>
          .obj (fields.filter fun f => ¬(f.1 ∈ computedNames ∧ f.2 = .null)) := by
  constructor
  · intro ops h
    have hread : ops.map settled = (ops.map toFields).map ofFields := by
      rw [List.map_map]
      exact List.map_congr_left fun op hop => (ofFields_toFields (h op hop)).symm
    refine parseList_eq_ok.2 (.inl ⟨ops.map toFields, ?_, hread⟩)
    rw [List.map_map]
    rfl
  · intro objects h
    refine ⟨objects.map ofFields, parseList_eq_ok.2 (.inl ⟨objects, rfl, rfl⟩), ?_, ?_⟩
    · exact List.forall_mem_map.2 fun fields _ key hkey => notMem_keys_ofFields fields hkey
    · rw [List.map_map]
      refine List.map_congr_left fun fields hfields => ?_
      rw [Function.comp_apply, toJson_eq, toFields_ofFields (h fields hfields)]

/-- Of two fields that are `null` only the computed one is lost, and only where it is not nested. -/
theorem parseList_toJson_null :
    let op : Operation :=
      { directives := [("raw", .null)], data := some .null, asValue := some (.str "a")
        executed := true }
    let below : Json := .arr [.obj [("data", .null)]]
    (∀ op' ∈ [op], ∀ key ∈ computedNames, key ∉ op'.keys) ∧
      parseList "with" (.arr ([op].map toJson)) =
        .ok [{ op with data := none, executed := false }] ∧
      Fields.Ordered [("_with", .null), ("with", below)] ∧
      ∃ ops, parseList "with" (.arr [.obj [("_with", .null), ("with", below)]]) = .ok ops ∧
        (∀ op ∈ ops, ∀ key ∈ computedNames, key ∉ op.keys) ∧
        ops.map toJson = [.obj [("with", below)]] := by
  intro op below
  have hop : ∀ op' ∈ [op], ∀ key ∈ computedNames, key ∉ op'.keys := by decide
  have hordered : ∀ fields ∈ [[("_with", .null), ("with", below)]], Fields.Ordered fields := by
    decide
  obtain ⟨hwritten, hread⟩ := parseList_toJson "with"
  exact ⟨hop, hwritten [op] hop, hordered _ List.mem_cons_self, hread _ hordered⟩

end Operation

end Folio
