import Mathlib.Data.List.Forall2
import Folio.Proofs.LineMarks

/-!
# Evaluation under two names

The name of a template stands in the words of its faults, and nowhere else is anything to be seen of
it, as long as no other template is asked for. So an expression that is evaluated in two settings
which differ in the name alone has the same value in both, or faults that say the same of two
templates.

* `Template.Words`, `Template.Agrees`: words, and results, that agree but for the name;
* `Template.Readings.Agree`: expressions that read alike;
* `Template.Setting.readings_agree`: every expression reads alike in settings that do.
-/

namespace Folio.Template

open Result

variable {name name' : String} {α β γ : Type}

/-! ## Results that agree -/

/-- Words that are the same, or quote one of two names in the same place. -/
inductive Words (name name' : String) : String → String → Prop
  | same (words : String) : Words name name' words words
  | quoting {before after : String} (hbefore : Opens before) (hafter : Closes after) :
      Words name name' (before ++ name ++ after) (before ++ name' ++ after)

namespace Words

variable {w w' : String}

theorem prepend (h : Words name name' w w') (s : String) : Words name name' (s ++ w) (s ++ w') := by
  cases h with
  | same => exact .same _
  | quoting hbefore hafter =>
    rw [← String.append_assoc, ← String.append_assoc, ← String.append_assoc, ← String.append_assoc]
    exact .quoting (hbefore.prepend s) hafter

theorem append (h : Words name name' w w') (s : String) : Words name name' (w ++ s) (w' ++ s) := by
  cases h with
  | same => exact .same _
  | @quoting before after hbefore hafter =>
    rw [@String.append_assoc (before ++ name), @String.append_assoc (before ++ name')]
    exact .quoting hbefore (hafter.append s)

end Words

/-- Faults that say the same of two templates. -/
structure Fault.Agree (name name' : String) (f f' : Fault) : Prop where
  words : List.Forall₂ (Words name name') f.words f'.words
  surroundings : f'.surroundings = f.surroundings

namespace Fault.Agree

variable {f f' : Fault} {w w' : String}

theorem refl (f : Fault) : Fault.Agree name name' f f :=
  ⟨List.forall₂_same.2 fun w _ => .same w, rfl⟩

theorem of (h : Words name name' w w') : Fault.Agree name name' (.of w) (.of w') :=
  ⟨.cons h .nil, rfl⟩

theorem under (h : Fault.Agree name name' f f') (hw : Words name name' w w') :
    Fault.Agree name name' (f.under w) (f'.under w') :=
  ⟨.cons hw h.words, h.surroundings⟩

theorem within (h : Fault.Agree name name' f f') (s : Surroundings) :
    Fault.Agree name name' (f.within s) (f'.within s) :=
  ⟨h.words, by rw [Fault.within, Fault.within, h.surroundings]⟩

theorem headD (h : Fault.Agree name name' f f') :
    Words name name' (f.words.headD "") (f'.words.headD "") := by
  obtain ⟨words, _⟩ := f
  obtain ⟨words', _⟩ := f'
  cases h.words with
  | nil => exact .same _
  | cons hw _ => exact hw

theorem outermost (h : Fault.Agree name name' f f') :
    Fault.Agree name name' f.outermost f'.outermost :=
  ⟨List.forall₂_take 1 h.words, h.surroundings⟩

end Fault.Agree

/-- Results that are the same, or faults that say the same of two templates. -/
abbrev Agrees (name name' : String) (r r' : Except Fault α) : Prop :=
  Matched (Fault.Agree name name') Eq r r'

namespace Agrees

variable {r r' : Except Fault α}

theorem refl (r : Except Fault α) : Agrees name name' r r := by
  cases r with
  | ok a => exact .ok rfl
  | error f => exact .error (.refl f)

theorem bind {k k' : α → Except Fault β} (h : Agrees name name' r r')
    (hk : ∀ a, Agrees name name' (k a) (k' a)) : Agrees name name' (r >>= k) (r' >>= k') :=
  Matched.bind h fun a _ heq => heq ▸ hk a

theorem map {f : α → β} (h : Agrees name name' r r') :
    Agrees name name' (r.map f) (r'.map f) := by
  cases h with
  | ok h => exact .ok (congrArg f h)
  | error h => exact .error h

theorem mapError {g g' : Fault → Fault} (h : Agrees name name' r r')
    (hg : ∀ f f', Fault.Agree name name' f f' → Fault.Agree name name' (g f) (g' f')) :
    Agrees name name' (r.mapError g) (r'.mapError g') := by
  cases h with
  | ok h => exact .ok h
  | error h => exact .error (hg _ _ h)

/-- The same words may be put around both. -/
theorem under (h : Agrees name name' r r') (words : String) :
    Agrees name name' (r.mapError fun f => f.under words) (r'.mapError fun f => f.under words) :=
  h.mapError fun _ _ hf => hf.under (.same words)

theorem within (h : Agrees name name' r r') (s : Surroundings) :
    Agrees name name' (r.mapError (·.within s)) (r'.mapError (·.within s)) :=
  h.mapError fun _ _ hf => hf.within s

theorem mapM {R : α → β → Prop} {f : α → Except Fault γ} {f' : β → Except Fault γ} {as : List α}
    {bs : List β} (h : List.Forall₂ R as bs) (hf : ∀ a b, R a b → Agrees name name' (f a) (f' b)) :
    Agrees name name' (as.mapM f) (bs.mapM f') := by
  induction h with
  | nil => exact refl _
  | cons hab _ ih =>
    rw [List.mapM_cons, List.mapM_cons]
    exact (hf _ _ hab).bind fun c => ih.bind fun cs => refl _

theorem foldlM {R : α → β → Prop} {f : γ → α → Except Fault γ} {f' : γ → β → Except Fault γ}
    {as : List α} {bs : List β} (h : List.Forall₂ R as bs)
    (hf : ∀ c a b, R a b → Agrees name name' (f c a) (f' c b)) (c : γ) :
    Agrees name name' (as.foldlM f c) (bs.foldlM f' c) := by
  induction h generalizing c with
  | nil => exact refl _
  | cons hab _ ih =>
    rw [List.foldlM_cons, List.foldlM_cons]
    exact (hf c _ _ hab).bind ih

end Agrees

/-- Values under the same key. -/
def Keyed (R : β → γ → Prop) (a : α × β) (b : α × γ) : Prop := b.1 = a.1 ∧ R a.2 b.2

/-- Under each key the same side of two lists is found. -/
theorem Keyed.find? [BEq α] {R : β → γ → Prop} {as : List (α × β)} {bs : List (α × γ)}
    (h : List.Forall₂ (Keyed R) as bs) (key : α) :
    Option.Rel (Keyed R) (as.find? fun a => a.1 == key) (bs.find? fun b => b.1 == key) := by
  induction h with
  | nil => exact .none
  | @cons a b _ _ hab _ ih =>
    rw [List.find?_cons, List.find?_cons, hab.1]
    cases a.1 == key with
    | true => exact .some hab
    | false => exact ih

/-! ## Readings that agree -/

/-- Expressions that read alike. -/
structure Readings.Agree (name name' : String) (r r' : Readings) : Prop where
  value : ∀ escapes, Agrees name name' (r.value escapes) (r'.value escapes)
  truth : ∀ escapes, Agrees name name' (r.truth escapes) (r'.truth escapes)
  number : ∀ escapes, Agrees name name' (r.number escapes) (r'.number escapes)

namespace Readings.Agree

variable {r r' lhs lhs' rhs rhs' : Readings} {words : String}

theorem ofValue {value value' : Bool → Except Fault Json}
    (h : ∀ escapes, Agrees name name' (value escapes) (value' escapes)) :
    Readings.Agree name name' (.ofValue words value) (.ofValue words value') where
  value := h
  truth escapes := (h escapes).bind fun _ => .refl _
  number escapes := (h escapes).bind fun _ => .refl _

theorem ofTruth {truth truth' : Bool → Except Fault Bool}
    (h : ∀ escapes, Agrees name name' (truth escapes) (truth' escapes)) :
    Readings.Agree name name' (.ofTruth truth) (.ofTruth truth') where
  value escapes := (h escapes).bind fun _ => .refl _
  truth := h
  number _ := .refl _

theorem ofNumber {number number' : Bool → Computed}
    (h : ∀ escapes, Agrees name name' (number escapes) (number' escapes)) :
    Readings.Agree name name' (.ofNumber number) (.ofNumber number') where
  value escapes := by
    have h := h escapes
    simp only [Readings.ofNumber]
    generalize number escapes = r at h
    generalize number' escapes = r' at h
    cases h with
    | ok h => exact h ▸ .refl _
    | error h => exact .error h.outermost
  truth escapes := (h escapes).bind fun _ => .refl _
  number := h

theorem ofRelation (op : Relation) (hl : Readings.Agree name name' lhs lhs')
    (hr : Readings.Agree name name' rhs rhs') :
    Readings.Agree name name' (.ofRelation op lhs rhs) (.ofRelation op lhs' rhs') := by
  refine ofTruth fun escapes => ?_
  cases op with
  | or =>
    refine (hl.truth escapes).bind fun b => ?_
    cases b
    · exact hr.truth escapes
    · exact .refl _
  | and =>
    refine (hl.truth escapes).bind fun b => ?_
    cases b
    · exact .refl _
    · exact hr.truth escapes
  | eq | ne =>
    exact (hl.value escapes).bind fun v => (hr.value escapes).bind fun w => .refl _
  | lt | le | gt | ge =>
    exact (hl.number escapes).bind fun m => (hr.number escapes).bind fun n => .refl _

theorem ofArithmetic (op : Arithmetic) (words : Unit → String)
    (hl : Readings.Agree name name' lhs lhs') (hr : Readings.Agree name name' rhs rhs') :
    Readings.Agree name name' (.ofArithmetic op words lhs rhs)
      (.ofArithmetic op words lhs' rhs') :=
  ofNumber fun escapes =>
    (hl.number escapes).bind fun _ => (hr.number escapes).bind fun _ => .refl _

theorem ofMembership (isNegated : Bool) (hl : Readings.Agree name name' lhs lhs')
    (hr : Readings.Agree name name' rhs rhs') :
    Readings.Agree name name' (.ofMembership isNegated lhs rhs)
      (.ofMembership isNegated lhs' rhs') :=
  ofTruth fun _ => (hl.value false).bind fun _ => (hr.value false).bind fun _ => .refl _

/-! ### Functions and checks -/

variable {args args' : List (String × Readings)}

/-- Arguments that read alike, each with the same words around its fault. -/
theorem mapM_args (h : List.Forall₂ (Keyed (Readings.Agree name name')) args args')
    (words : String) :
    Agrees name name'
      (args.mapM fun (k, r) => ((r.value false).map (k, ·)).mapError (·.under words))
      (args'.mapM fun (k, r) => ((r.value false).map (k, ·)).mapError (·.under words)) := by
  refine .mapM h ?_
  rintro ⟨_, r⟩ ⟨k, r'⟩ ⟨rfl, hr⟩
  exact ((hr.value false).map).under words

theorem answer (f : String) (h : List.Forall₂ (Keyed (Readings.Agree name name')) args args') :
    Agrees name name' (Readings.answer f args) (Readings.answer f args') := by
  simp only [Readings.answer]
  cases Function.find? f with
  | none => exact .refl _
  | some f => exact (mapM_args h _).bind fun _ => .refl _

theorem ofCall (f : String) (h : List.Forall₂ (Keyed (Readings.Agree name name')) args args') :
    Readings.Agree name name' (.ofCall f args) (.ofCall f args') where
  value _ := answer f h
  truth _ := (answer f h).bind fun _ => .refl _
  number _ := (answer f h).bind fun _ => .refl _

theorem passes (check : String) (v : Option Json) {args args' : List Readings}
    (h : List.Forall₂ (Readings.Agree name name') args args') :
    Agrees name name' (Readings.passes check v args) (Readings.passes check v args') := by
  simp only [Readings.passes]
  cases Check.find? check with
  | none => exact .refl _
  | some f =>
    exact (Agrees.mapM h fun _ _ hr => (hr.value false).under _).bind fun _ => .refl _

theorem ofJoined {parts parts' : List (Operand × Readings)}
    (h : List.Forall₂ (Keyed (Readings.Agree name name')) parts parts') :
    Readings.Agree name name' (.ofJoined parts) (.ofJoined parts') := by
  refine ofValue fun _ => (Agrees.mapM h ?_).bind fun _ => .refl _
  rintro ⟨_, r⟩ ⟨operand, r'⟩ ⟨rfl, hr⟩
  cases operand with
  | text | integer | real => exact .refl _
  | _ => exact (hr.value false).bind fun _ => .refl _

end Readings.Agree

/-- Filters with arguments that read alike. -/
structure Step.Agree (name name' : String) (s s' : Step) : Prop where
  filter : s'.filter = s.filter
  args : List.Forall₂ (Keyed (Readings.Agree name name')) s.args s'.args

namespace Step.Agree

variable {s s' : Step} {steps steps' : List Step}

theorem apply (h : Step.Agree name name' s s') (v : Json) (escaping : Bool) :
    Agrees name name' (s.apply v escaping) (s'.apply v escaping) := by
  simp only [Step.apply, h.filter]
  split
  · exact .refl _
  · cases Filter.find? s.filter with
    | none => exact .refl _
    | some f => exact (Readings.Agree.mapM_args h.args _).bind fun _ => .refl _

theorem default? (h : List.Forall₂ (Step.Agree name name') steps steps') (escapes : Bool) :
    Option.Rel (Agrees name name') (Step.default? escapes steps)
      (Step.default? escapes steps') := by
  cases h with
  | nil => exact .none
  | @cons s s' _ _ h _ =>
    simp only [Step.default?, h.filter]
    split
    · exact .none
    · have hfound := Keyed.find? h.args "value"
      generalize s.args.find? _ = found at hfound
      generalize s'.args.find? _ = found' at hfound
      cases hfound with
      | none => exact .some (.refl _)
      | some h => exact .some (h.2.value escapes)

theorem isSafe (h : List.Forall₂ (Step.Agree name name') steps steps') :
    Step.isSafe steps' = Step.isSafe steps := by
  have hfilters : steps'.map Step.filter = steps.map Step.filter := by
    induction h with
    | nil => rfl
    | cons h _ ih => rw [List.map_cons, List.map_cons, h.filter, ih]
  have hany (steps : List Step) :
      Step.isSafe steps = (steps.map Step.filter).getLast?.any (· == "safe") := by
    rw [Step.isSafe, List.getLast?_map, Option.any_map]
  rw [hany, hany, hfilters]

theorem finish (h : List.Forall₂ (Step.Agree name name') steps steps')
    (negated escapes escaping : Bool) (v : Json) :
    Agrees name name' (Step.finish steps negated escapes escaping v)
      (Step.finish steps' negated escapes escaping v) := by
  simp only [Step.finish, isSafe h]
  exact (Agrees.foldlM h (fun (v, escaping) _ _ h => h.apply v escaping) (v, escaping)).bind
    fun _ => .refl _

end Step.Agree

/-- As a condition a variable holds if it has a value that counts as true. -/
theorem Readings.truth_path (path : String) (r : Readings) (negated : Bool) (steps : List Step)
    (escapes : Bool) :
    (Readings.ofExpr (.path path) r negated steps).truth escapes =
      .ok (((Readings.ofExpr (.path path) r negated steps).value escapes).toOption.any
        Json.isTruthy) := by
  cases h : (Readings.ofExpr (.path path) r negated steps).value escapes with
  | ok v =>
    simp only [Readings.ofExpr] at h ⊢
    rw [h]
    rfl
  | error f =>
    simp only [Readings.ofExpr] at h ⊢
    rw [h]
    rfl

theorem Readings.Agree.ofExpr (operand : Operand) (negated : Bool) {r r' : Readings}
    {steps steps' : List Step} (h : Readings.Agree name name' r r')
    (hsteps : List.Forall₂ (Step.Agree name name') steps steps') :
    Readings.Agree name name' (.ofExpr operand r negated steps)
      (.ofExpr operand r' negated steps') := by
  have hfinish (escapes : Bool) (v : Json) :=
    Step.Agree.finish hsteps negated escapes operand.escaping v
  have hvalue (escapes : Bool) : Agrees name name'
      ((Readings.ofExpr operand r negated steps).value escapes)
      ((Readings.ofExpr operand r' negated steps').value escapes) := by
    have h := h.value escapes
    have hdefault := Step.Agree.default? hsteps escapes
    simp only [Readings.ofExpr]
    generalize r.value escapes = w, r'.value escapes = w' at h
    generalize Step.default? escapes steps = d, Step.default? escapes steps' = d' at hdefault
    -- Only a variable is looked at again: where it is missing or null, the default or the negation
    -- may stand in for it.
    cases h with
    | @ok v _ h =>
      subst h
      cases operand with
      | path =>
        cases v with
        | null =>
          cases negated
          · exact hfinish escapes .null
          · exact .refl _
        | _ => exact hfinish escapes _
      | _ => exact hfinish escapes _
    | error h =>
      cases operand with
      | path =>
        cases hdefault with
        | some hd => exact hd.bind fun v => hfinish escapes v
        | none =>
          cases negated
          · exact .error h
          · exact .refl _
      | _ => exact .error h
  refine ⟨hvalue, fun escapes => ?_, fun escapes => ?_⟩
  · cases operand with
    | path =>
      rw [truth_path, truth_path, (hvalue escapes).toOption_eq]
      exact .refl _
    | _ => exact (h.truth escapes).bind fun _ => .refl _
  · have hnumber := h.number escapes
    have h := hvalue escapes
    cases hsteps with
    | nil => exact hnumber
    | cons => exact h.bind fun _ => .refl _

/-! ## Settings that agree -/

/-- The words for a variable that is not there. -/
def missingWords (path template : String) : String :=
  s!"Variable `{path}` not found in context while rendering '{template}'"

/-- Settings that agree but for the name of the template. -/
structure Setting.Agree (name name' : String) (s s' : Setting) : Prop where
  template : s.template = name
  template' : s'.template = name'
  given : s'.given = s.given
  invoke : ∀ escapes space f args args',
    List.Forall₂ (Keyed (Agrees name name')) args args' →
      Agrees name name' (s.invoke escapes space f args) (s'.invoke escapes space f args')

namespace Setting.Agree

variable {s s' : Setting} (h : Setting.Agree name name' s s') (frames : Frames)

include h

theorem search (path : String) : s'.search frames path = s.search frames path := by
  rw [Setting.search, Setting.search, h.given]

/-- The words for a variable that is not there quote the name. -/
theorem missing (path : String) :
    Words name name' (missingWords path s.template) (missingWords path s'.template) := by
  rw [h.template, h.template']
  exact .quoting (.prepend ⟨'\'', "` not found in context while rendering ", .single, rfl⟩ _)
    ⟨'\'', "", .single, rfl⟩

theorem variableWithin (fuel : Nat) (path : String) :
    Agrees name name' (s.variableWithin frames fuel path)
      (s'.variableWithin frames fuel path) := by
  induction fuel generalizing path with
  | zero => exact .refl _
  | succ fuel ih =>
    simp only [Setting.variableWithin, h.search]
    split
    · split
      · exact .refl _
      · exact .error (.of (h.missing path))
    · -- What stands in brackets is replaced first, one variable after the other; the words of a
      -- fault in there go into those of the fault outside.
      refine .bind (.foldlM (List.forall₂_same.2 fun _ _ => rfl) ?_ _) fun resolved => ?_
      · rintro cs index _ rfl
        exact ((ih _).mapError fun f f' hf => .of (hf.headD.prepend _)).bind fun _ => .refl _
      · split
        · exact .refl _
        · exact .error (.of (((h.missing path).append _).append _))

omit h in
/-- Arguments are handed over as the values they are read as. -/
theorem handed {args args' : List (String × Readings)}
    (h : List.Forall₂ (Keyed (Readings.Agree name name')) args args') :
    List.Forall₂ (Keyed (Agrees name name')) (args.map fun (k, r) => (k, r.value false))
      (args'.map fun (k, r) => (k, r.value false)) := by
  rw [List.forall₂_map_left_iff, List.forall₂_map_right_iff]
  exact h.imp fun _ _ h => ⟨h.1, h.2.value false⟩

theorem lookup (path : String) :
    Agrees name name' (s.lookup frames path) (s'.lookup frames path) := by
  rw [Setting.lookup, Setting.lookup, h.given]
  split
  · exact .refl _
  · exact h.variableWithin frames _ path

end Setting.Agree

namespace Setting

variable {s s' : Setting}

-- One case for each kind of operand. The name is seen by variables and by definitions alone; all
-- other operands pass on what their parts read.
mutual

theorem operandReadings_agree (h : Setting.Agree name name' s s') (frames : Frames) :
    (operand : Operand) → Readings.Agree name name' (s.operandReadings frames operand)
      (s'.operandReadings frames operand)
  | .path path => .ofValue fun _ => h.lookup frames path
  | .text _ | .truth _ => .ofValue fun _ => .refl _
  | .integer _ | .real _ => by
    rw [Setting.operandReadings, Setting.operandReadings]
    exact .ofNumber fun _ => .refl _
  | .array items => .ofValue fun escapes =>
      (Agrees.mapM (readingsOfAll_agree h frames items) fun _ _ h => h.value escapes).bind
        fun _ => .refl _
  | .membership isNegated lhs rhs =>
    .ofMembership isNegated (readings_agree h frames lhs) (readings_agree h frames rhs)
  | .relation op lhs rhs =>
    .ofRelation op (readings_agree h frames lhs) (readings_agree h frames rhs)
  | .arithmetic op lhs rhs =>
    .ofArithmetic op _ (readings_agree h frames lhs) (readings_agree h frames rhs)
  | .check isNegated path check args => by
    have hargs := readingsOfAll_agree h frames args
    have hpasses : ∀ escapes : Bool, Agrees name name'
        (do return (← Readings.passes check (s.lookup frames path).toOption
          (s.readingsOfAll frames args)) != isNegated)
        (do return (← Readings.passes check (s'.lookup frames path).toOption
          (s'.readingsOfAll frames args)) != isNegated) := by
      intro _
      rw [(h.lookup frames path).toOption_eq]
      exact (Readings.Agree.passes check _ hargs).bind fun _ => .refl _
    exact { Readings.Agree.ofTruth hpasses with number := fun _ => .refl _ }
  | .call (.mk name args) => .ofCall name (readingsOfArgs_agree h frames args)
  | .invoke space f args => .ofValue fun escapes =>
      have hargs := Setting.Agree.handed (readingsOfArgs_agree h frames args)
      (h.invoke escapes space f _ _ hargs).bind fun _ => .refl _
  | .joined parts => .ofJoined (readingsOfParts_agree h frames parts)

theorem readings_agree (h : Setting.Agree name name' s s') (frames : Frames) :
    (e : Expr) → Readings.Agree name name' (s.readings frames e) (s'.readings frames e)
  | .mk operand negated filters =>
    .ofExpr operand negated (operandReadings_agree h frames operand) (steps_agree h frames filters)

theorem readingsOfAll_agree (h : Setting.Agree name name' s s') (frames : Frames) :
    (es : List Expr) → List.Forall₂ (Readings.Agree name name') (s.readingsOfAll frames es)
      (s'.readingsOfAll frames es)
  | [] => .nil
  | e :: rest => .cons (readings_agree h frames e) (readingsOfAll_agree h frames rest)

theorem readingsOfArgs_agree (h : Setting.Agree name name' s s') (frames : Frames) :
    (args : List (String × Expr)) → List.Forall₂ (Keyed (Readings.Agree name name'))
      (s.readingsOfArgs frames args) (s'.readingsOfArgs frames args)
  | [] => .nil
  | (_, e) :: rest => .cons ⟨rfl, readings_agree h frames e⟩ (readingsOfArgs_agree h frames rest)

theorem readingsOfParts_agree (h : Setting.Agree name name' s s') (frames : Frames) :
    (parts : List Operand) → List.Forall₂ (Keyed (Readings.Agree name name'))
      (s.readingsOfParts frames parts) (s'.readingsOfParts frames parts)
  | [] => .nil
  | part :: rest =>
    .cons ⟨rfl, operandReadings_agree h frames part⟩ (readingsOfParts_agree h frames rest)

theorem steps_agree (h : Setting.Agree name name' s s') (frames : Frames) :
    (filters : List Call) → List.Forall₂ (Step.Agree name name') (s.steps frames filters)
      (s'.steps frames filters)
  | [] => .nil
  | .mk _ args :: rest =>
    .cons ⟨rfl, readingsOfArgs_agree h frames args⟩ (steps_agree h frames rest)

end

end Setting

end Folio.Template
