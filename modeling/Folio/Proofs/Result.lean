import Folio.Failure

/-!
# Results

Checks answer in `Except`: a chain of them succeeds exactly when each link does, and renaming the
errors leaves a success alone. What runs also has a state, which a failure leaves as it is at that
moment (`andThen`). Of two runs that are compared, both succeed or both fail (`Matched`).
-/

namespace Folio.Result

variable {ε ε' α β γ σ : Type}

/-- Results can be compared, so that what a closed evaluation ends with can be decided. -/
instance decidableEq [DecidableEq ε] [DecidableEq α] : DecidableEq (Except ε α)
  | .error e, .error e' => decidable_of_iff (e = e') (by simp)
  | .ok a, .ok b => decidable_of_iff (a = b) (by simp)
  | .error _, .ok _ | .ok _, .error _ => .isFalse nofun

@[simp] theorem ok_bind (a : α) (f : α → Except ε β) : Except.ok a >>= f = f a := rfl

@[simp] theorem error_bind (e : ε) (f : α → Except ε β) : Except.error e >>= f = .error e := rfl

theorem bind_eq_ok {x : Except ε α} {f : α → Except ε β} {b : β} :
    x >>= f = .ok b ↔ ∃ a, x = .ok a ∧ f a = .ok b := by
  cases x <;> simp [bind, Except.bind]

/-- A check followed by another one. -/
theorem check_eq_ok {x : Except ε Unit} {y : Except ε β} {b : β} :
    (x >>= fun _ => y) = .ok b ↔ x = .ok () ∧ y = .ok b := by
  cases x <;> simp [bind, Except.bind]

theorem bind_eq_error {x : Except ε α} {f : α → Except ε β} {e : ε} :
    x >>= f = .error e ↔ x = .error e ∨ ∃ a, x = .ok a ∧ f a = .error e := by
  cases x <;> simp [bind, Except.bind]

/-- What is only put into another form is refused as it is. -/
theorem bind_pure_eq_error {x : Except ε α} {f : α → β} {e : ε} :
    (x >>= fun a => pure (f a)) = .error e ↔ x = .error e := by
  cases x <;> simp [bind, Except.bind, pure, Except.pure]

theorem map_eq_ok {x : Except ε α} {f : α → β} {b : β} :
    f <$> x = .ok b ↔ ∃ a, x = .ok a ∧ f a = b := by
  cases x <;> simp [Functor.map, Except.map]

theorem map_eq_error {x : Except ε α} {f : α → β} {e : ε} :
    f <$> x = .error e ↔ x = .error e := by
  cases x <;> simp [Functor.map, Except.map]

@[simp] theorem mapError_ok (a : α) (f : ε → ε') : (Except.ok a).mapError f = .ok a := rfl

@[simp] theorem mapError_error (e : ε) (f : ε → ε') :
    (Except.error e : Except ε α).mapError f = .error (f e) := rfl

theorem mapError_eq_ok {x : Except ε α} {f : ε → ε'} {a : α} :
    x.mapError f = .ok a ↔ x = .ok a := by
  cases x <;> simp

theorem mapError_eq_error {x : Except ε α} {f : ε → ε'} {e : ε'} :
    x.mapError f = .error e ↔ ∃ e', x = .error e' ∧ f e' = e := by
  cases x <;> simp

/-- Renaming errors commutes with chaining. -/
theorem mapError_bind (x : Except ε α) (f : α → Except ε β) (g : ε → ε') :
    (x >>= f).mapError g = x.mapError g >>= fun a => (f a).mapError g := by
  cases x <;> rfl

/-- What no step changes, a whole list keeps. -/
theorem map_of_mapM {f : α → Except ε β} {p : α → γ} {q : β → γ}
    (h : ∀ a b, f a = .ok b → q b = p a) {as : List α} {bs : List β} (hbs : as.mapM f = .ok bs) :
    bs.map q = as.map p := by
  induction as generalizing bs with
  | nil =>
    cases hbs
    rfl
  | cons a as ih =>
    rw [List.mapM_cons] at hbs
    obtain ⟨b, hb, hbs⟩ := bind_eq_ok.1 hbs
    obtain ⟨bs, hbs', hbs⟩ := bind_eq_ok.1 hbs
    cases hbs
    rw [List.map_cons, List.map_cons, h a b hb, ih hbs']

theorem ne_nil_of_mapM {f : α → Except ε β} {as : List α} {bs : List β} (h : as.mapM f = .ok bs)
    (has : as ≠ []) : bs ≠ [] := by
  obtain ⟨a, as, rfl⟩ := List.exists_cons_of_ne_nil has
  rw [List.mapM_cons] at h
  obtain ⟨b, -, h⟩ := bind_eq_ok.1 h
  obtain ⟨bs, -, h⟩ := bind_eq_ok.1 h
  cases h
  exact List.cons_ne_nil b bs

theorem mapM_cons_eq_ok {f : α → Except ε β} {a : α} {as : List α} {bs : List β} :
    (a :: as).mapM f = .ok bs ↔ ∃ b rest, f a = .ok b ∧ as.mapM f = .ok rest ∧ bs = b :: rest := by
  simp only [List.mapM_cons, bind_eq_ok, pure, Except.pure, Except.ok.injEq]
  grind

theorem mapM_append_eq_ok {f : α → Except ε β} {as as' : List α} {bs : List β} :
    (as ++ as').mapM f = .ok bs ↔
      ∃ xs ys, as.mapM f = .ok xs ∧ as'.mapM f = .ok ys ∧ bs = xs ++ ys := by
  simp only [List.mapM_append, bind_eq_ok, pure, Except.pure, Except.ok.injEq]
  grind

/-- Two rows of steps that succeed may as well be taken as one. -/
theorem mapM_bind_eq_ok {f : α → Except ε β} {g : β → Except ε γ} {as : List α} {cs : List γ} :
    as.mapM (fun a => f a >>= g) = .ok cs ↔ ∃ bs, as.mapM f = .ok bs ∧ bs.mapM g = .ok cs := by
  induction as generalizing cs with
  | nil => simp [pure, Except.pure]
  | cons a as ih =>
    simp only [mapM_cons_eq_ok, bind_eq_ok, ih]
    constructor
    · rintro ⟨c, rest, ⟨b, hb, hc⟩, ⟨bs, hbs, hrest⟩, rfl⟩
      exact ⟨b :: bs, ⟨b, bs, hb, hbs, rfl⟩, mapM_cons_eq_ok.2 ⟨c, rest, hc, hrest, rfl⟩⟩
    · rintro ⟨_, ⟨b, bs, hb, hbs, rfl⟩, h⟩
      obtain ⟨c, rest, hc, hrest, rfl⟩ := mapM_cons_eq_ok.1 h
      exact ⟨c, rest, ⟨b, hb, hc⟩, ⟨bs, hbs, hrest⟩, rfl⟩

theorem mapM_eq_self {f : α → Except ε α} {as : List α} (h : ∀ a ∈ as, f a = .ok a) :
    as.mapM f = .ok as := by
  induction as with
  | nil => rfl
  | cons a as ih =>
    rw [List.forall_mem_cons] at h
    rw [List.mapM_cons, h.1, ok_bind, ih h.2]
    rfl

/-- An error is that of one of the steps. -/
theorem exists_error_of_mapM {f : α → Except ε β} {as : List α} {e : ε}
    (h : as.mapM f = .error e) : ∃ a ∈ as, f a = .error e := by
  induction as with
  | nil => cases h
  | cons a as ih =>
    rw [List.mapM_cons, bind_eq_error] at h
    rcases h with h | ⟨b, -, h⟩
    · exact ⟨a, List.mem_cons_self, h⟩
    · rcases bind_eq_error.1 h with h | ⟨bs, -, h⟩
      · obtain ⟨a', ha', h⟩ := ih h
        exact ⟨a', List.mem_cons_of_mem a ha', h⟩
      · cases h

/-- Where all steps succeed, results and arguments belong together. -/
theorem exists_ok_of_mapM {f : α → Except ε β} {as : List α} {bs : List β}
    (h : as.mapM f = .ok bs) :
    (∀ a ∈ as, ∃ b ∈ bs, f a = .ok b) ∧ ∀ b ∈ bs, ∃ a ∈ as, f a = .ok b := by
  induction as generalizing bs with
  | nil =>
    cases h
    exact ⟨List.forall_mem_nil _, List.forall_mem_nil _⟩
  | cons a as ih =>
    rw [List.mapM_cons] at h
    obtain ⟨b, hb, h⟩ := bind_eq_ok.1 h
    obtain ⟨bs, hbs, h⟩ := bind_eq_ok.1 h
    cases h
    obtain ⟨hout, hback⟩ := ih hbs
    constructor
    · refine List.forall_mem_cons.2 ⟨⟨b, List.mem_cons_self, hb⟩, fun a' ha' => ?_⟩
      obtain ⟨b', hb', h⟩ := hout a' ha'
      exact ⟨b', List.mem_cons_of_mem b hb', h⟩
    · refine List.forall_mem_cons.2 ⟨⟨a, List.mem_cons_self, hb⟩, fun b' hb' => ?_⟩
      obtain ⟨a', ha', h⟩ := hback b' hb'
      exact ⟨a', List.mem_cons_of_mem a ha', h⟩

/-- Steps that succeed one after the other do so in every order. -/
theorem mapM_perm {f : α → Except ε β} {as as' : List α} {bs : List β} (h : as.Perm as')
    (hbs : as.mapM f = .ok bs) : ∃ bs', as'.mapM f = .ok bs' ∧ bs.Perm bs' := by
  induction h generalizing bs with
  | nil => exact ⟨bs, hbs, .refl bs⟩
  | cons a _ ih =>
    obtain ⟨b, rest, hb, hrest, rfl⟩ := mapM_cons_eq_ok.1 hbs
    obtain ⟨rest', hrest', hperm⟩ := ih hrest
    exact ⟨b :: rest', mapM_cons_eq_ok.2 ⟨b, rest', hb, hrest', rfl⟩, hperm.cons b⟩
  | swap a a' as =>
    obtain ⟨b, _, hb, htail, rfl⟩ := mapM_cons_eq_ok.1 hbs
    obtain ⟨b', rest, hb', hrest, rfl⟩ := mapM_cons_eq_ok.1 htail
    refine ⟨b' :: b :: rest, ?_, .swap b' b rest⟩
    exact mapM_cons_eq_ok.2 ⟨b', b :: rest, hb', mapM_cons_eq_ok.2 ⟨b, rest, hb, hrest, rfl⟩, rfl⟩
  | trans _ _ ih ih' =>
    obtain ⟨bs', hbs', hperm⟩ := ih hbs
    obtain ⟨bs'', hbs'', hperm'⟩ := ih' hbs'
    exact ⟨bs'', hbs'', hperm.trans hperm'⟩

/-- What is put together from one loaded piece after the other is put together from all of them. -/
theorem foldlM_eq_ok {load : α → Except ε β} {f : γ → β → γ} {as : List α} {c c' : γ} :
    as.foldlM (fun c a => load a >>= fun b => pure (f c b)) c = .ok c' ↔
      ∃ bs, as.mapM load = .ok bs ∧ bs.foldl f c = c' := by
  induction as generalizing c with
  | nil => simp [pure, Except.pure]
  | cons a as ih =>
    rw [List.foldlM_cons]
    constructor
    · intro h
      obtain ⟨_, hstep, h⟩ := bind_eq_ok.1 h
      obtain ⟨b, hb, hstep⟩ := bind_eq_ok.1 hstep
      cases hstep
      obtain ⟨bs, hbs, rfl⟩ := ih.1 h
      exact ⟨b :: bs, mapM_cons_eq_ok.2 ⟨b, bs, hb, hbs, rfl⟩, rfl⟩
    · rintro ⟨_, hall, rfl⟩
      obtain ⟨b, bs, hb, hbs, rfl⟩ := mapM_cons_eq_ok.1 hall
      rw [hb, ok_bind]
      exact ih.2 ⟨bs, hbs, rfl⟩

/-! ## Results with a state -/

/-- Goes on where a step has left the state, unless the step has failed. -/
def andThen (r : Except ε α × σ) (k : α → σ → Except ε β × σ) : Except ε β × σ :=
  match r with
  | (.error e, s) => (.error e, s)
  | (.ok a, s) => k a s

@[simp] theorem andThen_ok (a : α) (s : σ) (k : α → σ → Except ε β × σ) :
    andThen (.ok a, s) k = k a s := rfl

@[simp] theorem andThen_error (e : ε) (s : σ) (k : α → σ → Except ε β × σ) :
    andThen (.error e, s) k = (.error e, s) := rfl

theorem andThen_assoc (r : Except ε α × σ) (k : α → σ → Except ε β × σ)
    (l : β → σ → Except ε γ × σ) :
    andThen (andThen r k) l = andThen r fun a s => andThen (k a s) l := by
  rcases r with ⟨_ | _, _⟩ <;> rfl

theorem andThen_eq_ok {r : Except ε α × σ} {k : α → σ → Except ε β × σ} {b : β} :
    (andThen r k).1 = .ok b ↔ ∃ a s, r = (.ok a, s) ∧ (k a s).1 = .ok b := by
  rcases r with ⟨_ | _, _⟩ <;> simp [and_assoc]

theorem andThen_eq {r : Except ε α × σ} {k : α → σ → Except ε β × σ} {b : β} {s' : σ} :
    andThen r k = (.ok b, s') ↔ ∃ a s, r = (.ok a, s) ∧ k a s = (.ok b, s') := by
  rcases r with ⟨_ | _, _⟩ <;> simp [and_assoc]

theorem andThen_snd (r : Except ε α × σ) (f : α → β) :
    (andThen r fun a s => (.ok (f a), s)).2 = r.2 := by
  rcases r with ⟨_ | _, _⟩ <;> rfl

/-- Where no continuation looks at the state, neither does the result. -/
theorem andThen_fst {r : Except ε α × σ} {k : α → σ → Except ε β × σ} {f : α → Except ε β}
    (h : ∀ a s, (k a s).1 = f a) : (andThen r k).1 = r.1 >>= f := by
  rcases r with ⟨_ | a, s⟩
  · rfl
  · exact h a s

/-! ## Results side by side -/

/-- Two results of one kind: values that belong together, or errors that do. -/
inductive Matched (E : ε → ε' → Prop) (V : α → β → Prop) : Except ε α → Except ε' β → Prop
  | ok {a : α} {b : β} (h : V a b) : Matched E V (.ok a) (.ok b)
  | error {e : ε} {e' : ε'} (h : E e e') : Matched E V (.error e) (.error e')

namespace Matched

variable {E : ε → ε' → Prop} {V : α → β → Prop} {r : Except ε α} {r' : Except ε' β}

theorem map {W : γ → σ → Prop} {f : α → γ} {g : β → σ} (h : Matched E V r r')
    (hfg : ∀ a b, V a b → W (f a) (g b)) : Matched E W (f <$> r) (g <$> r') := by
  cases h with
  | ok h => exact .ok (hfg _ _ h)
  | error h => exact .error h

theorem bind {W : γ → σ → Prop} {k : α → Except ε γ} {k' : β → Except ε' σ} (h : Matched E V r r')
    (hk : ∀ a b, V a b → Matched E W (k a) (k' b)) : Matched E W (r >>= k) (r' >>= k') := by
  cases h with
  | ok h => exact hk _ _ h
  | error h => exact .error h

theorem eq {E : ε → ε → Prop} {r r' : Except ε α} (h : Matched E Eq r r')
    (hE : ∀ e e', E e e' → e = e') : r = r' := by
  cases h with
  | ok h => rw [h]
  | error h => rw [hE _ _ h]

theorem toOption_eq {r : Except ε α} {r' : Except ε' α} (h : Matched E Eq r r') :
    r'.toOption = r.toOption := by
  cases h with
  | ok h =>
    rw [h]
    rfl
  | error h => rfl

end Matched

end Folio.Result
