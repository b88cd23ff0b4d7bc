import Mathlib.Data.List.Forall2
import Folio.Proofs.Reads
import Folio.Proofs.Yield

/-!
# Two evaluations side by side

Two contexts over the same list may differ in their seed, in their place, that is their name and
their depth, and in the journal they go on with. Little of that can be observed: the seed by `as`
and by handlers, the place by handlers alone, and the journal by nothing. Contexts that agree in
what their list can observe are *twins*, and stay so: whatever one of them does, the other does as
well, step by step. They come to the same result, but for the name of the resource in an error, and
they add the same to their journals.

* `Context.Twin`: contexts that agree in what can be observed of them;
* `Context.dispatch_twin`: twins take an action in the same way;
* `Context.process_twin`: twins are evaluated in the same way.
-/

namespace Folio

open Result

/-! ## What lists observe -/

namespace Operation

/-- No operation of a list has a key, and no operation of a list nested in it does. -/
inductive Lacks (key : String) : List Operation → Prop
  | intro {ops : List Operation} (own : ∀ op ∈ ops, op.argument key = none)
      (nested : ∀ op ∈ ops, ∀ below, op.Nests below → Lacks key below) : Lacks key ops

theorem Lacks.own {key : String} {ops : List Operation} (h : Lacks key ops) :
    ∀ op ∈ ops, op.argument key = none := by
  cases h
  assumption

theorem Lacks.nested {key : String} {ops below : List Operation} {op : Operation}
    (h : Lacks key ops) (hop : op ∈ ops) (hbelow : op.Nests below) : Lacks key below := by
  cases h with
  | intro _ hnested => exact hnested op hop below hbelow

theorem Lacks.singleton {key : String} {op : Operation} (own : op.argument key = none)
    (nested : ∀ below, op.Nests below → Lacks key below) : Lacks key [op] := by
  refine .intro (List.forall_mem_singleton.2 own) fun op' hop below hbelow => ?_
  obtain rfl := List.mem_singleton.1 hop
  exact nested below hbelow

/-- A list calls no handler if no key asks for one. -/
theorem customFree_iff {ops : List Operation} : CustomFree ops ↔ Lacks "custom" ops := by
  constructor <;> intro h <;> induction h with
  | intro own _ ih => exact .intro own ih

end Operation

/-- Failures of two contexts that are the same, or say the same of two resources. -/
inductive Failure.Alike (name name' : String) : Failure → Failure → Prop
  | same (f : Failure) : Alike name name' f f
  | unknownDirective (i : Nat) (key : String) :
      Alike name name' (.ofEngine (.unknownDirective name i key))
        (.ofEngine (.unknownDirective name' i key))
  | duplicatePrimary (i : Nat) (directive : String) :
      Alike name name' (.ofEngine (.duplicatePrimary name i directive))
        (.ofEngine (.duplicatePrimary name' i directive))

/-- Of one resource the same is said only by the same failure. -/
theorem Failure.Alike.eq {name : String} {f f' : Failure} (h : Failure.Alike name name f f') :
    f = f' := by
  cases h <;> rfl

/-- Outcomes of two contexts that are the same, where an input may differ if their inputs may. -/
inductive Outcome.Alike (sameInput : Prop) : Outcome → Outcome → Prop
  | same (o : Outcome) : Alike sameInput o o
  | input {v v' : Json} (h : sameInput → v' = v) : Alike sameInput (.input v) (.input v')

namespace Context

variable {host : Host} {nested : Evaluator} {sameInput samePlace : Prop} {c c' : Context}

/-- Contexts that have come equally far with the same list. What they have in common besides is said
    by two propositions: whether they have the same input, and whether they stand in the same
    place. -/
structure Twin (sameInput samePlace : Prop) (c c' : Context) : Prop where
  operations : c'.operations = c.operations
  queues : c'.queues = c.queues
  marks : c'.marks = c.marks
  out : c'.out = c.out
  seed : sameInput → c'.seed = c.seed
  input : sameInput → c'.input = c.input
  name : samePlace → c'.name = c.name
  depth : samePlace → c'.depth = c.depth

theorem Twin.refl (sameInput samePlace : Prop) (c : Context) : Twin sameInput samePlace c c :=
  ⟨rfl, rfl, rfl, rfl, fun _ => rfl, fun _ => rfl, fun _ => rfl, fun _ => rfl⟩

/-- Two runs, below two contexts, from some progress each: they end alike, have started the same
    primary directives and have added the same to their journals. -/
structure Abreast {α : Type} (V : α → α → Prop) (c c' : Context) (p p' : Progress)
    (r r' : Except Failure α × Progress) : Prop where
  result : Matched (Failure.Alike c.name c'.name) V r.1 r'.1
  marks : r'.2.marks = r.2.marks
  added : ∃ y, r.2.journal = p.journal.extend c.id c.name y ∧
    r'.2.journal = p'.journal.extend c'.id c'.name y

/-- Two evaluations that end alike: their contexts are still twins, and they have added the same to
    their journals. -/
structure Parallel (sameInput samePlace : Prop) (c c' : Context) (j j' : Journal)
    (r r' : Except Failure Json × Context × Journal) : Prop where
  result : Matched (Failure.Alike c.name c'.name) Eq r.1 r'.1
  twin : Twin sameInput samePlace r.2.1 r'.2.1
  added : ∃ y, r.2.2 = (j.extend c.id c.name y).close c.id r.1.toOption ∧
    r'.2.2 = (j'.extend c'.id c'.name y).close c'.id r'.1.toOption

/-! ## One action -/

/-- A primary directive observes the input and the place of its context only where it calls a
    handler. -/
theorem runPrimary_twin (host : Host) (h : Twin sameInput samePlace c c') {directive : Primary}
    (hcustom : sameInput ∧ samePlace ∨ directive ≠ .custom) (op : Operation) (j j' : Journal) :
    (runPrimary host c directive op j).1 = (runPrimary host c' directive op j').1 ∧
      ∃ reads calls,
        (runPrimary host c directive op j).2 = j.extend c.id c.name { reads, calls } ∧
        (runPrimary host c' directive op j').2 = j'.extend c'.id c'.name { reads, calls } := by
  cases directive with
  | raw => exact ⟨rfl, [], [], (j.extend_empty _ _).symm, (j'.extend_empty _ _).symm⟩
  | scss | md | yml =>
    simp only [runPrimary]
    split <;> exact ⟨rfl, [], [], (j.extend_empty _ _).symm, (j'.extend_empty _ _).symm⟩
  | file | njk =>
    simp only [runPrimary, readTarget, Journal.extend_reads]
    cases FileRef.ofOperation _ op with
    | error e => exact ⟨rfl, [], [], by simp⟩
    | ok ref =>
      dsimp only
      cases host.fileText (host.contentPath ref.path) ref.name <;>
        exact ⟨rfl, [ref.place host.contentFolder], [], by
          simp [Journal.addRead, FileRef.place, Host.contentPath]⟩
  | custom =>
    simp only [runPrimary, runCustom, Journal.extend_reads]
    cases FileRef.ofOperation .custom op with
    | error e => exact ⟨rfl, [], [], by simp⟩
    | ok ref =>
      dsimp only
      cases host.handler? ref.key with
      | none => exact ⟨rfl, [], [], by simp⟩
      | some handler =>
        obtain ⟨hinput, hplace⟩ := hcustom.resolve_right (not_not_intro rfl)
        rw [h.name hplace, h.depth hplace, h.input hinput]
        exact ⟨rfl, _, [_], rfl, rfl⟩

theorem Twin.runOutput (h : Twin sameInput samePlace c c') (op : Operation) :
    c'.runOutput op = c.runOutput op := by
  simp only [Context.runOutput, propertyKey, h.operations]

theorem Twin.operation (h : Twin sameInput samePlace c c') (i : Nat) :
    c'.operation i = c.operation i := by
  rw [Context.operation, Context.operation, h.operations]

/-- The contexts of a list that twins evaluate are twins. -/
theorem Twin.nestedContext (h : Twin sameInput samePlace c c') (j j' : Journal)
    (below : List Operation) :
    Twin sameInput samePlace (c.nestedContext j below) (c'.nestedContext j' below) where
  operations := rfl
  queues := rfl
  marks := rfl
  out := rfl
  seed hinput := congrArg (fun v : Option Json => v.getD .null) (h.input hinput)
  input _ := rfl
  name := h.name
  depth hplace := congrArg (· + 1) (h.depth hplace)

/-- An evaluator treats twins over some list alike. -/
def ParallelOn (sameInput samePlace : Prop) (nested : Evaluator) (ops : List Operation) : Prop :=
  ∀ (c c' : Context) (j j' : Journal), c.operations = ops → Twin sameInput samePlace c c' →
    c.id < j.tree.nodes.length → c'.id < j'.tree.nodes.length →
      Matched (Failure.Alike c.name c'.name) Eq (nested c j).1 (nested c' j').1 ∧
        ∃ y, (nested c j).2 = (j.extend c.id c.name y).close c.id (nested c j).1.toOption ∧
          (nested c' j').2 = (j'.extend c'.id c'.name y).close c'.id (nested c' j').1.toOption

/-- Twins take an action in the same way, if nested lists are evaluated alike. -/
theorem dispatch_twin (h : Twin sameInput samePlace c c') {d : Queued}
    (hkey : sameInput ∨ d.directive ≠ .secondary .key)
    (hcustom : sameInput ∧ samePlace ∨ d.directive ≠ .primary .custom)
    (hnested : ∀ below, (c.operation d.index).Nests below →
      ParallelOn sameInput samePlace nested below)
    {p p' : Progress} (hmarks : p'.marks = p.marks) :
    Abreast (Outcome.Alike sameInput) c c' p p' (c.dispatch host nested d p)
      (c'.dispatch host nested d p') := by
  obtain ⟨i, d⟩ := d
  have hop := h.operation i
  have hempty : ∃ y, p.journal = p.journal.extend c.id c.name y ∧
      p'.journal = p'.journal.extend c'.id c'.name y :=
    ⟨{}, (p.journal.extend_empty _ _).symm, (p'.journal.extend_empty _ _).symm⟩
  cases d with
  | input => exact ⟨.ok (.input h.seed), hmarks, hempty⟩
  | output =>
    simp only [dispatch, hop, h.runOutput]
    cases c.runOutput (c.operation i) with
    | error e => exact ⟨.error (.same _), hmarks, hempty⟩
    | ok v => exact ⟨.ok (.same _), hmarks, hempty⟩
  | primary directive =>
    simp only [dispatch, startPrimary, hop, hmarks]
    by_cases hstarted : (c.operation i).executed || p.marks.isMarked i
    · simp only [if_pos hstarted]
      exact ⟨.error (.duplicatePrimary i _), hmarks, hempty⟩
    · simp only [if_neg hstarted]
      have hcustom : sameInput ∧ samePlace ∨ directive ≠ .custom :=
        hcustom.imp_right fun hne heq => hne (heq ▸ rfl)
      obtain ⟨hresult, reads, calls, hj, hj'⟩ :=
        runPrimary_twin host h hcustom (c.operation i) p.journal p'.journal
      refine ⟨?_, rfl, _, hj, hj'⟩
      dsimp only
      rw [← hresult]
      cases (runPrimary host c directive (c.operation i) p.journal).1 with
      | error f => exact .error (.same f)
      | ok v => exact .ok (.same _)
  | secondary s =>
    cases s with
    | key =>
      have hinput := h.input (hkey.resolve_right (not_not_intro rfl))
      simp only [dispatch, hinput]
      exact ⟨.ok (.same _), hmarks, hempty⟩
    | nested =>
      simp only [dispatch, hop]
      rcases runNested_cases (c.operation i) with ⟨below, hbelow⟩ | ⟨e, he⟩
      · obtain ⟨hresult, y, hy, hy'⟩ := hnested below hbelow _ _ _ _ rfl
          (h.nestedContext p.journal p'.journal below) (id_nestedContext_lt c p.journal below)
          (id_nestedContext_lt c' p'.journal below)
        rw [runNested_nests hbelow, runNested_nests hbelow]
        -- The nodes of the two nested contexts and what these have added are the same tree.
        refine ⟨hresult.map fun v _ hv => hv ▸ .same _, hmarks, _,
          hy.trans (close_extend_nested y _), ?_⟩
        rw [← hresult.toOption_eq]
        exact hy'.trans (close_extend_nested y _)
      · simp only [he]
        exact ⟨.error (.same _), hmarks, hempty⟩

/-! ## One queue -/

/-- Runs that go on alike from where two runs have come are alike as a whole. -/
theorem Abreast.andThen {α β : Type} {V : α → α → Prop} {W : β → β → Prop} {p p' : Progress}
    {r r' : Except Failure α × Progress} {k k' : α → Progress → Except Failure β × Progress}
    (h : Abreast V c c' p p' r r') (hid : c.id < p.journal.tree.nodes.length)
    (hid' : c'.id < p'.journal.tree.nodes.length)
    (hk : ∀ a a' q q', V a a' → q'.marks = q.marks → c.id < q.journal.tree.nodes.length →
      c'.id < q'.journal.tree.nodes.length → Abreast W c c' q q' (k a q) (k' a' q')) :
    Abreast W c c' p p' (Result.andThen r k) (Result.andThen r' k') := by
  obtain ⟨hresult, hmarks, y, hy, hy'⟩ := h
  obtain ⟨r, q⟩ := r
  obtain ⟨r', q'⟩ := r'
  cases hresult with
  | error hf => exact ⟨.error hf, hmarks, y, hy, hy'⟩
  | ok ha =>
    have hle := p.journal.length_le_extend c.id c.name y
    have hle' := p'.journal.length_le_extend c'.id c'.name y
    rw [← hy] at hle
    rw [← hy'] at hle'
    obtain ⟨hresult, hmarks, z, hz, hz'⟩ := hk _ _ q q' ha hmarks (Nat.lt_of_lt_of_le hid hle)
      (Nat.lt_of_lt_of_le hid' hle')
    refine ⟨hresult, hmarks, y ++ z, hz.trans ?_, hz'.trans ?_⟩
    · rw [← Journal.extend_extend hid, ← hy]
    · rw [← Journal.extend_extend hid', ← hy']

/-- Twins take the actions of a queue in the same way. -/
theorem runPhase_twin (h : Twin sameInput samePlace c c') {q : List Queued}
    (hkey : sameInput ∨ ∀ d ∈ q, d.directive ≠ .secondary .key)
    (hcustom : sameInput ∧ samePlace ∨ ∀ d ∈ q, d.directive ≠ .primary .custom)
    (hnested : ∀ i below, (c.operation i).Nests below →
      ParallelOn sameInput samePlace nested below)
    {p p' : Progress} (hmarks : p'.marks = p.marks) (hid : c.id < p.journal.tree.nodes.length)
    (hid' : c'.id < p'.journal.tree.nodes.length) :
    Abreast (List.Forall₂ (Outcome.Alike sameInput)) c c' p p' (c.runPhase host nested q p)
      (c'.runPhase host nested q p') := by
  induction q generalizing p p' with
  | nil =>
    exact ⟨.ok .nil, hmarks, {}, (p.journal.extend_empty _ _).symm,
      (p'.journal.extend_empty _ _).symm⟩
  | cons d q ih =>
    simp only [List.forall_mem_cons] at hkey hcustom
    rw [runPhase_cons, runPhase_cons]
    refine (dispatch_twin h (hkey.imp_right And.left) (hcustom.imp_right And.left)
      (hnested d.index) hmarks).andThen hid hid' fun o o' p p' ho hmarks hid hid' => ?_
    refine (ih (hkey.imp_right And.right) (hcustom.imp_right And.right) hmarks hid hid').andThen
      hid hid' fun os os' p p' hos hmarks _ _ => ?_
    exact ⟨.ok (.cons ho hos), hmarks, {}, (p.journal.extend_empty _ _).symm,
      (p'.journal.extend_empty _ _).symm⟩

/-! ## What is written back -/

theorem twin_applyOne (h : Twin sameInput samePlace c c') {o o' : Outcome}
    (ho : Outcome.Alike sameInput o o') :
    Twin sameInput samePlace (c.applyOne o) (c'.applyOne o') := by
  cases ho with
  | input hv => exact { h with input := fun hinput => congrArg some (hv hinput) }
  | same o =>
    cases o with
    | input v => exact { h with input := fun _ => rfl }
    | output v => exact { h with out := rfl }
    | nested i v | key i v | data i v =>
      exact { h with operations := congrArg (List.modify · i _) h.operations }

theorem twin_apply (h : Twin sameInput samePlace c c') {os os' : List Outcome}
    (hos : List.Forall₂ (Outcome.Alike sameInput) os os') :
    Twin sameInput samePlace (c.apply os) (c'.apply os') := by
  induction hos generalizing c c' with
  | nil => exact h
  | cons ho _ ih => exact ih (twin_applyOne h ho)

/-! ## All queues -/

/-- What goes on alike after the same has been added is alike from the start. -/
theorem Parallel.later {k k' : Context} {j j' j₁ j₁' : Journal} {y : Yield}
    {r r' : Except Failure Json × Context × Journal}
    (h : Parallel sameInput samePlace k k' j₁ j₁' r r') (hid : c.id < j.tree.nodes.length)
    (hid' : c'.id < j'.tree.nodes.length) (hk : k.place = c.place) (hk' : k'.place = c'.place)
    (hy : j₁ = j.extend c.id c.name y) (hy' : j₁' = j'.extend c'.id c'.name y) :
    Parallel sameInput samePlace c c' j j' r r' := by
  obtain ⟨hresult, htwin, z, hz, hz'⟩ := h
  injection hk with hkid hk
  injection hk with _ hkname
  injection hk' with hkid' hk'
  injection hk' with _ hkname'
  rw [hkname, hkname'] at hresult
  rw [hkid, hkname, hy, Journal.extend_extend hid] at hz
  rw [hkid', hkname', hy', Journal.extend_extend hid'] at hz'
  exact ⟨hresult, htwin, y ++ z, hz, hz'⟩

/-- Twins run their queues in the same way. -/
theorem runPhases_twin {qs : List (List Queued)} (h : Twin sameInput samePlace c c')
    (hkey : sameInput ∨ ∀ d ∈ qs.flatten, d.directive ≠ .secondary .key)
    (hcustom : sameInput ∧ samePlace ∨ ∀ d ∈ qs.flatten, d.directive ≠ .primary .custom)
    (hnested : ∀ k, c.Continues k → ∀ i below, (k.operation i).Nests below →
      ParallelOn sameInput samePlace nested below)
    {j j' : Journal} (hid : c.id < j.tree.nodes.length) (hid' : c'.id < j'.tree.nodes.length) :
    Parallel sameInput samePlace c c' j j' (runPhases host nested qs c j)
      (runPhases host nested qs c' j') := by
  induction qs generalizing c c' j j' with
  | nil =>
    simp only [runPhases, h.out]
    exact ⟨.ok rfl, h, {}, by rw [Journal.extend_empty]; rfl, by rw [Journal.extend_empty]; rfl⟩
  | cons q qs ih =>
    simp only [List.flatten_cons, List.forall_mem_append] at hkey hcustom
    have hphase := @runPhase_twin host nested _ _ c c' h q (hkey.imp_right And.left)
      (hcustom.imp_right And.left) (hnested c (.refl c)) ⟨c.marks, j⟩ ⟨c'.marks, j'⟩ h.marks hid
      hid'
    rw [runPhases, runPhases]
    generalize c.runPhase host nested q ⟨c.marks, j⟩ = r at hphase
    generalize c'.runPhase host nested q ⟨c'.marks, j'⟩ = r' at hphase
    obtain ⟨hresult, hmarks, y, hy, hy'⟩ := hphase
    obtain ⟨r, p⟩ := r
    obtain ⟨r', p'⟩ := r'
    cases hresult with
    | error hf => exact ⟨.error hf, { h with marks := hmarks }, y, hy, hy'⟩
    | @ok os os' hos =>
      have hcontinues := continues_phase c p.marks os
      have hlt : c.id < p.journal.tree.nodes.length :=
        hy ▸ Nat.lt_of_lt_of_le hid (j.length_le_extend c.id c.name y)
      have hlt' : c'.id < p'.journal.tree.nodes.length :=
        hy' ▸ Nat.lt_of_lt_of_le hid' (j'.length_le_extend c'.id c'.name y)
      have htwin : Twin sameInput samePlace ({ c with marks := p.marks } : Context)
          { c' with marks := p'.marks } := { h with marks := hmarks }
      -- What is written back leaves the contexts where they stand, so that the rest is added there.
      refine (ih (twin_apply htwin hos) (hkey.imp_right And.right) (hcustom.imp_right And.right)
        (fun k hk => hnested k (hcontinues.trans hk)) ?_ ?_).later hid hid'
        (place_phase c p.marks os) (place_phase c' p'.marks os') hy hy'
      · rwa [hcontinues.id]
      · rwa [(continues_phase c' p'.marks os').id]

/-! ## Preparation -/

/-- Whether a list is accepted does not depend on the name of the resource. -/
theorem classify_matched (name name' : String) (ops : List Operation) :
    Matched (fun e e' => Failure.Alike name name' (.ofEngine e) (.ofEngine e')) Eq
      (Queues.classify name ops) (Queues.classify name' ops) := by
  have hkeys (i : Nat) (seen : Bool) (keys : List String) :
      Matched (fun e e' => Failure.Alike name name' (.ofEngine e) (.ofEngine e')) Eq
        (Queues.directivesOf name i seen keys) (Queues.directivesOf name' i seen keys) := by
    induction keys generalizing seen with
    | nil => exact .ok rfl
    | cons key keys ih =>
      simp only [Queues.directivesOf]
      split
      · exact ih seen
      · exact .error (.unknownDirective i key)
      · split
        · exact .error (.duplicatePrimary i _)
        · exact (ih true).bind fun _ _ hds => hds ▸ .ok rfl
      · exact (ih seen).bind fun _ _ hds => hds ▸ .ok rfl
  have hcollect (i : Nat) :
      Matched (fun e e' => Failure.Alike name name' (.ofEngine e) (.ofEngine e')) Eq
        (Queues.collect name i ops) (Queues.collect name' i ops) := by
    induction ops generalizing i with
    | nil => exact .ok rfl
    | cons op ops ih =>
      refine (hkeys i false _).bind fun ds _ hds => ?_
      refine (ih (i + 1)).bind fun qs _ hqs => ?_
      exact hds ▸ hqs ▸ .ok rfl
  exact (hcollect 0).bind fun _ _ hds => hds ▸ .ok rfl

theorem Twin.prepared (h : Twin sameInput samePlace c c') :
    Twin sameInput samePlace c.prepared c'.prepared :=
  { h with
    operations := congrArg Operation.withDefaults h.operations
    queues := congrArg (fun ops => Queues.ofOperations (Operation.withDefaults ops)) h.operations }

/-- Twins are refused both, or both prepared. -/
theorem prepare_twin (h : Twin sameInput samePlace c c') :
    Matched (fun e e' => Failure.Alike c.name c'.name (.ofEngine e) (.ofEngine e'))
      (fun c₀ c₀' => c₀ = c.prepared ∧ c₀' = c'.prepared) c.prepare c'.prepare := by
  rw [prepare_eq, prepare_eq, h.operations]
  exact (classify_matched c.name c'.name c.operations).map fun _ _ _ => ⟨rfl, rfl⟩

/-! ## Whole evaluations -/

/-- Twins are evaluated in the same way, if the lists nested in theirs are. -/
theorem process_twin_of_nested (host : Host) (h : Twin sameInput samePlace c c')
    (hkey : sameInput ∨ Operation.Lacks "as" c.operations)
    (hcustom : sameInput ∧ samePlace ∨ Operation.Lacks "custom" c.operations)
    (hnested : ∀ op ∈ c.operations, ∀ below, op.Nests below →
      ParallelOn sameInput samePlace (evaluator host) below)
    {j j' : Journal} (hid : c.id < j.tree.nodes.length) (hid' : c'.id < j'.tree.nodes.length) :
    Parallel sameInput samePlace c c' j j' (c.process host j) (c'.process host j') := by
  have hprepare := prepare_twin h
  rw [process_eq, process_eq, processVia, processVia]
  generalize hc : c.prepare = r at hprepare
  generalize c'.prepare = r' at hprepare
  cases hprepare with
  | error hf =>
    exact ⟨.error hf, h, {}, (j.extend_empty _ _).symm, (j'.extend_empty _ _).symm⟩
  | @ok c₀ c₀' h₀ =>
    obtain ⟨rfl, rfl⟩ := h₀
    have hbelow (k : Context) (hk : c.prepared.Continues k) (i : Nat) (below : List Operation)
        (hnests : (k.operation i).Nests below) :
        ParallelOn sameInput samePlace (evaluator host) below := by
      obtain ⟨op, hop, hnests⟩ := exists_nests hc hk hnests
      exact hnested op hop below hnests
    have hkeys : sameInput ∨ ∀ d ∈ c.prepared.phases.flatten, d.directive ≠ .secondary .key :=
      hkey.imp_right fun hlacks => ne_of_phases hc (by decide) (by decide) hlacks.own
    have hcustoms : sameInput ∧ samePlace ∨
        ∀ d ∈ c.prepared.phases.flatten, d.directive ≠ .primary .custom :=
      hcustom.imp_right fun hlacks => ne_of_phases hc (by decide) (by decide) hlacks.own
    -- The queues come from the list alone, and so twins have the same.
    have hqueues : c'.prepared.phases = c.prepared.phases := by
      rw [phases, phases, h.prepared.queues]
    change Parallel _ _ _ _ _ _ (runPhases host _ c.prepared.phases _ j)
      (runPhases host _ c'.prepared.phases _ j')
    rw [hqueues]
    exact (runPhases_twin h.prepared hkeys hcustoms hbelow hid hid').later hid hid' rfl rfl
      (j.extend_empty _ _).symm (j'.extend_empty _ _).symm

/-- Evaluation treats twins alike. The induction is on how deeply lists are nested. -/
theorem parallelOn_evaluator (host : Host) (ops : List Operation)
    (hkey : sameInput ∨ Operation.Lacks "as" ops)
    (hcustom : sameInput ∧ samePlace ∨ Operation.Lacks "custom" ops) :
    ParallelOn sameInput samePlace (evaluator host) ops := by
  intro c c' j j' hops h hid hid'
  subst hops
  have hnested (op : Operation) (hop : op ∈ c.operations) (below : List Operation)
      (hnests : op.Nests below) : ParallelOn sameInput samePlace (evaluator host) below := by
    have hlt := hnests.maxNesting_lt hop
    exact parallelOn_evaluator host below (hkey.imp_right (Operation.Lacks.nested · hop hnests))
      (hcustom.imp_right (Operation.Lacks.nested · hop hnests))
  have hrun := process_twin_of_nested host h hkey hcustom hnested hid hid'
  exact ⟨hrun.result, hrun.added⟩
termination_by Operation.maxNesting ops

/-- Twins are evaluated in the same way. -/
theorem process_twin (host : Host) (h : Twin sameInput samePlace c c')
    (hkey : sameInput ∨ Operation.Lacks "as" c.operations)
    (hcustom : sameInput ∧ samePlace ∨ Operation.Lacks "custom" c.operations) {j j' : Journal}
    (hid : c.id < j.tree.nodes.length) (hid' : c'.id < j'.tree.nodes.length) :
    Parallel sameInput samePlace c c' j j' (c.process host j) (c'.process host j') :=
  process_twin_of_nested host h hkey hcustom
    (fun _ hop below hnests => parallelOn_evaluator host below
      (hkey.imp_right (Operation.Lacks.nested · hop hnests))
      (hcustom.imp_right (Operation.Lacks.nested · hop hnests)))
    hid hid'

end Context

end Folio
