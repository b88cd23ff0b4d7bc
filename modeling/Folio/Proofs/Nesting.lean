import Folio.Proofs.Phases

/-!
# Nested lists

Evaluation is given the number of levels that lists can be nested, and takes one for each list it
enters. That number is large enough: a list that the argument of `with` stands for is nested less
deeply than the operation it stands in. So the number can be forgotten, and evaluation is the one
that evaluates nested lists by itself.

* `Operation.parseList_eq_ok`: the lists that an argument stands for;
* `Operation.Nests`: the list that the `with` of an operation stands for, which is nested less
  deeply (`Nests.maxNesting_lt_nesting`);
* `Operation.Sorted`: an operation that is a map, as all those are that come from JSON;
* `Context.process_eq`: evaluation is its phases, with itself for the nested lists.
-/

namespace Folio

open Result

/-! ## Depth -/

namespace Json

theorem depth_le_depthFields {name : String} {v : Json} {fields : Fields}
    (h : (name, v) ∈ fields) : v.depth ≤ depthFields fields := by
  induction fields with
  | nil => exact absurd h List.not_mem_nil
  | cons w fields ih =>
    rw [depthFields]
    rcases List.mem_cons.1 h with rfl | h
    · exact Nat.le_max_left _ _
    · exact Nat.le_trans (ih h) (Nat.le_max_right _ _)

theorem depth_le_depthItems {v : Json} {items : List Json} (h : v ∈ items) :
    v.depth ≤ depthItems items := by
  induction items with
  | nil => exact absurd h List.not_mem_nil
  | cons w items ih =>
    rw [depthItems]
    rcases List.mem_cons.1 h with rfl | h
    · exact Nat.le_max_left _ _
    · exact Nat.le_trans (ih h) (Nat.le_max_right _ _)

theorem sortedItems_iff {items : List Json} : SortedItems items ↔ ∀ v ∈ items, v.Sorted := by
  induction items with
  | nil => simp [SortedItems]
  | cons v items ih => rw [SortedItems, ih, List.forall_mem_cons]

theorem sortedFields_iff {fields : Fields} : SortedFields fields ↔ ∀ f ∈ fields, f.2.Sorted := by
  induction fields with
  | nil => simp [SortedFields]
  | cons f fields ih => rw [SortedFields, ih, List.forall_mem_cons]

theorem Fields.mem_of_get? {fields : Fields} {name : String} {v : Json}
    (h : Fields.get? fields name = some v) : (name, v) ∈ fields := by
  obtain ⟨⟨n, w⟩, hfind, rfl⟩ := Option.map_eq_some_iff.1 h
  have hname := List.find?_some hfind
  rw [← beq_iff_eq.1 hname]
  exact List.mem_of_find?_eq_some hfind

end Json

namespace Operation

theorem nesting_le_maxNesting {op : Operation} {ops : List Operation} (h : op ∈ ops) :
    op.nesting ≤ maxNesting ops := by
  induction ops with
  | nil => exact absurd h List.not_mem_nil
  | cons w ops ih =>
    rw [maxNesting]
    rcases List.mem_cons.1 h with rfl | h
    · exact Nat.le_max_left _ _
    · exact Nat.le_trans (ih h) (Nat.le_max_right _ _)

theorem nesting_ofFields_le (fields : Json.Fields) :
    (ofFields fields).nesting ≤ (Json.obj fields).depth := by
  rw [nesting]
  cases h : (ofFields fields).argument "with" with
  | none => exact Nat.zero_le _
  | some v =>
    have hmem := (List.mem_filter.1 (Json.Fields.mem_of_get? h)).1
    exact Nat.succ_le_succ (Json.depth_le_depthFields hmem)

theorem maxNesting_ofFields_le (fields : List Json.Fields) :
    maxNesting (fields.map ofFields) ≤ Json.depthItems (fields.map .obj) := by
  induction fields with
  | nil => exact Nat.le_refl 0
  | cons f fields ih =>
    rw [List.map_cons, List.map_cons, maxNesting, Json.depthItems]
    have hfirst := nesting_ofFields_le f
    omega

/-! ### Lists that are read from an argument -/

theorem ofItems_eq_ok {items : List Json} {ops : List Operation} :
    ofItems items = .ok ops ↔
      ∃ fields : List Json.Fields, items = fields.map .obj ∧ ops = fields.map ofFields := by
  induction items generalizing ops with
  | nil => simp [ofItems, eq_comm]
  | cons v items ih =>
    simp only [ofItems, bind_eq_ok, ih]
    constructor
    · rintro ⟨op, hop, _, ⟨fields, rfl, rfl⟩, hops⟩
      cases hops
      cases v <;> simp only [ofJson, reduceCtorEq, Except.ok.injEq] at hop
      exact ⟨_ :: fields, rfl, by rw [List.map_cons, hop]⟩
    · rintro ⟨fields, hitems, rfl⟩
      obtain ⟨f, fields, rfl, rfl, rfl⟩ := List.map_eq_cons_iff.1 hitems.symm
      exact ⟨ofFields f, rfl, _, ⟨fields, rfl, rfl⟩, rfl⟩

/-- An argument stands for a list if it is an array of objects, or a single one. -/
theorem parseList_eq_ok {directive : String} {argument : Json} {ops : List Operation} :
    parseList directive argument = .ok ops ↔
      (∃ fields : List Json.Fields,
        argument = .arr (fields.map .obj) ∧ ops = fields.map ofFields) ∨
      ∃ fields, argument = .obj fields ∧ ops = [ofFields fields] := by
  cases argument with
  | arr items =>
    have hparse : parseList directive (.arr items) = .ok ops ↔ ofItems items = .ok ops := by
      rw [parseList]
      cases ofItems items <;> simp
    simp [hparse, ofItems_eq_ok]
  | obj fields => simp [parseList, eq_comm]
  | _ => simp [parseList]

/-- A list is nested less deeply than the argument it is written as. -/
theorem maxNesting_parseList_le {directive : String} {argument : Json} {ops : List Operation}
    (h : parseList directive argument = .ok ops) : maxNesting ops ≤ argument.depth := by
  rcases parseList_eq_ok.1 h with ⟨fields, rfl, rfl⟩ | ⟨fields, rfl, rfl⟩
  · exact Nat.le_succ_of_le (maxNesting_ofFields_le fields)
  · exact Nat.max_le.2 ⟨nesting_ofFields_le fields, Nat.zero_le _⟩

/-- An operation that is read from an argument has not been run. -/
theorem executed_of_parseList {directive : String} {argument : Json} {ops : List Operation}
    (h : parseList directive argument = .ok ops) : ∀ op ∈ ops, op.executed = false := by
  rcases parseList_eq_ok.1 h with ⟨fields, -, rfl⟩ | ⟨fields, -, rfl⟩
  · exact List.forall_mem_map.2 fun _ _ => rfl
  · exact List.forall_mem_singleton.2 rfl

/-! ### Lists nested in an operation -/

/-- The list that an operation nests, if it has `with`, or what is wrong with the argument. -/
def nested? (op : Operation) : Option (Except EngineError (List Operation)) :=
  (op.argument "with").map (parseList "with")

/-- An operation nests the list that its `with` stands for. -/
def Nests (op : Operation) (ops : List Operation) : Prop := op.nested? = some (.ok ops)

theorem nested?_congr {op op' : Operation} (h : op.directives = op'.directives) :
    op.nested? = op'.nested? := by
  rw [nested?, nested?, argument, argument, h]

theorem Nests.maxNesting_lt_nesting {op : Operation} {below : List Operation}
    (h : op.Nests below) : maxNesting below < op.nesting := by
  obtain ⟨argument, hargument, hbelow⟩ := Option.map_eq_some_iff.1 h
  rw [nesting, hargument]
  exact Nat.lt_succ_of_le (maxNesting_parseList_le hbelow)

/-- A list is nested more deeply than every list nested in it. -/
theorem Nests.maxNesting_lt {op : Operation} {ops below : List Operation} (h : op.Nests below)
    (hop : op ∈ ops) : maxNesting below < maxNesting ops :=
  Nat.lt_of_lt_of_le h.maxNesting_lt_nesting (nesting_le_maxNesting hop)

/-! ### Operations as maps -/

/-- An operation that is a map, as is every object in its arguments: names stand in their order, and
    each stands once. -/
def Sorted (op : Operation) : Prop := (Json.obj op.directives).Sorted

theorem sorted_ofFields {fields : Json.Fields} (h : (Json.obj fields).Sorted) :
    (ofFields fields).Sorted := by
  obtain ⟨hnames, hvalues⟩ := h
  refine ⟨List.Pairwise.sublist (List.filter_sublist.map Prod.fst) hnames, ?_⟩
  rw [Json.sortedFields_iff] at hvalues ⊢
  exact fun field hfield => hvalues field (List.mem_filter.1 hfield).1

/-- The lists in the arguments of a map have maps for their operations. -/
theorem Sorted.nests {op : Operation} {below : List Operation} (h : op.Sorted)
    (hbelow : op.Nests below) : ∀ op' ∈ below, op'.Sorted := by
  obtain ⟨argument, hargument, hparse⟩ := Option.map_eq_some_iff.1 hbelow
  have hsorted : argument.Sorted :=
    Json.sortedFields_iff.1 h.2 _ (Json.Fields.mem_of_get? hargument)
  rcases parseList_eq_ok.1 hparse with ⟨fields, rfl, rfl⟩ | ⟨fields, rfl, rfl⟩
  · rw [Json.Sorted, Json.sortedItems_iff, List.forall_mem_map] at hsorted
    exact List.forall_mem_map.2 fun f hf => sorted_ofFields (hsorted f hf)
  · exact List.forall_mem_singleton.2 (sorted_ofFields hsorted)

theorem Sorted.nodup_secondaries {op : Operation} (h : op.Sorted) : op.secondaries.Nodup := by
  refine List.Pairwise.filterMap _ ?_ (nodup_runs h.1)
  rintro d d' hne s hs s' hs' rfl
  exact hne ((Directive.secondary?_eq_some.1 hs).trans (Directive.secondary?_eq_some.1 hs').symm)

/-! ### Defaults -/

theorem sorted_default {op : Operation} (h : op = defaultInput ∨ op = defaultOutput) :
    op.Sorted := by
  rcases h with rfl | rfl <;>
    simp [Sorted, defaultInput, defaultOutput, Json.Sorted, Json.SortedFields]

/-- Defaults nest nothing. -/
theorem not_nests_default {op : Operation} {below : List Operation}
    (h : op = defaultInput ∨ op = defaultOutput) : ¬op.Nests below := by
  rcases h with rfl | rfl <;> nofun

end Operation

/-! ## Evaluation by itself -/

theorem Operation.visit_congr {f g : Operation → Journal → Except Failure Operation × Journal}
    {ops : List Operation} (h : ∀ op ∈ ops, ∀ j, f op j = g op j) (j : Journal) :
    visit f ops j = visit g ops j := by
  induction ops generalizing j with
  | nil => rfl
  | cons op ops ih =>
    rw [List.forall_mem_cons] at h
    simp only [visit, h.1, ih h.2]

namespace Context

variable {host : Host} {nested nested' : Evaluator} {ctx : Context}

/-- The context that evaluates a nested list: it gets a new node in the tree. -/
def nestedContext (ctx : Context) (j : Journal) (ops : List Operation) : Context :=
  ctx.child j.tree.nodes.length (ctx.input.getD .null) ops

/-- The journal when a nested list begins to be evaluated: its context has a node. -/
def nestedJournal (ctx : Context) (j : Journal) : Journal :=
  { j with tree := (j.tree.pushChild ctx.id ctx.name).2 }

theorem runNested_error {op : Operation} {e : EngineError} (h : op.nested? = some (.error e))
    (j : Journal) : runNested nested ctx op j = (.error (.ofEngine e), j) := by
  obtain ⟨argument, hargument, he⟩ := Option.map_eq_some_iff.1 h
  simp [runNested, hargument, he]

theorem runNested_nests {op : Operation} {ops : List Operation} (h : op.Nests ops) (j : Journal) :
    runNested nested ctx op j = nested (ctx.nestedContext j ops) (ctx.nestedJournal j) := by
  obtain ⟨argument, hargument, hops⟩ := Option.map_eq_some_iff.1 h
  simp only [runNested, hargument, Option.getD_some, hops]
  rfl

/-- What is no list is refused before anything is evaluated. -/
theorem runNested_cases (op : Operation) :
    (∃ below, op.Nests below) ∨
      ∃ e, ∀ nested ctx j, runNested nested ctx op j = (.error (.ofEngine e), j) := by
  cases hparsed : op.nested? with
  | none =>
    have hargument : op.argument "with" = none := Option.map_eq_none_iff.1 hparsed
    exact .inr ⟨_, fun nested ctx j => by rw [runNested, hargument]; rfl⟩
  | some parsed =>
    cases parsed with
    | error e => exact .inr ⟨e, fun nested ctx j => runNested_error hparsed j⟩
    | ok below => exact .inl ⟨below, hparsed⟩

/-- Two evaluators that cannot be told apart by what an operation nests. -/
def AgreeOn (nested nested' : Evaluator) (op : Operation) : Prop :=
  ∀ ops, op.Nests ops → ∀ (c : Context) (j : Journal), c.operations = ops → nested c j = nested' c j

theorem runNested_agree {op : Operation} (h : AgreeOn nested nested' op) (j : Journal) :
    runNested nested ctx op j = runNested nested' ctx op j := by
  rw [runNested, runNested]
  cases hargument : op.argument "with" with
  | none => rfl
  | some argument =>
    cases hops : Operation.parseList "with" argument with
    | error e => simp [hops]
    | ok ops =>
      simp only [Option.getD_some, hops]
      exact h ops (Option.map_eq_some_iff.2 ⟨argument, hargument, hops⟩) _ _ rfl

theorem carryEach_agree {op : Operation} (h : AgreeOn nested nested' op) (ss : List Secondary)
    (j : Journal) : carryEach nested ctx ss op j = carryEach nested' ctx ss op j := by
  induction ss generalizing op j with
  | nil => rfl
  | cons s ss ih =>
    cases s with
    | key => exact @ih { op with asValue := some (ctx.input.getD .null) } h j
    | nested =>
      rw [carryEach, carryEach, runNested_agree h]
      congr 1
      funext v j
      exact @ih { op with withValue := some v } h j

variable (nested nested') in
theorem runPhase_agree {q : List Queued} (h : ∀ d ∈ q, d.directive.secondary? = none)
    (p : Progress) : ctx.runPhase host nested q p = ctx.runPhase host nested' q p := by
  induction q generalizing p with
  | nil => rfl
  | cons d q ih =>
    rw [List.forall_mem_cons] at h
    have hdispatch : ctx.dispatch host nested d p = ctx.dispatch host nested' d p := by
      obtain ⟨i, d⟩ := d
      cases d with
      | secondary s => exact absurd h.1 (Option.some_ne_none s)
      | _ => rfl
    simp only [runPhase, hdispatch, ih h.2]

variable (nested nested') in
/-- Primary and output directives evaluate nothing. -/
theorem runPhases_agree {qs : List (List Queued)}
    (h : ∀ q ∈ qs, ∀ d ∈ q, d.directive.secondary? = none) (c : Context) (j : Journal) :
    runPhases host nested qs c j = runPhases host nested' qs c j := by
  induction qs generalizing c j with
  | nil => rfl
  | cons q qs ih =>
    rw [List.forall_mem_cons] at h
    simp only [runPhases, runPhase_agree nested nested' h.1, ih h.2]

/-- An evaluation does not depend on how lists are evaluated that it does not nest. -/
theorem processVia_agree (h : ∀ op ∈ ctx.operations, AgreeOn nested nested' op) (j : Journal) :
    ctx.processVia host nested j = ctx.processVia host nested' j := by
  have hopened : ∀ op ∈ ctx.opened.operations, AgreeOn nested nested' op := by
    intro op hop
    rcases Operation.mem_withDefaults hop with hop | rfl | rfl
    · exact h op hop
    · exact fun _ hops => absurd hops.maxNesting_lt_nesting (Nat.not_lt_zero _)
    · exact fun _ hops => absurd hops.maxNesting_lt_nesting (Nat.not_lt_zero _)
  cases hclassify : Queues.classify ctx.name ctx.operations with
  | error e => rw [processVia_error hclassify, processVia_error hclassify]
  | ok q =>
    have hlater : ∀ q ∈ [ctx.opened.queues.primary, ctx.opened.queues.output], ∀ d ∈ q,
        d.directive.secondary? = none := by
      simp only [List.forall_mem_cons, List.not_mem_nil, false_implies, implies_true, and_true]
      constructor
      · intro d hd
        obtain ⟨_, _, _, _, hprimary⟩ := Queued.mem_listing.1 hd
        obtain ⟨_, _, hp⟩ := List.mem_map.1 hprimary
        rw [← hp, Directive.secondary?]
      · intro d hd
        obtain ⟨_, _, _, _, houtput⟩ := Queued.mem_listing.1 hd
        rw [of_decide_eq_true (List.mem_filter.1 houtput).2, Directive.secondary?]
    have hcarry : Operation.visit (ctx.opened.carry nested) ctx.opened.operations j =
        Operation.visit (ctx.opened.carry nested') ctx.opened.operations j :=
      Operation.visit_congr (fun op hop j => carryEach_agree (hopened op hop) op.secondaries j) j
    rw [processVia_ok hclassify, processVia_ok hclassify, hcarry]
    simp only [runPhases_agree nested nested' hlater]

/-- Any number of levels does that is large enough. -/
theorem processWithin_eq {m n : Nat} (hm : Operation.maxNesting ctx.operations ≤ m)
    (hn : Operation.maxNesting ctx.operations ≤ n) (j : Journal) :
    ctx.processWithin host m j = ctx.processWithin host n j := by
  induction m generalizing n ctx j with
  | zero =>
    cases n with
    | zero => rfl
    | succ n =>
      -- Nothing is nested in the list, so no evaluator is ever asked.
      refine processVia_agree (fun op hop ops hops => ?_) j
      have := hops.maxNesting_lt hop
      omega
  | succ m ih =>
    cases n with
    | zero =>
      refine processVia_agree (fun op hop ops hops => ?_) j
      have := hops.maxNesting_lt hop
      omega
    | succ n =>
      refine processVia_agree (fun op hop ops hops c j hc => ?_) j
      subst hc
      have := hops.maxNesting_lt hop
      rw [ih (n := n) (by omega) (by omega)]

/-- The evaluator of nested lists is evaluation itself. -/
def evaluator (host : Host) : Evaluator := fun ctx j =>
  ((ctx.process host j).1, (ctx.process host j).2.2)

/-- Evaluation is its phases, with itself for the nested lists. -/
theorem process_eq (host : Host) (ctx : Context) (j : Journal) :
    ctx.process host j = ctx.processVia host (evaluator host) j := by
  rw [process, processWithin_eq (Nat.le_refl _) (Nat.le_succ _)]
  refine processVia_agree (fun op hop ops hops c j hc => ?_) j
  subst hc
  rw [evaluator, process,
    processWithin_eq (Nat.le_refl _) (Nat.le_of_lt (hops.maxNesting_lt hop))]

end Context

end Folio
