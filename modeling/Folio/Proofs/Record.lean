import Folio.Proofs.Growth
import Folio.Proofs.Validation

/-!
# The record of an evaluation

An evaluation that succeeds has evaluated every list that is nested in its own, each of them once,
and the tree of contexts has one node for each. The nodes stand in the order in which the lists are
written, a list before those nested in it, so that the whole tree but for the outputs can be told
from the list of the resource (`Operation.nodes`). Each node holds the output of its list, which is
also what the operation carries that nests it.

* `Context.process_visits`: the two walks through the list that an evaluation that succeeds makes;
* `Context.Recorded`: the nodes that a walk adds, and the outputs in them;
* `Context.carry_recorded`: an operation adds the nodes of the list that it nests;
* `Context.recordsOn_of_sorted`: an evaluation that succeeds adds the nodes of its list, wherever
  its context stands;
* `Context.process_record`: the whole tree of a resource.
-/

namespace Folio

/-! ## Expected nodes -/

/-- A node but for its output. -/
def ContextNode.blank (n : ContextNode) : ContextNode := { n with out := none }

namespace Operation

mutual

/-- The number of lists nested in a list, those at any depth included. -/
def countNested : List Operation → Nat
  | [] => 0
  | op :: rest => op.countBelow + countNested rest
termination_by ops => (maxNesting ops, ops.length)
decreasing_by
  · exact Prod.Lex.right' _ (Nat.le_max_left _ _) (Nat.succ_pos _)
  · exact Prod.Lex.right' _ (Nat.le_max_right _ _) (Nat.lt_succ_self _)

/-- The list that an operation nests counts, and so do those nested in it; a malformed argument
    nests none. -/
def countBelow (op : Operation) : Nat :=
  match hnested : op.nested? with
  | none | some (.error _) => 0
  | some (.ok below) =>
    have := Nests.maxNesting_lt_nesting hnested
    1 + countNested below
termination_by (op.nesting, 0)
decreasing_by
  exact Prod.Lex.left _ _ this

end

mutual

/-- The nodes of the lists nested in a list, without outputs. They go below the node `parent`, the
    first of them gets the index `next`, and each list comes before those nested in it. -/
def nodes (name : String) (depth parent next : Nat) : List Operation → List ContextNode
  | [] => []
  | op :: rest =>
    let first := op.nodesBelow name depth parent next
    first ++ nodes name depth parent (next + first.length) rest
termination_by ops => (maxNesting ops, ops.length)
decreasing_by
  · exact Prod.Lex.right' _ (Nat.le_max_left _ _) (Nat.succ_pos _)
  · exact Prod.Lex.right' _ (Nat.le_max_right _ _) (Nat.lt_succ_self _)

/-- The node of the list that an operation nests, and then those of the lists nested in this one. -/
def nodesBelow (name : String) (depth parent next : Nat) (op : Operation) : List ContextNode :=
  match hnested : op.nested? with
  | none | some (.error _) => []
  | some (.ok below) =>
    have := Nests.maxNesting_lt_nesting hnested
    { depth, parent := some parent, name } :: nodes name (depth + 1) next (next + 1) below
termination_by (op.nesting, 0)
decreasing_by
  exact Prod.Lex.left _ _ this

end

/-- The results of nested lists that operations carry, one for each `with`. -/
def nestedValues (ops : List Operation) : List (Option Json) :=
  (ops.filter fun op => (op.argument "with").isSome).map withValue

variable {name : String} {depth parent next : Nat} {op op' : Operation}
  {ops ops' below : List Operation}

theorem countBelow_eq (op : Operation) :
    op.countBelow =
      match op.nested? with
      | none | some (.error _) => 0
      | some (.ok below) => 1 + countNested below := by
  rw [countBelow]
  split <;> rename_i h <;> simp only [h]

theorem nodesBelow_eq (name : String) (depth parent next : Nat) (op : Operation) :
    op.nodesBelow name depth parent next =
      match op.nested? with
      | none | some (.error _) => []
      | some (.ok below) =>
        { depth, parent := some parent, name } :: nodes name (depth + 1) next (next + 1) below := by
  rw [nodesBelow]
  split <;> rename_i h <;> simp only [h]

theorem nodes_append (ops ops' : List Operation) :
    nodes name depth parent next (ops ++ ops') =
      nodes name depth parent next ops ++
        nodes name depth parent (next + (nodes name depth parent next ops).length) ops' := by
  induction ops generalizing next with
  | nil => simp [nodes]
  | cons op ops ih => simp [nodes, ih, Nat.add_assoc]

theorem nodes_singleton :
    nodes name depth parent next [op] = op.nodesBelow name depth parent next := by
  rw [nodes, nodes, List.append_nil]

/-- Defaults nest nothing. -/
theorem nodes_withDefaults (ops : List Operation) :
    nodes name depth parent next (withDefaults ops) = nodes name depth parent next ops := by
  have hinput (next : Nat) : nodesBelow name depth parent next defaultInput = [] :=
    nodesBelow_eq name depth parent next defaultInput
  have houtput (next : Nat) : nodesBelow name depth parent next defaultOutput = [] :=
    nodesBelow_eq name depth parent next defaultOutput
  rw [withDefaults, withOutput, withInput]
  split <;> split <;> simp [nodes_append, nodes_singleton, nodes, hinput, houtput]

mutual

/-- There is one node for each nested list. -/
theorem length_nodes (name : String) (depth parent next : Nat) (ops : List Operation) :
    (nodes name depth parent next ops).length = countNested ops := by
  cases ops with
  | nil => rw [nodes, countNested, List.length_nil]
  | cons op rest =>
    rw [nodes, countNested, List.length_append, length_nodesBelow, length_nodes]
termination_by (maxNesting ops, ops.length)
decreasing_by
  · exact Prod.Lex.right' _ (Nat.le_max_left _ _) (Nat.succ_pos _)
  · exact Prod.Lex.right' _ (Nat.le_max_right _ _) (Nat.lt_succ_self _)

theorem length_nodesBelow (name : String) (depth parent next : Nat) (op : Operation) :
    (op.nodesBelow name depth parent next).length = op.countBelow := by
  rw [nodesBelow_eq, countBelow_eq]
  split
  · rfl
  · rfl
  · rename_i below hnested
    have := Nests.maxNesting_lt_nesting hnested
    rw [List.length_cons, length_nodes, Nat.add_comm]
termination_by (op.nesting, 0)
decreasing_by
  exact Prod.Lex.left _ _ this

end

theorem nestedValues_congr
    (h : ops'.map (fun op => (op.directives, op.withValue)) =
      ops.map fun op => (op.directives, op.withValue)) :
    nestedValues ops' = nestedValues ops := by
  have hmap (ops : List Operation) : nestedValues ops =
      ((ops.map fun op => (op.directives, op.withValue)).filter fun w =>
        (Json.Fields.get? w.1 "with").isSome).map Prod.snd := by
    rw [List.filter_map, List.map_map]
    rfl
  rw [hmap, hmap, h]

end Operation

namespace Context

variable {host : Host} {nested : Evaluator} {ctx : Context}

/-- Primary directives that succeed leave the tree alone, and the results of nested lists too. -/
theorem produce_ok {op op' : Operation} {j j' : Journal}
    (h : ctx.produce host op j = (.ok op', j')) :
    (op'.directives, op'.withValue) = (op.directives, op.withValue) ∧ j'.tree = j.tree := by
  rw [produce] at h
  split at h
  · cases h
    exact ⟨rfl, rfl⟩
  · rename_i p _
    obtain ⟨v, j₁, hv, h⟩ := Result.andThen_eq.1 h
    cases h
    have htree := tree_runPrimary host ctx p op j
    rw [hv] at htree
    exact ⟨rfl, htree⟩

/-- The primary and the output phase of a context in which nothing has been started, if they
    succeed. -/
theorem runPhases_produce {c : Context} (hkeyed : ∀ op ∈ c.operations, op.WellKeyed)
    (hnew : ∀ op ∈ c.operations, op.Startable) (hmarks : c.marks = {}) {j : Journal} {v : Json}
    {qs : Queues} (hqs : qs = Queues.ofOperations c.operations)
    (h : (runPhases host nested [qs.primary, qs.output] c j).1 = .ok v) :
    let run := runPhases host nested [qs.primary, qs.output] c j
    ∃ j', Operation.visit (c.produce host) c.operations j = (.ok run.2.1.operations, j') ∧
      run.2.2 = { j' with tree := j'.tree.recordOut c.id v } := by
  subst hqs
  obtain ⟨n, -, hrun⟩ := runPhases_primary host nested hkeyed hnew hmarks
    [(Queues.ofOperations c.operations).output] j
  have hfst := visit_produce_fst host c j
  rcases hvisit : Operation.visit (c.produce host) c.operations j with ⟨f | done, j'⟩
  · rw [hrun, hvisit] at h
    cases h
  · rw [hvisit] at hfst
    have hsame := Direct.map_directives_of_produce (Result.mapError_eq_ok.1 hfst.symm)
    -- The keys have stayed, so the output queue is still that of the list as it is now.
    have hqueues := Queues.ofOperations_congr hsame.symm
    have hout (marks : Marks) :=
      runPhases_output host nested { c with operations := done, marks } j'
    rw [hvisit, hqueues] at hrun
    rw [hqueues, hrun] at h ⊢
    dsimp only at h hout ⊢
    rw [hout] at h ⊢
    split at h
    · cases h
    · cases h
      exact ⟨j', rfl, rfl⟩

/-- An evaluation that succeeds for the first time walks through its list twice, to carry the
    results of secondary directives and to produce data, and at last it writes its output down. -/
theorem process_visits (hmarks : ctx.marks = {}) {j : Journal} {v : Json}
    (h : (ctx.process host j).1 = .ok v) :
    ∃ carried j₁ j₂,
      Operation.visit (ctx.opened.carry (evaluator host)) ctx.opened.operations j =
        (.ok carried, j₁) ∧
      Operation.visit (({ ctx.opened with operations := carried } : Context).produce host) carried
        j₁ = (.ok (ctx.process host j).2.1.operations, j₂) ∧
      (ctx.process host j).2.2 = { j₂ with tree := j₂.tree.recordOut ctx.id v } := by
  have hfresh : ctx.Fresh := ⟨hmarks, startable_of_process h⟩
  obtain ⟨q, carried, hclassify, hcarried⟩ := carry_of_process h
  obtain ⟨j₁, hvisit, hprocess⟩ := process_of_carry hclassify hcarried j
  have hsame := Direct.map_directives_of_carry hcarried
  rw [hprocess] at h ⊢
  obtain ⟨j₂, hproduce, hend⟩ := runPhases_produce (c := { ctx.opened with operations := carried })
    ((Operation.wellKeyed_congr hsame).2 (wellKeyed_opened hclassify))
    ((Direct.startable_of_carry hcarried).2 hfresh.opened.startable) hmarks
    (Queues.ofOperations_congr hsame.symm) h
  exact ⟨carried, j₁, j₂, hvisit, hproduce, hend⟩

/-! ## Nodes that are added -/

/-- The nodes that a walk through some operations adds to a tree, and which become the operations
    `ops'`: those that are expected of them, where the children of the context hold the values that
    are carried. -/
def Recorded (ctx : Context) (ops ops' : List Operation) (t t' : ContextTree) : Prop :=
  ∃ new, t'.nodes = t.nodes ++ new ∧
    new.map ContextNode.blank =
      Operation.nodes ctx.name (ctx.depth + 1) ctx.id t.nodes.length ops ∧
    (new.filter fun n => n.parent = some ctx.id).map ContextNode.out = Operation.nestedValues ops'

theorem Recorded.append {ops ops' rest rest' : List Operation} {t t' t'' : ContextTree}
    (h : ctx.Recorded ops ops' t t') (hrest : ctx.Recorded rest rest' t' t'') :
    ctx.Recorded (ops ++ rest) (ops' ++ rest') t t'' := by
  obtain ⟨new, hnew, hblank, hout⟩ := h
  obtain ⟨new', hnew', hblank', hout'⟩ := hrest
  refine ⟨new ++ new', by rw [hnew', hnew, List.append_assoc], ?_, ?_⟩
  · have hlength : t'.nodes.length = t.nodes.length + (Operation.nodes ctx.name (ctx.depth + 1)
        ctx.id t.nodes.length ops).length := by
      rw [← hblank, hnew, List.length_append, List.length_map]
    rw [Operation.nodes_append, ← hlength, List.map_append, hblank, hblank']
  · rw [List.filter_append, List.map_append, hout, hout', Operation.nestedValues,
      Operation.nestedValues, Operation.nestedValues, List.filter_append, List.map_append]

/-- An operation without `with` adds no node. -/
theorem Recorded.of_none {op op' : Operation} (h : op.argument "with" = none)
    (hdirectives : op'.directives = op.directives) (t : ContextTree) :
    ctx.Recorded [op] [op'] t t := by
  refine ⟨[], (List.append_nil _).symm, ?_, ?_⟩
  · rw [Operation.nodes_singleton, Operation.nodesBelow_eq, Operation.nested?, h]
    rfl
  · rw [← Operation.argument_congr hdirectives] at h
    simp [Operation.nestedValues, h]

/-- The node of a nested list is followed by those of the lists nested in it, and its output is what
    the operation carries. -/
theorem Recorded.of_nests {op op' : Operation} {below : List Operation} {v : Json}
    {t t' : ContextTree} {new : List ContextNode} (hbelow : op.Nests below)
    (hdirectives : op'.directives = op.directives) (hvalue : op'.withValue = some v)
    (hdepth : t.childDepth ctx.id = ctx.depth + 1)
    (hnew : t'.nodes =
      ((t.pushChild ctx.id ctx.name).2.recordOut t.nodes.length v).nodes ++ new)
    (hblank : new.map ContextNode.blank = Operation.nodes ctx.name (ctx.depth + 2) t.nodes.length
      (t.nodes.length + 1) below)
    (hparent : ∀ n ∈ new, n.parent ≠ some ctx.id) :
    ctx.Recorded [op] [op'] t t' := by
  rw [ContextTree.recordOut_pushChild, List.append_assoc, List.singleton_append] at hnew
  refine ⟨_, hnew, ?_, ?_⟩
  · rw [Operation.nodes_singleton, Operation.nodesBelow_eq, hbelow, List.map_cons, hblank, hdepth]
    rfl
  · have hwith : (op'.argument "with").isSome := by
      obtain ⟨argument, hargument, -⟩ := Option.map_eq_some_iff.1 hbelow
      rw [Operation.argument_congr hdirectives, hargument]
      rfl
    have hnone : new.filter (fun n => n.parent = some ctx.id) = [] :=
      List.filter_eq_nil_iff.2 fun n hn => by simpa using hparent n hn
    simp [Operation.nestedValues, hwith, hvalue, hnone]

/-- A context has a node in a tree, at its depth. -/
def HasNode (ctx : Context) (t : ContextTree) : Prop :=
  (t.node? ctx.id).map ContextNode.depth = some ctx.depth

theorem HasNode.id_lt {t : ContextTree} (h : ctx.HasNode t) : ctx.id < t.nodes.length := by
  obtain ⟨n, hn, -⟩ := Option.map_eq_some_iff.1 h
  exact (List.getElem?_eq_some_iff.1 hn).1

theorem HasNode.childDepth {t : ContextTree} (h : ctx.HasNode t) :
    t.childDepth ctx.id = ctx.depth + 1 := by
  rw [ContextTree.childDepth, h]
  rfl

theorem HasNode.nestedContext {j : Journal} (h : ctx.HasNode j.tree) (below : List Operation) :
    (ctx.nestedContext j below).HasNode (ctx.nestedJournal j).tree := by
  have hnode : (ctx.nestedJournal j).tree.node? j.tree.nodes.length =
      some { depth := j.tree.childDepth ctx.id, parent := some ctx.id, name := ctx.name } :=
    List.getElem?_concat_length
  rw [h.childDepth] at hnode
  exact congrArg (Option.map ContextNode.depth) hnode

/-- Nodes that are added do not change the one of the context. -/
theorem HasNode.recorded {ops ops' : List Operation} {t t' : ContextTree} (h : ctx.HasNode t)
    (hrecorded : ctx.Recorded ops ops' t t') : ctx.HasNode t' := by
  obtain ⟨new, hnew, -, -⟩ := hrecorded
  rwa [HasNode, ContextTree.node?, hnew, List.getElem?_append_left h.id_lt]

/-! ## Walks that add nodes -/

/-- A walk through a list adds the nodes of its operations, one after the other. -/
theorem visit_recorded {f : Operation → Journal → Except Failure Operation × Journal}
    {ops ops' : List Operation}
    (hstep : ∀ op ∈ ops, ∀ j op' j', ctx.HasNode j.tree → f op j = (.ok op', j') →
      ctx.Recorded [op] [op'] j.tree j'.tree)
    {j j' : Journal} (hnode : ctx.HasNode j.tree)
    (h : Operation.visit f ops j = (.ok ops', j')) : ctx.Recorded ops ops' j.tree j'.tree := by
  induction ops generalizing ops' j with
  | nil =>
    cases h
    exact ⟨[], (List.append_nil _).symm, by rw [Operation.nodes]; rfl, rfl⟩
  | cons op ops ih =>
    obtain ⟨op', rest, j₁, hop, hrest, rfl⟩ := Operation.visit_cons_eq_ok.1 h
    rw [List.forall_mem_cons] at hstep
    have hfirst := hstep.1 j op' j₁ hnode hop
    exact hfirst.append (ih hstep.2 (hnode.recorded hfirst) hrest)

/-- An evaluation that succeeds records the nodes of a list, wherever its context stands. -/
def RecordsOn (host : Host) (ops : List Operation) : Prop :=
  ∀ (c : Context) (j : Journal) (v : Json), c.operations = ops → c.marks = {} →
    c.HasNode j.tree → (c.process host j).1 = .ok v →
      c.Recorded ops (c.process host j).2.1.operations (j.tree.recordOut c.id v)
        (c.process host j).2.2.tree

/-- Secondary directives add the nodes of a nested list, if its evaluation records them. -/
theorem carry_recorded {op op' : Operation} (hsorted : op.Sorted)
    (hnested : ∀ below, op.Nests below → RecordsOn host below) {j j' : Journal}
    (hnode : ctx.HasNode j.tree) (h : ctx.carry (evaluator host) op j = (.ok op', j')) :
    ctx.Recorded [op] [op'] j.tree j'.tree := by
  obtain ⟨hdirectives, hvalue⟩ := carryEach_ok hsorted.nodup_secondaries h
  split at hvalue
  · obtain ⟨v, hrun, hvalue⟩ := hvalue
    rcases runNested_cases op with ⟨below, hbelow⟩ | ⟨e, he⟩
    · rw [runNested_nests hbelow] at hrun
      have hok : ((ctx.nestedContext j below).process host (ctx.nestedJournal j)).1 = .ok v :=
        congrArg Prod.fst hrun
      obtain rfl : ((ctx.nestedContext j below).process host (ctx.nestedJournal j)).2.2 = j' :=
        congrArg Prod.snd hrun
      obtain ⟨new, hnew, hblank, -⟩ := hnested below hbelow (ctx.nestedContext j below)
        (ctx.nestedJournal j) v rfl rfl (hnode.nestedContext below) hok
      -- The same nodes are told by their place in the list and by how the tree grows.
      obtain ⟨new', hnew', hfinished⟩ := process_grown (id_nestedContext_lt ctx j below) hok
      obtain rfl := List.append_cancel_left (hnew.symm.trans hnew')
      rw [ContextTree.recordOut, List.length_modify, nestedJournal,
        ContextTree.length_pushChild] at hblank
      refine .of_nests hbelow hdirectives hvalue hnode.childDepth hnew hblank fun n hn hn' => ?_
      -- What the nested list has added stands below its own node, and that is a later one.
      obtain ⟨k, hk, hparent⟩ := (hfinished n hn).parent
      obtain rfl := Option.some.inj (hn'.symm.trans hparent)
      exact absurd hk (Nat.not_le_of_gt hnode.id_lt)
    · rw [he] at hrun
      cases hrun
  · rename_i hnone
    rw [hvalue.1]
    rw [Operation.mem_secondaries, Option.not_isSome_iff_eq_none] at hnone
    exact .of_none hnone hdirectives j.tree

/-- An evaluation that succeeds records the nodes of its list. The induction is on how deeply lists
    are nested in it. -/
theorem recordsOn_of_sorted (host : Host) (ops : List Operation)
    (hsorted : ∀ op ∈ ops, op.Sorted) : RecordsOn host ops := by
  intro ctx j v hops hmarks hnode h
  subst hops
  obtain ⟨carried, j₁, j₂, hcarry, hproduce, hend⟩ := process_visits hmarks h
  -- Only the first walk, over secondary directives, adds nodes and values of nested lists.
  obtain ⟨hframe, htree⟩ := Operation.visit_frame (g := fun op => (op.directives, op.withValue))
    (t := Journal.tree) (fun op j op' j' h => produce_ok h) hproduce
  have hrecorded : ctx.opened.Recorded ctx.opened.operations carried j.tree j₁.tree := by
    refine visit_recorded (fun op hop j op' j' hnode h => ?_) hnode hcarry
    have hnested (hop : op ∈ ctx.operations) (below : List Operation) (hbelow : op.Nests below) :
        RecordsOn host below := by
      have hlt := hbelow.maxNesting_lt hop
      exact recordsOn_of_sorted host below ((hsorted op hop).nests hbelow)
    rcases Operation.mem_withDefaults hop with hop | hdefault
    · exact carry_recorded (hsorted op hop) (hnested hop) hnode h
    · exact carry_recorded (Operation.sorted_default hdefault)
        (fun below hbelow => absurd hbelow (Operation.not_nests_default hdefault)) hnode h
  obtain ⟨new, hnew, hblank, hout⟩ := hrecorded
  rw [hend, htree]
  refine ⟨new, ContextTree.recordOut_append hnode.id_lt hnew v, ?_, ?_⟩
  · rw [ContextTree.recordOut, List.length_modify, hblank]
    exact Operation.nodes_withDefaults ctx.operations
  · exact hout.trans (Operation.nestedValues_congr hframe).symm
termination_by Operation.maxNesting ops

/-- The tree of a resource that has been evaluated: the root holds the output, and behind it stands
    one node for each nested list, in the order in which the lists are written, all of them with
    outputs. The children of the root hold what the operations carry that nest their lists. -/
theorem process_record {host : Host} {name : String} {seed : Json} {ops : List Operation}
    {reads : List Path} {calls : List String} {v : Json} (hsorted : ∀ op ∈ ops, op.Sorted)
    (h : ((root name seed ops).process host ⟨.root name, reads, calls⟩).1 = .ok v) :
    let run := (root name seed ops).process host ⟨.root name, reads, calls⟩
    let nodes := run.2.2.tree.nodes
    nodes.length = 1 + Operation.countNested ops ∧
      nodes.map ContextNode.blank =
        { depth := 0, parent := none, name } :: Operation.nodes name 1 0 1 ops ∧
      (∀ n ∈ nodes, n.out.isSome) ∧ nodes.head?.bind ContextNode.out = some v ∧
      (nodes.filter fun n => n.parent = some 0).map ContextNode.out =
        Operation.nestedValues run.2.1.operations := by
  intro run nodes
  have hid : (root name seed ops).id < (ContextTree.root name).nodes.length := Nat.zero_lt_one
  obtain ⟨new, hnew, hblank, hout⟩ := recordsOn_of_sorted host ops hsorted (root name seed ops)
    ⟨.root name, reads, calls⟩ v rfl rfl rfl h
  obtain ⟨new', hnew', hfinished⟩ := process_grown hid h
  obtain rfl := List.append_cancel_left (hnew.symm.trans hnew')
  have hnodes : nodes = { depth := 0, parent := none, name, out := some v } :: new := hnew
  rw [hnodes]
  refine ⟨?_, ?_, ?_, rfl, ?_⟩
  · rw [List.length_cons, Nat.add_comm, ← List.length_map ContextNode.blank, hblank,
      Operation.length_nodes]
  · rw [List.map_cons, hblank]
    rfl
  · exact List.forall_mem_cons.2 ⟨rfl, fun n hn => (hfinished n hn).out⟩
  · exact hout

/-- Of two nested lists the first one nests a third. Their nodes come in this order, and the
    children of the root are the first and the last of them. -/
theorem process_record_nested :
    let text (s : String) : Json := .obj [("raw", .str s)]
    let below : Json := .arr [.obj [("md", .null), ("with", text "a")]]
    let ops : List Operation :=
      [{ directives := [("md", .null), ("with", below)] },
        { directives := [("md", .null), ("with", text "b")] }]
    (∀ op ∈ ops, op.Sorted) ∧ Operation.countNested ops = 3 ∧
      Operation.nodes "page" 1 0 1 ops =
        [{ depth := 1, parent := some 0, name := "page" },
          { depth := 2, parent := some 1, name := "page" },
          { depth := 1, parent := some 0, name := "page" }] := by
  intro text below ops
  have hsorted : ∀ op ∈ ops, op.Sorted := by
    simp only [ops, below, text, List.forall_mem_cons, List.not_mem_nil, false_implies,
      implies_true, Operation.Sorted, Json.Sorted, Json.SortedFields, Json.SortedItems]
    decide
  have hok : ((root "page" .null ops).process .bare ⟨.root "page", [], []⟩).1 =
      .ok (.str "ab") := by
    decide +kernel
  have hnodes : ((root "page" .null ops).process .bare ⟨.root "page", [], []⟩).2.2.tree.nodes =
      [{ depth := 0, parent := none, name := "page", out := some (.str "ab") },
        { depth := 1, parent := some 0, name := "page", out := some (.str "a") },
        { depth := 2, parent := some 1, name := "page", out := some (.str "a") },
        { depth := 1, parent := some 0, name := "page", out := some (.str "b") }] := by
    decide +kernel
  obtain ⟨hlength, hblank, -⟩ := process_record hsorted hok
  rw [hnodes] at hlength hblank
  exact ⟨hsorted, Nat.add_left_cancel hlength.symm, (List.cons.inj hblank).2.symm⟩

end Context

end Folio
