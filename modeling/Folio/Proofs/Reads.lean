import Folio.Proofs.Actions
import Folio.Proofs.Direct

/-!
# Which files are read

A list says by itself which files its evaluation reads, and in which order: first those of its
nested lists, list after list, and then those that its own operations name (`Operation.reads`).
Neither the seed nor what is in the files has a part in it. An evaluation that succeeds reads just
these, each as often as the list names it; one that fails has read the first of them.

This holds of lists without `custom`, as a handler reads what it likes.

* `Context.Reading`: a run reads what is expected of it, or the first part of that if it fails;
* `Context.dispatch_reading`: so does an action;
* `Context.process_reading`: so does an evaluation, anywhere;
* `Context.process_reads`: what a resource reads.
-/

namespace Folio

/-! ## Expected reads -/

/-- The file that a reference stands for, below a folder. -/
def FileRef.place (folder : Path) (ref : FileRef) : Path := (folder.join ref.path).join ⟨ref.name⟩

namespace Operation

/-- The file that a primary directive of an operation reads; a malformed argument names none. -/
def readBy (folder : Path) (op : Operation) (p : Primary) : List Path :=
  if p = .file ∨ p = .njk then
    (FileRef.ofOperation p op).toOption.toList.map (FileRef.place folder)
  else []

/-- The files that an operation names itself. -/
def ownReads (folder : Path) (op : Operation) : List Path :=
  op.readBy folder .file ++ op.readBy folder .njk

mutual

/-- The files that a list reads: those of its nested lists, and then its own. -/
def reads (folder : Path) (ops : List Operation) : List Path :=
  nestedReads folder ops ++ ops.flatMap (ownReads folder)
termination_by (maxNesting ops, ops.length + 1)

/-- The files that the nested lists of a list read, one list after the other. -/
def nestedReads (folder : Path) : List Operation → List Path
  | [] => []
  | op :: rest => op.readsBelow folder ++ nestedReads folder rest
termination_by ops => (maxNesting ops, ops.length)
decreasing_by
  · exact Prod.Lex.right' _ (Nat.le_max_left _ _) (Nat.succ_pos _)
  · exact Prod.Lex.right' _ (Nat.le_max_right _ _) (Nat.lt_succ_self _)

/-- The files that the list nested in an operation reads; a malformed argument nests none. -/
def readsBelow (folder : Path) (op : Operation) : List Path :=
  match hnested : op.nested? with
  | none | some (.error _) => []
  | some (.ok below) =>
    have := Nests.maxNesting_lt_nesting hnested
    reads folder below
termination_by (op.nesting, 0)
decreasing_by
  exact Prod.Lex.left _ _ this

end

/-- The files that an action on an operation reads. -/
def readIn (folder : Path) (op : Operation) : Directive → List Path
  | .primary p => op.readBy folder p
  | .secondary .nested => op.readsBelow folder
  | .secondary .key | .input | .output => []

/-- No operation of a list calls a handler, and no operation of a list nested in it does. -/
inductive CustomFree : List Operation → Prop
  | intro {ops : List Operation} (own : ∀ op ∈ ops, op.argument "custom" = none)
      (nested : ∀ op ∈ ops, ∀ below, op.Nests below → CustomFree below) : CustomFree ops

variable {folder : Path} {op op' : Operation} {ops below : List Operation}

theorem readsBelow_eq (folder : Path) (op : Operation) :
    op.readsBelow folder =
      match op.nested? with
      | none | some (.error _) => []
      | some (.ok below) => reads folder below := by
  rw [readsBelow]
  split <;> rename_i h <;> simp only [h]

theorem nestedReads_eq (folder : Path) (ops : List Operation) :
    nestedReads folder ops = ops.flatMap (readsBelow folder) := by
  induction ops with
  | nil => rw [nestedReads, List.flatMap_nil]
  | cons op ops ih => rw [nestedReads, List.flatMap_cons, ih]

theorem readBy_congr (h : op.directives = op'.directives) (p : Primary) :
    op.readBy folder p = op'.readBy folder p := by
  simp only [readBy, FileRef.ofOperation_congr h]

theorem readIn_congr (h : op.directives = op'.directives) (d : Directive) :
    op.readIn folder d = op'.readIn folder d := by
  cases d with
  | primary p => exact readBy_congr h p
  | secondary s =>
    cases s with
    | nested => rw [readIn, readIn, readsBelow_eq, readsBelow_eq, nested?_congr h]
    | key => rfl
  | input => rfl
  | output => rfl

/-- A directive that an operation does not have reads nothing. -/
theorem readBy_eq_nil {p : Primary} (h : op.argument p.name = none) :
    op.readBy folder p = [] := by
  rw [readBy, FileRef.ofOperation, h]
  split <;> rfl

theorem mem_primaries {p : Primary} : p ∈ op.primaries ↔ (op.argument p.name).isSome := by
  have hprimary {d : Directive} : d.primary? = some p ↔ d = .primary p := by
    cases d <;> simp [Directive.primary?]
  simp only [primaries, List.mem_filterMap, hprimary, exists_eq_right, mem_runs, Directive.name]

/-- What an accepted operation names is what its only primary directive reads. -/
theorem flatMap_primaries (h : op.WellKeyed) :
    op.primaries.flatMap (op.readBy folder) = op.ownReads folder := by
  have hnone (p : Primary) (hp : p ∉ op.primaries) : op.readBy folder p = [] := by
    rw [mem_primaries, Option.not_isSome_iff_eq_none] at hp
    exact readBy_eq_nil hp
  rw [ownReads]
  rw [h.primaries_eq] at hnone ⊢
  -- Of `file` and `njk` the one that is not there reads nothing.
  cases hprimary : op.primary? with
  | none =>
    rw [hprimary] at hnone
    rw [hnone .file List.not_mem_nil, hnone .njk List.not_mem_nil]
    rfl
  | some p =>
    rw [hprimary] at hnone
    cases p with
    | file =>
      rw [hnone .njk (by decide)]
      rfl
    | njk =>
      rw [hnone .file (by decide)]
      exact List.append_nil _
    | scss | md | raw | yml | custom =>
      rw [hnone .file (by decide), hnone .njk (by decide)]
      rfl

/-- In a map there is one nested list at most. -/
theorem flatMap_secondaries (h : op.Sorted) :
    (op.secondaries.map .secondary).flatMap (op.readIn folder) = op.readsBelow folder := by
  have honce : ∀ ss : List Secondary, ss.Nodup → (ss.map .secondary).flatMap (op.readIn folder) =
      if .nested ∈ ss then op.readsBelow folder else [] := by
    intro ss hss
    induction ss with
    | nil => rfl
    | cons s ss ih =>
      rw [List.nodup_cons] at hss
      cases s <;> simp [readIn, ih hss.2, hss.1]
  rw [honce _ h.nodup_secondaries]
  split
  · rfl
  · rename_i hnested
    rw [mem_secondaries, Secondary.name, Option.not_isSome_iff_eq_none] at hnested
    rw [readsBelow_eq, nested?, hnested]
    rfl

/-- Defaults read nothing. -/
theorem readIn_default (h : op = defaultInput ∨ op = defaultOutput) (d : Directive) :
    op.readIn folder d = [] := by
  cases d with
  | primary p =>
    refine readBy_eq_nil ?_
    rcases h with rfl | rfl <;> cases p <;> rfl
  | secondary s =>
    cases s with
    | nested => rcases h with rfl | rfl <;> exact readsBelow_eq folder _
    | key => rfl
  | input => rfl
  | output => rfl

/-- What the defaults around a list say does not matter, where it is nothing. -/
theorem flatMap_withDefaults {f : Operation → List Path} (hinput : f defaultInput = [])
    (houtput : f defaultOutput = []) (ops : List Operation) :
    (withDefaults ops).flatMap f = ops.flatMap f := by
  rw [withDefaults, withOutput, withInput]
  split <;> split <;> simp [hinput, houtput]

end Operation

/-- What is read for the entries of a listing, operation by operation. -/
theorem Queued.flatMap_listing (f : Operation → List Directive)
    (g : Operation → Directive → List Path) (done ops : List Operation) :
    ((listing f done.length ops).flatMap fun d =>
        g (((done ++ ops)[d.index]?).getD {}) d.directive) =
      ops.flatMap fun op => (f op).flatMap (g op) := by
  induction ops generalizing done with
  | nil => rfl
  | cons op ops ih =>
    have hrest := ih (done ++ [op])
    rw [List.length_append, List.length_singleton, List.append_assoc, List.singleton_append]
      at hrest
    rw [listing, List.flatMap_append, hrest, List.flatMap_cons, List.flatMap_map]
    simp

namespace Context

variable {host : Host} {nested : Evaluator} {ctx c : Context}

/-- The files that a row of actions reads. -/
def rowReads (folder : Path) (ctx : Context) (row : List Queued) : List Path :=
  row.flatMap fun d => (ctx.operation d.index).readIn folder d.directive

theorem rowReads_append (folder : Path) (ctx : Context) (row row' : List Queued) :
    ctx.rowReads folder (row ++ row') = ctx.rowReads folder row ++ ctx.rowReads folder row' :=
  List.flatMap_append

theorem rowReads_listing {ctx₀ : Context} (h : ctx.prepare = .ok ctx₀) (folder : Path)
    (f : Operation → List Directive) :
    ctx₀.rowReads folder (Queued.listing f 0 ctx₀.operations) =
      ctx.operations.flatMap fun op => (f op).flatMap (op.readIn folder) := by
  obtain ⟨-, -, hops, -⟩ := prepare_eq_ok h
  have hdefault (op : Operation)
      (hop : op = Operation.defaultInput ∨ op = Operation.defaultOutput) :
      (f op).flatMap (op.readIn folder) = [] :=
    List.flatMap_eq_nil_iff.2 fun d _ => Operation.readIn_default hop d
  refine (Queued.flatMap_listing f (Operation.readIn folder) [] ctx₀.operations).trans ?_
  rw [hops]
  exact Operation.flatMap_withDefaults (hdefault _ (.inl rfl)) (hdefault _ (.inr rfl)) _

/-- What the four queues of a list read is what the list reads. -/
theorem rowReads_phases {ctx₀ : Context} (hsorted : ∀ op ∈ ctx.operations, op.Sorted)
    (h : ctx.prepare = .ok ctx₀) (folder : Path) :
    ctx₀.rowReads folder ctx₀.phases.flatten = Operation.reads folder ctx.operations := by
  have hlisting := rowReads_listing h folder
  obtain ⟨hkeyed, -, -, hqueues⟩ := prepare_eq_ok h
  have hnone (d : Directive) (hd : ∀ op : Operation, op.readIn folder d = []) :
      (ctx.operations.flatMap fun op =>
        (op.runs.filter (· = d)).flatMap (op.readIn folder)) = [] := by
    refine List.flatMap_eq_nil_iff.2 fun op _ => List.flatMap_eq_nil_iff.2 fun d' hd' => ?_
    rw [of_decide_eq_true (List.mem_filter.1 hd').2, hd op]
  have hinput := (hlisting _).trans (hnone .input fun _ => rfl)
  have houtput := (hlisting _).trans (hnone .output fun _ => rfl)
  have hsecondary : (ctx.operations.flatMap fun op =>
      (op.secondaries.map .secondary).flatMap (op.readIn folder)) =
        Operation.nestedReads folder ctx.operations := by
    rw [Operation.nestedReads_eq, List.flatMap_def, List.flatMap_def]
    exact congrArg List.flatten
      (List.map_congr_left fun op hop => Operation.flatMap_secondaries (hsorted op hop))
  have hprimary : (ctx.operations.flatMap fun op =>
      (op.primaries.map .primary).flatMap (op.readIn folder)) =
        ctx.operations.flatMap (Operation.ownReads folder) := by
    rw [List.flatMap_def, List.flatMap_def]
    refine congrArg List.flatten (List.map_congr_left fun op hop => ?_)
    rw [List.flatMap_map]
    exact Operation.flatMap_primaries (hkeyed op hop)
  rw [phases, hqueues, Queues.ofOperations]
  simp only [List.flatten_cons, List.flatten_nil, List.append_nil, rowReads_append, hinput,
    houtput, hlisting, hsecondary, hprimary, List.nil_append]
  rw [Operation.reads]

end Context

/-! ## Runs -/

/-- A run reads what is expected of it, or if it fails the first part of that. -/
def Reading {α : Type} (expected : List Path) (j : Journal) (r : Except Failure α × Journal) :
    Prop :=
  ∃ added, r.2.reads = j.reads ++ added ∧ added <+: expected ∧
    ∀ a, r.1 = .ok a → added = expected

namespace Reading

variable {α β : Type} {expected : List Path} {j : Journal} {r : Except Failure α × Journal}

theorem of_eq (h : r.2.reads = j.reads ++ expected) : Reading expected j r :=
  ⟨expected, h, List.prefix_refl _, fun _ _ => rfl⟩

theorem of_error {f : Failure} (hr : r.1 = .error f) (h : r.2.reads = j.reads) :
    Reading expected j r := by
  refine ⟨[], by rw [h, List.append_nil], List.nil_prefix, fun a ha => ?_⟩
  rw [hr] at ha
  cases ha

theorem map (h : Reading expected j r) (f : α → β) : Reading expected j (f <$> r.1, r.2) := by
  obtain ⟨added, hadded, hprefix, hok⟩ := h
  refine ⟨added, hadded, hprefix, fun b hb => ?_⟩
  obtain ⟨a, ha, -⟩ := Result.map_eq_ok.1 hb
  exact hok a ha

end Reading

namespace Context

variable {host : Host} {nested : Evaluator} {ctx c : Context}

theorem runPrimary_reading {directive : Primary} (h : directive ≠ .custom) (op : Operation)
    (j : Journal) :
    Reading (op.readBy host.contentFolder directive) j (runPrimary host ctx directive op j) := by
  cases directive with
  | custom => exact absurd rfl h
  | raw => exact .of_eq (List.append_nil _).symm
  | scss | md | yml =>
    refine .of_eq ?_
    simp only [runPrimary]
    split <;> exact (List.append_nil _).symm
  | file | njk =>
    simp only [runPrimary, readTarget, Operation.readBy]
    cases FileRef.ofOperation _ op with
    | error e => exact .of_error rfl rfl
    | ok ref =>
      -- The file is read even if it turns out not to be there.
      refine .of_eq ?_
      dsimp only
      cases host.fileText (host.contentPath ref.path) ref.name <;> rfl

/-- An action reads what its directive says, if nested lists do. -/
theorem dispatch_reading {d : Queued} (hcustom : d.directive ≠ .primary .custom)
    (hnested : ∀ below, (ctx.operation d.index).Nests below → ∀ c j, c.operations = below →
      Reading (Operation.reads host.contentFolder below) j (nested c j)) (p : Progress) :
    Reading ((ctx.operation d.index).readIn host.contentFolder d.directive) p.journal
      ((ctx.dispatch host nested d p).1, (ctx.dispatch host nested d p).2.journal) := by
  obtain ⟨i, d⟩ := d
  cases d with
  | input => exact .of_eq (List.append_nil _).symm
  | output =>
    refine .of_eq ?_
    simp only [dispatch]
    split <;> exact (List.append_nil _).symm
  | primary directive =>
    simp only [dispatch]
    cases ctx.startPrimary i directive p.marks with
    | error e => exact .of_error rfl rfl
    | ok marks =>
      refine (runPrimary_reading (fun h => hcustom (h ▸ rfl)) _ _).map (Outcome.data i)
  | secondary s =>
    cases s with
    | key => exact .of_eq (List.append_nil _).symm
    | nested =>
      rcases runNested_cases (ctx.operation i) with ⟨below, hbelow⟩ | ⟨e, he⟩
      · have hread := hnested below hbelow (ctx.nestedContext p.journal below)
          (ctx.nestedJournal p.journal) rfl
        have hexpected : (ctx.operation i).readIn host.contentFolder (.secondary .nested) =
            Operation.reads host.contentFolder below := by
          rw [Operation.readIn, Operation.readsBelow_eq, hbelow]
        rw [hexpected, dispatch, runNested_nests hbelow]
        exact hread.map (Outcome.nested i)
      · rw [dispatch, he]
        exact .of_error rfl rfl

/-- An evaluation reads what its list says, as long as no handler is called. The induction is on how
    deeply lists are nested. -/
theorem process_reading (host : Host) (ctx : Context) (j : Journal)
    (hsorted : ∀ op ∈ ctx.operations, op.Sorted) (hcustom : Operation.CustomFree ctx.operations) :
    Reading (Operation.reads host.contentFolder ctx.operations) j
      ((ctx.process host j).1, (ctx.process host j).2.2) := by
  obtain ⟨hown, hbelow⟩ := hcustom
  rcases process_cases host ctx j with ⟨e, -, hprocess⟩ | ⟨ctx₀, hprepare, hprocess⟩
  · rw [hprocess]
    exact .of_error rfl rfl
  · rw [hprocess]
    have hnested (c : Context) (hc : ctx₀.Continues c) (i : Nat) (below : List Operation)
        (hnests : (c.operation i).Nests below) (c' : Context) (j' : Journal)
        (hops : c'.operations = below) :
        Reading (Operation.reads host.contentFolder below) j' (evaluator host c' j') := by
      subst hops
      obtain ⟨op, hop, hnests⟩ := exists_nests hprepare hc hnests
      have hlt := hnests.maxNesting_lt hop
      exact process_reading host c' j' ((hsorted op hop).nests hnests) (hbelow op hop _ hnests)
    have hne : ∀ d ∈ ctx₀.phases.flatten, d.directive ≠ .primary .custom :=
      ne_of_phases hprepare nofun nofun hown
    -- An action reads what the prepared list says, whatever has been computed before.
    have hstep (c : Context) (hc : ctx₀.Continues c) (d : Queued) (hd : d ∈ ctx₀.phases.flatten)
        (p : Progress) :
        Reading ((ctx₀.operation d.index).readIn host.contentFolder d.directive) p.journal
          ((c.dispatch host (evaluator host) d p).1,
            (c.dispatch host (evaluator host) d p).2.journal) := by
      rw [← Operation.readIn_congr (hc.operation d.index)]
      exact dispatch_reading (hne d hd) (hnested c hc d.index) p
    have hkeeps : Keeps host (evaluator host) ctx₀ ctx₀.phases.flatten fun done j' =>
        j'.reads = j.reads ++ ctx₀.rowReads host.contentFolder done := by
      intro c hc done d hd p o p' hdone hdispatch
      obtain ⟨added, hadded, -, hok⟩ := hstep c hc d hd p
      rw [hdispatch] at hadded hok
      rw [rowReads_append, hadded, hdone, hok o rfl, List.append_assoc]
      simp [rowReads]
    have hstart : j.reads = j.reads ++ ctx₀.rowReads host.contentFolder [] :=
      (List.append_nil _).symm
    rw [← rowReads_phases hsorted hprepare]
    cases hend : (runPhases host (evaluator host) ctx₀.phases ctx₀ j).1 with
    | ok v =>
      obtain ⟨-, j', hreads, hj'⟩ := runPhases_ok hend hkeeps hstart
      rw [hj']
      exact .of_eq hreads
    | error f =>
      obtain ⟨c, d, p, hreaches, -, hj'⟩ := runPhases_error hend
      obtain ⟨hc, before, after, hflatten, hreads⟩ := hreaches.invariant hkeeps hstart
      rw [hj', hflatten]
      -- The action that fails has read the first part of what it reads, and nothing follows.
      obtain ⟨added, hadded, hprefix, -⟩ := hstep c hc d (by simp [hflatten]) p
      refine ⟨ctx₀.rowReads host.contentFolder before ++ added, ?_, ?_, nofun⟩
      · rw [hadded, hreads, List.append_assoc]
      · rw [rowReads_append, List.prefix_append_right_inj]
        exact hprefix.trans (List.prefix_append _ _)
termination_by Operation.maxNesting ctx.operations

/-- Which files are read, and in which order, is written in the list: a resource that calls no
    handler reads just these if its evaluation succeeds, each as often as the list names it, and the
    first of them if it fails. -/
theorem process_reads (host : Host) (name : String) (seed : Json) {ops : List Operation}
    (hsorted : ∀ op ∈ ops, op.Sorted) (hcustom : Operation.CustomFree ops) :
    let run := (root name seed ops).process host ⟨.root name, [], []⟩
    let expected := Operation.reads host.contentFolder ops
    (∀ v, run.1 = .ok v → run.2.2.reads = expected) ∧ run.2.2.reads <+: expected := by
  obtain ⟨added, hadded, hprefix, hok⟩ :=
    process_reading host (root name seed ops) ⟨.root name, [], []⟩ hsorted hcustom
  rw [List.nil_append] at hadded
  exact ⟨fun v hv => hadded.trans (hok v hv), hadded ▸ hprefix⟩

/-- A template is read after the file of a list nested in its operation. -/
theorem process_reads_nested :
    let host : Host := { Host.bare with fileText := fun _ name => .ok name }
    let part : Json.Fields := [("file", .obj [("name", .str "part.md"), ("path", .str "parts")])]
    let page : Operation :=
      { directives :=
          [("njk", .obj [("name", .str "page.njk"), ("path", .str "pages")]), ("with", .obj part)] }
    (∀ op ∈ [page], op.Sorted) ∧ Operation.CustomFree [page] ∧
      Operation.reads host.contentFolder [page] =
        [⟨"content/parts/part.md"⟩, ⟨"content/pages/page.njk"⟩] := by
  intro host part page
  have hsorted : ∀ op ∈ [page], op.Sorted := by
    simp only [page, part, List.forall_mem_singleton, Operation.Sorted, Json.Sorted,
      Json.SortedFields]
    decide
  have hcustom : Operation.CustomFree [page] := by
    refine .intro (by decide) fun op hop below hbelow => ?_
    obtain rfl := List.mem_singleton.1 hop
    cases hbelow
    refine .intro (by decide) fun op hop below hbelow => ?_
    obtain rfl := List.mem_singleton.1 hop
    cases hbelow
  refine ⟨hsorted, hcustom, ?_⟩
  rw [← (process_reads host "page" .null hsorted hcustom).1 (.str "page.njk") (by decide +kernel)]
  decide +kernel

end Context

end Folio
