import Folio.Proofs.Acceptance
import Folio.Proofs.Refinement

/-!
# Validation and evaluation

Validation looks at a list and runs nothing; evaluation runs it, with defaults around it, and meets
the same spots in another order. They agree in both directions.

What validation accepts can still fail, but not with anything it looks at. Then either the engine
refuses something that depends on data or on handlers (`EngineError.Residual`), or a collaborator of
the evaluation has failed (`Host.Answers`). What validation refuses always fails, perhaps with
another error that is met before; if the keys of the list are refused, it is the same error, and
nothing has happened before it.

Both are said about direct evaluation first: an accepted list stops only in these ways
(`Direct.eval_residual`), and a list that has a value is accepted (`Direct.accepted_of_eval`).

* `Context.process_of_validate`: what an accepted list can still fail with;
* `Context.process_of_validate_error`: a refused list fails.
-/

namespace Folio

open Result Validation

/-! ## What is left to fail -/

/-- The errors of the engine that no look at a list can exclude, as they depend on data and on
    handlers. -/
inductive EngineError.Residual : EngineError → Prop
  /-- The data joined by mode `object` are no JSON text. -/
  | malformed (reason : String) : Residual (.malformedObjectOutput reason)
  /-- A handler is not registered. -/
  | unregistered (key : String) : Residual (.customHandlerNotFound key)
  /-- The result of `with` is no text, but the directive works on one. -/
  | noText {p : Primary} {v : Json} (hp : p.readsWith) (hv : ∀ s, v ≠ .str s) :
    Residual (.invalidArgument p.name s!"expected text from 'with', found {v.kind}")

/-- A failure that one of the collaborators of an evaluation answers. -/
inductive Host.Answers (host : Host) (f : Failure) : Prop
  | file (directory : Path) (name : String) (h : host.fileText directory name = .error f)
  | template (name source : String) (v : Option Json)
    (h : host.renderTemplate name source v = .error f)
  | style (source : String) (h : host.compileStyle source = .error f)
  | data (source : String) (h : host.readData source = .error f)
  | handler (key : String) (handler : Handler) (call : Call)
    (hkey : host.handler? key = some handler) (h : (handler call).result = .error f)

/-- The ways in which a list that has been accepted can still stop. -/
def Stop.Residual (host : Host) : Stop → Prop
  | .refused e => e.Residual
  | .failed f => host.Answers f

namespace Direct

variable {host : Host} {resource : String} {seed : Json} {depth : Nat}

/-- The text of `with` is missing only where `with` is; a result that is no text is a matter of
    data. -/
theorem text_residual {p : Primary} {op : Operation} {stop : Stop} (hp : p.readsWith)
    (hinput : op.withValue.isSome) (h : text p op = .error stop) : stop.Residual host := by
  obtain ⟨e, he, rfl⟩ := mapError_eq_error.1 h
  rw [Context.withText] at he
  split at he
  · cases he
  · rename_i v hv hvalue
    cases he
    exact .noText hp hv
  · rename_i hnone
    rw [hnone] at hinput
    cases hinput

/-- A primary directive that is given what it needs stops only where data or the host are to
    blame. -/
theorem handle_residual {p : Primary} {op : Operation} {stop : Stop}
    (htarget : p.takesFileRef → ∃ ref, FileRef.ofOperation p op = .ok ref)
    (hinput : p.readsWith → op.withValue.isSome)
    (h : handle host resource seed depth p op = .error stop) : stop.Residual host := by
  have hfound : p.takesFileRef → ∃ ref, target p op = .ok ref := fun hp => by
    obtain ⟨ref, href⟩ := htarget hp
    exact ⟨ref, mapError_eq_ok.2 href⟩
  cases p with
  | raw => cases h
  | file =>
    obtain ⟨ref, href⟩ := hfound rfl
    rw [handle, href, ok_bind, bind_pure_comp, map_eq_error] at h
    obtain ⟨f, hf, rfl⟩ := mapError_eq_error.1 h
    exact .file _ _ hf
  | scss =>
    rcases bind_eq_error.1 h with h | ⟨source, -, h⟩
    · exact text_residual rfl (hinput rfl) h
    · rw [bind_pure_comp, map_eq_error] at h
      obtain ⟨f, hf, rfl⟩ := mapError_eq_error.1 h
      exact .style source hf
  | md =>
    rw [handle, bind_pure_comp, map_eq_error] at h
    exact text_residual rfl (hinput rfl) h
  | yml =>
    rcases bind_eq_error.1 h with h | ⟨source, -, h⟩
    · exact text_residual rfl (hinput rfl) h
    · obtain ⟨f, hf, rfl⟩ := mapError_eq_error.1 h
      exact .data source hf
  | njk =>
    obtain ⟨ref, href⟩ := hfound rfl
    rw [handle, href, ok_bind] at h
    rcases bind_eq_error.1 h with h | ⟨source, -, h⟩
    · obtain ⟨f, hf, rfl⟩ := mapError_eq_error.1 h
      exact .file _ _ hf
    · rw [bind_pure_comp, map_eq_error] at h
      obtain ⟨f, hf, rfl⟩ := mapError_eq_error.1 h
      exact .template _ source _ hf
  | custom =>
    obtain ⟨ref, href⟩ := hfound rfl
    rw [handle, href, ok_bind] at h
    split at h
    · cases h
      exact .unregistered ref.key
    · rename_i handler hkey
      obtain ⟨f, hf, rfl⟩ := mapError_eq_error.1 h
      exact .handler ref.key handler _ hkey hf

theorem reduction_residual {ops : List Operation} {op : Operation} {e : EngineError}
    (hmode : ∃ mode, OutputMode.ofArgument (op.argument "out") = .ok mode)
    (h : reduction ops op = .error e) : e.Residual := by
  obtain ⟨mode, hmode⟩ := hmode
  rw [reduction, hmode, ok_bind] at h
  cases mode with
  | raw => cases h
  | firstServe => cases h
  | object =>
    simp only [reduce] at h
    split at h
    · cases h
    · cases h
      exact .malformed _
  | property =>
    simp only [reduce] at h
    split at h <;> cases h

theorem output_residual {ops : List Operation} {e : EngineError}
    (hmode : ∀ op ∈ ops, ∃ mode, OutputMode.ofArgument (op.argument "out") = .ok mode)
    (h : output ops = .error e) : e.Residual := by
  rw [output, bind_pure_comp, map_eq_error] at h
  obtain ⟨op, hop, h⟩ := exists_error_of_mapM h
  exact reduction_residual (hmode op (List.mem_filter.1 hop).1) h

/-- Nothing that validation looks at can stop an accepted list. The induction is on why the list is
    accepted, which is nested as the lists are. -/
theorem eval_residual {ops : List Operation} {stop : Stop} (haccepted : Accepted ops)
    (h : eval host resource seed depth ops = .error stop) : stop.Residual host := by
  induction haccepted generalizing depth stop with
  | @intro ops hsound hparsed hnested ih =>
    rw [eval_ok (Queues.classify_eq_ok.2 ⟨fun op hop => (hsound op hop).wellKeyed, rfl⟩), body] at h
    rcases bind_eq_error.1 h with hcarry | ⟨carried, hcarried, h⟩
    · obtain ⟨op, hop, hcarry⟩ := exists_error_of_mapM hcarry
      rcases carry_eq_error.1 hcarry with ⟨e, he, -⟩ | ⟨below, hbelow, h⟩
      · exact absurd he (hparsed op hop e)
      · exact ih op hop below hbelow h
    rcases bind_eq_error.1 h with hproduce | ⟨done, hdone, h⟩
    · -- What validation has seen of an operation still holds of it with the result of `with`.
      obtain ⟨op', hop', hproduce⟩ := exists_error_of_mapM hproduce
      obtain ⟨op, hop, hcarry⟩ := (exists_ok_of_mapM hcarried).2 op' hop'
      obtain ⟨p, hprimary, hhandle⟩ := produce_eq_error.1 hproduce
      have hsame := (carry_frame hcarry).1
      have hp : p ∈ op.primaries := by
        rw [← Operation.primaries_congr hsame]
        exact List.mem_of_mem_head? hprimary
      refine handle_residual (fun htakes => ?_) (fun hreads => ?_) hhandle
      · rw [FileRef.ofOperation_congr hsame]
        exact (hsound op hop).target p hp htakes
      · exact (isSome_withValue_of_carry hcarry).2 ((hsound op hop).input p hp hreads)
    · obtain ⟨e, he, rfl⟩ := mapError_eq_error.1 h
      have hsame := (map_directives_of_produce hdone).trans (map_directives_of_carry hcarried)
      refine output_residual ((Operation.forall_directives (fun fields =>
        ∃ mode, OutputMode.ofArgument (fields.get? "out") = .ok mode) hsame).2 fun op hop => ?_) he
      exact (hsound op hop).mode

/-! ## What a success shows -/

theorem text_eq_ok {p : Primary} {op : Operation} {s : String} (h : text p op = .ok s) :
    op.withValue.isSome := by
  have h := mapError_eq_ok.1 h
  rw [Context.withText] at h
  split at h
  · rename_i hvalue
    rw [hvalue]
    rfl
  · cases h
  · cases h

/-- A primary directive that answers has been given what it needs. -/
theorem handle_eq_ok {p : Primary} {op : Operation} {v : Json}
    (h : handle host resource seed depth p op = .ok v) :
    (p.takesFileRef → ∃ ref, FileRef.ofOperation p op = .ok ref) ∧
      (p.readsWith → op.withValue.isSome) := by
  have hbind {ref} (h : target p op = .ok ref) : ∃ ref, FileRef.ofOperation p op = .ok ref :=
    ⟨ref, mapError_eq_ok.1 h⟩
  cases p with
  | raw => exact ⟨nofun, nofun⟩
  | file | njk | custom =>
    obtain ⟨ref, href, -⟩ := bind_eq_ok.1 h
    exact ⟨fun _ => hbind href, nofun⟩
  | scss | md | yml =>
    obtain ⟨s, hs, -⟩ := bind_eq_ok.1 h
    exact ⟨nofun, fun _ => text_eq_ok hs⟩

theorem output_eq_ok {ops : List Operation} {v : Json} (h : output ops = .ok v) :
    ∀ op ∈ ops, ∃ mode, OutputMode.ofArgument (op.argument "out") = .ok mode := by
  intro op hop
  cases hargument : op.argument "out" with
  | none => exact ⟨.raw, rfl⟩
  | some argument =>
    obtain ⟨outs, houts, -⟩ := bind_eq_ok.1 h
    obtain ⟨out, -, hreduction⟩ := (exists_ok_of_mapM houts).1 op
      (List.mem_filter.2 ⟨hop, by rw [hargument]; rfl⟩)
    obtain ⟨mode, hmode, -⟩ := bind_eq_ok.1 hreduction
    exact ⟨mode, hargument ▸ hmode⟩

/-- A list that has a value is accepted. -/
theorem accepted_of_eval {ops : List Operation} {depth : Nat} {v : Json}
    (h : eval host resource seed depth ops = .ok v) : Accepted ops := by
  cases hclassify : Queues.classify resource ops with
  | error e =>
    rw [eval_error hclassify] at h
    cases h
  | ok q =>
    have hkeyed := (Queues.classify_eq_ok.1 hclassify).1
    rw [eval_ok hclassify, body] at h
    obtain ⟨carried, hcarried, h⟩ := bind_eq_ok.1 h
    obtain ⟨done, hdone, h⟩ := bind_eq_ok.1 h
    have hsame := (map_directives_of_produce hdone).trans (map_directives_of_carry hcarried)
    have hmode := (Operation.forall_directives (fun fields =>
      ∃ mode, OutputMode.ofArgument (fields.get? "out") = .ok mode) hsame).1
        (output_eq_ok (mapError_eq_ok.1 h))
    refine .intro (fun op hop => ?_) (fun op hop e he => ?_) (fun op hop below hbelow => ?_)
    · -- The directive has been run, so what it needs has been there.
      obtain ⟨op', hop', hcarry⟩ := (exists_ok_of_mapM hcarried).1 op hop
      obtain ⟨_, -, hproduce⟩ := (exists_ok_of_mapM hdone).1 op' hop'
      have hsame := (carry_frame hcarry).1
      have hneeds : ∀ p ∈ op.primaries,
          (p.takesFileRef → ∃ ref, FileRef.ofOperation p op = .ok ref) ∧
          (p.readsWith → (op.argument "with").isSome ∨ op.withValue.isSome) := fun p hp => by
        have hprimary : op'.primary? = some p := by
          rw [(hkeyed op hop).primaries_eq, Option.mem_toList] at hp
          rw [Operation.primary?, Operation.primaries_congr hsame]
          exact hp
        rw [produce, hprimary] at hproduce
        obtain ⟨v, hv, -⟩ := bind_eq_ok.1 hproduce
        rw [← FileRef.ofOperation_congr hsame, ← isSome_withValue_of_carry hcarry]
        exact handle_eq_ok hv
      exact ⟨hkeyed op hop, hmode op hop, fun p hp => (hneeds p hp).1, fun p hp => (hneeds p hp).2⟩
    · obtain ⟨op', -, hcarry⟩ := (exists_ok_of_mapM hcarried).1 op hop
      rw [carry_eq, he] at hcarry
      cases hcarry
    · obtain ⟨op', -, hcarry⟩ := (exists_ok_of_mapM hcarried).1 op hop
      have hlt := Operation.Nests.maxNesting_lt hbelow hop
      rw [carry_eq, hbelow] at hcarry
      obtain ⟨v, hv, -⟩ := bind_eq_ok.1 hcarry
      exact accepted_of_eval hv
termination_by Operation.maxNesting ops

end Direct

namespace Context

variable {host : Host} {nested : Evaluator} {ctx : Context}

/-! ## Whole contexts -/

/-- A queue that succeeds has had a success from each of its actions. -/
theorem dispatch_of_runQueue {q : List Queued} {c c' : Context} {p : Progress}
    (h : (runQueue host nested ctx q c p).1 = .ok c') :
    ∀ d ∈ q, ∃ p o, (ctx.dispatch host nested d p).1 = .ok o := by
  induction q generalizing c p with
  | nil => exact List.forall_mem_nil _
  | cons d q ih =>
    obtain ⟨o, p', hd, hq⟩ := andThen_eq_ok.1 h
    exact List.forall_mem_cons.2 ⟨⟨p, o, hd ▸ rfl⟩, ih hq⟩

/-- A primary directive that has been run already is not run again. -/
theorem executed_of_dispatch {i : Nat} {directive : Primary} {p : Progress} {o : Outcome}
    (h : (ctx.dispatch host nested ⟨i, .primary directive⟩ p).1 = .ok o) :
    (ctx.operation i).executed = false := by
  simp only [dispatch, startPrimary] at h
  cases hexecuted : (ctx.operation i).executed with
  | false => rfl
  | true =>
    rw [hexecuted] at h
    cases h

theorem startable_of_runQueue {c c' : Context} {p : Progress}
    (h : (runQueue host nested ctx (Queues.ofOperations ctx.operations).primary c p).1 = .ok c') :
    ∀ op ∈ ctx.operations, op.Startable := by
  intro op hop hprimary
  obtain ⟨directive, hdirective⟩ := Option.isSome_iff_exists.1 hprimary
  obtain ⟨k, hk⟩ := List.mem_iff_getElem?.1 hop
  have hqueued : ⟨k, .primary directive⟩ ∈ (Queues.ofOperations ctx.operations).primary :=
    Queued.mem_listing.2 ⟨k, op, hk, (Nat.zero_add k).symm,
      List.mem_map_of_mem (List.mem_of_mem_head? hdirective)⟩
  obtain ⟨_, _, hdispatch⟩ := dispatch_of_runQueue h _ hqueued
  have hexecuted := executed_of_dispatch hdispatch
  rwa [operation, hk] at hexecuted

theorem startable_of_runPhases (ctx : Context) {qs : List (List Queued)} {j : Journal} {v : Json}
    (h : (runPhases host nested ((Queues.ofOperations ctx.operations).primary :: qs) ctx j).1 =
      .ok v) : ∀ op ∈ ctx.operations, op.Startable := by
  rw [runPhases_cons] at h
  split at h
  · cases h
  · rename_i hrun
    exact startable_of_runQueue (congrArg Prod.fst hrun)

/-- An evaluation that succeeds has found no primary directive run already. -/
theorem startable_of_process {j : Journal} {v : Json} (h : (ctx.process host j).1 = .ok v) :
    ∀ op ∈ ctx.operations, op.Startable := by
  obtain ⟨q, ops, hclassify, hcarried⟩ := carry_of_process h
  obtain ⟨j', -, hprocess⟩ := process_of_carry hclassify hcarried j
  have hqueues : ctx.opened.queues = Queues.ofOperations ops :=
    Queues.ofOperations_congr (Direct.map_directives_of_carry hcarried).symm
  suffices hops : ∀ op ∈ ops, op.Startable from fun op hop =>
    (Direct.startable_of_carry hcarried).1 hops op (Operation.mem_withDefaults_of_mem hop)
  rw [hprocess, hqueues] at h
  exact startable_of_runPhases { ctx.opened with operations := ops } h

/-- What a list that is accepted can still fail with, evaluated anywhere for the first time. Either
    the engine refuses something that only data or handlers decide, or a collaborator has answered
    just this failure. -/
theorem process_of_validate {name : String} {ops : List Operation}
    (hvalid : validate name ops = .ok ()) (hnew : ∀ op ∈ ops, op.executed = false) (host : Host)
    (seed : Json) (j : Journal) {f : Failure}
    (hf : ((root name seed ops).process host j).1 = .error f) :
    (∃ e, Direct.eval host name seed 0 ops = .error (.refused e) ∧ f = .ofEngine e ∧ e.Residual) ∨
      (Direct.eval host name seed 0 ops = .error (.failed f) ∧ host.Answers f) := by
  have hfresh : (root name seed ops).Fresh := ⟨rfl, fun op hop _ => hnew op hop⟩
  have heval := hfresh.process_fst host j
  rw [hf] at heval
  obtain ⟨stop, hstop, rfl⟩ := mapError_eq_error.1 heval.symm
  have hresidual := Direct.eval_residual (validate_eq_ok.1 hvalid) hstop
  cases stop with
  | refused e => exact .inl ⟨e, hstop, rfl, hresidual⟩
  | failed f => exact .inr ⟨hstop, hresidual⟩

/-- Whether a handler is registered is no matter of the list. -/
theorem process_unregistered_handler :
    let ops : List Operation :=
      [{ directives :=
          [("md", .null), ("with", .obj [("custom", .arr [.str "menus", .str "main"])])] }]
    let j : Journal := ⟨.root "page", [], []⟩
    let f : Failure := .ofEngine (.customHandlerNotFound "menus/main")
    validate "page" ops = .ok () ∧ (∀ op ∈ ops, op.executed = false) ∧
      ((root "page" .null ops).process .bare j).1 = .error f ∧
      ((∃ e, Direct.eval .bare "page" .null 0 ops = .error (.refused e) ∧ f = .ofEngine e ∧
          e.Residual) ∨
        (Direct.eval .bare "page" .null 0 ops = .error (.failed f) ∧ Host.bare.Answers f)) := by
  intro ops j f
  have hvalid : validate "page" ops = .ok () := by rfl
  have hnew : ∀ op ∈ ops, op.executed = false := by decide
  have hfails : ((root "page" .null ops).process .bare j).1 = .error f := by rfl
  exact ⟨hvalid, hnew, hfails, process_of_validate hvalid hnew .bare .null j hfails⟩

/-- What validation refuses fails when it is evaluated. A list whose keys are refused fails with
    the same error, and nothing has happened before: no file is read, no handler called and no node
    added to the tree. -/
theorem process_of_validate_error {name : String} {ops : List Operation} {e : EngineError}
    (h : validate name ops = .error e) (host : Host) (seed : Json) (j : Journal) :
    (∃ f, ((root name seed ops).process host j).1 = .error f) ∧
      ∀ e', Queues.classify name ops = .error e' →
        e' = e ∧
          (root name seed ops).process host j = (.error (.ofEngine e), root name seed ops, j) := by
  constructor
  · -- A success would have to be that of direct evaluation, as nothing has been run before.
    cases hprocess : ((root name seed ops).process host j).1 with
    | error f => exact ⟨f, rfl⟩
    | ok v =>
      have hfresh : (root name seed ops).Fresh := ⟨rfl, startable_of_process hprocess⟩
      rw [hfresh.process_fst, mapError_eq_ok] at hprocess
      have haccepted : Accepted ops := Direct.accepted_of_eval hprocess
      rw [validate_eq_ok.2 haccepted] at h
      cases h
  · intro e' he'
    rw [validate_of_classify he'] at h
    cases h
    exact ⟨rfl, by rw [process_eq, processVia_error he']⟩

theorem process_misspelt_key :
    let ops : List Operation :=
      [{ directives := [("raw", .null)] }, { directives := [("fil", .null)] }]
    let j : Journal := ⟨.root "page", [], []⟩
    validate "page" ops = .error (.unknownDirective "page" 1 "fil") ∧
      (root "page" .null ops).process .bare j =
        (.error (.ofEngine (.unknownDirective "page" 1 "fil")), root "page" .null ops, j) :=
  ⟨by rfl,
    ((process_of_validate_error (by rfl) .bare .null ⟨.root "page", [], []⟩).2 _ (by rfl)).2⟩

end Context

end Folio
