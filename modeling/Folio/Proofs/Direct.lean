import Folio.Proofs.Nesting

/-!
# Direct evaluation

What a resource evaluates to can be said by plain recursion on its list of operations, with no
queues, no indices and no defaults. First every operation takes up what its secondary directives
give it: a nested list is evaluated right there, one level deeper. Then every primary directive is
run on the operation as it is now, and at last every `out` reduces the data of the whole list, the
last one counting.

It is also said who stops an evaluation: the engine, which refuses something, or the host, where a
file, a renderer or a handler fails.

* `Direct.eval`: the value of a list of operations, or why there is none;
* `Direct.body_withDefaults`: a list with its defaults has the same value as without, so that
  evaluation need not mention them.
-/

namespace Folio

open Result

/-- A host that has nothing but the texts it is given: no files, no handlers, and renderers that
    change nothing. -/
def Host.bare : Host where
  contentFolder := ⟨"content"⟩
  fileText _ _ := .error { cause := .file .notFound "No such file or directory (os error 2)" }
  renderTemplate _ source _ := .ok source
  renderMarkdown text := text
  compileStyle text := .ok text
  readData text := .ok (.str text)
  handler? _ := none

/-- Why an evaluation stops. -/
inductive Stop where
  /-- The engine refuses something. -/
  | refused (e : EngineError)
  /-- The host has failed. -/
  | failed (f : Failure)
deriving DecidableEq

/-- The failure that an evaluation stops with. -/
def Stop.failure : Stop → Failure
  | .refused e => .ofEngine e
  | .failed f => f

namespace Direct

/-! ## Primary directives -/

/-- The text of `with` that a directive works on. -/
def text (directive : Primary) (op : Operation) : Except Stop String :=
  (Context.withText directive op).mapError .refused

/-- The file or handler that the argument of a directive names. -/
def target (directive : Primary) (op : Operation) : Except Stop FileRef :=
  (FileRef.ofOperation directive op).mapError .refused

/-- The text of a file below the content folder. -/
def fileText (host : Host) (ref : FileRef) : Except Stop String :=
  (host.fileText (host.contentPath ref.path) ref.name).mapError .failed

section

variable (host : Host) (resource : String) (seed : Json)

/-- What a primary directive makes of an operation. -/
def handle (depth : Nat) : Primary → Operation → Except Stop Json
  | .file, op => do
    let ref ← target .file op
    return .str (← fileText host ref)
  | .scss, op => do
    let source ← text .scss op
    return .str (← (host.compileStyle source).mapError .failed)
  | .md, op => do
    return .str (host.renderMarkdown (← text .md op))
  | .njk, op => do
    let ref ← target .njk op
    let source ← fileText host ref
    return .str (← (host.renderTemplate ref.name source op.withValue).mapError .failed)
  | .raw, op => return (op.argument "raw").getD .null
  | .yml, op => do
    let source ← text .yml op
    (host.readData source).mapError .failed
  | .custom, op => do
    let ref ← target .custom op
    match host.handler? ref.key with
    | none => throw (.refused (.customHandlerNotFound ref.key))
    | some handler =>
      (handler { resource, depth, input := seed, operation := op, target := ref }).result.mapError
        .failed

/-- An operation with the data of its primary directive. -/
def produce (depth : Nat) (op : Operation) : Except Stop Operation :=
  match op.primary? with
  | none => return op
  | some directive => do
    let v ← handle host resource seed depth directive op
    return { op with data := some v, executed := true }

/-! ## Outputs -/

/-- What the `out` of an operation reduces a list to. -/
def reduction (ops : List Operation) (op : Operation) : Except EngineError Json := do
  let mode ← OutputMode.ofArgument (op.argument "out")
  reduce mode (ops.filterMap Operation.data) (op.asValue <|> ops.findSome? Operation.asValue)

/-- The output of a list: that of its last `out`, or all data joined as text. -/
def output (ops : List Operation) : Except EngineError Json := do
  let outs ← (ops.filter fun op => (op.argument "out").isSome).mapM (reduction ops)
  return outs.getLast?.getD (.str (Json.joinTexts (ops.filterMap Operation.data)))

/-! ## Evaluation -/

/-- An operation with the seed as its key, if it has `as`. -/
def capture (op : Operation) : Operation :=
  { op with asValue := if (op.argument "as").isSome then some seed else op.asValue }

mutual

/-- The value of a list of operations at some depth. -/
def eval (depth : Nat) (ops : List Operation) : Except Stop Json :=
  match Queues.classify resource ops with
  | .error e => .error (.refused e)
  | .ok _ => do
    let carried ← carryAll depth ops
    let done ← carried.mapM (produce host resource seed depth)
    (output done).mapError .refused
termination_by (Operation.maxNesting ops, ops.length + 1)

/-- Every operation of a list with the results of its secondary directives. -/
def carryAll (depth : Nat) : List Operation → Except Stop (List Operation)
  | [] => return []
  | op :: rest => do
    let op ← carry depth op
    let rest ← carryAll depth rest
    return op :: rest
termination_by ops => (Operation.maxNesting ops, ops.length)
decreasing_by
  · exact Prod.Lex.right' _ (Nat.le_max_left _ _) (Nat.succ_pos _)
  · exact Prod.Lex.right' _ (Nat.le_max_right _ _) (Nat.lt_succ_self _)

/-- An operation with the results of its secondary directives. -/
def carry (depth : Nat) (op : Operation) : Except Stop Operation :=
  match hnested : op.nested? with
  | none => .ok (capture seed op)
  | some (.error e) => .error (.refused e)
  | some (.ok ops) => do
    let v ← eval (depth + 1) ops
    return { capture seed op with withValue := some v }
termination_by (op.nesting, 0)
decreasing_by
  exact Prod.Lex.left _ _ (Operation.Nests.maxNesting_lt_nesting hnested)

end

end

/-! ## Laws -/

variable {host : Host} {resource : String} {seed : Json} {depth : Nat}

theorem carry_eq (op : Operation) :
    carry host resource seed depth op =
      match op.nested? with
      | none => .ok (capture seed op)
      | some (.error e) => .error (.refused e)
      | some (.ok ops) => do
        let v ← eval host resource seed (depth + 1) ops
        return { capture seed op with withValue := some v } := by
  rw [carry]
  split <;> rename_i h <;> rw [h]

/-- Secondary directives stop where the list of `with` is malformed, or with what stops that
    list. -/
theorem carry_eq_error {op : Operation} {stop : Stop} :
    carry host resource seed depth op = .error stop ↔
      (∃ e, op.nested? = some (.error e) ∧ stop = .refused e) ∨
      ∃ ops, op.Nests ops ∧ eval host resource seed (depth + 1) ops = .error stop := by
  rw [carry_eq]
  split <;> rename_i hparsed
  · simp [Operation.Nests, hparsed]
  · simp [Operation.Nests, hparsed, eq_comm]
  · simp [Operation.Nests, hparsed, map_eq_error]

/-- Primary directives stop with what stops the handling of the one that there is. -/
theorem produce_eq_error {op : Operation} {stop : Stop} :
    produce host resource seed depth op = .error stop ↔
      ∃ p, op.primary? = some p ∧ handle host resource seed depth p op = .error stop := by
  rw [produce]
  cases op.primary? with
  | none => simp [pure, Except.pure]
  | some p => simp [map_eq_error]

theorem carryAll_eq (ops : List Operation) :
    carryAll host resource seed depth ops = ops.mapM (carry host resource seed depth) := by
  induction ops with
  | nil => rw [carryAll, List.mapM_nil]
  | cons op ops ih => rw [carryAll, List.mapM_cons, ih]

/-- Evaluation of a list that is accepted. -/
def body (host : Host) (resource : String) (seed : Json) (depth : Nat) (ops : List Operation) :
    Except Stop Json := do
  let carried ← ops.mapM (carry host resource seed depth)
  let done ← carried.mapM (produce host resource seed depth)
  (output done).mapError .refused

theorem eval_error {ops : List Operation} {e : EngineError}
    (h : Queues.classify resource ops = .error e) :
    eval host resource seed depth ops = .error (.refused e) := by
  rw [eval, h]

theorem eval_ok {ops : List Operation} {q : Queues} (h : Queues.classify resource ops = .ok q) :
    eval host resource seed depth ops = body host resource seed depth ops := by
  rw [eval, h, carryAll_eq, body]

/-- Secondary directives touch neither the directives nor the data of an operation. -/
theorem carry_frame {op op' : Operation} (h : carry host resource seed depth op = .ok op') :
    op'.directives = op.directives ∧ op'.data = op.data ∧ op'.executed = op.executed := by
  rw [carry_eq] at h
  split at h
  · cases h
    exact ⟨rfl, rfl, rfl⟩
  · cases h
  · obtain ⟨v, -, h⟩ := bind_eq_ok.1 h
    cases h
    exact ⟨rfl, rfl, rfl⟩

/-- After the secondary directives there is a result of `with` if the operation has `with`, or was
    given one. -/
theorem isSome_withValue_of_carry {op op' : Operation}
    (h : carry host resource seed depth op = .ok op') :
    op'.withValue.isSome ↔ (op.argument "with").isSome ∨ op.withValue.isSome := by
  have hnested : op.nested?.isSome = (op.argument "with").isSome := Option.isSome_map
  rw [carry_eq] at h
  rw [← hnested]
  split at h <;> rename_i hparsed <;> rw [hparsed]
  · cases h
    simp [capture]
  · cases h
  · obtain ⟨v, -, h⟩ := bind_eq_ok.1 h
    cases h
    simp

/-- Primary directives touch only the data of an operation and the mark that it has been started. -/
theorem produce_frame {op op' : Operation} (h : produce host resource seed depth op = .ok op') :
    op'.directives = op.directives ∧ op'.withValue = op.withValue ∧ op'.asValue = op.asValue := by
  rw [produce] at h
  cases hprimary : op.primary? with
  | none =>
    rw [hprimary] at h
    cases h
    exact ⟨rfl, rfl, rfl⟩
  | some directive =>
    rw [hprimary] at h
    obtain ⟨v, -, h⟩ := bind_eq_ok.1 h
    cases h
    exact ⟨rfl, rfl, rfl⟩

theorem map_directives_of_carry {ops ops' : List Operation}
    (h : ops.mapM (carry host resource seed depth) = .ok ops') :
    ops'.map Operation.directives = ops.map Operation.directives :=
  map_of_mapM (fun _ _ h => (carry_frame h).1) h

theorem map_directives_of_produce {ops ops' : List Operation}
    (h : ops.mapM (produce host resource seed depth) = .ok ops') :
    ops'.map Operation.directives = ops.map Operation.directives :=
  map_of_mapM (fun _ _ h => (produce_frame h).1) h

theorem startable_of_carry {ops ops' : List Operation}
    (h : ops.mapM (carry host resource seed depth) = .ok ops') :
    (∀ op ∈ ops', op.Startable) ↔ ∀ op ∈ ops, op.Startable := by
  refine Operation.startable_congr (map_of_mapM (fun op op' h => ?_) h)
  obtain ⟨hdirectives, -, hexecuted⟩ := carry_frame h
  rw [hdirectives, hexecuted]

/-! ## Defaults do not show -/

theorem carry_default {op : Operation}
    (h : op = Operation.defaultInput ∨ op = Operation.defaultOutput) :
    carry host resource seed depth op = .ok op := by
  rw [carry_eq]
  rcases h with rfl | rfl <;> rfl

theorem produce_default {op : Operation}
    (h : op = Operation.defaultInput ∨ op = Operation.defaultOutput) :
    produce host resource seed depth op = .ok op := by
  rcases h with rfl | rfl <;> rfl

/-- An input in front adds nothing. -/
theorem output_defaultInput (ops : List Operation) :
    output (Operation.defaultInput :: ops) = output ops := rfl

/-- Where no operation has `out`, one at the end joins all data, as without it. -/
theorem output_defaultOutput {ops : List Operation}
    (h : ∀ op ∈ ops, ¬(op.argument "out").isSome) :
    output (ops ++ [Operation.defaultOutput]) = output ops := by
  have hnone : ops.filter (fun op => (op.argument "out").isSome) = [] :=
    List.filter_eq_nil_iff.2 h
  have hone : [Operation.defaultOutput].filter (fun op => (op.argument "out").isSome) =
      [Operation.defaultOutput] := rfl
  have hdata : (ops ++ [Operation.defaultOutput]).filterMap Operation.data =
      ops.filterMap Operation.data := by
    rw [List.filterMap_append]
    exact List.append_nil _
  rw [output, output, List.filter_append, hnone, hone, hdata]
  simp only [List.nil_append, List.mapM_cons, List.mapM_nil, reduction, hdata]
  rfl

theorem body_withInput (ops : List Operation) :
    body host resource seed depth (Operation.withInput ops) =
      body host resource seed depth ops := by
  rw [Operation.withInput]
  split
  · rfl
  · rw [body, body, List.mapM_cons, carry_default (.inl rfl)]
    cases ops.mapM (carry host resource seed depth) with
    | error e => rfl
    | ok carried =>
      change (Operation.defaultInput :: carried).mapM (produce host resource seed depth) >>= _ = _
      rw [List.mapM_cons, produce_default (.inl rfl)]
      simp only [ok_bind]
      cases carried.mapM (produce host resource seed depth) with
      | error e => rfl
      | ok done => exact congrArg (Except.mapError Stop.refused) (output_defaultInput done)

theorem body_withOutput (ops : List Operation) :
    body host resource seed depth (Operation.withOutput ops) =
      body host resource seed depth ops := by
  rw [Operation.withOutput]
  split
  · rfl
  · rename_i hout
    rw [body, body, List.mapM_append, List.mapM_cons, List.mapM_nil, carry_default (.inr rfl)]
    cases hcarried : ops.mapM (carry host resource seed depth) with
    | error e => rfl
    | ok carried =>
      change (carried ++ [Operation.defaultOutput]).mapM
        (produce host resource seed depth) >>= _ = _
      rw [List.mapM_append, List.mapM_cons, List.mapM_nil, produce_default (.inr rfl)]
      simp only [ok_bind]
      cases hdone : carried.mapM (produce host resource seed depth) with
      | error e => rfl
      | ok done =>
        -- No step has added an `out` to an operation that had none.
        have hnone : ∀ op ∈ done, ¬(op.argument "out").isSome := by
          have hsame := (map_directives_of_produce hdone).trans (map_directives_of_carry hcarried)
          rw [← Operation.any_runs_congr .output hsame] at hout
          exact fun op hop h =>
            hout (List.any_eq_true.2 ⟨op, hop, decide_eq_true (Operation.mem_runs.2 h)⟩)
        exact congrArg (Except.mapError Stop.refused) (output_defaultOutput hnone)

/-- Evaluation of a list is that of the list with its defaults. -/
theorem body_withDefaults (ops : List Operation) :
    body host resource seed depth (Operation.withDefaults ops) =
      body host resource seed depth ops := by
  rw [Operation.withDefaults, body_withOutput, body_withInput]

end Direct

end Folio
