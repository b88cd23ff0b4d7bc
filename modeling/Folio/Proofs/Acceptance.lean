import Folio.Proofs.Nesting
import Folio.Validation

/-!
# What validation accepts

Validation goes through the queues of a list and then through every list nested in it. What it
accepts is a property of the list alone, whatever the name of the resource: each operation is
*sound*, the argument of each `with` is a list, and that list is accepted again.

* `Validation.Accepted`: the lists that validation accepts, by recursion on nesting;
* `Validation.validate_eq_ok`: these are the lists it accepts indeed.
-/

namespace Folio.Validation

open Result

/-! ## One operation -/

/-- An operation that is accepted, as far as it does not depend on what it nests: its keys are
    known, its output mode exists, and its primary directive is given what it needs. -/
structure Sound (op : Operation) : Prop where
  wellKeyed : op.WellKeyed
  mode : ∃ mode, OutputMode.ofArgument (op.argument "out") = .ok mode
  target : ∀ p ∈ op.primaries, p.takesFileRef → ∃ ref, FileRef.ofOperation p op = .ok ref
  input : ∀ p ∈ op.primaries, p.readsWith →
    (op.argument "with").isSome ∨ op.withValue.isSome

theorem checkPrimary_eq_ok {p : Primary} {op : Operation} :
    checkPrimary p op = .ok () ↔
      (p.takesFileRef → ∃ ref, FileRef.ofOperation p op = .ok ref) ∧
      (p.readsWith → (op.argument "with").isSome ∨ op.withValue.isSome) := by
  have hinput : (if p.readsWith && (op.argument "with").isNone && op.withValue.isNone then
        Except.error (.missingInput p.name)
      else pure () : Except EngineError Unit) = .ok () ↔
      (p.readsWith → (op.argument "with").isSome ∨ op.withValue.isSome) := by
    cases p.readsWith <;> cases op.argument "with" <;> cases op.withValue <;>
      simp [pure, Except.pure]
  rw [checkPrimary]
  cases p.takesFileRef with
  | false => simpa using hinput
  | true => simp only [if_true, bind_eq_ok, forall_const, hinput, exists_and_right]

/-! ## One list -/

theorem checkOutputs_eq_ok {ops : List Operation} {q : List Queued} :
    checkOutputs ops q = .ok () ↔
      ∀ d ∈ q, ∃ mode,
        OutputMode.ofArgument ((ops[d.index]?.getD {}).argument "out") = .ok mode := by
  induction q with
  | nil => simp [checkOutputs]
  | cons d q ih => simp only [checkOutputs, bind_eq_ok, ih, List.forall_mem_cons, exists_and_right]

theorem checkPrimaries_eq_ok {ops : List Operation} {q : List Queued} :
    checkPrimaries ops q = .ok () ↔
      ∀ d ∈ q, ∀ p, d.directive = .primary p → checkPrimary p (ops[d.index]?.getD {}) = .ok () := by
  induction q with
  | nil => simp [checkPrimaries]
  | cons d q ih =>
    rw [checkPrimaries, List.forall_mem_cons, ← ih]
    cases d.directive with
    | primary p => simp [check_eq_ok]
    | _ => simp

theorem checkNested_eq_ok {check : List Operation → Except EngineError Unit}
    {ops : List Operation} {q : List Queued} :
    checkNested check ops q = .ok () ↔
      ∀ d ∈ q, d.directive = .secondary .nested →
        ∃ below, Operation.parseList "with" (((ops[d.index]?.getD {}).argument "with").getD .null) =
          .ok below ∧ check below = .ok () := by
  induction q with
  | nil => simp [checkNested]
  | cons d q ih =>
    rw [checkNested, List.forall_mem_cons, ← ih]
    cases d.directive with
    | secondary s =>
      cases s with
      | nested =>
        generalize Operation.parseList "with" _ = parsed
        cases parsed <;> simp [check_eq_ok]
      | key => simp
    | _ => simp

theorem checkOutputs_ofOperations {ops : List Operation} :
    checkOutputs ops (Queues.ofOperations ops).output = .ok () ↔
      ∀ op ∈ ops, ∃ mode, OutputMode.ofArgument (op.argument "out") = .ok mode := by
  rw [checkOutputs_eq_ok]
  refine (Queued.forall_listing (P := fun op _ =>
    ∃ mode, OutputMode.ofArgument (op.argument "out") = .ok mode)).trans
    (forall₂_congr fun op _ => ⟨fun h => ?_, fun h _ _ => h⟩)
  -- Without `out` nothing has been checked, but then the mode is the default one.
  by_cases hout : .output ∈ op.runs
  · exact h .output (List.mem_filter.2 ⟨hout, rfl⟩)
  · rw [Operation.mem_runs, Directive.name, Option.not_isSome_iff_eq_none] at hout
    exact ⟨.raw, hout ▸ rfl⟩

theorem checkPrimaries_ofOperations {ops : List Operation} :
    checkPrimaries ops (Queues.ofOperations ops).primary = .ok () ↔
      ∀ op ∈ ops, ∀ p ∈ op.primaries, checkPrimary p op = .ok () := by
  rw [checkPrimaries_eq_ok]
  refine (Queued.forall_listing (P := fun op d =>
    ∀ p, d = .primary p → checkPrimary p op = .ok ())).trans
    (forall₂_congr fun op _ => ?_)
  simp only [List.forall_mem_map, Directive.primary.injEq, forall_eq']

theorem checkNested_ofOperations {check : List Operation → Except EngineError Unit}
    {ops : List Operation} :
    checkNested check ops (Queues.ofOperations ops).secondary = .ok () ↔
      ∀ op ∈ ops, ∀ parsed, op.nested? = some parsed →
        ∃ below, parsed = .ok below ∧ check below = .ok () := by
  rw [checkNested_eq_ok]
  refine (Queued.forall_listing (P := fun op d => d = .secondary .nested →
    ∃ below, Operation.parseList "with" ((op.argument "with").getD .null) = .ok below ∧
      check below = .ok ())).trans (forall₂_congr fun op _ => ?_)
  have hwith : .nested ∈ op.secondaries ↔ (op.argument "with").isSome := Operation.mem_secondaries
  rw [List.forall_mem_map, Operation.nested?]
  cases hargument : op.argument "with" with
  | none =>
    rw [hargument] at hwith
    refine ⟨fun _ _ h => absurd h (by simp), ?_⟩
    rintro - s hs hnested
    cases hnested
    exact absurd (hwith.1 hs) Bool.false_ne_true
  | some argument =>
    have hmem := hwith.2 (hargument ▸ rfl)
    constructor
    · rintro h _ hparsed
      cases hparsed
      exact h .nested hmem rfl
    · rintro h s - -
      exact h _ rfl

/-- One list is accepted when its operations are sound and what each of them nests is accepted. -/
theorem checkVia_eq_ok {check : List Operation → Except EngineError Unit} {resource : String}
    {ops : List Operation} :
    checkVia check resource ops = .ok () ↔
      (∀ op ∈ ops, Sound op) ∧
      ∀ op ∈ ops, ∀ parsed, op.nested? = some parsed →
        ∃ below, parsed = .ok below ∧ check below = .ok () := by
  rw [checkVia, bind_eq_ok]
  simp only [Queues.classify_eq_ok, check_eq_ok]
  constructor
  · rintro ⟨_, ⟨hkeyed, rfl⟩, houtputs, hprimaries, hnested⟩
    rw [checkOutputs_ofOperations] at houtputs
    rw [checkPrimaries_ofOperations] at hprimaries
    refine ⟨fun op hop => ⟨hkeyed op hop, houtputs op hop, fun p hp => ?_, fun p hp => ?_⟩,
      checkNested_ofOperations.1 hnested⟩
    · exact (checkPrimary_eq_ok.1 (hprimaries op hop p hp)).1
    · exact (checkPrimary_eq_ok.1 (hprimaries op hop p hp)).2
  · rintro ⟨hsound, hnested⟩
    refine ⟨_, ⟨fun op hop => (hsound op hop).wellKeyed, rfl⟩, ?_, ?_, ?_⟩
    · exact checkOutputs_ofOperations.2 fun op hop => (hsound op hop).mode
    · exact checkPrimaries_ofOperations.2 fun op hop p hp =>
        checkPrimary_eq_ok.2 ⟨(hsound op hop).target p hp, (hsound op hop).input p hp⟩
    · exact checkNested_ofOperations.2 hnested

/-! ## All lists -/

/-- The lists that validation accepts. -/
inductive Accepted : List Operation → Prop
  | intro {ops : List Operation} (sound : ∀ op ∈ ops, Sound op)
      (parsed : ∀ op ∈ ops, ∀ e, op.nested? ≠ some (.error e))
      (nested : ∀ op ∈ ops, ∀ below, op.Nests below → Accepted below) : Accepted ops

theorem accepted_iff {ops : List Operation} :
    Accepted ops ↔
      (∀ op ∈ ops, Sound op) ∧
      ∀ op ∈ ops, ∀ parsed, op.nested? = some parsed →
        ∃ below, parsed = .ok below ∧ Accepted below := by
  constructor
  · rintro ⟨hsound, hparsed, hnested⟩
    refine ⟨hsound, fun op hop parsed h => ?_⟩
    cases parsed with
    | error e => exact absurd h (hparsed op hop e)
    | ok below => exact ⟨below, rfl, hnested op hop below h⟩
  · rintro ⟨hsound, hnested⟩
    refine ⟨hsound, fun op hop e h => ?_, fun op hop below h => ?_⟩
    · obtain ⟨_, hok, -⟩ := hnested op hop _ h
      cases hok
    · obtain ⟨_, hok, haccepted⟩ := hnested op hop _ h
      cases hok
      exact haccepted

/-- Validation with enough levels accepts just these lists. -/
theorem validateWithin_eq_ok {resource : String} {levels : Nat} {ops : List Operation}
    (h : Operation.maxNesting ops ≤ levels) :
    validateWithin resource levels ops = .ok () ↔ Accepted ops := by
  induction levels generalizing ops with
  | zero =>
    rw [validateWithin, checkVia_eq_ok, accepted_iff]
    -- Nothing is nested here: an argument of `with` would count as one level.
    refine and_congr_right fun _ => forall₂_congr fun op hop =>
      forall₂_congr fun parsed hparsed => ?_
    obtain ⟨argument, hargument, -⟩ := Option.map_eq_some_iff.1 hparsed
    have hle := Nat.le_trans (Operation.nesting_le_maxNesting hop) h
    rw [Operation.nesting, hargument] at hle
    exact absurd hle (Nat.not_succ_le_zero _)
  | succ levels ih =>
    rw [validateWithin, checkVia_eq_ok, accepted_iff]
    refine and_congr_right fun _ => forall₂_congr fun op hop =>
      forall₂_congr fun parsed hparsed => ?_
    refine exists_congr fun below => and_congr_right fun hbelow => ih ?_
    subst hbelow
    have := Operation.Nests.maxNesting_lt hparsed hop
    omega

/-- An error of the keys of a list is reported before any other. -/
theorem validate_of_classify {resource : String} {ops : List Operation} {e : EngineError}
    (h : Queues.classify resource ops = .error e) : validate resource ops = .error e := by
  rw [validate]
  cases Operation.maxNesting ops <;> rw [validateWithin, checkVia, h, error_bind]

theorem validate_eq_ok {resource : String} {ops : List Operation} :
    validate resource ops = .ok () ↔ Accepted ops :=
  validateWithin_eq_ok (Nat.le_refl _)

end Folio.Validation
