import Folio.Failure

/-!
# Reports of failures

A failure is told apart by its cause alone, however many contexts it arose in; the contexts only add
to the words. The outermost words stand first, and all others below them in numbered lines.

* `Failure.messageLines`: the lines of a message;
* `Failure.chainMessage_eq`: the message of a failure is made of them;
* `Failure.report_inContext`: what one more context leaves of a report;
* `Failure.report_wrapped`: the report of a cause in any contexts;
* `Failure.report_file`: of the faults of a file only one comes with advice.
-/

namespace Folio.Failure

/-! ## Messages -/

/-- A line with its number. -/
def numberedLine (n : Nat) (text : String) : String := s!"  {n}: {text}"

/-- The lines of the message for a text in some contexts, outermost first. -/
def messageLines (contexts : List String) (text : String) : List String :=
  match contexts with
  | [] => [text]
  | outermost :: inner =>
    outermost :: "" :: "Caused by:" ::
      (inner ++ [text]).mapIdx fun i text => numberedLine (i + 1) text

theorem numberedLines_cons (n : Nat) (text : String) (rest : List String) :
    numberedLines n (text :: rest) =
      "\n" ++ (numberedLine n text ++ numberedLines (n + 1) rest) := by
  have hindent : "\n  " = "\n" ++ "  " := rfl
  simp only [numberedLines, numberedLine, toString, hindent, String.append_assoc]

/-- Numbered lines below a text are the lines after it. -/
theorem append_numberedLines (front : String) (n : Nat) (texts : List String) :
    front ++ numberedLines n texts =
      "\n".intercalate (front :: texts.mapIdx fun i text => numberedLine (i + n) text) := by
  induction texts generalizing front n with
  | nil => simp [numberedLines]
  | cons text rest ih =>
    have hnext : (fun i text => numberedLine (i + 1 + n) text) =
        fun i text => numberedLine (i + (n + 1)) text := by
      funext i text
      rw [Nat.add_right_comm, Nat.add_assoc]
    rw [numberedLines_cons, ih, List.mapIdx_cons, Nat.zero_add, hnext,
      String.intercalate_cons_cons, String.append_assoc]

/-- The message of a failure is made of its lines. -/
theorem chainMessage_eq (f : Failure) :
    f.chainMessage = "\n".intercalate (messageLines f.contexts f.cause.text) := by
  obtain ⟨contexts, cause⟩ := f
  cases contexts with
  | nil => simp [chainMessage, chain, messageLines]
  | cons outermost inner =>
    have hheading : "\n\nCaused by:" = "\n" ++ ("" ++ ("\n" ++ "Caused by:")) := rfl
    obtain ⟨next, rest, hrest⟩ : ∃ next rest, inner ++ [cause.text] = next :: rest :=
      List.exists_cons_of_ne_nil (List.append_ne_nil_of_right_ne_nil inner (List.cons_ne_nil _ _))
    calc chainMessage ⟨outermost :: inner, cause⟩
        = outermost ++ "\n\nCaused by:" ++ numberedLines 1 (inner ++ [cause.text]) := by
          simp only [chainMessage, chain, List.cons_append, hrest]
      _ = outermost ++ ("\n" ++ ("" ++ ("\n" ++
            ("Caused by:" ++ numberedLines 1 (inner ++ [cause.text]))))) := by
          rw [hheading]
          simp only [String.append_assoc]
      _ = "\n".intercalate (messageLines (outermost :: inner) cause.text) := by
          rw [append_numberedLines, messageLines, String.intercalate_cons_cons,
            String.intercalate_cons_cons]
          simp only [String.append_assoc]

/-! ## Reports -/

/-- One more context leaves suggestion and details as they are, and an error of the engine too. -/
theorem report_inContext (f : Failure) (context : String) :
    (f.inContext context).report.suggestion = f.report.suggestion ∧
      (f.inContext context).report.details = f.report.details := by
  obtain ⟨contexts, cause⟩ := f
  cases cause with
  | file fault => cases fault <;> exact ⟨rfl, rfl⟩
  | _ => exact ⟨rfl, rfl⟩

/-- An error of the engine is reported as it is, and any other cause with the whole message. -/
theorem report_error (f : Failure) : f.report.error =
    match f.cause with
    | .engine e => e
    | _ => .other f.chainMessage := by
  obtain ⟨contexts, cause⟩ := f
  cases cause with
  | engine e => cases e <;> rfl
  | file fault => cases fault <;> rfl
  | _ => rfl

/-- A cause in contexts, outermost first. -/
def wrapped (contexts : List String) (cause : Cause) : Failure :=
  contexts.foldr (fun context f => f.inContext context) { cause }

theorem wrapped_eq (contexts : List String) (cause : Cause) :
    wrapped contexts cause = ⟨contexts, cause⟩ := by
  induction contexts with
  | nil => rfl
  | cons context rest ih =>
    rw [wrapped, List.foldr_cons, ← wrapped, ih, inContext]

/-- Whatever contexts a cause arose in, suggestion and details are those for the cause itself. An
    error of the engine is reported as it is; otherwise all words are kept, outermost first. -/
theorem report_wrapped (contexts : List String) (cause : Cause) :
    (wrapped contexts cause).report.suggestion = (wrapped [] cause).report.suggestion ∧
      (wrapped contexts cause).report.details = (wrapped [] cause).report.details ∧
      (wrapped contexts cause).report.error =
        match cause with
        | .engine e => e
        | _ => .other ("\n".intercalate (messageLines contexts cause.text)) := by
  have hkept : (wrapped contexts cause).report.suggestion = (wrapped [] cause).report.suggestion ∧
      (wrapped contexts cause).report.details = (wrapped [] cause).report.details := by
    induction contexts with
    | nil => exact ⟨rfl, rfl⟩
    | cons context rest ih =>
      obtain ⟨hsuggestion, hdetails⟩ := report_inContext (wrapped rest cause) context
      exact ⟨hsuggestion.trans ih.1, hdetails.trans ih.2⟩
  refine ⟨hkept.1, hkept.2, ?_⟩
  rw [report_error, chainMessage_eq, wrapped_eq]

example : (wrapped ["rendering", "reading"] (.message "gone")).report.error =
    .other "rendering\n\nCaused by:\n  1: reading\n  2: gone" := by decide

/-- There is advice on a file exactly if it is missing. Any other fault is reported as a plain
    message of the same words would be. -/
theorem report_file (contexts : List String) (fault : FileFault) (text : String) :
    let r := (wrapped contexts (.file fault text)).report
    (r.suggestion.isSome ↔ fault = .notFound) ∧ (r.details.isSome ↔ fault = .notFound) ∧
      (fault ≠ .notFound → r = (wrapped contexts (.message text)).report) := by
  intro r
  have hr : r = (⟨contexts, .file fault text⟩ : Failure).report := by rw [← wrapped_eq]
  rw [hr, wrapped_eq]
  by_cases hfault : fault = .notFound
  · subst hfault
    exact ⟨iff_of_true rfl rfl, iff_of_true rfl rfl, fun h => absurd rfl h⟩
  · have hsame : (⟨contexts, .file fault text⟩ : Failure).report =
        (⟨contexts, .message text⟩ : Failure).report := by
      cases fault with
      | notFound => exact absurd rfl hfault
      | permissionDenied | isADirectory | notADirectory | invalidData | other => rfl
    rw [hsame]
    exact ⟨iff_of_false nofun hfault, iff_of_false nofun hfault, fun _ => rfl⟩

end Folio.Failure
