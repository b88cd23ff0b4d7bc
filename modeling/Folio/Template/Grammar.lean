import Folio.Text

/-!
# Grammars that report the furthest mistake

A grammar is read by trying its alternatives in order and keeping the first that fits. Where none
does, the mistake lies at the furthest place at which some rule was tried in vain, so every reader
passes that place along, also when it succeeds.

* `Template.Reader`: what reads one kind of thing at a cursor;
* `Reader.rule`: a reader whose beginning counts as a place of a mistake;
* `Reader.orElse`, `Reader.many`, `Reader.optional`: alternatives and repetitions.
-/

namespace Folio.Template

/-- A place in a text. -/
structure Cursor where
  /-- What has not been read. -/
  rest : List Char
  /-- How many characters have been read. -/
  position : Nat

/-- What became of reading. -/
inductive Outcome (α : Type) where
  /-- Something was read. -/
  | found (value : α) (after : Cursor) (furthest : Nat)
  /-- It was not there. -/
  | missed (furthest : Nat)
  /-- What was read makes no sense, whatever follows. -/
  | refused (reason : String)

/-- Reads something at a cursor, given the furthest place of a mistake so far. -/
def Reader (α : Type) := Cursor → Nat → Outcome α

namespace Reader

variable {α β : Type}

/-- Reads nothing. -/
def succeed (a : α) : Reader α := fun c furthest => .found a c furthest

/-- Reads one thing and then another. -/
def andThen (p : Reader α) (q : α → Reader β) : Reader β := fun c furthest =>
  match p c furthest with
  | .found a c furthest => q a c furthest
  | .missed furthest => .missed furthest
  | .refused reason => .refused reason

instance : Monad Reader where
  pure := succeed
  bind := andThen

/-- Finds nothing. -/
def miss : Reader α := fun _ furthest => .missed furthest

/-- Refuses what has been read. -/
def refuse (reason : String) : Reader α := fun _ _ => .refused reason

/-- Reads the one where the other is not there. -/
def orElse (p q : Reader α) : Reader α := fun c furthest =>
  match p c furthest with
  | .missed furthest => q c furthest
  | outcome => outcome

/-- The first of some alternatives that is there. -/
def choice : List (Reader α) → Reader α
  | [] => miss
  | p :: rest => orElse p (choice rest)

/-- Something that may be missing. -/
def optional (p : Reader α) : Reader (Option α) := orElse (some <$> p) (succeed none)

/-- Whether something is there. -/
def present (p : Reader α) : Reader Bool := orElse ((fun _ => true) <$> p) (succeed false)

/-- A reader whose beginning is the place of the mistake where it finds nothing. -/
def rule (p : Reader α) : Reader α := fun c furthest =>
  match p c furthest with
  | .missed furthest => .missed (max furthest c.position)
  | outcome => outcome

/-- As many as there are, at most `fuel`. -/
def manyWithin (p : Reader α) : (fuel : Nat) → Reader (List α)
  | 0 => succeed []
  | fuel + 1 => fun c furthest =>
    match p c furthest with
    | .found a c furthest => ((a :: ·) <$> manyWithin p fuel) c furthest
    | .missed furthest => .found [] c furthest
    | .refused reason => .refused reason

/-- As many as there are, of things that are not empty. -/
def many (p : Reader α) : Reader (List α) := fun c furthest =>
  manyWithin p c.rest.length c furthest

/-- Characters of a class, at least `least` of them. -/
def run (least : Nat) (isPart : Char → Bool) : Reader (List Char) := fun c furthest =>
  let taken := c.rest.takeWhile isPart
  if taken.length < least then .missed furthest
  else .found taken ⟨c.rest.dropWhile isPart, c.position + taken.length⟩ furthest

/-- A text as it is. -/
def exactly (s : String) : Reader Unit := fun c furthest =>
  match Text.after? s.toList c.rest with
  | some rest => .found () ⟨rest, c.position + s.length⟩ furthest
  | none => .missed furthest

/-- The first of some texts that is there. -/
def oneOf : List (String × α) → Reader α
  | [] => miss
  | (s, a) :: rest => orElse ((fun _ => a) <$> exactly s) (oneOf rest)

/-- Any spaces, tabs and ends of lines. -/
def blanks : Reader Unit := fun c furthest =>
  let isBlank (x : Char) := x == ' ' || x == '\t' || x == '\r' || x == '\n'
  let taken := c.rest.takeWhile isBlank
  .found () ⟨c.rest.dropWhile isBlank, c.position + taken.length⟩ furthest

/-- A reader after any blanks. -/
def spaced (p : Reader α) : Reader α := do
  blanks
  p

/-- A text as it is, after any blanks. -/
def mark (s : String) : Reader Unit := spaced (exactly s)

/-- The end of the text. -/
def finish : Reader Unit := rule fun c furthest =>
  if c.rest.isEmpty then .found () c furthest else .missed furthest

/-- The place of the cursor. -/
def here : Reader Cursor := fun c furthest => .found c c furthest

end Reader

/-- The line of a place in a text, counted from one. -/
def lineAt (source : List Char) (position : Nat) : Nat := (source.take position).count '\n' + 1

end Folio.Template
