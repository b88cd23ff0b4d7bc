import Folio.Proofs.Fields
import Folio.Proofs.Lexemes
import Folio.Run

/-!
# JSON text that is read back

A value may be written in more than one way, on one line or on many, with an indentation. However it
is done, the same value is read back, as long as its numbers are whole: doubles are rounded by the
reader. What the ways of writing have in common is laid down as a `Json.Spelling`. Arrays and
objects may be nested as deep as the reader follows; the induction is on the number of levels it has
left.

* `Json.Whole`: values without doubles;
* `Json.Spelling`: a way of writing values, of which `Json.Spelling.compact` and
  `Json.Spelling.pretty` are the ones there are;
* `Json.Spelling.reads_value`: a value that is written is read from the front of a text;
* `Json.Spelling.parse_chars`: a text that is written is read as its value;
* `Json.readInput_printed`: what is printed may be given as input, and so may be joined from parts.
-/

namespace Folio.Json

open Result Reader

/-! ## Values without doubles -/

mutual

/-- Every number of the value is a whole number of 64 bits. -/
def Whole : Json → Prop
  | .num (.double _) => False
  | .arr items => WholeItems items
  | .obj fields => WholeFields fields
  | _ => True

/-- Every item is without doubles. -/
def WholeItems : List Json → Prop
  | [] => True
  | v :: rest => v.Whole ∧ WholeItems rest

/-- The value of every field is without doubles. -/
def WholeFields : List (String × Json) → Prop
  | [] => True
  | (_, v) :: rest => v.Whole ∧ WholeFields rest

end

theorem wholeItems_iff {items : List Json} : WholeItems items ↔ ∀ v ∈ items, v.Whole := by
  induction items with
  | nil => simp [WholeItems]
  | cons v items ih => rw [WholeItems, ih, List.forall_mem_cons]

theorem wholeFields_iff {fields : Fields} : WholeFields fields ↔ ∀ f ∈ fields, f.2.Whole := by
  induction fields with
  | nil => simp [WholeFields]
  | cons f fields ih => rw [WholeFields, ih, List.forall_mem_cons]

/-! ## Ways of writing -/

/-- Entries with commas between them, each behind some blanks. -/
def listing {α : Type} (pad : List Char) (text : α → List Char) : List α → List Char
  | [] => []
  | a :: rest => pad ++ text a ++ rest.flatMap fun a => ',' :: (pad ++ text a)

/-- What follows an opening bracket: nothing but the closing one where there are no entries, and
    otherwise the entries and some blanks before it. -/
def block {α : Type} (bracket : Char) (pad close : List Char) (text : α → List Char) :
    List α → List Char
  | [] => [bracket]
  | a :: rest => listing pad text (a :: rest) ++ (close ++ [bracket])

/-- A field: its name, a colon, some blanks and its value. -/
def fieldChars (space : List Char) (text : Json → List Char) (f : String × Json) : List Char :=
  quote f.1 ++ ':' :: (space ++ text f.2)

/-- A way of writing values. -/
structure Spelling where
  /-- The characters of a value that stands at a level. -/
  chars : Nat → Json → List Char
  /-- What stands before an entry at a level, and before the bracket that closes one. -/
  line : Nat → List Char
  /-- What stands behind a colon. -/
  space : List Char
  line_blank : ∀ level, ∀ x ∈ line level, isBlank x
  space_blank : ∀ x ∈ space, isBlank x
  scalar : ∀ level v, v.depth = 0 → chars level v = v.compactChars
  arr : ∀ level items, chars level (.arr items) =
    '[' :: block ']' (line (level + 1)) (line level) (chars (level + 1)) items
  obj : ∀ level fields, chars level (.obj fields) =
    '{' :: block '}' (line (level + 1)) (line level) (fieldChars space (chars (level + 1))) fields

/-- What is written entry by entry, with commas between them, is a listing. -/
theorem eq_listing {α : Type} {pad : List Char} {text : α → List Char}
    (written : List α → List Char)
    (hlast : ∀ a, written [a] = pad ++ text a)
    (hmore : ∀ a b rest, written (a :: b :: rest) = pad ++ text a ++ ',' :: written (b :: rest))
    (a : α) (as : List α) : written (a :: as) = listing pad text (a :: as) := by
  induction as generalizing a with
  | nil => rw [hlast, listing, List.flatMap_nil, List.append_nil]
  | cons b as ih => rw [hmore, ih, listing, listing, List.flatMap_cons, List.cons_append]

theorem compactItems_cons (v : Json) (items : List Json) :
    compactItems (v :: items) = listing [] compactChars (v :: items) :=
  eq_listing compactItems (fun _ => rfl) (fun _ _ _ => rfl) v items

theorem compactFields_cons (f : String × Json) (fields : Fields) :
    compactFields (f :: fields) = listing [] (fieldChars [] compactChars) (f :: fields) :=
  eq_listing compactFields (fun _ => rfl) (fun _ _ _ => rfl) f fields

theorem prettyItems_cons (level : Nat) (v : Json) (items : List Json) :
    prettyItems level (v :: items) = listing (newline level) (prettyChars level) (v :: items) :=
  eq_listing (prettyItems level) (fun _ => rfl) (fun _ _ _ => rfl) v items

theorem prettyFields_cons (level : Nat) (f : String × Json) (fields : Fields) :
    prettyFields level (f :: fields) =
      listing (newline level) (fieldChars [' '] (prettyChars level)) (f :: fields) :=
  eq_listing (prettyFields level) (fun _ => by simp [prettyFields, fieldChars])
    (fun _ _ _ => by simp [prettyFields, fieldChars]) f fields

namespace Spelling

/-- All on one line, without blanks. -/
def compact : Spelling where
  chars _ := compactChars
  line _ := []
  space := []
  line_blank _ := List.forall_mem_nil _
  space_blank := List.forall_mem_nil _
  scalar _ _ _ := rfl
  arr _ items := by
    cases items with
    | nil => rfl
    | cons v items =>
      rw [compactChars, compactItems_cons]
      rfl
  obj _ fields := by
    cases fields with
    | nil => rfl
    | cons f fields =>
      rw [compactChars, compactFields_cons]
      rfl

/-- Each entry on a line of its own, indented. -/
def pretty : Spelling where
  chars := prettyChars
  line := newline
  space := [' ']
  line_blank level x hx := by
    rcases List.mem_cons.1 hx with rfl | hx
    · decide
    · rw [List.eq_of_mem_replicate hx]
      decide
  space_blank := List.forall_mem_singleton.2 (by decide)
  scalar level v hv := by
    cases v with
    | arr items => cases hv
    | obj fields => cases hv
    | bool b => cases b <;> rfl
    | _ => rfl
  arr level items := by
    cases items with
    | nil => rfl
    | cons v items =>
      rw [prettyChars, prettyItems_cons]
      · simp [block]
      · simp
  obj level fields := by
    cases fields with
    | nil => rfl
    | cons f fields =>
      rw [prettyChars, prettyFields_cons]
      · simp [block]
      · simp

end Spelling

/-! ## Entries between brackets -/

namespace Reader

variable {c : Cursor} {x y : Char} {rest pad close : List Char}

/-- A reader reads a value where its text stands and nothing follows that could belong to a
    number. -/
def ReadsAt {α : Type} (read : Cursor → Except ParseError (α × Cursor)) (text : List Char) (a : α) :
    Prop :=
  ∀ c rest, c.rest = text ++ rest → EndsNumber rest → Reads (read c) a rest

/-- How entries between brackets are read, one by one: each has to start with a certain character,
    all but the first stand behind a comma, and a bracket ends them. -/
structure Entries {α : Type} (run : Nat → Bool → Cursor → Except ParseError (List α × Cursor))
    (entry : Cursor → Except ParseError (α × Cursor)) (starts : Char → Prop) (bracket : Char) :
    Prop where
  bracket_mem : bracket ∈ [',', ']', '}']
  finish : ∀ fuel first c rest, c.skipBlanks.rest = bracket :: rest →
    Reads (run (fuel + 1) first c) [] rest
  first : ∀ fuel c x rest, c.skipBlanks.rest = x :: rest → starts x →
    run (fuel + 1) true c = (do
      let (a, c) ← entry c.skipBlanks
      let (rest, c) ← run fuel false c
      return (a :: rest, c))
  next : ∀ fuel c x rest rest', c.skipBlanks.rest = ',' :: rest →
    c.skipBlanks.advance.skipBlanks.rest = x :: rest' → starts x →
    run (fuel + 1) false c = (do
      let (a, c) ← entry c.skipBlanks.advance.skipBlanks
      let (rest, c) ← run fuel false c
      return (a :: rest, c))

/-- Blanks and a comma or a bracket end a number. -/
theorem endsNumber_close (hclose : ∀ x ∈ close, isBlank x) (hy : y ∈ [',', ']', '}'])
    (rest : List Char) : EndsNumber (close ++ y :: rest) := by
  have hends (x : Char) (hx : x ∈ [' ', '\n', '\t', '\r', ',', ']', '}']) :
      ¬x.isDigit ∧ x ≠ '.' ∧ x ≠ 'e' ∧ x ≠ 'E' := by
    simp only [List.mem_cons, List.not_mem_nil, or_false] at hx
    rcases hx with rfl | rfl | rfl | rfl | rfl | rfl | rfl <;> decide
  intro x hx
  refine hends x ?_
  cases close with
  | nil =>
    cases hx
    exact List.mem_append_right [' ', '\n', '\t', '\r'] hy
  | cons z close =>
    cases hx
    have hblank := of_decide_eq_true (hclose x List.mem_cons_self)
    simp only [List.mem_cons]
    exact hblank.imp_right fun h => h.imp_right fun h => h.imp_right .inl

/-- So do further entries. -/
theorem endsNumber_more {α : Type} (pad : List Char) (text : α → List Char) (as : List α)
    (hclose : ∀ x ∈ close, isBlank x) (hy : y ∈ [',', ']', '}']) (rest : List Char) :
    EndsNumber (as.flatMap (fun a => ',' :: (pad ++ text a)) ++ (close ++ y :: rest)) := by
  cases as with
  | nil => exact endsNumber_close hclose hy rest
  | cons a as => exact endsNumber_close (List.forall_mem_nil _) List.mem_cons_self _

namespace Entries

variable {α : Type} {run : Nat → Bool → Cursor → Except ParseError (List α × Cursor)}
  {entry : Cursor → Except ParseError (α × Cursor)} {starts : Char → Prop} {bracket : Char}
  {text : α → List Char} {as : List α} {fuel : Nat}

/-- An entry whose text starts as it has to, and which is read where it stands. -/
structure Written (entry : Cursor → Except ParseError (α × Cursor)) (starts : Char → Prop)
    (text : List Char) (a : α) : Prop where
  opens : ∃ x more, text = x :: more ∧ ¬isBlank x ∧ starts x
  reads : ReadsAt entry text a

theorem not_isBlank (h : Entries run entry starts bracket) : ¬isBlank bracket := by
  have hmem := h.bracket_mem
  simp only [List.mem_cons, List.not_mem_nil, or_false] at hmem
  rcases hmem with rfl | rfl | rfl <;> decide

/-- Entries that follow another one are read up to the bracket. -/
theorem reads_more (h : Entries run entry starts bracket)
    (has : ∀ a ∈ as, Written entry starts (text a) a) (hpad : ∀ x ∈ pad, isBlank x)
    (hclose : ∀ x ∈ close, isBlank x) (hfuel : as.length < fuel)
    (hc : c.rest = as.flatMap (fun a => ',' :: (pad ++ text a)) ++ (close ++ bracket :: rest)) :
    Reads (run fuel false c) as rest := by
  induction as generalizing fuel c with
  | nil =>
    obtain ⟨fuel, rfl⟩ := Nat.exists_eq_succ_of_ne_zero (Nat.ne_of_gt hfuel)
    exact h.finish fuel false c rest (Cursor.rest_skipBlanks_append hclose h.not_isBlank hc)
  | cons a as ih =>
    obtain ⟨fuel, rfl⟩ := Nat.exists_eq_succ_of_ne_zero (Nat.ne_of_gt (Nat.zero_lt_of_lt hfuel))
    rw [List.forall_mem_cons] at has
    obtain ⟨x, more, htext, hblank, hx⟩ := has.1.opens
    rw [List.flatMap_cons, List.append_assoc, List.cons_append, List.append_assoc] at hc
    have hcomma := Cursor.rest_skipBlanks_cons (by decide) hc
    have hentry := Cursor.rest_advance hcomma
    rw [htext] at hentry
    have hentry := Cursor.rest_skipBlanks_append hpad hblank hentry
    have hends := endsNumber_more pad text as hclose h.bracket_mem rest
    rw [h.next fuel c x _ _ hcomma hentry hx]
    refine (has.1.reads _ _ (htext ▸ hentry) hends).bind fun c hc => ?_
    exact (ih has.2 (Nat.lt_of_succ_lt_succ hfuel) hc).bind fun c hc => .of_ok _ hc

theorem length_le_listing (pad : List Char) (text : α → List Char) (a : α) (as : List α) :
    as.length ≤ (listing pad text (a :: as)).length := by
  have hmore : as.length ≤ (as.flatMap fun a => ',' :: (pad ++ text a)).length := by
    induction as with
    | nil => exact Nat.le_refl 0
    | cons a as ih =>
      rw [List.flatMap_cons, List.length_append, List.length_cons, List.length_cons]
      omega
  rw [listing, List.length_append]
  omega

/-- Entries are read up to the bracket. -/
theorem reads_block (h : Entries run entry starts bracket)
    (has : ∀ a ∈ as, Written entry starts (text a) a) (hpad : ∀ x ∈ pad, isBlank x)
    (hclose : ∀ x ∈ close, isBlank x) (hfuel : c.rest.length < fuel)
    (hc : c.rest = block bracket pad close text as ++ rest) : Reads (run fuel true c) as rest := by
  obtain ⟨fuel, rfl⟩ := Nat.exists_eq_succ_of_ne_zero (Nat.ne_of_gt (Nat.zero_lt_of_lt hfuel))
  cases as with
  | nil => exact h.finish fuel true c rest (Cursor.rest_skipBlanks_cons h.not_isBlank hc)
  | cons a as =>
    rw [List.forall_mem_cons] at has
    obtain ⟨x, more, htext, hblank, hx⟩ := has.1.opens
    -- The fuel is counted in characters, and each entry but the first has at least its comma.
    have hlength : as.length < fuel := by
      have hlisting := length_le_listing pad text a as
      rw [hc, block, List.length_append, List.length_append, List.length_append,
        List.length_singleton] at hfuel
      omega
    rw [block, listing, List.append_assoc, List.append_assoc, List.append_assoc, List.append_assoc,
      List.singleton_append, htext] at hc
    have hentry := Cursor.rest_skipBlanks_append hpad hblank hc
    have hends := endsNumber_more pad text as hclose h.bracket_mem rest
    rw [h.first fuel c x _ hentry hx]
    refine (has.1.reads _ _ (htext ▸ hentry) hends).bind fun c hc => ?_
    exact (h.reads_more has.2 hpad hclose hlength hc).bind fun c hc => .of_ok _ hc

end Entries

/-! ## Arrays -/

variable {item : Cursor → Except ParseError (Json × Cursor)}

theorem entries_items (item : Cursor → Except ParseError (Json × Cursor)) :
    Entries (items item) item (· ≠ ']') ']' where
  bracket_mem := by decide
  finish fuel first c rest h := by
    rw [items]
    simp only [h]
    exact .of_ok _ (Cursor.rest_advance h)
  first fuel c x rest h hx := by
    rw [items]
    split <;> rename_i hrest
    · cases h.symm.trans hrest
    · exact absurd (List.cons.inj (h.symm.trans hrest)).1 hx
    · rfl
  next fuel c x rest rest' h h' hx := by
    rw [items]
    split <;> rename_i hrest
    · cases h.symm.trans hrest
    · cases h.symm.trans hrest
    · cases h.symm.trans hrest
      rw [if_neg Bool.false_ne_true, if_pos rfl]
      dsimp only
      split <;> rename_i hrest'
      · cases h'.symm.trans hrest'
      · exact absurd (List.cons.inj (h'.symm.trans hrest')).1 hx
      · rfl

/-! ## Objects -/

/-- Reads a field from its opening quote on. -/
def fieldAt (item : Cursor → Except ParseError (Json × Cursor)) (c : Cursor) :
    Except ParseError ((String × Json) × Cursor) := do
  let (name, c) ← string c.advance
  let c := c.skipBlanks
  let c ← match c.rest with
    | ':' :: _ => .ok c.advance
    | [] => .error (c.faultAhead .endInObject)
    | _ => .error (c.faultAhead .expectedColon)
  let (v, c) ← item c
  return ((name, v), c)

/-- A field is read before the others. -/
theorem fieldAt_bind (item : Cursor → Except ParseError (Json × Cursor)) (c : Cursor)
    (more : Cursor → Except ParseError (Fields × Cursor)) :
    (do
      let (f, c) ← fieldAt item c
      let (rest, c) ← more c
      return (f :: rest, c)) = (do
      let (name, c) ← string c.advance
      let c := c.skipBlanks
      let c ← match c.rest with
        | ':' :: _ => .ok c.advance
        | [] => .error (c.faultAhead .endInObject)
        | _ => .error (c.faultAhead .expectedColon)
      let (v, c) ← item c
      let (rest, c) ← more c
      return ((name, v) :: rest, c) : Except ParseError (Fields × Cursor)) := by
  rw [fieldAt]
  cases string c.advance with
  | error e => rfl
  | ok p =>
    simp only [ok_bind]
    split
    · cases item p.2.skipBlanks.advance <;> rfl
    · rfl
    · rfl

theorem entries_fields (item : Cursor → Except ParseError (Json × Cursor)) :
    Entries (fields item) (fieldAt item) (· = '"') '}' where
  bracket_mem := by decide
  finish fuel first c rest h := by
    rw [fields]
    simp only [h]
    exact .of_ok _ (Cursor.rest_advance h)
  first fuel c x rest h hx := by
    subst hx
    rw [fields, fieldAt_bind]
    split <;> rename_i hrest
    · cases h.symm.trans hrest
    · cases h.symm.trans hrest
    · cases h.symm.trans hrest
      rfl
  next fuel c x rest rest' h h' hx := by
    subst hx
    rw [fields, fieldAt_bind]
    split <;> rename_i hrest
    · cases h.symm.trans hrest
    · cases h.symm.trans hrest
    · cases h.symm.trans hrest
      rw [if_neg Bool.false_ne_true, if_pos rfl]
      simp only [h']
      rfl

/-! ## Values -/

/-- A number is read from its first digit on. -/
theorem value_digit {levels : Nat} (hx : x.isDigit) (h : c.skipBlanks.rest = x :: rest) :
    value levels c = number false c.skipBlanks := by
  -- No character that the reader knows a case for is a digit.
  have hne (y : Char) (hy : y.isDigit = false) (r : List Char) : c.skipBlanks.rest ≠ y :: r := by
    intro hrest
    rw [(List.cons.inj (h.symm.trans hrest)).1, hy] at hx
    cases hx
  cases levels
  all_goals
    rw [value]
    dsimp only
    split <;> rename_i hrest
    · cases h.symm.trans hrest
    · exact absurd hrest (hne 'n' (by decide) _)
    · exact absurd hrest (hne 't' (by decide) _)
    · exact absurd hrest (hne 'f' (by decide) _)
    · exact absurd hrest (hne '-' (by decide) _)
    · exact absurd hrest (hne '"' (by decide) _)
    · exact absurd hrest (hne '[' (by decide) _)
    · exact absurd hrest (hne '{' (by decide) _)
    · cases h.symm.trans hrest
      rw [if_pos hx]

/-- Whole numbers are read back. -/
theorem reads_integer {n : Int} (hfits : Fits64 n) (levels : Nat)
    (h : c.skipBlanks.rest = Number.integerText n ++ rest) (hrest : EndsNumber rest) :
    Reads (value levels c) (.num (.integer n hfits)) rest := by
  have hlimit : n.natAbs ≤ significandLimit := by
    obtain ⟨hlower, hupper⟩ := hfits
    rw [significandLimit]
    omega
  rw [Number.integerText] at h
  split at h <;> rename_i hsign
  · obtain ⟨m, rfl⟩ : ∃ m : Nat, n = -(m : Int) := ⟨n.natAbs, by omega⟩
    rw [Int.natAbs_neg, Int.natAbs_natCast] at h hlimit
    rw [value.eq_def]
    simp only [h, List.cons_append]
    exact @reads_number rest c.skipBlanks.advance true m hlimit hfits (fun _ => by omega)
      (Cursor.rest_advance h) hrest
  · obtain ⟨m, rfl⟩ : ∃ m : Nat, n = m := ⟨n.natAbs, by omega⟩
    rw [Int.natAbs_natCast] at h hlimit
    obtain ⟨x, digits, hx, hdigit⟩ := exists_toDigits_eq m
    have hfirst : c.skipBlanks.rest = x :: (digits ++ rest) := by rw [h, hx, List.cons_append]
    rw [value_digit hdigit hfirst]
    exact @reads_number rest c.skipBlanks false m hlimit hfits (fun hsign => by cases hsign) h hrest

/-- A scalar is read back. -/
theorem reads_scalar {v : Json} (hdepth : v.depth = 0) (hwhole : v.Whole) (levels : Nat)
    (h : c.skipBlanks.rest = v.compactChars ++ rest) (hrest : EndsNumber rest) :
    Reads (value levels c) v rest := by
  cases v with
  | null =>
    rw [compactChars] at h
    rw [value.eq_def]
    simp only [h, List.cons_append]
    exact reads_literal .null (Cursor.rest_advance h)
  | bool b =>
    rw [value.eq_def]
    cases b with
    | true =>
      rw [compactChars] at h
      simp only [h, List.cons_append]
      exact reads_literal (.bool true) (Cursor.rest_advance h)
    | false =>
      rw [compactChars] at h
      simp only [h, List.cons_append]
      exact reads_literal (.bool false) (Cursor.rest_advance h)
  | num n =>
    cases n with
    | integer n hfits => exact reads_integer hfits levels h hrest
    | double d => exact hwhole.elim
  | str s =>
    rw [compactChars, quote, List.cons_append, List.cons_append, List.append_assoc] at h
    rw [value.eq_def]
    simp only [h]
    exact (reads_string s (Cursor.rest_advance h)).bind fun c hc => .of_ok _ hc
  | arr items => cases hdepth
  | obj fields => cases hdepth

/-- A field is read where its name, a colon and its value stand. -/
theorem written_field {space : List Char} {text : Json → List Char} {f : String × Json}
    (hv : ReadsAt item (space ++ text f.2) f.2) :
    Entries.Written (fieldAt item) (· = '"') (fieldChars space text f) f where
  opens := ⟨'"', _, rfl, by decide, rfl⟩
  reads c rest h hrest := by
    rw [fieldChars, quote, List.cons_append, List.cons_append, List.cons_append, List.append_assoc,
      List.append_assoc] at h
    rw [fieldAt]
    refine (reads_string f.1 (Cursor.rest_advance h)).bind fun c hc => ?_
    have hcolon := Cursor.rest_skipBlanks_cons (by decide) hc
    simp only [hcolon, ok_bind]
    exact (hv _ rest (Cursor.rest_advance hcolon) hrest).bind fun c hc => .of_ok _ hc

end Reader

/-! ## Values as they are written -/

namespace Spelling

variable {s : Spelling} {v : Json} {level levels : Nat} {c : Cursor} {pad rest : List Char}

/-- No value starts with a blank or as an array ends. -/
theorem opens (s : Spelling) (level : Nat) (hwhole : v.Whole) :
    ∃ x more, s.chars level v = x :: more ∧ ¬isBlank x ∧ x ≠ ']' := by
  cases v with
  | null => exact ⟨_, _, s.scalar level .null rfl, by decide, by decide⟩
  | bool b => cases b <;> exact ⟨_, _, s.scalar level (.bool _) rfl, by decide, by decide⟩
  | num n =>
    rw [s.scalar level _ rfl, compactChars]
    cases n with
    | double d => exact hwhole.elim
    | integer n hfits =>
      rw [Number.text, Number.integerText]
      split
      · exact ⟨_, _, rfl, by decide, by decide⟩
      · obtain ⟨x, digits, hx, hdigit⟩ := exists_toDigits_eq n.natAbs
        refine ⟨x, digits, hx, fun hblank => ?_, ?_⟩
        · rcases of_decide_eq_true hblank with rfl | rfl | rfl | rfl <;> cases hdigit
        · rintro rfl
          cases hdigit
  | str text => exact ⟨_, _, s.scalar level (.str text) rfl, by decide, by decide⟩
  | arr items => exact ⟨_, _, s.arr level items, by decide, by decide⟩
  | obj fields => exact ⟨_, _, s.obj level fields, by decide, by decide⟩

/-- Past the blanks in front of it a value stands. -/
theorem rest_skipBlanks (hwhole : v.Whole) (hpad : ∀ x ∈ pad, isBlank x)
    (h : c.rest = pad ++ (s.chars level v ++ rest)) :
    c.skipBlanks.rest = s.chars level v ++ rest := by
  obtain ⟨x, more, hx, hblank, -⟩ := s.opens level hwhole
  rw [hx] at h ⊢
  exact Cursor.rest_skipBlanks_append hpad hblank h

/-- An array is read where its items are. -/
theorem reads_array (s : Spelling) (level : Nat) {items : List Json}
    (hitems : ∀ w ∈ items, Entries.Written (value levels) (· ≠ ']') (s.chars (level + 1) w) w)
    (h : c.skipBlanks.rest = s.chars level (.arr items) ++ rest) :
    Reads (value (levels + 1) c) (.arr items) rest := by
  rw [s.arr, List.cons_append] at h
  rw [value.eq_def]
  simp only [h]
  exact ((entries_items (value levels)).reads_block hitems (s.line_blank _) (s.line_blank _)
    (Cursor.length_advance_lt h) (Cursor.rest_advance h)).bind fun c hc => .of_ok _ hc

/-- An object is read where its fields are. -/
theorem reads_object (s : Spelling) (level : Nat) {fields : Fields} (hordered : fields.Ordered)
    (hfields : ∀ f ∈ fields, Entries.Written (fieldAt (value levels)) (· = '"')
      (fieldChars s.space (s.chars (level + 1)) f) f)
    (h : c.skipBlanks.rest = s.chars level (.obj fields) ++ rest) :
    Reads (value (levels + 1) c) (.obj fields) rest := by
  have hof : ofFields fields = .obj fields := congrArg Json.obj (Fields.ofPairs_eq_self hordered)
  rw [s.obj, List.cons_append] at h
  rw [value.eq_def]
  simp only [h]
  exact ((entries_fields (value levels)).reads_block hfields (s.line_blank _) (s.line_blank _)
    (Cursor.length_advance_lt h) (Cursor.rest_advance h)).bind fun c hc => hof ▸ .of_ok _ hc

/-- A value that is written is read from the front of a text. -/
theorem reads_value (s : Spelling) (level : Nat) (hwhole : v.Whole) (hsorted : v.Sorted)
    (hdepth : v.depth ≤ levels) (h : c.skipBlanks.rest = s.chars level v ++ rest)
    (hrest : EndsNumber rest) : Reads (value levels c) v rest := by
  induction levels generalizing v level c rest with
  | zero =>
    have hzero := Nat.le_zero.1 hdepth
    exact reads_scalar hzero hwhole 0 (s.scalar level v hzero ▸ h) hrest
  | succ levels ih =>
    -- What is nested is read with one level less, and blanks may stand before it: behind a colon
    -- they do.
    have hat (pad : List Char) (hpad : ∀ x ∈ pad, isBlank x) (w : Json) (hw : w.Whole)
        (hws : w.Sorted) (hwd : w.depth ≤ levels) :
        ReadsAt (value levels) (pad ++ s.chars (level + 1) w) w := fun c rest hc hrest =>
      ih (level + 1) hw hws hwd (rest_skipBlanks hw hpad (List.append_assoc .. ▸ hc)) hrest
    by_cases hzero : v.depth = 0
    · exact reads_scalar hzero hwhole _ (s.scalar level v hzero ▸ h) hrest
    · cases v with
      | arr items =>
        refine s.reads_array level (fun w hw => ?_) h
        have hwhole := wholeItems_iff.1 hwhole w hw
        have hsorted := sortedItems_iff.1 hsorted w hw
        have hdepth := Nat.le_trans (depth_le_depthItems hw) (Nat.le_of_succ_le_succ hdepth)
        exact ⟨s.opens _ hwhole, hat [] (List.forall_mem_nil _) w hwhole hsorted hdepth⟩
      | obj fields =>
        refine s.reads_object level hsorted.1 (fun f hf => ?_) h
        have hwhole := wholeFields_iff.1 hwhole f hf
        have hsorted := sortedFields_iff.1 hsorted.2 f hf
        have hdepth := Nat.le_trans (depth_le_depthFields hf) (Nat.le_of_succ_le_succ hdepth)
        exact written_field (hat s.space s.space_blank f.2 hwhole hsorted hdepth)
      | _ => exact absurd rfl hzero

/-- A text that is written is read as its value. -/
theorem parse_chars (s : Spelling) (hwhole : v.Whole) (hsorted : v.Sorted)
    (hdepth : v.depth ≤ maxDepth) : parse (String.ofList (s.chars 0 v)) = .ok v := by
  have hstart : (Cursor.start (String.ofList (s.chars 0 v)).toList).rest = s.chars 0 v ++ [] := by
    rw [String.toList_ofList, List.append_nil]
    rfl
  obtain ⟨c, hc, hnil⟩ := s.reads_value 0 hwhole hsorted hdepth
    (rest_skipBlanks hwhole (List.forall_mem_nil _) hstart) (by rintro x ⟨⟩)
  have hend : c.skipBlanks.rest = [] := by rw [Cursor.rest_skipBlanks, hnil, List.dropWhile_nil]
  rw [parse, hc, ok_bind]
  simp only [hend]
  rfl

end Spelling

/-! ## Texts of values -/

/-- The compact text is read as its value. -/
theorem parse_compact {v : Json} (hwhole : v.Whole) (hsorted : v.Sorted)
    (hdepth : v.depth ≤ maxDepth) : parse v.compact = .ok v :=
  Spelling.compact.parse_chars hwhole hsorted hdepth

/-- The indented text is read as its value. -/
theorem parse_pretty {v : Json} (hwhole : v.Whole) (hsorted : v.Sorted)
    (hdepth : v.depth ≤ maxDepth) : parse v.pretty = .ok v :=
  Spelling.pretty.parse_chars hwhole hsorted hdepth

/-- `null` adds nothing to the text of values. -/
theorem joinTexts_filter (vs : List Json) : joinTexts (vs.filter (· ≠ .null)) = joinTexts vs := by
  induction vs with
  | nil => rfl
  | cons v vs ih =>
    rw [joinTexts, joinTexts] at *
    by_cases hv : v = .null
    · rw [List.filter_cons_of_neg (by simpa using hv), ih, hv]
      simp [String.join_cons, toText]
    · rw [List.filter_cons_of_pos (by simpa using hv), List.map_cons, List.map_cons,
        String.join_cons, String.join_cons, ih]

theorem joinTexts_map_str (pieces : List String) :
    joinTexts (pieces.map .str) = String.join pieces := by
  rw [joinTexts, List.map_map]
  exact congrArg String.join (List.map_id pieces)

/-- What is printed of a value that is no text may be given as input, and stands for the value. So
    it may come from an `out` that reads what it joins: whole, or in pieces, wherever the text is
    cut and whatever absent values stand between them. -/
theorem readInput_printed {v : Json} (hwhole : v.Whole) (hsorted : v.Sorted)
    (hdepth : v.depth ≤ 127) (hstr : ∀ s, v ≠ .str s) :
    (∀ pretty, readInput (some (v.printed pretty)) = .ok v) ∧
      (v ≠ .null → ∀ key, reduce .object [v] key = .ok v ∧
        ∀ (pieces : List String) (vs : List Json), String.join pieces = v.toText →
          vs.filter (· ≠ .null) = pieces.map .str → reduce .object vs key = .ok v) := by
  have hparse := parse_compact hwhole hsorted hdepth
  refine ⟨fun pretty => ?_, fun hnull key => ?_⟩
  · have hprinted : v.printed pretty = if pretty then v.pretty else v.compact := by
      cases v with
      | str s => exact absurd rfl (hstr s)
      | _ => rfl
    rw [hprinted, readInput]
    cases pretty with
    | true =>
      rw [if_pos rfl, parse_pretty hwhole hsorted hdepth]
      rfl
    | false =>
      rw [if_neg Bool.false_ne_true, hparse]
      rfl
  · have htext : v.toText = v.compact := by
      cases v with
      | str s => exact absurd rfl (hstr s)
      | null => exact absurd rfl hnull
      | _ => rfl
    have hread {vs : List Json} (hvs : joinTexts vs = v.toText) :
        reduce .object vs key = .ok v := by
      simp only [reduce, hvs, htext, hparse]
    refine ⟨hread ?_, fun pieces vs hcut hvs => hread ?_⟩
    · simp [joinTexts]
    · rw [← joinTexts_filter, hvs, joinTexts_map_str, hcut]

/-- An object with an array, escapes and a number below zero in it; its text in three pieces. -/
theorem readInput_printed_nested :
    let v : Json := .obj [("a", .arr [ofInt (-7), .str "x\"\n", .null]), ("b", .obj [])]
    let pieces := ["\x7b\"a\":[-7,\"x\\", "\"\\n\",nul", "l],\"b\":\x7b\x7d\x7d"]
    let vs : List Json := [.null, .str pieces[0], .str pieces[1], .null, .null, .str pieces[2]]
    v.Whole ∧ v.Sorted ∧ v.depth ≤ 127 ∧ String.join pieces = v.toText ∧
      readInput (some (v.printed true)) = .ok v ∧ reduce .object [v] none = .ok v ∧
      reduce .object vs none = .ok v := by
  intro v pieces vs
  have hwhole : v.Whole := by
    simp [v, Whole, WholeItems, WholeFields, ofInt, Number.ofInt, Fits64]
  have hsorted : v.Sorted :=
    ⟨by decide, by simp [Sorted, SortedItems, SortedFields, ofInt]⟩
  have hcut : String.join pieces = v.toText := by decide +kernel
  obtain ⟨hinput, hout⟩ := @readInput_printed v hwhole hsorted (by decide) (fun s => by simp [v])
  obtain ⟨hback, hpieces⟩ := hout (by decide) none
  exact ⟨hwhole, hsorted, by decide, hcut, hinput true, hback, hpieces pieces vs hcut (by decide)⟩

end Folio.Json
