import Mathlib.Tactic.SplitIfs
import Folio.Json.Printer
import Folio.Json.Reader
import Folio.Proofs.Result

/-!
# Words, numbers and strings that are read back

What is written for a literal, a whole number or a text is read back from the front of any text that
goes on in a way that cannot be mistaken for more of it. The reader keeps count of lines and
columns; what it reads does not depend on them, and so all that is said of a place in a text is what
is still to be read there.

* `Json.Reader.Reads`: a reading comes to a value and leaves a rest;
* `Json.Reader.accumulate_toDigits`: the digits of a number are read as that number;
* `Json.Reader.reads_number`: whole numbers of 64 bits are read back;
* `Json.Reader.reads_string`: texts are read back, whatever characters they have.
-/

namespace Folio.Json

open Result

/-! ## Places in a text -/

/-- The characters that may stand between the parts of a document. -/
def isBlank (x : Char) : Bool := x = ' ' ∨ x = '\n' ∨ x = '\t' ∨ x = '\r'

namespace Cursor

variable {c : Cursor} {x : Char} {text rest : List Char}

theorem rest_after (c : Cursor) (x : Char) (rest : List Char) : (c.after x rest).rest = rest := by
  rw [after]
  split <;> rfl

theorem rest_advance (h : c.rest = x :: rest) : c.advance.rest = rest := by
  rw [advance, h]
  exact rest_after c x rest

/-- What is still to be read does not grow. -/
theorem length_advance_lt {text : List Char} (h : c.rest = text) :
    c.advance.rest.length < text.length + 1 := by
  cases text with
  | nil =>
    rw [advance, h, h]
    exact Nat.lt_succ_self _
  | cons x text =>
    rw [rest_advance h, List.length_cons]
    omega

/-- Blanks are passed over, as many as there are. -/
theorem rest_skipBlanks (c : Cursor) : c.skipBlanks.rest = c.rest.dropWhile isBlank := by
  have hgo (text : List Char) (c : Cursor) (h : c.rest = text) :
      (skipBlanks.go text c).rest = text.dropWhile isBlank := by
    induction text generalizing c with
    | nil => exact h
    | cons x text ih =>
      rw [skipBlanks.go]
      split <;> rename_i hx
      · rw [ih _ (rest_after c x text)]
        exact (List.dropWhile_cons_of_pos (p := isBlank) (decide_eq_true hx)).symm
      · rw [h]
        exact (List.dropWhile_cons_of_neg (p := isBlank) fun hb => hx (of_decide_eq_true hb)).symm
  exact hgo c.rest c rfl

/-- Past the blanks in front stands what does not begin with a blank. -/
theorem rest_skipBlanks_append {pad : List Char} (hpad : ∀ y ∈ pad, isBlank y) (hx : ¬isBlank x)
    (h : c.rest = pad ++ x :: rest) : c.skipBlanks.rest = x :: rest := by
  rw [rest_skipBlanks, h, List.dropWhile_append_of_pos hpad, List.dropWhile_cons_of_neg hx]

/-- Where no blank stands, none is passed over. -/
theorem rest_skipBlanks_cons (hx : ¬isBlank x) (h : c.rest = x :: rest) :
    c.skipBlanks.rest = x :: rest :=
  @rest_skipBlanks_append c x rest [] (List.forall_mem_nil _) hx h

end Cursor

/-! ## Readings -/

namespace Reader

variable {α β : Type} {r : Except ParseError (α × Cursor)} {a : α} {rest : List Char} {c : Cursor}

/-- A reading comes to a value and leaves a rest of the text. -/
def Reads (r : Except ParseError (α × Cursor)) (a : α) (rest : List Char) : Prop :=
  ∃ c, r = .ok (a, c) ∧ c.rest = rest

theorem Reads.of_ok (a : α) (h : c.rest = rest) : Reads (.ok (a, c)) a rest := ⟨c, rfl, h⟩

/-- Readings one after the other. -/
theorem Reads.bind {f : α × Cursor → Except ParseError (β × Cursor)} {b : β} {rest' : List Char}
    (h : Reads r a rest) (hf : ∀ c, c.rest = rest → Reads (f (a, c)) b rest') :
    Reads (r >>= f) b rest' := by
  obtain ⟨c, rfl, hc⟩ := h
  exact hf c hc

/-- A literal is read where its letters stand. -/
theorem reads_literal {letters : List Char} (v : Json) (h : c.rest = letters ++ rest) :
    Reads (literal letters v c) v rest := by
  induction letters generalizing c with
  | nil => exact .of_ok v h
  | cons x letters ih =>
    rw [List.cons_append] at h
    simp only [literal, h, if_true]
    exact ih (Cursor.rest_advance h)

/-! ## Whole numbers -/

/-- What follows a number and is no part of it: no digit, no point and no exponent. -/
def EndsNumber (rest : List Char) : Prop :=
  ∀ x ∈ rest.head?, ¬x.isDigit ∧ x ≠ '.' ∧ x ≠ 'e' ∧ x ≠ 'E'

/-- One more digit, as long as the significand is not full. -/
theorem accumulate_append {s s' : Nat} {digits : List Char} {x : Char}
    (h : accumulate s digits = (s', 0)) (hx : s' * 10 + digitValue x ≤ significandLimit) :
    accumulate s (digits ++ [x]) = (s' * 10 + digitValue x, 0) := by
  induction digits generalizing s with
  | nil =>
    cases h
    rw [List.nil_append, accumulate, if_neg (Nat.not_lt.2 hx), accumulate]
  | cons y digits ih =>
    rw [accumulate] at h
    rw [List.cons_append, accumulate]
    split at h
    · cases h
    · rename_i hy
      rw [if_neg hy, ih h]

theorem digitValue_digitChar {n : Nat} (h : n < 10) : digitValue n.digitChar = n :=
  Nat.toNat_digitChar_sub_48_of_lt_ten h

/-- The digits of a number are read as that number. -/
theorem accumulate_toDigits {n : Nat} (h : n ≤ significandLimit) :
    accumulate 0 (Nat.toDigits 10 n) = (n, 0) := by
  induction n using Nat.strongRecOn with
  | ind n ih =>
    rcases Nat.lt_or_ge n 10 with hlt | hge
    · have hfirst : ¬0 * 10 + digitValue n.digitChar > significandLimit := by
        rw [digitValue_digitChar hlt]
        omega
      rw [Nat.toDigits_of_lt_base hlt, accumulate, if_neg hfirst, accumulate,
        digitValue_digitChar hlt, Nat.zero_mul, Nat.zero_add]
    · have hlast : n / 10 * 10 + digitValue (n % 10).digitChar = n := by
        rw [digitValue_digitChar (Nat.mod_lt n (by decide))]
        omega
      rw [Nat.toDigits_of_base_le (by decide) hge,
        accumulate_append (ih (n / 10) (by omega) (by omega)) (hlast.symm ▸ h), hlast]

/-- Only zero is written with a zero in front. -/
theorem head?_toDigits {n : Nat} (h : n ≠ 0) : (Nat.toDigits 10 n).head? ≠ some '0' := by
  induction n using Nat.strongRecOn with
  | ind n ih =>
    rcases Nat.lt_or_ge n 10 with hlt | hge
    · rw [Nat.toDigits_of_lt_base hlt]
      intro hhead
      have hzero : digitValue n.digitChar = digitValue '0' := by rw [Option.some.inj hhead]
      rw [digitValue_digitChar hlt] at hzero
      exact h hzero
    · have hfront := ih (n / 10) (by omega) (by omega)
      obtain ⟨x, digits, hx⟩ :=
        List.exists_cons_of_ne_nil (Nat.toDigits_ne_nil : Nat.toDigits 10 (n / 10) ≠ [])
      rw [hx] at hfront
      rwa [Nat.toDigits_of_base_le (by decide) hge, hx]

/-- A number in digits starts with a digit. -/
theorem exists_toDigits_eq (n : Nat) :
    ∃ x digits, Nat.toDigits 10 n = x :: digits ∧ x.isDigit := by
  obtain ⟨x, digits, hx⟩ :=
    List.exists_cons_of_ne_nil (Nat.toDigits_ne_nil : Nat.toDigits 10 n ≠ [])
  exact ⟨x, digits, hx,
    Nat.isDigit_of_mem_toDigits (by decide) (by decide) (hx ▸ List.mem_cons_self)⟩

/-- Behind a zero in front there are no more digits. -/
theorem eq_nil_of_toDigits_eq {n : Nat} {digits : List Char}
    (h : Nat.toDigits 10 n = '0' :: digits) : digits = [] := by
  by_cases hn : n = 0
  · rw [hn] at h
    exact (List.cons.inj h).2.symm
  · exact absurd (by rw [h, List.head?_cons]) (head?_toDigits hn)

/-- The digits of a number go as far as its text does. -/
theorem takeWhile_toDigits (n : Nat) (hrest : EndsNumber rest) :
    (Nat.toDigits 10 n ++ rest).takeWhile Char.isDigit = Nat.toDigits 10 n := by
  rw [List.takeWhile_append_of_pos fun x hx =>
    Nat.isDigit_of_mem_toDigits (by decide) (by decide) hx]
  cases rest with
  | nil => exact List.append_nil _
  | cons y rest => rw [List.takeWhile_cons_of_neg (hrest y rfl).1, List.append_nil]

theorem rest_skipAscii {digits : List Char} (h : c.rest = digits ++ rest) :
    (skipAscii c digits).rest = rest := by
  rw [skipAscii, h]
  exact List.drop_left

/-- A number is read where its digits stand, and nothing follows that could belong to it. -/
theorem reads_number {negative : Bool} {n : Nat} (hlimit : n ≤ significandLimit)
    (hfits : Fits64 (if negative then -(n : Int) else n)) (hsign : negative → n ≠ 0)
    (h : c.rest = Nat.toDigits 10 n ++ rest) (hrest : EndsNumber rest) :
    Reads (number negative c) (.num (.integer _ hfits)) rest := by
  obtain ⟨x, more, hx, hdigit⟩ := exists_toDigits_eq n
  have hcons : c.rest = x :: (more ++ rest) := by rw [h, hx, List.cons_append]
  have hdigits : c.rest.takeWhile Char.isDigit = Nat.toDigits 10 n :=
    h ▸ takeWhile_toDigits n hrest
  -- A zero in front is refused where a digit follows, be it one of the number or of the rest.
  have hzero : ¬(x = '0' ∧ (more ++ rest).head?.any Char.isDigit) := by
    rintro ⟨rfl, hany⟩
    rw [eq_nil_of_toDigits_eq hx, List.nil_append, Option.any_eq_true] at hany
    obtain ⟨y, hy, hdigit⟩ := hany
    exact (hrest y hy).1 hdigit
  have hend := rest_skipAscii h
  rw [number]
  split
  · rename_i hnil
    rw [hcons] at hnil
    cases hnil
  · rename_i y rest' hcons'
    obtain ⟨rfl, rfl⟩ := List.cons.inj (hcons.symm.trans hcons')
    rw [if_neg (not_not_intro hdigit), if_neg hzero]
    simp only [hdigits, accumulate_toDigits hlimit, hend]
    split
    · exact absurd rfl (hrest '.' rfl).2.1
    · exact absurd rfl (hrest 'e' rfl).2.2.1
    · exact absurd rfl (hrest 'E' rfl).2.2.2
    · have hkept : Fits64 (if negative then -(n : Int) else n) ∧ ¬(negative ∧ n = 0) :=
        ⟨hfits, fun hzero => hsign hzero.1 hzero.2⟩
      rw [if_neg (not_not_intro rfl), dif_pos hkept]
      exact .of_ok _ hend

/-! ## Strings -/

/-- An escape of one letter. -/
theorem reads_shortEscape {x y : Char}
    (hxy : (x, y) ∈ [('"', '"'), ('\\', '\\'), ('\x08', 'b'), ('\x0c', 'f'), ('\n', 'n'),
      ('\r', 'r'), ('\t', 't')])
    (h : c.rest = '\\' :: y :: rest) : Reads (stringItem c) (some x) rest := by
  have hletter := Cursor.rest_advance h
  have hrest := Cursor.rest_advance hletter
  simp only [List.mem_cons, List.not_mem_nil, or_false, Prod.mk.injEq] at hxy
  rcases hxy with ⟨rfl, rfl⟩ | ⟨rfl, rfl⟩ | ⟨rfl, rfl⟩ | ⟨rfl, rfl⟩ | ⟨rfl, rfl⟩ | ⟨rfl, rfl⟩ |
    ⟨rfl, rfl⟩
  all_goals
    simp only [stringItem, h, escaped, hletter]
    exact .of_ok _ hrest

theorem hexValue_hexDigit : ∀ n < 16, hexValue (hexDigit n) = some n := by decide

/-- An escape of four digits. -/
theorem reads_numberedEscape {x : Char} (hx : x.toNat < 0x20)
    (h : c.rest = '\\' :: 'u' :: '0' :: '0' :: hexDigit (x.toNat / 16) ::
      hexDigit (x.toNat % 16) :: rest) :
    Reads (stringItem c) (some x) rest := by
  have hletter := Cursor.rest_advance h
  have hdigits := Cursor.rest_advance hletter
  have hhigh := hexValue_hexDigit (x.toNat / 16) (by omega)
  have hlow := hexValue_hexDigit (x.toNat % 16) (by omega)
  have hzero : hexValue '0' = some 0 := by decide
  have hvalue : ((0 * 16 + 0) * 16 + x.toNat / 16) * 16 + x.toNat % 16 = x.toNat := by omega
  have hfour : hexFour c.advance.advance =
      .ok (x.toNat, ⟨rest, c.advance.advance.line, c.advance.advance.column + 4⟩) := by
    simp only [hexFour, hdigits, hzero, hhigh, hlow, hvalue]
  -- What is below `U+0020` is no half of a surrogate pair.
  have hlowest : ¬(0xDC00 ≤ x.toNat ∧ x.toNat ≤ 0xDFFF) := by omega
  have hnone : ¬(0xD800 ≤ x.toNat ∧ x.toNat ≤ 0xDBFF) := by omega
  simp only [stringItem, h, escaped, hletter, hfour]
  rw [if_neg (by decide), if_pos trivial]
  simp only [ok_bind, if_neg hlowest, if_neg hnone, Char.ofNat_toNat]
  exact .of_ok _ rfl

/-- A character that is written as it is. -/
theorem reads_plain {x : Char} (hquote : x ≠ '"') (hslash : x ≠ '\\') (hx : ¬x.toNat < 0x20)
    (h : c.rest = x :: rest) : Reads (stringItem c) (some x) rest := by
  simp only [stringItem, h, hquote, hslash, hx, if_false]
  exact .of_ok _ (Cursor.rest_advance h)

/-- Every character is read back, however it is written. -/
theorem reads_escape {x : Char} (h : c.rest = escape x ++ rest) :
    Reads (stringItem c) (some x) rest := by
  rw [escape] at h
  split_ifs at h with h₁ h₂ h₃ h₄ h₅ h₆ h₇ h₈
  · exact reads_shortEscape (by simp [h₁]) h
  · exact reads_shortEscape (by simp [h₂]) h
  · exact reads_shortEscape (by simp [h₃]) h
  · exact reads_shortEscape (by simp [h₄]) h
  · exact reads_shortEscape (by simp [h₅]) h
  · exact reads_shortEscape (by simp [h₆]) h
  · exact reads_shortEscape (by simp [h₇]) h
  · exact reads_numberedEscape h₈ h
  · exact reads_plain h₁ h₂ h₈ h

theorem escape_ne_nil (x : Char) : escape x ≠ [] := by
  rw [escape]
  split_ifs <;> simp

/-- The characters of a text are read back one by one, up to the closing quote. -/
theorem reads_stringBody {fuel : Nat} {text : List Char} (read : List Char)
    (hfuel : text.length < fuel) (h : c.rest = text.flatMap escape ++ '"' :: rest) :
    Reads (stringBody fuel read c) (String.ofList (read.reverse ++ text)) rest := by
  induction text generalizing fuel read c with
  | nil =>
    obtain ⟨fuel, rfl⟩ := Nat.exists_eq_succ_of_ne_zero (Nat.ne_of_gt hfuel)
    have hend : Reads (stringItem c) none rest := by
      have hquote : c.rest = '"' :: rest := h
      simp only [stringItem, hquote, if_true]
      exact .of_ok _ (Cursor.rest_advance hquote)
    rw [stringBody, List.append_nil]
    exact hend.bind fun c hc => .of_ok _ hc
  | cons x text ih =>
    obtain ⟨fuel, rfl⟩ := Nat.exists_eq_succ_of_ne_zero (Nat.ne_of_gt (Nat.zero_lt_of_lt hfuel))
    rw [List.flatMap_cons, List.append_assoc] at h
    rw [stringBody]
    refine (reads_escape h).bind fun c hc => ?_
    have hmore := ih (x :: read) (Nat.lt_of_succ_lt_succ hfuel) hc
    rwa [List.reverse_cons, List.append_assoc] at hmore

theorem length_le_flatMap_escape (text : List Char) :
    text.length ≤ (text.flatMap escape).length := by
  induction text with
  | nil => exact Nat.le_refl 0
  | cons x text ih =>
    have hpos := List.length_pos_iff.2 (escape_ne_nil x)
    rw [List.flatMap_cons, List.length_append, List.length_cons]
    omega

/-- A text is read back from behind its opening quote. -/
theorem reads_string (s : String) (h : c.rest = s.toList.flatMap escape ++ '"' :: rest) :
    Reads (string c) s rest := by
  have hfuel : s.toList.length < c.rest.length + 1 := by
    have hlength := length_le_flatMap_escape s.toList
    rw [h, List.length_append]
    omega
  have hbody := reads_stringBody [] hfuel h
  rwa [List.reverse_nil, List.nil_append, String.ofList_toList] at hbody

end Reader

end Folio.Json
