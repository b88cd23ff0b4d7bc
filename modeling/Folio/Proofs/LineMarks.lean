import Mathlib.Order.Basic
import Mathlib.Order.Nat
import Folio.Template.Renderer
import Folio.Proofs.Result

/-!
# Marks of lines in words

The line that a fault of a template speaks of is looked for in its words, as they are written
between quotes: it is the first number that a colon and another number follow, its *mark*. A quote
in the middle of a text keeps the marks on its two sides apart. So words that quote a name have the
marks of what stands around it, and those of the name itself.

* `Template.mark?`: the first mark among characters;
* `Template.mark?_append`: the first mark in two parts that are kept apart;
* `Template.wordsMark`: the first mark in words, and in words that quote a name
  (`Template.wordsMark_quoting`);
* `Template.Fault.line_eq`: the line of a fault.
-/

namespace Folio.Template

open Unicode

/-! ## Marks among characters -/

/-- The first number before a colon that another number follows; `some none` where it is too
    large. -/
def mark? (cs : List Char) : Option (Option Nat) := lineMark cs.length cs

/-- The first mark where some digits have been read and the other characters still go on. -/
def markAfter (next : List Char → Option (Option Nat)) (digits : List Char) :
    List Char → Option (Option Nat)
  | ':' :: d :: more => if isDigit d then some (lineNumber digits) else next (d :: more)
  | more => next more

theorem markAfter_congr {next next' : List Char → Option (Option Nat)} {digits cs : List Char}
    (h : ∀ more : List Char, more.length ≤ cs.length → next more = next' more) :
    markAfter next digits cs = markAfter next' digits cs := by
  unfold markAfter
  split
  · rw [h _ (Nat.le_succ _)]
  · exact h _ le_rfl

theorem drop_length_takeWhile (p : Char → Bool) (cs : List Char) :
    cs.drop (cs.takeWhile p).length = cs.dropWhile p := by
  have hsplit : cs.takeWhile p ++ cs.dropWhile p = cs := List.takeWhile_append_dropWhile
  calc cs.drop (cs.takeWhile p).length
      = (cs.takeWhile p ++ cs.dropWhile p).drop (cs.takeWhile p).length := by rw [hsplit]
    _ = cs.dropWhile p := List.drop_left

theorem lineMark_succ (fuel : Nat) (c : Char) (rest : List Char) :
    lineMark (fuel + 1) (c :: rest) =
      if isDigit c then
        markAfter (lineMark fuel) ((c :: rest).takeWhile isDigit) ((c :: rest).dropWhile isDigit)
      else lineMark fuel rest := by
  rw [lineMark]
  dsimp only
  rw [drop_length_takeWhile]
  rfl

/-- Behind the first digit less is left. -/
theorem length_dropWhile_le {c : Char} (hc : isDigit c = true) (rest : List Char) :
    ((c :: rest).dropWhile isDigit).length ≤ rest.length := by
  rw [List.dropWhile_cons_of_pos hc]
  exact (List.dropWhile_sublist _).length_le

/-- The bound on the number of characters does not count as long as it is one. -/
theorem lineMark_congr {fuel fuel' : Nat} {cs : List Char} (h : cs.length ≤ fuel)
    (h' : cs.length ≤ fuel') : lineMark fuel cs = lineMark fuel' cs := by
  induction fuel generalizing fuel' cs with
  | zero =>
    obtain rfl := List.length_eq_zero_iff.1 (Nat.le_zero.1 h)
    cases fuel' <;> rfl
  | succ fuel ih =>
    cases cs with
    | nil => cases fuel' <;> rfl
    | cons c rest =>
      obtain ⟨fuel', rfl⟩ := Nat.exists_eq_add_one_of_ne_zero (Nat.ne_zero_of_lt h')
      rw [List.length_cons] at h h'
      rw [lineMark_succ, lineMark_succ]
      split
      · rename_i hc
        have hle := length_dropWhile_le hc rest
        exact markAfter_congr fun more hmore => ih (by omega) (by omega)
      · exact ih (by omega) (by omega)

theorem mark?_cons_of_not {c : Char} (hc : isDigit c = false) (rest : List Char) :
    mark? (c :: rest) = mark? rest := by
  rw [mark?, List.length_cons, lineMark_succ, if_neg (by simp [hc]), mark?]

theorem mark?_cons_of_digit {c : Char} (hc : isDigit c = true) (rest : List Char) :
    mark? (c :: rest) =
      markAfter mark? ((c :: rest).takeWhile isDigit) ((c :: rest).dropWhile isDigit) := by
  rw [mark?, List.length_cons, lineMark_succ, if_pos hc]
  have hle := length_dropWhile_le hc rest
  exact markAfter_congr fun more hmore => lineMark_congr (by omega) le_rfl

theorem markAfter_of_ne {c : Char} (hc : c ≠ ':') (next : List Char → Option (Option Nat))
    (digits rest : List Char) : markAfter next digits (c :: rest) = next (c :: rest) := by
  unfold markAfter
  split
  · rename_i heq
    cases heq
    exact absurd rfl hc
  · rfl

theorem takeWhile_append_cons {p : Char → Bool} {q : Char} (hq : p q = false) (a b : List Char) :
    (a ++ q :: b).takeWhile p = a.takeWhile p := by
  induction a with
  | nil => simp [hq]
  | cons c a ih => simp [List.takeWhile_cons, ih]

theorem dropWhile_append_cons {p : Char → Bool} {q : Char} (hq : p q = false) (a b : List Char) :
    (a ++ q :: b).dropWhile p = a.dropWhile p ++ q :: b := by
  induction a with
  | nil => simp [hq]
  | cons c a ih =>
    cases hc : p c <;> simp [hc, ih]

/-- A character that is neither a digit nor a colon keeps the marks on its two sides apart. -/
theorem mark?_append {q : Char} (hq : isDigit q = false) (hcolon : q ≠ ':') (a b : List Char) :
    mark? (a ++ q :: b) = (mark? a).or (mark? b) := by
  -- By induction on the length of the first part, as digits at its front are read all at once.
  induction hn : a.length using Nat.strongRecOn generalizing a with
  | _ n ih =>
    have hshorter (a' : List Char) (h : a'.length < n) := ih _ h a' rfl
    cases a with
    | nil =>
      rw [List.nil_append, mark?_cons_of_not hq]
      rfl
    | cons c rest =>
      rw [List.length_cons] at hn
      cases hc : isDigit c with
      | false =>
        rw [List.cons_append, mark?_cons_of_not hc, mark?_cons_of_not hc]
        exact hshorter rest (by omega)
      | true =>
        have hle := length_dropWhile_le hc rest
        rw [mark?_cons_of_digit hc, List.cons_append, mark?_cons_of_digit hc, ← List.cons_append,
          takeWhile_append_cons hq, dropWhile_append_cons hq]
        generalize (c :: rest).dropWhile isDigit = left at hle
        generalize (c :: rest).takeWhile isDigit = digits
        cases left with
        | nil =>
          rw [List.nil_append, markAfter_of_ne hcolon, mark?_cons_of_not hq]
          rfl
        | cons x more =>
          rw [List.length_cons] at hle
          by_cases hx : x = ':'
          · subst hx
            cases more with
            | nil =>
              have hnext : markAfter mark? digits (':' :: q :: b) = mark? (q :: b) := by
                simp [markAfter, hq]
              exact hnext.trans (mark?_cons_of_not hq b)
            | cons d more =>
              rw [List.length_cons] at hle
              simp only [List.cons_append, markAfter]
              split
              · rfl
              · exact hshorter (d :: more) (by rw [List.length_cons]; omega)
          · rw [List.cons_append, markAfter_of_ne hx, markAfter_of_ne hx, ← List.cons_append]
            exact hshorter (x :: more) (by rw [List.length_cons]; omega)

/-! ## Marks in words -/

/-- The first mark in words. -/
def wordsMark (words : String) : Option (Option Nat) := mark? (debugQuote words).toList

/-- Words as they are written between quotes. -/
def escaped (words : String) : List Char := words.toList.flatMap debugEscape

theorem escaped_append (a b : String) : escaped (a ++ b) = escaped a ++ escaped b := by
  rw [escaped, String.toList_append, List.flatMap_append, escaped, escaped]

/-- The quotes around words count for nothing. -/
theorem wordsMark_eq (words : String) : wordsMark words = mark? (escaped words) := by
  rw [wordsMark, debugQuote, String.toList_ofList, List.cons_append,
    mark?_cons_of_not (by decide), mark?_append (by decide) (by decide)]
  exact Option.or_none

/-- The characters that a name is quoted with. -/
inductive IsQuote : Char → Prop
  | single : IsQuote '\''
  | backward : IsQuote '`'

/-- A quote keeps the marks on its two sides apart. -/
theorem mark?_quote {q : Char} (hq : IsQuote q) (a b : List Char) :
    mark? (a ++ q :: b) = (mark? a).or (mark? b) := by
  cases hq <;> exact mark?_append (by decide) (by decide) a b

theorem escaped_quote {q : Char} (hq : IsQuote q) : escaped q.toString = [q] := by
  cases hq <;> decide

/-- Words after which a name is quoted. -/
def Opens (words : String) : Prop := ∃ q front, IsQuote q ∧ words = front ++ q.toString

/-- Words before which a name is quoted. -/
def Closes (words : String) : Prop := ∃ q back, IsQuote q ∧ words = q.toString ++ back

theorem Opens.prepend {words : String} (h : Opens words) (s : String) : Opens (s ++ words) := by
  obtain ⟨q, front, hq, rfl⟩ := h
  exact ⟨q, s ++ front, hq, String.append_assoc.symm⟩

theorem Closes.append {words : String} (h : Closes words) (s : String) : Closes (words ++ s) := by
  obtain ⟨q, back, hq, rfl⟩ := h
  exact ⟨q, back ++ s, hq, String.append_assoc⟩

/-- The first mark of words that quote a name is in front of the name, in it or behind it. -/
theorem wordsMark_quoting {before after : String} (hbefore : Opens before) (hafter : Closes after)
    (name : String) :
    wordsMark (before ++ name ++ after) =
      (wordsMark before).or ((wordsMark name).or (wordsMark after)) := by
  obtain ⟨q, front, hq, rfl⟩ := hbefore
  obtain ⟨q', back, hq', rfl⟩ := hafter
  have hfront : mark? (escaped front ++ [q]) = mark? (escaped front) :=
    (mark?_quote hq _ []).trans Option.or_none
  have hback : mark? (q' :: escaped back) = mark? (escaped back) := mark?_quote hq' [] _
  simp only [wordsMark_eq, escaped_append, escaped_quote hq, escaped_quote hq', hfront]
  rw [List.append_assoc, List.append_assoc, List.singleton_append, mark?_quote hq,
    List.singleton_append, mark?_quote hq', hback]

/-- The line of a fault is that of the first mark in its words. -/
theorem Fault.line_eq (f : Fault) : f.line = (f.words.findSome? wordsMark).join := rfl

end Folio.Template
