import Folio.Markdown.Line
import Folio.Markdown.Tree
import Folio.Text

/-!
# What lines begin with

The marks at the beginning of lines that open blocks: numbers and bullets of lists, hashes of
headings, fences around code, lines across, and the rows of tables. All of them are given the
characters of a line without its indentation.

* `Markdown.Mark.heading?`, `underline?`, `isRule`, `fence?`, `item?`: marks of blocks;
* `Markdown.Mark.columns?`, `cells`: rows of tables.
-/

namespace Folio.Markdown.Mark

/-- The level and text of a heading with hashes. Hashes at its end are left out. -/
def heading? (cs : List Char) : Option (Nat × List Char) :=
  let level := (cs.takeWhile (· == '#')).length
  let rest := cs.drop level
  if level = 0 ∨ level > 6 ∨ !rest.head?.all Line.isBlankChar then none
  else
    let text := trimBlanks rest
    let body := (text.reverse.dropWhile (· == '#')).reverse
    if body.getLast?.all Line.isBlankChar then some (level, trimBlanks body)
    else some (level, text)

/-- The level of a heading that this line is drawn under. -/
def underline? (cs : List Char) : Option Nat :=
  match trimBlanksEnd cs with
  | [] => none
  | c :: rest =>
    if c = '=' ∧ rest.all (· == '=') then some 1
    else if c = '-' ∧ rest.all (· == '-') then some 2
    else none

/-- Whether this is a line across: three or more of one mark, with blanks anywhere. -/
def isRule (cs : List Char) : Bool :=
  match cs.filter fun c => !Line.isBlankChar c with
  | [] => false
  | c :: rest =>
    (c == '*' || c == '-' || c == '_') && rest.all (· == c) && rest.length ≥ 2

/-- A fence around code. -/
structure Fence where
  /-- The character it is made of. -/
  mark : Char
  /-- How many of them. -/
  length : Nat
  /-- The words behind it. -/
  info : List Char

/-- The fence that a line is. No other backtick follows one of backticks. -/
def fence? (cs : List Char) : Option Fence :=
  match cs with
  | [] => none
  | c :: _ =>
    let length := (cs.takeWhile (· == c)).length
    let info := trimBlanks (cs.drop length)
    if (c = '~' ∨ c = '\x60' ∧ !info.contains '\x60') ∧ length ≥ 3 then some ⟨c, length, info⟩
    else none

/-- Whether a line closes a fence. -/
def Fence.isClosedBy (f : Fence) (cs : List Char) : Bool :=
  let length := (cs.takeWhile (· == f.mark)).length
  length ≥ f.length && (cs.drop length).all Line.isBlankChar

/-- The mark of an item of a list. -/
structure Item where
  /-- The character that tells lists apart. -/
  mark : Char
  /-- The number, where there is one. -/
  start : Option Nat
  /-- How many characters it has. -/
  width : Nat

/-- The mark of an item that a line begins with; a blank or nothing follows it. -/
def item? (cs : List Char) : Option Item :=
  let bullet (c : Char) : Option Item :=
    if (c = '-' ∨ c = '+' ∨ c = '*') ∧ (cs.drop 1).head?.all Line.isBlankChar then
      some ⟨c, none, 1⟩
    else none
  match cs with
  | [] => none
  | c :: _ =>
    let digits := cs.takeWhile Char.isDigit
    if digits.isEmpty then bullet c
    else
      match cs.drop digits.length with
      | m :: rest =>
        if digits.length ≤ 9 ∧ (m = '.' ∨ m = ')') ∧ rest.head?.all Line.isBlankChar then
          some ⟨m, some (digits.foldl (fun n c => n * 10 + (c.toNat - '0'.toNat)) 0),
            digits.length + 1⟩
        else none
      | [] => none

/-- Whether a task is done, with what follows the mark that says so and the blank behind it. -/
def task? (cs : List Char) : Option (Bool × List Char) :=
  match cs with
  | '[' :: c :: ']' :: b :: rest =>
    if !Line.isBlankChar b then none
    else if Line.isBlankChar c then some (false, rest)
    else if c = 'x' ∨ c = 'X' then some (true, rest)
    else none
  | _ => none

/-! ## Tables -/

/-- What has been read of the row below the head of a table. -/
structure Columns where
  /-- The alignments of the columns that are complete. -/
  done : List Alignment := []
  /-- The alignment of the column at hand. -/
  current : Alignment := .plain
  /-- Whether nothing of the column at hand has been read. -/
  atStart : Bool := true
  /-- Whether a bar was read. -/
  hasBar : Bool := false
  /-- Whether a dash was read in the column at hand. -/
  hasDash : Bool := false
  /-- Whether a dash was read anywhere. -/
  hasAnyDash : Bool := false

/-- Reads one more character of the row below the head of a table. -/
def Columns.step (s : Columns) (c : Char) : Option Columns :=
  match c with
  | ' ' => some s
  | ':' =>
    let current := match s.atStart, s.current with
      | true, .plain => Alignment.left
      | false, .left => .center
      | false, .plain => .right
      | _, a => a
    some { s with current, atStart := false }
  | '-' => some { s with atStart := false, hasDash := true, hasAnyDash := true }
  | '|' =>
    if s.hasDash then
      some { s with
        done := s.done ++ [s.current], current := .plain, atStart := true, hasBar := true
        hasDash := false }
    else none
  | _ => none

/-- The alignments that the row below the head of a table gives to its columns. -/
def columns? (cs : List Char) : Option (List Alignment) := do
  let first : Columns := { hasBar := cs.head? == some '|' }
  let s ← (if first.hasBar then cs.drop 1 else cs).foldlM Columns.step first
  if s.hasBar && s.hasAnyDash then
    return if s.atStart then s.done else s.done ++ [s.current]
  else none

/-- The parts of a row between bars that no backslash stands before; the backslashes before other
    bars are left out. -/
def parts : List Char → List (List Char)
  | [] => [[]]
  | '\\' :: '|' :: rest =>
    match parts rest with
    | [] => [['|']]
    | part :: more => ('|' :: part) :: more
  | '|' :: rest => [] :: parts rest
  | c :: rest =>
    match parts rest with
    | [] => [[c]]
    | part :: more => (c :: part) :: more

/-- The cells of a row; the bars at its ends are no borders of cells. -/
def cells (cs : List Char) : List (List Char) :=
  let cs := trimBlanks cs
  let all := parts (if cs.head? = some '|' then cs.drop 1 else cs)
  let all := if (all.getLast?.getD []).isEmpty then all.dropLast else all
  all.map trimBlanks

/-- Whether a row has a bar that separates cells. -/
def hasBar (cs : List Char) : Bool := (parts cs).length > 1

/-- So many cells: those there are, and empty ones. -/
def fill (n : Nat) (row : List (List Char)) : List (List Char) :=
  (row ++ List.replicate n []).take n

end Folio.Markdown.Mark
