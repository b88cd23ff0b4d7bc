import Folio.Markdown.Mark
import Folio.Markdown.Markup
import Folio.Markdown.Reference

/-!
# Blocks of markdown

The blocks of a document are found line by line. Some blocks are open, one inside the other:
quotations, lists and their items, and innermost of all maybe a leaf, such as a paragraph, that
still takes lines. A line first continues what it can of the open blocks, then opens new ones, and
what is left of it goes to the leaf. A paragraph also takes lines that do not continue the blocks
around it, as long as they open nothing themselves.

* `Markdown.Leaf`, `Markdown.Open`, `Markdown.Progress`: what is open;
* `Markdown.Progress.take`: what one line does;
* `Markdown.blocks`: the blocks of a whole document, and the targets it defines.
-/

namespace Folio.Markdown

/-- The source of running text, and whether it is a task that is done. -/
structure Source where
  /-- Whether the task is done, where it is one. -/
  task : Option Bool := none
  /-- The characters. -/
  text : List Char

/-- The innermost open block that takes lines. Lines are held last first. -/
inductive Leaf where
  /-- There is none. -/
  | nothing
  /-- A paragraph. -/
  | paragraph (task : Option Bool) (lines : List (List Char))
  /-- Code that is indented. -/
  | indented (lines : List (List Char))
  /-- Code in a fence that stands at some indentation. -/
  | fenced (fence : Mark.Fence) (indent : Nat) (lines : List (List Char))
  /-- Markup. -/
  | html (ending : Markup.Ending) (lines : List (List Char))
  /-- A table, and whether the row below its head is still to come. -/
  | table (columns : List Alignment) (head : List (List Char)) (awaitsColumns : Bool)
      (rows : List (List (List Char)))

/-- What kind of block is open around others. -/
inductive Open.Kind where
  /-- A quotation. -/
  | quote
  /-- A list with its mark. -/
  | list (mark : Char) (start : Option Nat) (isTight : Bool)
  /-- An item of a list, whose content begins at some indentation. -/
  | item (indent : Nat)

/-- An open block around others. -/
structure Open where
  /-- What kind of block it is. -/
  kind : Open.Kind
  /-- The blocks in it that are complete, last first. -/
  blocks : List (Block Source) := []
  /-- The items of a list that are complete, last first. -/
  items : List (List (Block Source)) := []

/-- How far a document has been read. -/
structure Progress where
  /-- The open blocks, innermost first. -/
  stack : List Open := []
  /-- The complete blocks of the document, last first. -/
  blocks : List (Block Source) := []
  /-- The innermost block that takes lines. -/
  leaf : Leaf := .nothing
  /-- Whether the last line was blank, so that the list at hand may be loose. -/
  afterBlank : Bool := false
  /-- Whether the innermost item has nothing in it yet. -/
  isFresh : Bool := false
  /-- The targets defined so far, in their order. -/
  references : List Reference := []

namespace Progress

/-! ## Closing blocks -/

/-- Adds a complete block to the innermost open one. -/
def add (p : Progress) (b : Block Source) : Progress :=
  match p.stack with
  | [] => { p with blocks := b :: p.blocks }
  | o :: rest => { p with stack := { o with blocks := b :: o.blocks } :: rest }

/-- Lines, first to last, each with its end. -/
def join (lines : List (List Char)) : List Char := lines.reverse.flatMap fun l => l ++ ['\n']

/-- The same for the last lines of a document, which may end without the end of a line. -/
def joinLast (ended : Bool) (lines : List (List Char)) : List Char :=
  if ended then join lines else (join lines).dropLast

/-- Closes the leaf. `ended` is false where the last line of the leaf is the last of the document
    and has no end. -/
def closeLeaf (p : Progress) (ended : Bool) : Progress :=
  let p' := { p with leaf := .nothing }
  match p.leaf with
  | .nothing => p'
  | .paragraph task lines =>
    let text := ['\n'].intercalate lines.reverse
    let (references, text) := if task.isSome then ([], text) else Reference.leading text
    let p' := { p' with references := p'.references ++ references }
    if text.all Line.isBlankChar then p' else p'.add (.paragraph ⟨task, trimBlanksEnd text⟩)
  | .indented lines =>
    let kept := lines.dropWhile fun l => l.all Line.isBlankChar
    p'.add (.code [] (joinLast (ended || kept.length < lines.length) kept))
  | .fenced fence _ lines => p'.add (.code fence.info (joinLast (ended || lines.isEmpty) lines))
  | .html _ lines => p'.add (.html (joinLast ended lines))
  | .table columns head _ rows =>
    let row (cells : List (List Char)) : List Source := cells.map fun c => ⟨none, c⟩
    p'.add (.table columns (row head)
      (rows.reverse.map fun cells => row (Mark.fill columns.length cells)))

/-- Closes the innermost open block. -/
def closeOne (p : Progress) : Progress :=
  match p.stack with
  | [] => p
  | o :: rest =>
    let p := { p with stack := rest, isFresh := false }
    match o.kind, rest with
    | .quote, _ => p.add (.quote o.blocks.reverse)
    | .list _ start isTight, _ => p.add (.list start isTight o.items.reverse)
    | .item _, outer :: rest =>
      { p with stack := { outer with items := o.blocks.reverse :: outer.items } :: rest }
    | .item _, [] => { p with blocks := o.blocks ++ p.blocks }

/-- Closes open blocks until only the outermost `n` are left. -/
def closeTo (n : Nat) : (fuel : Nat) → Progress → Progress
  | 0, p => p
  | fuel + 1, p => if p.stack.length ≤ n then p else closeTo n fuel p.closeOne

/-- Closes the leaf and all open blocks but the outermost `n`. -/
def close (p : Progress) (n : Nat) : Progress :=
  let p := p.closeLeaf true
  closeTo n p.stack.length p

/-- The list around the innermost item is loose. -/
def loosen (p : Progress) : Progress :=
  match p.stack with
  | item :: outer :: rest =>
    match outer.kind with
    | .list mark start _ =>
      { p with stack := item :: { outer with kind := .list mark start false } :: rest }
    | _ => p
  | _ => p

/-- Gets ready for a new block: a list whose item is complete is closed, and one is loose if a blank
    line stands before the new block in its item. -/
def begin (p : Progress) : Progress :=
  let p := match p.stack with
    | o :: _ =>
      match o.kind with
      | .list .. => p.closeOne
      | _ => p
    | [] => p
  let p := if p.afterBlank then p.loosen else p
  { p with afterBlank := false, isFresh := false }

/-! ## Continuing open blocks -/

/-- What is left of a line after the marks of the open blocks that it continues, and how many these
    are. The blocks are given outermost first. -/
def continued : (opened : List Open) → Line → Nat × Line
  | [], l => (0, l)
  | o :: rest, l =>
    let next (l : Line) : Nat × Line :=
      let (n, l) := continued rest l
      (n + 1, l)
    match o.kind with
    | .list .. => next l
    | .item indent =>
      if l.isBlank then next l.skipAll
      else if indent ≤ l.indent then next (l.skip indent)
      else (0, l)
    | .quote =>
      let inner := l.skipAll
      if l.indent ≤ 3 ∧ inner.chars.head? = some '>' then next ((inner.drop 1).skip 1) else (0, l)

/-- The open blocks, outermost first. -/
def opened (p : Progress) : List Open := p.stack.reverse

/-! ## Opening blocks -/

/-- The columns of a table whose head is this line, where the next line of the source says so. -/
def tableColumns? (opened : List Open) (next : Option (List Char)) (cs : List Char) :
    Option (List Alignment) := do
  let (n, l) := continued opened ⟨0, ← next⟩
  if n < opened.length || l.indent > 3 || !Mark.hasBar cs then none
  else
    let columns ← Mark.columns? l.skipAll.chars
    if columns.length = (Mark.cells cs).length then some columns else none

/-- Whether a line, which continues all open blocks or not, ends a paragraph. -/
def interrupts (tables : Bool) (opened : List Open) (next : Option (List Char))
    (continuesAll : Bool) (cs : List Char) : Bool :=
  Mark.isRule cs || (Mark.heading? cs).isSome || (Mark.fence? cs).isSome || cs.head? == some '>' ||
    (match Mark.item? cs with
      | none => false
      | some m =>
        !continuesAll ||
          (m.start.all (· == 1) && !(cs.drop m.width).all Line.isBlankChar)) ||
    (Markup.blockStart? false cs).isSome ||
    (tables && cs.head? == some '|' && (tableColumns? opened next cs).isSome)

/-- Opens an item, and a list around it unless the one at hand has the same mark. -/
def openItem (p : Progress) (m : Mark.Item) (indent : Nat) : Progress :=
  let newList (p : Progress) : Progress :=
    let p := p.begin
    { p with stack := ⟨.item indent, [], []⟩ :: ⟨.list m.mark m.start true, [], []⟩ :: p.stack }
  match p.stack with
  | o :: rest =>
    match o.kind with
    | .list mark start isTight =>
      if mark = m.mark then
        let list := { o with kind := .list mark start (isTight && !p.afterBlank) }
        { p with
          stack := ⟨.item indent, [], []⟩ :: list :: rest, afterBlank := false, isFresh := false }
      else newList p
    | _ => newList p
  | [] => newList p

/-- A paragraph that begins with some characters, or a table. -/
def openText (tables : Bool) (next : Option (List Char)) (p : Progress) (cs : List Char) :
    Progress :=
  let p := p.begin
  match if tables then tableColumns? p.opened next cs else none with
  | some columns => { p with leaf := .table columns (Mark.cells cs) true [] }
  | none => { p with leaf := .paragraph none [cs] }

/-- How markup ends once a line of it has been read. -/
def endingAfter (ending : Markup.Ending) (line : List Char) : Markup.Ending :=
  match ending with
  | .holding mark => if Text.occurs mark (line.map Char.toLower) then .met else ending
  | ending => ending

/-- Markup that begins with a line. -/
def openMarkup (p : Progress) (ending : Markup.Ending) (l : Line) : Progress :=
  { p.begin with leaf := .html (endingAfter ending l.chars) [l.chars] }

/-- Opens what a line opens, of at most `fuel` quotations and items, and puts the rest of the line
    into a leaf. -/
def openWithin (tables tasks : Bool) (next : Option (List Char)) :
    (fuel : Nat) → Progress → Line → Progress
  | 0, p, _ => p
  | fuel + 1, p, l =>
    let inner := l.skipAll
    let cs := inner.chars
    if l.isBlank then
      let p := if p.isFresh then { p.closeOne with isFresh := false } else p
      match p.stack with
      | o :: _ =>
        match o.kind with
        | .quote => p
        | _ => { p with afterBlank := true }
      | [] => { p with afterBlank := true }
    else if l.indent ≥ 4 then { p.begin with leaf := .indented [(l.skip 4).chars] }
    else if cs.head? = some '>' then
      let p := p.begin
      let p := { p with stack := ⟨.quote, [], []⟩ :: p.stack }
      openWithin tables tasks next fuel p ((inner.drop 1).skip 1)
    else if Mark.isRule cs then p.begin.add .rule
    else
      match Mark.item? cs with
      | some m =>
        let after := inner.drop m.width
        if after.isBlank then
          { p.openItem m (l.indent + m.width + 1) with isFresh := true }
        else
          let gap := if after.indent ≤ 4 then after.indent else 1
          let p := p.openItem m (l.indent + m.width + gap)
          let rest := after.skip gap
          match if tasks ∧ rest.indent ≤ 3 then Mark.task? rest.skipAll.chars else none with
          | some (done, text) =>
            if text.all Line.isBlankChar then openWithin tables tasks next fuel p rest
            else { p.begin with leaf := .paragraph (some done) [text.dropWhile Line.isBlankChar] }
          | none => openWithin tables tasks next fuel p rest
      | none =>
        match Markup.blockStart? true cs with
        | some ending => p.openMarkup ending l
        | none =>
          match Mark.heading? cs with
          | some (level, text) => p.begin.add (.heading level ⟨none, text⟩)
          | none =>
            match Mark.fence? cs with
            | some fence => { p.begin with leaf := .fenced fence l.indent [] }
            | none => openText tables next p cs

/-! ## Lines -/

/-- A line that continues nothing of the leaf: it closes what it does not continue and opens what it
    opens. -/
def start (tables tasks : Bool) (next : Option (List Char)) (p : Progress) (n : Nat) (l : Line) :
    Progress :=
  openWithin tables tasks next (l.chars.length + 1) (p.close n) l

/-- The heading that a paragraph becomes by a line drawn under it, unless the paragraph only defines
    targets. -/
def underlined (p : Progress) (level : Nat) (lines : List (List Char)) : Option Progress :=
  let (references, text) := Reference.leading (['\n'].intercalate lines.reverse)
  if text.all Line.isBlankChar then none
  else
    some (({ p with leaf := .nothing, references := p.references ++ references } : Progress).add
      (.heading level ⟨none, trimBlanksEnd text⟩))

/-- What a line does, given the line after it. -/
def take (tables tasks : Bool) (p : Progress) (line : List Char) (next : Option (List Char)) :
    Progress :=
  let (n, l) := continued p.opened ⟨0, line⟩
  let continuesAll := n = p.stack.length
  let inner := l.skipAll
  let cs := inner.chars
  let fresh := start tables tasks next p n l
  match p.leaf with
  | .nothing => fresh
  | .fenced fence indent lines =>
    if !continuesAll then fresh
    else if l.indent ≤ 3 ∧ fence.isClosedBy cs then p.closeLeaf true
    else { p with leaf := .fenced fence indent ((l.skip indent).chars :: lines) }
  | .html ending lines =>
    if !continuesAll ∨ ending = .met ∨ (ending = .blankLine ∧ l.isBlank) then fresh
    else { p with leaf := .html (endingAfter ending l.chars) (l.chars :: lines) }
  | .indented lines =>
    if continuesAll ∧ (l.isBlank ∨ l.indent ≥ 4) then
      { p with leaf := .indented ((l.skip 4).chars :: lines) }
    else fresh
  | .table columns head true rows => { p with leaf := .table columns head false rows }
  | .table columns head false rows =>
    if !continuesAll || l.isBlank || interrupts false p.opened next true cs then fresh
    else { p with leaf := .table columns head false (Mark.cells cs :: rows) }
  | .paragraph task lines =>
    let more := { p with leaf := .paragraph task (cs :: lines) }
    if l.isBlank then fresh
    else if l.indent ≥ 4 then more
    else
      let heading := if continuesAll ∧ task.isNone then
          (Mark.underline? cs).bind fun level => p.underlined level lines
        else none
      match heading with
      | some p => p
      | none => if interrupts tables p.opened next continuesAll cs then fresh else more

/-- Takes all lines. -/
def takeAll (tables tasks : Bool) : Progress → List (List Char) → Progress
  | p, [] => p
  | p, line :: rest => takeAll tables tasks (p.take tables tasks line rest.head?) rest

end Progress

/-- The lines of a text, without their ends, and whether the last one has an end. -/
def linesOf (text : List Char) : List (List Char) × Bool :=
  let text := Text.replace ['\r', '\n'] ['\n'] text
  let lines := Text.fields (fun c => c == '\n' || c == '\r') text
  if lines.getLast? == some [] then (lines.dropLast, true) else (lines, false)

/-- The blocks of a document, and the targets it defines. -/
def blocks (tables tasks : Bool) (text : List Char) : List (Block Source) × List Reference :=
  let (lines, ended) := linesOf text
  let p := Progress.takeAll tables tasks {} lines
  let p := (p.closeLeaf ended).close 0
  (p.blocks.reverse, p.references)

end Folio.Markdown
