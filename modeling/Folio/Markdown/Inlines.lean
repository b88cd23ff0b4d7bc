import Folio.Markdown.Markup
import Folio.Markdown.Reference
import Folio.Markdown.Tree

/-!
# Running text of markdown

Running text is read from left to right into pieces: inlines that are complete, runs of marks that
may emphasise something, and brackets that may begin a link. A closing bracket looks back for the
bracket that it closes. Where a part of the text is complete, its runs of marks are paired: a run
that closes takes the nearest one before it that opens and fits, and what is left of either stays in
play.

* `Markdown.Piece`: a piece of running text while it is read;
* `Markdown.pair`: pairing the marks among pieces;
* `Markdown.inlines`: the inlines of running text.
-/

namespace Folio.Markdown

/-- A run of marks. -/
structure Run where
  /-- The mark. -/
  mark : Char
  /-- How many are left. -/
  count : Nat
  /-- How many there were. -/
  length : Nat
  /-- Whether something may be emphasised that follows. -/
  opens : Bool
  /-- Whether something may be emphasised that ends here. -/
  closes : Bool

/-- A piece of running text while it is read. -/
inductive Piece where
  /-- An inline that is complete. -/
  | done (i : Inline)
  /-- A run of marks. -/
  | run (r : Run)
  /-- A bracket that may begin a link or an image, with the source behind it. It may be too late for
      it to begin a link. -/
  | bracket (isImage isActive : Bool) (source : List Char)

/-! ## Marks in pairs -/

/-- The characters of a run. -/
def Run.text (r : Run) : Inline := .text (List.replicate r.count r.mark)

/-- A piece as it stands where it begins nothing. -/
def Piece.plain : Piece → Inline
  | .done i => i
  | .run r => r.text
  | .bracket isImage _ _ => .text (if isImage then ['!', '['] else ['['])

/-- Whether a run that opens fits one that closes. If either could do both, their lengths may not
    add up to a multiple of three, unless both are such multiples. -/
def Run.fits (opener closer : Run) : Bool :=
  opener.mark == closer.mark && opener.opens &&
    (closer.mark != '~' || opener.length == closer.length) &&
    (!(closer.opens && closer.closes) && !(opener.opens && opener.closes) ||
      (opener.length + closer.length) % 3 != 0 || closer.length % 3 == 0)

/-- Content emphasised by some marks: two of them strongly, from the inside out. -/
def emphasise (mark : Char) : (count : Nat) → List Inline → List Inline
  | 0, content => content
  | 1, content => [if mark = '~' then .deleted content else .emphasis content]
  | count + 2, content =>
    emphasise mark count [if mark = '~' then .deleted content else .strong content]

/-- What stands before the nearest run that a run closes, that run, and the pieces after it, first
    to last. The pieces passed are given last first. -/
def opener? (closer : Run) (after : List Inline) :
    List Piece → Option (List Piece × Run × List Inline)
  | [] => none
  | .run r :: rest =>
    if r.fits closer then some (rest, r, after) else opener? closer (r.text :: after) rest
  | piece :: rest => opener? closer (piece.plain :: after) rest

/-- Closes what a run closes, with at most `fuel` marks, and keeps what is left of it. -/
def closeRun : (fuel : Nat) → List Piece → Run → List Piece
  | 0, before, r => .run r :: before
  | fuel + 1, before, r =>
    if r.count = 0 then before
    else
      let found := if r.closes then opener? r [] before else none
      match found with
      | none => if r.opens then .run r :: before else .done r.text :: before
      | some (outer, o, content) =>
        let n := min o.count r.count
        let outer := if o.count > n then .run { o with count := o.count - n } :: outer else outer
        let whole := (emphasise r.mark n content).map Piece.done
        closeRun fuel (whole ++ outer) { r with count := r.count - n }

/-- The inlines of pieces, given first to last, with their marks in pairs. -/
def pair (pieces : List Piece) : List Inline :=
  let step (before : List Piece) : Piece → List Piece
    | .run r => closeRun (r.count + 1) before r
    | piece => .done piece.plain :: before
  (pieces.foldl step []).reverse.map Piece.plain

/-! ## Links -/

/-- Whether an inline is a link, or has one in it; links are not nested. -/
def Piece.deactivated : Piece → Piece
  | .bracket false _ source => .bracket false false source
  | piece => piece

/-- The pieces behind the nearest bracket, first to last, the bracket, and the pieces before it,
    last first. -/
def lastBracket? (after : List Piece) :
    List Piece → Option (List Piece × (Bool × Bool × List Char) × List Piece)
  | [] => none
  | .bracket isImage isActive source :: before => some (after, (isImage, isActive, source), before)
  | piece :: before => lastBracket? (piece :: after) before

/-- The target and title in parentheses behind the text of a link, and what follows. -/
def inlineTarget? : List Char → Option ((List Char × List Char) × List Char)
  | '(' :: rest => do
    let start := rest.dropWhile isGapChar
    let (target, rest) ← target? start
    let gap := rest.dropWhile isGapChar
    match gap with
    | ')' :: rest => return ((target, []), rest)
    | _ =>
      if gap.length = rest.length then none
      else
        let (title, rest) ← title? gap
        match rest.dropWhile isGapChar with
        | ')' :: rest => return ((target, title), rest)
        | _ => none
  | _ => none

/-- What a link with some source for its text leads to, given what follows its bracket. -/
def linkTarget? (references : List Reference) (source after : List Char) :
    Option ((List Char × List Char) × List Char) :=
  match inlineTarget? after with
  | some found => some found
  | none =>
    let named (label rest : List Char) : Option ((List Char × List Char) × List Char) :=
      (Reference.find? references label).map fun r => ((r.target, r.title), rest)
    let own := source.take (source.length - after.length - 1)
    let byItself (rest : List Char) :=
      match label? (own ++ [']']) with
      | some (label, []) => named label rest
      | _ => none
    match after with
    | '[' :: ']' :: rest => byItself rest
    | '[' :: rest =>
      match label? rest with
      | some (label, rest) => named label rest
      | none => byItself after
    | _ => byItself after

/-! ## Reading -/

/-- Whether a run of marks between two characters opens something. -/
def runOpens (mark : Char) (length : Nat) (prev next : Option Char) : Bool :=
  match next with
  | none => false
  | some n =>
    if Unicode.isSpace n then false
    else
      match prev with
      | none => true
      | some p =>
        (mark == '*' && !Unicode.isPunctuation n) || (mark == '~' && length > 1) ||
          Unicode.isSpace p || Unicode.isPunctuation p

/-- Whether a run of marks between two characters closes something. -/
def runCloses (mark : Char) (length : Nat) (prev next : Option Char) : Bool :=
  match prev with
  | none => false
  | some p =>
    if Unicode.isSpace p then false
    else
      match next with
      | none => true
      | some n =>
        ((mark == '*' || (mark == '~' && length > 1)) && !Unicode.isPunctuation p) ||
          Unicode.isSpace n || Unicode.isPunctuation n

/-- The code up to a run of so many backticks, and what follows. -/
def codeUpTo (length : Nat) : (fuel : Nat) → (taken : List Char) → List Char →
    Option (List Char × List Char)
  | 0, _, _ => none
  | _, _, [] => none
  | fuel + 1, taken, c :: rest =>
    if c = '\x60' then
      let run := (c :: rest).takeWhile (· == '\x60')
      let rest := (c :: rest).drop run.length
      if run.length = length then some (taken.reverse, rest)
      else codeUpTo length fuel (run ++ taken) rest
    else codeUpTo length fuel (c :: taken) rest

/-- Code as it is shown: on one line, and without a blank at either end if it has one at both. -/
def shownCode (code : List Char) : List Char :=
  let code := code.map fun c => if c = '\n' then ' ' else c
  if code.head? = some ' ' ∧ code.getLast? = some ' ' ∧ !code.all (· == ' ') then
    (code.drop 1).dropLast
  else code

/-- The address in angle brackets behind the first of them, how it is linked to, and what follows.
    -/
def address? (cs : List Char) : Option (List Char × List Char × List Char) :=
  let inside := cs.takeWhile fun c => c != '>' && c != '<' && c.toNat > 0x20
  match cs.drop inside.length with
  | '>' :: rest =>
    let scheme := inside.takeWhile fun c => c.isAlphanum || "+.-".toList.contains c
    if scheme.length ≥ 2 ∧ scheme.length ≤ 32 ∧ scheme.head?.any Char.isAlpha ∧
        (inside.drop scheme.length).head? = some ':' then some (inside, inside, rest)
    else
      let isLocal (c : Char) := c.isAlphanum || ".!#$%&'*+/=?^_-~".toList.contains c ||
        c == '\x60' || c == '{' || c == '|' || c == '}'
      let user := inside.takeWhile isLocal
      match inside.drop user.length with
      | '@' :: host =>
        let isPart (p : List Char) : Bool :=
          !p.isEmpty && p.length ≤ 63 && p.all (fun c => c.isAlphanum || c == '-') &&
            p.head? != some '-' && p.getLast? != some '-'
        if !user.isEmpty ∧ (Text.fields (· == '.') host).all isPart then
          some ("mailto:".toList ++ inside, inside, rest)
        else none
      | _ => none
  | _ => none

/-- What has been read of running text: its pieces, last first, the characters that no piece holds
    yet, last first, and the character before the place at hand. -/
structure Reading where
  /-- The pieces. -/
  pieces : List Piece := []
  /-- Characters that become a text. -/
  pending : List Char := []
  /-- The character before. -/
  prev : Option Char := none

namespace Reading

/-- All pieces, the pending characters among them. -/
def flush (r : Reading) : List Piece :=
  if r.pending.isEmpty then r.pieces else .done (.text r.pending.reverse) :: r.pieces

/-- Adds a piece that ends with some character. -/
def push (r : Reading) (piece : Piece) (last : Char) : Reading :=
  { pieces := piece :: r.flush, pending := [], prev := some last }

/-- Adds some characters, of which the last one in the source is given. -/
def keep (r : Reading) (cs : List Char) (last : Char) : Reading :=
  { r with pending := cs.reverse ++ r.pending, prev := some last }

/-- Ends a line: blanks before it are left out, and two or more of them end a line of the output. -/
def newline (r : Reading) : Reading :=
  let kept := r.pending.dropWhile Line.isBlankChar
  let isHard := r.pending.length ≥ kept.length + 2
  let ending : Inline := if isHard then .hardBreak else .softBreak
  ({ r with pending := kept } : Reading).push (.done ending) '\n'

/-- Closes a bracket, given what follows: the link or image that it ends, with what follows that, or
    else the bracket as it is. -/
def closeBracket (references : List Reference) (r : Reading) (after : List Char) :
    Reading × List Char :=
  let plain := r.keep [']'] ']'
  match lastBracket? [] r.flush with
  | none => (plain, after)
  | some (content, (isImage, isActive, source), before) =>
    let asText : Reading :=
      { pieces := content.reverse ++
          .done (.text (if isImage then ['!', '['] else ['['])) :: before }
    if !isActive then (asText.keep [']'] ']', after)
    else
      match linkTarget? references source after with
      | none => (asText.keep [']'] ']', after)
      | some ((target, title), rest) =>
        let inside := pair content
        let last := ((after.take (after.length - rest.length)).getLast?).getD ']'
        if isImage then
          ({ pieces := .done (.image target title inside) :: before, prev := some last }, rest)
        else
          let before := before.map Piece.deactivated
          ({ pieces := .done (.link target title inside) :: before, prev := some last }, rest)

/-- Reads running text, of at most `fuel` characters. -/
def within (strikes : Bool) (references : List Reference) : (fuel : Nat) → Reading → List Char →
    Reading
  | 0, r, _ => r
  | _, r, [] => r
  | fuel + 1, r, c :: rest =>
    let go := within strikes references fuel
    match c with
    | '\n' => go r.newline (rest.dropWhile Line.isBlankChar)
    | '\\' =>
      match rest with
      | '\n' :: more => go (r.push (.done .hardBreak) '\n') (more.dropWhile Line.isBlankChar)
      | m :: more => if isMark m then go (r.keep [m] m) more else go (r.keep ['\\'] '\\') rest
      | [] => r.keep ['\\'] '\\'
    | '\x60' =>
      let run := (c :: rest).takeWhile (· == '\x60')
      let more := (c :: rest).drop run.length
      match codeUpTo run.length more.length [] more with
      | some (code, more) => go (r.push (.done (.code (shownCode code))) c) more
      | none => go (r.keep run c) more
    | '&' =>
      match entity? rest with
      | some (cs, more) => go (r.keep cs ';') more
      | none => go (r.keep ['&'] '&') rest
    | '<' =>
      match address? rest with
      | some (target, shown, more) => go (r.push (.done (.link target [] [.text shown])) '>') more
      | none =>
        match Markup.piece? (c :: rest) with
        | some more =>
          go (r.push (.done (.html ((c :: rest).take (rest.length + 1 - more.length)))) '>') more
        | none => go (r.keep ['<'] '<') rest
    | '!' =>
      match rest with
      | '[' :: more => go (r.push (.bracket true true more) '[') more
      | _ => go (r.keep ['!'] '!') rest
    | '[' => go (r.push (.bracket false true rest) '[') rest
    | ']' =>
      let (r, more) := r.closeBracket references rest
      go r more
    | c =>
      if c = '*' ∨ c = '_' ∨ (c = '~' ∧ strikes) then
        let length := ((c :: rest).takeWhile (· == c)).length
        let more := (c :: rest).drop length
        let opens := runOpens c length r.prev more.head?
        let closes := runCloses c length r.prev more.head?
        if (opens || closes) && (c != '~' || length ≤ 2) then
          go (r.push (.run ⟨c, length, length, opens, closes⟩) c) more
        else go (r.keep (List.replicate length c) c) more
      else go (r.keep [c] c) rest

end Reading

/-- The inlines of running text. -/
def inlines (strikes : Bool) (references : List Reference) (cs : List Char) : List Inline :=
  pair (Reading.within strikes references cs.length {} cs).flush.reverse

end Folio.Markdown
