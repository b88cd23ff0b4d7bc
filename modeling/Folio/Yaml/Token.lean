/-!
# Tokens of YAML

The text of a YAML document is cut into tokens. In block context indentation has a meaning of its
own: a stack of columns says which collections are open, and tokens for their starts and ends are
put in where the column rises or falls. A scalar is known to be a key only when its colon is met; so
the place where a key may begin is kept, and the tokens that say so are put in there afterwards.

* `Yaml.Token`: the tokens;
* `Yaml.Lexer`: how far a text has been read, with the open collections and possible keys;
* `Yaml.tokens`: all tokens of a text.
-/

namespace Folio.Yaml

/-- Why a text is not YAML, in words. -/
abbrev Fault := String

/-- A part of a YAML text. -/
inductive Token where
  /-- The end of the text. -/
  | streamEnd
  /-- The version that a document asks for. -/
  | version (major minor : Nat)
  /-- An abbreviation for tags. -/
  | tagHandle (handle expansion : String)
  /-- The three dashes before a document. -/
  | documentStart
  /-- The three dots after a document. -/
  | documentEnd
  /-- A list in block context begins. -/
  | blockSequence
  /-- A mapping in block context begins. -/
  | blockMapping
  /-- A collection in block context ends. -/
  | blockEnd
  /-- An opening bracket. -/
  | flowSequence
  /-- A closing bracket. -/
  | flowSequenceEnd
  /-- An opening brace. -/
  | flowMapping
  /-- A closing brace. -/
  | flowMappingEnd
  /-- The dash before an item. -/
  | blockEntry
  /-- A comma. -/
  | flowEntry
  /-- A key begins. -/
  | key
  /-- A value begins. -/
  | value
  /-- A name for the node that follows. -/
  | anchor (name : String)
  /-- A node known by its name. -/
  | alias (name : String)
  /-- The type of the node that follows. -/
  | tag (handle suffix : String)
  /-- A scalar; a plain one stands without quotes or indicator. -/
  | scalar (plain : Bool) (text : String)
deriving DecidableEq

/-- A place where a key may have begun. -/
structure PossibleKey where
  /-- Whether a key may begin there at all. -/
  possible : Bool := false
  /-- Whether there has to be a key, as the column is that of the open mapping. -/
  required : Bool := false
  /-- The number of tokens before it. -/
  tokens : Nat := 0
  /-- The number of characters before it. -/
  index : Nat := 0
  /-- Its line. -/
  line : Nat := 0
  /-- Its column. -/
  column : Nat := 0

/-- How far a text has been read. -/
structure Lexer where
  /-- The characters still to be read. -/
  rest : List Char
  /-- The number of characters read. -/
  index : Nat := 0
  /-- The line, counted from zero. -/
  line : Nat := 0
  /-- The column, counted from zero. -/
  column : Nat := 0
  /-- The column of the innermost open block collection; `-1` without one. -/
  indent : Int := -1
  /-- The columns of the outer block collections, innermost first. -/
  indents : List Int := []
  /-- The number of open brackets and braces. -/
  flowLevel : Nat := 0
  /-- Where a key may have begun, for every flow level, innermost first. -/
  keys : List PossibleKey := [{}]
  /-- Whether a key may begin at the next character. -/
  keyAllowed : Bool := true
  /-- The tokens met so far, the latest first. -/
  tokens : List Token := []

/-- A line end: five characters count as one. -/
def isBreak (c : Char) : Bool :=
  c == '\n' || c == '\r' || c == '\u0085' || c == '\u2028' || c == '\u2029'

/-- A space or a tab. -/
def isBlank (c : Char) : Bool := c == ' ' || c == '\t'

/-- A character of names: a letter or digit of ASCII, a dash or an underscore. -/
def isWord (c : Char) : Bool := c.isAlphanum || c == '-' || c == '_'

/-- The characters that may occur in a text at all. -/
def isAllowed (c : Char) : Bool :=
  let n := c.toNat
  n == 0x09 || n == 0x0a || n == 0x0d || (0x20 ≤ n && n ≤ 0x7e) || n == 0x85 ||
    (0xa0 ≤ n && n ≤ 0xd7ff) || (0xe000 ≤ n && n ≤ 0xfffd) || 0x10000 ≤ n

namespace Lexer

/-- The character `n` places ahead. -/
def peek (x : Lexer) (n : Nat) : Option Char := x.rest[n]?

/-- Whether this character comes `n` places ahead. -/
def looksAt (x : Lexer) (n : Nat) (c : Char) : Bool := x.peek n == some c

/-- Whether a blank, a line end or the end of the text comes `n` places ahead. -/
def blankOrEnd (x : Lexer) (n : Nat) : Bool :=
  match x.peek n with
  | none => true
  | some c => isBlank c || isBreak c

/-- Whether a line end or the end of the text comes next. -/
def breakOrEnd (x : Lexer) : Bool := x.rest.head?.all isBreak

/-- Whether a line end comes next. -/
def atBreak (x : Lexer) : Bool := x.rest.head?.any isBreak

/-- Whether a blank comes next. -/
def atBlank (x : Lexer) : Bool := x.rest.head?.any isBlank

/-- Steps over `n` characters of one line. -/
def skip (x : Lexer) (n : Nat) : Lexer :=
  { x with rest := x.rest.drop n, index := x.index + n, column := x.column + n }

/-- Steps over a line end, and answers the characters that stand for it in a text: the two oldest
    forms of it and their pair become a line feed. -/
def takeBreak (x : Lexer) : List Char × Lexer :=
  let go (n : Nat) (rest : List Char) : Lexer :=
    { x with rest, index := x.index + n, column := 0, line := x.line + 1 }
  match x.rest with
  | '\r' :: '\n' :: rest => (['\n'], go 2 rest)
  | c :: rest =>
    if c == '\u2028' || c == '\u2029' then ([c], go 1 rest)
    else if isBreak c then (['\n'], go 1 rest)
    else ([], x)
  | [] => ([], x)

/-- Steps over a line end. -/
def skipBreak (x : Lexer) : Lexer := x.takeBreak.2

/-- Steps over characters of one line as long as they satisfy a test, and answers them. -/
def takeWhile (x : Lexer) (p : Char → Bool) : List Char × Lexer :=
  let cs := x.rest.takeWhile p
  (cs, x.skip cs.length)

/-- Whether a marker of a document, three times this character, comes next at the start of a line.
    -/
def documentMarker (x : Lexer) (c : Char) : Bool :=
  x.column == 0 && x.looksAt 0 c && x.looksAt 1 c && x.looksAt 2 c && x.blankOrEnd 3

/-- Adds a token. -/
def push (x : Lexer) (t : Token) : Lexer := { x with tokens := t :: x.tokens }

/-- Puts a token in after the first `n` ones. -/
def insertAt (x : Lexer) (n : Nat) (t : Token) : Lexer :=
  let later := x.tokens.length - n
  { x with tokens := x.tokens.take later ++ t :: x.tokens.drop later }

/-- Gives up the possible key of this flow level; a required one is missed. -/
def removeKey (x : Lexer) : Except Fault Lexer :=
  match x.keys with
  | [] => .ok x
  | k :: outer =>
    if k.possible && k.required then .error "could not find expected ':'"
    else .ok { x with keys := { k with possible := false } :: outer }

/-- Keeps this place as one where a key may begin, if it may. -/
def saveKey (x : Lexer) : Except Fault Lexer := do
  if x.keyAllowed then
    let required := x.flowLevel == 0 && x.indent == (x.column : Int)
    let x ← x.removeKey
    let key := { possible := true, required, tokens := x.tokens.length
                 index := x.index, line := x.line, column := x.column }
    return { x with keys := key :: x.keys.tail }
  else return x

/-- Gives up the possible keys that lie too far back: a key stands on one line and is no longer than
    1024 characters. -/
def dropStaleKeys (x : Lexer) : Except Fault Lexer := do
  let keys ← x.keys.mapM fun k =>
    if k.possible && (k.line < x.line || k.index + 1024 < x.index) then
      if k.required then .error "could not find expected ':'"
      else .ok { k with possible := false }
    else .ok k
  return { x with keys }

/-- Opens a block collection if the column lies further right than the open one; its token goes
    after the first `at` ones, or at the end. -/
def openBlock (x : Lexer) (column : Nat) (place : Option Nat) (t : Token) : Lexer :=
  if x.flowLevel ≠ 0 then x
  else if x.indent < (column : Int) then
    let x := { x with indents := x.indent :: x.indents, indent := column }
    match place with
    | none => x.push t
    | some n => x.insertAt n t
  else x

/-- Closes the block collections that lie further right than a column. -/
def closeBlocks (x : Lexer) (column : Int) : Lexer :=
  if x.flowLevel ≠ 0 then x
  else
    let rec go (indent : Int) (tokens : List Token) : List Int → Int × List Int × List Token
      | [] => (indent, [], tokens)
      | outer :: rest =>
        if indent > column then go outer (.blockEnd :: tokens) rest
        else (indent, outer :: rest, tokens)
    let (indent, indents, tokens) := go x.indent x.tokens x.indents
    { x with indent, indents, tokens }

/-- Steps over blanks, comments and line ends before the next token. Tabs count as blanks where no
    key may begin. -/
def skipToToken : (fuel : Nat) → Lexer → Lexer
  | 0, x => x
  | fuel + 1, x =>
    let x := if x.index == 0 && x.looksAt 0 '\uFEFF' then x.skip 1 else x
    let tabs := x.flowLevel ≠ 0 || !x.keyAllowed
    let x := (x.takeWhile fun c => c == ' ' || (tabs && c == '\t')).2
    let x := if x.looksAt 0 '#' then (x.takeWhile fun c => !isBreak c).2 else x
    if x.atBreak then
      let x := x.skipBreak
      skipToToken fuel (if x.flowLevel == 0 then { x with keyAllowed := true } else x)
    else x

/-! ### Directives, anchors and tags -/

/-- Reads a number of a version. -/
def versionNumber (x : Lexer) : Except Fault (Nat × Lexer) :=
  let (ds, x) := x.takeWhile Char.isDigit
  if ds.isEmpty then .error "did not find expected version number"
  else if ds.length > 9 then .error "found extremely long version number"
  else .ok (ds.foldl (fun n d => n * 10 + (d.toNat - '0'.toNat)) 0, x)

/-- A character of a tag; some are taken only between angle brackets. -/
def isTagChar (verbatim : Bool) (c : Char) : Bool :=
  isWord c || ";/?:@&=+$.%!~*'()".toList.contains c || (verbatim && ",[]".toList.contains c)

/-- The value of a hexadecimal digit. -/
def hexValue (c : Char) : Option Nat :=
  if '0' ≤ c ∧ c ≤ '9' then some (c.toNat - '0'.toNat)
  else if 'a' ≤ c ∧ c ≤ 'f' then some (c.toNat - 'a'.toNat + 10)
  else if 'A' ≤ c ∧ c ≤ 'F' then some (c.toNat - 'A'.toNat + 10)
  else none

/-- Reads a tag, or what follows its handle; `head` has been read already. -/
def tagText (x : Lexer) (verbatim : Bool) (head : List Char) : Except Fault (String × Lexer) :=
  let (cs, x) := x.takeWhile (isTagChar verbatim)
  if head.isEmpty && cs.isEmpty then .error "did not find expected tag URI"
  else if cs.contains '%' then .error "escapes in tags are not supported"
  else .ok (String.ofList (head.drop 1 ++ cs), x)

/-- Reads the handle of a tag: words between exclamation marks. -/
def tagHandle (x : Lexer) (inDirective : Bool) : Except Fault (List Char × Lexer) := do
  if !x.looksAt 0 '!' then .error "did not find expected '!'"
  else
    let (cs, x) := (x.skip 1).takeWhile isWord
    if x.looksAt 0 '!' then return ('!' :: cs ++ ['!'], x.skip 1)
    else if inDirective && !cs.isEmpty then .error "did not find expected '!'"
    else return ('!' :: cs, x)

/-- Reads a directive line. -/
def directive (x : Lexer) : Except Fault Lexer := do
  let (name, x) := (x.skip 1).takeWhile isWord
  if !x.blankOrEnd 0 then .error "found unexpected non-alphabetical character"
  else
    let blanks (x : Lexer) : Lexer := (x.takeWhile isBlank).2
    let (token, x) ←
      if name = ['Y', 'A', 'M', 'L'] then do
        let (major, x) ← versionNumber (blanks x)
        if !x.looksAt 0 '.' then .error "did not find expected digit or '.' character"
        else
          let (minor, x) ← versionNumber (x.skip 1)
          pure (Token.version major minor, x)
      else if name = ['T', 'A', 'G'] then do
        let (handle, x) ← tagHandle (blanks x) true
        if !x.atBlank then .error "did not find expected whitespace"
        else
          let (expansion, x) ← tagText (blanks x) true []
          if !x.blankOrEnd 0 then .error "did not find expected whitespace or line break"
          else pure (Token.tagHandle (String.ofList handle) expansion, x)
      else .error "found unknown directive name"
    let x := blanks x
    let x := if x.looksAt 0 '#' then (x.takeWhile fun c => !isBreak c).2 else x
    if !x.breakOrEnd then .error "did not find expected comment or line break"
    else return (x.push token).skipBreak

/-- Reads the name of an anchor or alias. -/
def anchorName (x : Lexer) : Except Fault (String × Lexer) :=
  let (cs, x) := (x.skip 1).takeWhile isWord
  if cs.isEmpty || !(x.blankOrEnd 0 || x.rest.head?.any ("?:,]\x7d%@`".toList.contains ·)) then
    .error "did not find expected alphabetic or numeric character"
  else .ok (String.ofList cs, x)

/-- Reads a tag: between angle brackets, or with a handle, or with neither. -/
def tag (x : Lexer) : Except Fault (Token × Lexer) := do
  let (token, x) ←
    if x.looksAt 1 '<' then do
      let (uri, x) ← tagText (x.skip 2) true []
      if !x.looksAt 0 '>' then .error "did not find the expected '>'"
      else pure (Token.tag "" uri, x.skip 1)
    else do
      let (handle, x) ← tagHandle x false
      if handle.length > 1 && handle.getLast? == some '!' then
        let (suffix, x) ← tagText x false []
        pure (Token.tag (String.ofList handle) suffix, x)
      else
        let (suffix, x) ← tagText x false handle
        pure (if suffix.isEmpty then Token.tag "" "!" else Token.tag "!" suffix, x)
  if (x.flowLevel ≠ 0 && x.looksAt 0 ',') || x.blankOrEnd 0 then return (token, x)
  else .error "did not find expected whitespace or line break"

/-! ### Scalars -/

/-- Joins what was read before line ends with what follows them: a single line end becomes a space,
    and of several the first one is dropped. -/
def foldBreaks (leading trailing : List Char) : List Char :=
  if leading.head? == some '\n' then (if trailing.isEmpty then [' '] else trailing)
  else leading ++ trailing

/-- Reads the indentation and the empty lines before a line of a block scalar; answers the empty
    lines and the deepest column met. -/
def blockBreaks : (fuel indent deepest : Nat) → (breaks : List Char) → Lexer →
    Except Fault (List Char × Nat × Lexer)
  | 0, _, deepest, breaks, x => .ok (breaks, deepest, x)
  | fuel + 1, indent, deepest, breaks, x =>
    let spaces := (x.rest.takeWhile (· == ' ')).length
    let x := x.skip (if indent = 0 then spaces else min spaces (indent - x.column))
    let deepest := max deepest x.column
    if (indent = 0 || x.column < indent) && x.looksAt 0 '\t' then
      .error "found a tab character where an indentation space is expected"
    else if x.atBreak then
      let (b, x) := x.takeBreak
      blockBreaks fuel indent deepest (breaks ++ b) x
    else .ok (breaks, deepest, x)

/-- Reads the lines of a block scalar. `leading` is the end of the line before, `trailing` the empty
    lines after it; `blank` says that the line before began with a blank. -/
def blockLines (literal : Bool) (indent : Nat) : (fuel : Nat) →
    (text leading trailing : List Char) → (blank : Bool) → Lexer →
    Except Fault (List Char × List Char × List Char × Lexer)
  | 0, text, leading, trailing, _, x => .ok (text, leading, trailing, x)
  | fuel + 1, text, leading, trailing, blank, x =>
    if x.column ≠ indent || x.rest.isEmpty then .ok (text, leading, trailing, x)
    else do
      let nowBlank := x.atBlank
      let text :=
        if !literal && leading.head? == some '\n' && !blank && !nowBlank then
          text ++ (if trailing.isEmpty then [' '] else trailing)
        else text ++ leading ++ trailing
      let (line, x) := x.takeWhile fun c => !isBreak c
      let (leading, x) := x.takeBreak
      let (trailing, _, x) ← blockBreaks (x.rest.length + 1) indent 0 [] x
      blockLines literal indent fuel (text ++ line) leading trailing nowBlank x

/-- Reads a block scalar from its indicator on. -/
def blockScalar (x : Lexer) (literal : Bool) : Except Fault (String × Lexer) := do
  let x := x.skip 1
  let chomping (x : Lexer) : Option Bool × Lexer :=
    if x.looksAt 0 '+' then (some true, x.skip 1)
    else if x.looksAt 0 '-' then (some false, x.skip 1)
    else (none, x)
  let increment (x : Lexer) : Except Fault (Nat × Lexer) :=
    match x.rest.head? with
    | some c =>
      if c == '0' then .error "found an indentation indicator equal to 0"
      else if c.isDigit then .ok (c.toNat - '0'.toNat, x.skip 1)
      else .ok (0, x)
    | none => .ok (0, x)
  let (keep, x) := chomping x
  let (width, x) ← increment x
  let (keep, x) := if keep.isNone && width ≠ 0 then chomping x else (keep, x)
  let x := (x.takeWhile isBlank).2
  let x := if x.looksAt 0 '#' then (x.takeWhile fun c => !isBreak c).2 else x
  if !x.breakOrEnd then .error "did not find expected comment or line break"
  else
    let x := x.skipBreak
    let given := if width = 0 then 0 else if x.indent ≥ 0 then x.indent.toNat + width else width
    let (trailing, deepest, x) ← blockBreaks (x.rest.length + 1) given 0 [] x
    let indent := if given ≠ 0 then given else max deepest (max (x.indent + 1).toNat 1)
    let (text, leading, trailing, x) ←
      blockLines literal indent (x.rest.length + 1) [] [] trailing false x
    let text := if keep = some false then text else text ++ leading
    let text := if keep = some true then text ++ trailing else text
    return (String.ofList text, x)

/-- The character of a short escape in double quotes. -/
def shortEscape (c : Char) : Option Char :=
  match c with
  | '0' => some '\x00'
  | 'a' => some '\x07'
  | 'b' => some '\x08'
  | 't' | '\t' => some '\t'
  | 'n' => some '\n'
  | 'v' => some '\x0b'
  | 'f' => some '\x0c'
  | 'r' => some '\r'
  | 'e' => some '\x1b'
  | ' ' => some ' '
  | '"' => some '"'
  | '/' => some '/'
  | '\\' => some '\\'
  | 'N' => some '\u0085'
  | '_' => some '\u00a0'
  | 'L' => some '\u2028'
  | 'P' => some '\u2029'
  | _ => none

/-- The number of hexadecimal digits after the letter of a numbered escape. -/
def escapeDigits (c : Char) : Option Nat :=
  match c with
  | 'x' => some 2
  | 'u' => some 4
  | 'U' => some 8
  | _ => none

/-- Reads an escape from its backslash on. -/
def escape (x : Lexer) : Except Fault (Char × Lexer) :=
  match x.peek 1 with
  | none => .error "found unexpected end of stream"
  | some c =>
    match shortEscape c, escapeDigits c with
    | some d, _ => .ok (d, x.skip 2)
    | none, some n =>
      let x := x.skip 2
      match (x.rest.take n).mapM hexValue with
      | some ds =>
        let code := ds.foldl (fun a d => a * 16 + d) 0
        if ds.length < n then .error "did not find expected hexdecimal number"
        else if (0xd800 ≤ code && code ≤ 0xdfff) || code > 0x10ffff then
          .error "found invalid Unicode character escape code"
        else .ok (Char.ofNat code, x.skip n)
      | none => .error "did not find expected hexdecimal number"
    | none, none => .error "found unknown escape character"

/-- Reads the characters of a quoted scalar up to a blank, a line end or the closing quote; answers
    also whether an escaped line end was met. -/
def quotedRun (single : Bool) : (fuel : Nat) → Lexer → Except Fault (List Char × Bool × Lexer)
  | 0, x => .ok ([], false, x)
  | fuel + 1, x =>
    match x.rest with
    | [] => .ok ([], false, x)
    | c :: _ =>
      if isBlank c || isBreak c then .ok ([], false, x)
      else if single && c == '\'' && x.looksAt 1 '\'' then do
        let (cs, broken, x) ← quotedRun single fuel (x.skip 2)
        return ('\'' :: cs, broken, x)
      else if c == (if single then '\'' else '"') then .ok ([], false, x)
      else if !single && c == '\\' then
        if (x.peek 1).any isBreak then .ok ([], true, (x.skip 1).skipBreak)
        else do
          let (d, x) ← x.escape
          let (cs, broken, x) ← quotedRun single fuel x
          return (d :: cs, broken, x)
      else do
        let (cs, broken, x) ← quotedRun single fuel (x.skip 1)
        return (c :: cs, broken, x)

/-- Blanks and line ends inside a scalar that may go on after them. -/
structure Gap where
  /-- Blanks before the first line end. -/
  blanks : List Char := []
  /-- The first line end. -/
  leading : List Char := []
  /-- The line ends after it. -/
  trailing : List Char := []
  /-- Whether a line end has been met. -/
  broken : Bool := false

/-- What a gap contributes to the text when the scalar goes on. -/
def Gap.text (g : Gap) : List Char := if g.broken then foldBreaks g.leading g.trailing else g.blanks

/-- Reads blanks and line ends inside a scalar. In plain scalars a tab may not stand left of the
    column `tabLimit` at the start of a line. -/
def gap (tabLimit : Int) : (fuel : Nat) → Gap → Lexer → Except Fault (Gap × Lexer)
  | 0, g, x => .ok (g, x)
  | fuel + 1, g, x =>
    match x.rest with
    | [] => .ok (g, x)
    | c :: _ =>
      if isBlank c then
        if g.broken && (x.column : Int) < tabLimit && c == '\t' then
          .error "found a tab character that violates indentation"
        else
          let g := if g.broken then g else { g with blanks := g.blanks ++ [c] }
          gap tabLimit fuel g (x.skip 1)
      else if isBreak c then
        let (b, x) := x.takeBreak
        gap tabLimit fuel
          (if g.broken then { g with trailing := g.trailing ++ b }
           else { g with blanks := [], leading := b, broken := true }) x
      else .ok (g, x)

/-- Reads a quoted scalar after its opening quote. -/
def quotedBody (single : Bool) : (fuel : Nat) → (text : List Char) → Lexer →
    Except Fault (List Char × Lexer)
  | 0, _, _ => .error "found unexpected end of stream"
  | fuel + 1, text, x => do
    if x.documentMarker '-' || x.documentMarker '.' then
      .error "found unexpected document indicator"
    else if x.rest.isEmpty then .error "found unexpected end of stream"
    else
      let (run, broken, x) ← quotedRun single (x.rest.length + 1) x
      let text := text ++ run
      if x.looksAt 0 (if single then '\'' else '"') then return (text, x.skip 1)
      else
        let (g, x) ← gap (-1) (x.rest.length + 1) { broken } x
        quotedBody single fuel (text ++ g.text) x

/-- Reads a quoted scalar from its opening quote on. -/
def quotedScalar (x : Lexer) (single : Bool) : Except Fault (String × Lexer) := do
  let x := x.skip 1
  let (text, x) ← quotedBody single (x.rest.length + 2) [] x
  return (String.ofList text, x)

/-- Reads the characters of a plain scalar up to a blank, a line end or an indicator that ends it.
    -/
def plainRun : (fuel : Nat) → Lexer → Except Fault (List Char × Lexer)
  | 0, x => .ok ([], x)
  | fuel + 1, x =>
    match x.rest with
    | [] => .ok ([], x)
    | c :: _ =>
      if isBlank c || isBreak c then .ok ([], x)
      else if x.flowLevel ≠ 0 && c == ':' && (x.peek 1).any (",?[]\x7b\x7d".toList.contains ·) then
        .error "found unexpected ':'"
      else if (c == ':' && x.blankOrEnd 1) ||
          (x.flowLevel ≠ 0 && ",[]\x7b\x7d".toList.contains c) then
        .ok ([], x)
      else do
        let (cs, x) ← plainRun fuel (x.skip 1)
        return (c :: cs, x)

/-- Reads a plain scalar; answers whether it ended after a line end. -/
def plainBody : (fuel : Nat) → (text : List Char) → Gap → Lexer →
    Except Fault (List Char × Bool × Lexer)
  | 0, text, g, x => .ok (text, g.broken, x)
  | fuel + 1, text, g, x => do
    if x.documentMarker '-' || x.documentMarker '.' || x.looksAt 0 '#' then
      return (text, g.broken, x)
    else
      let (run, x) ← plainRun (x.rest.length + 1) x
      /- Once a character has been read, the gap before it belongs to the text. -/
      let (text, g) := if run.isEmpty then (text, g) else (text ++ g.text ++ run, {})
      if !(x.atBlank || x.atBreak) then return (text, g.broken, x)
      else
        let (g, x) ← gap (x.indent + 1) (x.rest.length + 1) g x
        if x.flowLevel == 0 && (x.column : Int) < x.indent + 1 then return (text, g.broken, x)
        else plainBody fuel text g x

/-- Reads a plain scalar. After a line end a key may begin again. -/
def plainScalar (x : Lexer) : Except Fault (String × Lexer) := do
  let (text, broken, x) ← plainBody (x.rest.length + 1) [] {} x
  return (String.ofList text, if broken then { x with keyAllowed := true } else x)

/-! ### Tokens -/

/-- Whether a plain scalar can begin here. -/
def plainStart (x : Lexer) : Bool :=
  match x.rest.head? with
  | none => false
  | some c =>
    (!isBlank c && !isBreak c && !("-?:,[]\x7b\x7d#&*!|>'\"%@`".toList.contains c)) ||
      (c == '-' && !((x.peek 1).any isBlank)) ||
      (x.flowLevel == 0 && (c == '?' || c == ':') && !x.blankOrEnd 1)

/-- A bracket or brace opens. -/
def flowStart (x : Lexer) (t : Token) : Except Fault Lexer := do
  let x ← x.saveKey
  return { x with keys := {} :: x.keys, flowLevel := x.flowLevel + 1, keyAllowed := true }.skip 1
    |>.push t

/-- A bracket or brace closes. -/
def flowEnd (x : Lexer) (t : Token) : Except Fault Lexer := do
  let x ← x.removeKey
  let x := if x.flowLevel = 0 then x
    else { x with keys := x.keys.tail, flowLevel := x.flowLevel - 1 }
  return { x with keyAllowed := false }.skip 1 |>.push t

/-- A dash before an item. -/
def blockEntry (x : Lexer) : Except Fault Lexer := do
  if x.flowLevel == 0 && !x.keyAllowed then
    .error "block sequence entries are not allowed in this context"
  else
    let x ← (x.openBlock x.column none .blockSequence).removeKey
    return { x with keyAllowed := true }.skip 1 |>.push .blockEntry

/-- A question mark before a key. -/
def explicitKey (x : Lexer) : Except Fault Lexer := do
  if x.flowLevel == 0 && !x.keyAllowed then
    .error "mapping keys are not allowed in this context"
  else
    let x ← (x.openBlock x.column none .blockMapping).removeKey
    return { x with keyAllowed := x.flowLevel == 0 }.skip 1 |>.push .key

/-- A colon before a value. What began at the possible key turns out to be one. -/
def valueMark (x : Lexer) : Except Fault Lexer := do
  match x.keys with
  | k :: outer =>
    if k.possible then
      let x := (x.insertAt k.tokens .key).openBlock k.column (some k.tokens) .blockMapping
      return { x with keys := { k with possible := false } :: outer, keyAllowed := false }.skip 1
        |>.push .value
    else plain x
  | [] => plain x
where
  /-- A colon without a key before it. -/
  plain (x : Lexer) : Except Fault Lexer :=
    if x.flowLevel == 0 && !x.keyAllowed then
      .error "mapping values are not allowed in this context"
    else
      let x := x.openBlock x.column none .blockMapping
      .ok ({ x with keyAllowed := x.flowLevel == 0 }.skip 1 |>.push .value)

/-- Reads one token; at the end of the text the last one. -/
def next (x : Lexer) : Except Fault Lexer := do
  let x := x.skipToToken (x.rest.length + 1)
  let x ← x.dropStaleKeys
  let x := x.closeBlocks x.column
  let noKey (x : Lexer) : Except Fault Lexer := do
    let x ← (x.closeBlocks (-1)).removeKey
    return { x with keyAllowed := false }
  let scalar (x : Lexer) (plain : Bool) (read : Lexer → Except Fault (String × Lexer)) :
      Except Fault Lexer := do
    let x ← x.saveKey
    let (text, x) ← read { x with keyAllowed := false }
    return x.push (.scalar plain text)
  match x.rest with
  | [] => do
    let x ← noKey x
    return x.push .streamEnd
  | c :: _ =>
    if x.column == 0 && c == '%' then do
      let x ← noKey x
      x.directive
    else if x.documentMarker '-' then do
      let x ← noKey x
      return (x.skip 3).push .documentStart
    else if x.documentMarker '.' then do
      let x ← noKey x
      return (x.skip 3).push .documentEnd
    else if c == '[' then x.flowStart .flowSequence
    else if c == '{' then x.flowStart .flowMapping
    else if c == ']' then x.flowEnd .flowSequenceEnd
    else if c == '}' then x.flowEnd .flowMappingEnd
    else if c == ',' then do
      let x ← x.removeKey
      return { x with keyAllowed := true }.skip 1 |>.push .flowEntry
    else if c == '-' && x.blankOrEnd 1 then x.blockEntry
    else if c == '?' && (x.flowLevel ≠ 0 || x.blankOrEnd 1) then x.explicitKey
    else if c == ':' && (x.flowLevel ≠ 0 || x.blankOrEnd 1) then x.valueMark
    else if c == '*' || c == '&' then do
      let x ← x.saveKey
      let (name, x) ← x.anchorName
      return { x with keyAllowed := false }.push (if c == '*' then .alias name else .anchor name)
    else if c == '!' then do
      let x ← x.saveKey
      let (t, x) ← x.tag
      return { x with keyAllowed := false }.push t
    else if (c == '|' || c == '>') && x.flowLevel == 0 then do
      let x ← x.removeKey
      let (text, x) ← { x with keyAllowed := true }.blockScalar (c == '|')
      return x.push (.scalar false text)
    else if c == '\'' then scalar x false fun x => x.quotedScalar true
    else if c == '"' then scalar x false fun x => x.quotedScalar false
    else if x.plainStart then scalar x true plainScalar
    else .error "found character that cannot start any token"

/-- Reads tokens up to the end of the text. -/
def run : (fuel : Nat) → Lexer → Except Fault (List Token)
  | 0, x => .ok x.tokens.reverse
  | fuel + 1, x => do
    let x ← x.next
    if x.tokens.head? = some .streamEnd then return x.tokens.reverse
    else run fuel x

end Lexer

/-- All tokens of a text. Every token but the last takes at least one character. -/
def tokens (text : String) : Except Fault (List Token) :=
  let cs := text.toList
  if cs.all isAllowed then Lexer.run (cs.length + 1) { rest := cs }
  else .error "control characters are not allowed"

end Folio.Yaml
