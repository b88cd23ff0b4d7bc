import Folio.Style.Tree
import Folio.Text

/-!
# Reading style sheets

A style sheet is read from left to right, with what is left of it as the state. Here are the words
of the language: blanks and comments, identifiers, texts in quotes, and raw text up to some mark,
all of which may have expressions composed into them. How these are read is given from outside.

* `Style.Scan`: a reading of some part of a sheet;
* `Style.Scan.composedName`, `quotedText`, `rawText`: composed texts.
-/

namespace Folio.Style

/-- A reading: its result and what is left, or why it fails. -/
abbrev Scan := StateT (List Char) (Except String)

namespace Scan

/-! ## Characters -/

/-- A blank or the end of a line. -/
def isBlank (c : Char) : Bool :=
  c == ' ' || c == '\t' || c == '\n' || c == '\r' || c == '\x0c'

/-- A character that names begin with. -/
def startsName (c : Char) : Bool := c.isAlpha || c == '_' || c.toNat ≥ 0x80

/-- A character of a name. -/
def isNamePart (c : Char) : Bool := startsName c || c.isDigit || c == '-'

/-- A hexadecimal digit. -/
def isHex (c : Char) : Bool := c.isDigit || ('a' ≤ c.toLower && c.toLower ≤ 'f')

/-- The next character. -/
def peek : Scan (Option Char) := return (← get).head?

/-- Passes over so many characters. -/
def skip (n : Nat) : Scan Unit := modify (List.drop n)

/-- The characters of a class that come next. -/
def takeWhile (p : Char → Bool) : Scan (List Char) := do
  let cs ← get
  set (cs.dropWhile p)
  return cs.takeWhile p

/-- Whether a text comes next. -/
def isNext (s : String) : Scan Bool := return Text.begins s.toList (← get)

/-- Passes over a text if it comes next, and tells so. -/
def accept (s : String) : Scan Bool := do
  match Text.after? s.toList (← get) with
  | some rest =>
    set rest
    return true
  | none => return false

/-- Passes over a text that has to come next. -/
def expect (s : String) : Scan Unit := do
  if !(← accept s) then throw s!"expected {s}"

/-- Makes a reading if it is possible. -/
def attempt {α : Type} (r : Scan α) : Scan (Option α) := fun cs =>
  match r cs with
  | .ok (a, rest) => .ok (some a, rest)
  | .error _ => .ok (none, cs)

/-! ## Blanks -/

/-- Passes over blanks and comments, of which there are at most `fuel`. -/
def blanksWithin : (fuel : Nat) → Scan Unit
  | 0 => return
  | fuel + 1 => do
    let _ ← takeWhile isBlank
    if ← isNext "//" then
      let _ ← takeWhile (· != '\n')
      blanksWithin fuel
    else if ← accept "/*" then
      match Text.cut? ['*', '/'] (← get) with
      | some (_, rest) =>
        set rest
        blanksWithin fuel
      | none => throw "unclosed comment"

/-- Passes over blanks and comments. -/
def blanks : Scan Unit := do blanksWithin ((← get).length + 1)

/-! ## Names -/

/-- Whether an identifier comes next, maybe with something composed into it. -/
def startsIdentifier : List Char → Bool
  | '-' :: '#' :: '{' :: _ | '#' :: '{' :: _ => true
  | '-' :: c :: _ => startsName c || c == '-' || c == '\\'
  | c :: _ => startsName c || c == '\\'
  | [] => false

/-- What a backslash and the characters behind it are. -/
def escape : Scan (List Char) := do
  skip 1
  match ← get with
  | [] => throw "expected a character"
  | c :: _ =>
    if isHex c then
      let cs ← get
      let digits := (cs.take 6).takeWhile isHex
      skip digits.length
      match ← get with
      | b :: _ =>
        if isBlank b then
          skip 1
          return '\\' :: digits ++ [' ']
        else return '\\' :: digits
      | [] => return '\\' :: digits
    else
      skip 1
      return ['\\', c]

/-- The rest of a name without composed parts, of at most `fuel` parts. -/
def nameWithin : (fuel : Nat) → Scan (List Char)
  | 0 => return []
  | fuel + 1 => do
    match ← get with
    | '\\' :: _ => return (← escape) ++ (← nameWithin fuel)
    | c :: _ =>
      if isNamePart c then
        skip 1
        return c :: (← nameWithin fuel)
      else return []
    | [] => return []

/-- A name without composed parts. -/
def name : Scan String := do
  let cs ← get
  if !startsIdentifier cs then throw "expected an identifier"
  match ← nameWithin (cs.length + 1) with
  | [] => throw "expected an identifier"
  | word => return String.ofList word

/-- A name as it is compared with others: underscores are dashes. -/
def normalName (s : String) : String :=
  String.ofList (s.toList.map fun c => if c = '_' then '-' else c)

/-- The name of a variable behind its dollar. -/
def variableName : Scan String := do
  expect "$"
  return normalName (← name)

/-- Passes over a word if it comes next, and tells so. -/
def acceptWord (word : String) : Scan Bool := do
  let cs ← get
  let found := (cs.takeWhile isNamePart).map Char.toLower
  if found = word.toList then
    skip found.length
    return true
  else return false

/-! ## Composed texts -/

/-- Adds characters to the pieces of a text, which are held last first. -/
def addChars (cs : List Char) : Composed → Composed
  | .chars s :: rest => .chars (s ++ cs) :: rest
  | pieces => if cs.isEmpty then pieces else .chars cs :: pieces

/-- The characters of a text that has nothing composed into it. -/
def plain? : Composed → Option (List Char)
  | [] => some []
  | [.chars s] => some s
  | _ => none

/-- An expression between a hash with a brace and the other brace. -/
def interpolation (expression : Scan Expression) : Scan Piece := do
  expect "#\x7b"
  blanks
  let e ← expression
  blanks
  expect "\x7d"
  return .value e

/-- The rest of a name with at most `fuel` parts. -/
def composedNameWithin (expression : Scan Expression) : (fuel : Nat) → Composed → Scan Composed
  | 0, pieces => return pieces.reverse
  | fuel + 1, pieces => do
    match ← get with
    | '#' :: '{' :: _ =>
      composedNameWithin expression fuel ((← interpolation expression) :: pieces)
    | '\\' :: _ => composedNameWithin expression fuel (addChars (← escape) pieces)
    | c :: _ =>
      if isNamePart c then
        skip 1
        composedNameWithin expression fuel (addChars [c] pieces)
      else return pieces.reverse
    | [] => return pieces.reverse

/-- A name, maybe with something composed into it. -/
def composedName (expression : Scan Expression) : Scan Composed := do
  let cs ← get
  if !startsIdentifier cs then throw "expected an identifier"
  composedNameWithin expression (cs.length + 1) []

/-- The character that is meant by hexadecimal digits. -/
def hexCharacter (digits : List Char) : Char :=
  let digit (c : Char) : Nat :=
    if c.isDigit then c.toNat - '0'.toNat else c.toLower.toNat - 'a'.toNat + 10
  let code := digits.foldl (fun v c => v * 16 + digit c) 0
  if code ≠ 0 ∧ code.isValidChar then Char.ofNat code else '\ufffd'

/-- The characters that are meant by a backslash in quotes and what stands behind it. -/
def quotedEscape : Scan (List Char) := do
  skip 1
  match ← get with
  | [] => throw "expected a character"
  | '\n' :: _ =>
    skip 1
    return []
  | c :: _ =>
    if isHex c then
      let digits := ((← get).take 6).takeWhile isHex
      skip digits.length
      if (← peek).any isBlank then skip 1
      return [hexCharacter digits]
    else
      skip 1
      return [c]

/-- The rest of a text in quotes with at most `fuel` parts. -/
def quotedWithin (expression : Scan Expression) (quote : Char) :
    (fuel : Nat) → Composed → Scan Composed
  | 0, _ => throw "unclosed text"
  | fuel + 1, pieces => do
    match ← get with
    | [] | '\n' :: _ => throw "unclosed text"
    | '#' :: '{' :: _ =>
      quotedWithin expression quote fuel ((← interpolation expression) :: pieces)
    | '\\' :: _ => quotedWithin expression quote fuel (addChars (← quotedEscape) pieces)
    | c :: _ =>
      skip 1
      if c = quote then return pieces.reverse
      else quotedWithin expression quote fuel (addChars [c] pieces)

/-- A text in quotes. -/
def quotedText (expression : Scan Expression) : Scan Composed := do
  match ← get with
  | q :: rest =>
    skip 1
    quotedWithin expression q (rest.length + 1) []
  | [] => throw "expected a text"

/-- The bracket that closes one. -/
def closing? : Char → Option Char
  | '(' => some ')'
  | '[' => some ']'
  | '{' => some '}'
  | _ => none

/-- What raw text is made of. -/
structure RawStyle where
  /-- The characters that end it. -/
  stops : List Char
  /-- Whether brackets are in pairs, inside which nothing ends it. -/
  nests : Bool := false
  /-- Whether comments belong to it. -/
  keepsComments : Bool := false

/-- The rest of raw text with at most `fuel` parts, where brackets are still to be closed, or a text
    in quotes. -/
def rawWithin (expression : Scan Expression) (style : RawStyle) :
    (fuel : Nat) → (closers : List Char) → (quote : Option Char) → Composed → Scan Composed
  | 0, _, _, pieces => return pieces.reverse
  | fuel + 1, closers, quote, pieces => do
    let go := rawWithin expression style fuel
    match ← get with
    | [] => return pieces.reverse
    | '#' :: '{' :: _ => go closers quote ((← interpolation expression) :: pieces)
    | '\\' :: c :: _ =>
      skip 2
      go closers quote (addChars ['\\', c] pieces)
    | '/' :: '/' :: _ =>
      if quote.isNone ∧ !style.keepsComments then
        let _ ← takeWhile (· != '\n')
        go closers quote pieces
      else
        skip 2
        go closers quote (addChars ['/', '/'] pieces)
    | '/' :: '*' :: rest =>
      match quote, Text.cut? ['*', '/'] rest with
      | none, some (comment, after) =>
        set after
        go closers quote
          (if style.keepsComments then addChars ("/*".toList ++ comment ++ "*/".toList) pieces
            else pieces)
      | _, _ =>
        skip 2
        go closers quote (addChars ['/', '*'] pieces)
    | c :: _ =>
      let more := addChars [c] pieces
      match quote with
      | some q =>
        if c = '\n' then throw "unclosed text"
        skip 1
        go closers (if c = q then none else quote) more
      | none =>
        if c = '"' ∨ c = '\'' then
          skip 1
          go closers (some c) more
        else
          match closers with
          | top :: outer =>
            skip 1
            if c = top then go outer none more
            else
              match closing? c with
              | some closer => go (closer :: top :: outer) none more
              | none => go (top :: outer) none more
          | [] =>
            if style.stops.contains c then return pieces.reverse
            else
              skip 1
              match if style.nests then closing? c else none with
              | some closer => go [closer] none more
              | none => go [] none more

/-- Raw text. -/
def rawText (expression : Scan Expression) (style : RawStyle) : Scan Composed := do
  rawWithin expression style ((← get).length + 1) [] none []

/-- A composed text without blanks at its ends. -/
def trimComposed (pieces : Composed) : Composed :=
  let trimFirst : Composed → Composed
    | .chars s :: rest => addChars (s.dropWhile isBlank) [] ++ rest
    | pieces => pieces
  let trimLast : Composed → Composed
    | .chars s :: rest => addChars (s.reverse.dropWhile isBlank).reverse [] ++ rest
    | pieces => pieces
  (trimLast (trimFirst pieces).reverse).reverse

end Scan

end Folio.Style
