import Folio.Json.Basic

/-!
# Reading JSON

A reader of JSON text that tells exactly where and why a text is refused. The column counts the
bytes of the line up to and including the character at fault; at the end of the text it is the
number of bytes of the last line. Arrays and objects may nest 127 deep. Whole numbers of 64 bits
stay exact; every other number is a double made of a significand of at most 64 bits, further digits
dropped, and one multiplication or division by a power of ten.

* `Json.parse`: the value of a text, or the fault with its position;
* `Json.Reader.value`: one value at the front of a text, with what follows it;
* `Json.ParseError.message`: the words for a fault.
-/

namespace Folio.Json

/-- Why a text is not JSON. -/
inductive Fault where
  /-- The text ends where a value is needed. -/
  | endInValue
  /-- The text ends inside an array. -/
  | endInList
  /-- The text ends inside an object. -/
  | endInObject
  /-- The text ends inside a string. -/
  | endInString
  /-- No value starts with this character. -/
  | expectedValue
  /-- A word that starts like a literal is none. -/
  | expectedLiteral
  /-- Neither a comma nor the end of the array follows an item. -/
  | expectedCommaOrListEnd
  /-- Neither a comma nor the end of the object follows a field. -/
  | expectedCommaOrObjectEnd
  /-- No colon follows a name. -/
  | expectedColon
  /-- The name of a field is not a string. -/
  | nameNotString
  /-- A comma stands before a closing bracket. -/
  | trailingComma
  /-- Something follows the value. -/
  | trailingCharacters
  /-- A number is malformed. -/
  | invalidNumber
  /-- A number is too large for a double. -/
  | numberOutOfRange
  /-- A backslash is followed by no known escape. -/
  | invalidEscape
  /-- A control character stands inside a string. -/
  | controlCharacter
  /-- A second surrogate stands without a first one, or a first one is followed by something else.
      -/
  | loneSurrogate
  /-- A first surrogate is followed by no escape. -/
  | unfinishedSurrogate
  /-- Arrays and objects nest too deep. -/
  | tooDeep
deriving DecidableEq

/-- The words for a fault. -/
def Fault.message : Fault → String
  | .endInValue => "EOF while parsing a value"
  | .endInList => "EOF while parsing a list"
  | .endInObject => "EOF while parsing an object"
  | .endInString => "EOF while parsing a string"
  | .expectedValue => "expected value"
  | .expectedLiteral => "expected ident"
  | .expectedCommaOrListEnd => "expected `,` or `]`"
  | .expectedCommaOrObjectEnd => "expected `,` or `\x7d`"
  | .expectedColon => "expected `:`"
  | .nameNotString => "key must be a string"
  | .trailingComma => "trailing comma"
  | .trailingCharacters => "trailing characters"
  | .invalidNumber => "invalid number"
  | .numberOutOfRange => "number out of range"
  | .invalidEscape => "invalid escape"
  | .controlCharacter => "control character (\\u0000-\\u001F) found while parsing a string"
  | .loneSurrogate => "lone leading surrogate in hex escape"
  | .unfinishedSurrogate => "unexpected end of hex escape"
  | .tooDeep => "recursion limit exceeded"

/-- A fault and its place. -/
structure ParseError where
  /-- What is wrong. -/
  fault : Fault
  /-- The line, counted from one. -/
  line : Nat
  /-- The bytes of that line that have been looked at. -/
  column : Nat
deriving DecidableEq

/-- The words for a fault with its place. -/
def ParseError.message (e : ParseError) : String :=
  s!"{e.fault.message} at line {e.line} column {e.column}"

/-- A place in a text: what is still to be read, and how far reading has come. -/
structure Cursor where
  /-- The characters still to be read. -/
  rest : List Char
  /-- The line, counted from one. -/
  line : Nat
  /-- The bytes of that line that have been read. -/
  column : Nat

namespace Cursor

/-- The front of a text. -/
def start (text : List Char) : Cursor := ⟨text, 1, 0⟩

/-- The place after a character, followed by `rest`. -/
def after (c : Cursor) (x : Char) (rest : List Char) : Cursor :=
  if x = '\n' then ⟨rest, c.line + 1, 0⟩ else ⟨rest, c.line, c.column + x.utf8Size⟩

/-- The place after the next character, or the same place at the end. -/
def advance (c : Cursor) : Cursor :=
  match c.rest with
  | [] => c
  | x :: rest => c.after x rest

/-- A fault in what has been read. -/
def fault (c : Cursor) (f : Fault) : ParseError := ⟨f, c.line, c.column⟩

/-- A fault at the next character: its first byte counts as looked at. -/
def faultAhead (c : Cursor) (f : Fault) : ParseError :=
  match c.rest with
  | [] => ⟨f, c.line, c.column⟩
  | '\n' :: _ => ⟨f, c.line + 1, 0⟩
  | _ :: _ => ⟨f, c.line, c.column + 1⟩

/-- A fault at the end of the whole text. -/
def faultAtEnd (c : Cursor) (f : Fault) : ParseError :=
  (c.rest.foldl (fun c x => c.after x []) c).fault f

/-- A fault `n` bytes further on, inside a character if need be. -/
def faultAfterBytes (f : Fault) : (n : Nat) → Cursor → List Char → ParseError
  | 0, c, _ | _, c, [] => c.fault f
  | n + 1, c, x :: rest =>
    if x.utf8Size ≤ n + 1 then faultAfterBytes f (n + 1 - x.utf8Size) (c.after x rest) rest
    else ⟨f, c.line, c.column + (n + 1)⟩
termination_by _ _ text => text.length

/-- The place after blanks: spaces, tabs and line ends. -/
def skipBlanks (c : Cursor) : Cursor := go c.rest c
where
  /-- Steps over the blanks at the front of a text. -/
  go : List Char → Cursor → Cursor
    | [], c => c
    | x :: rest, c =>
      if x = ' ' ∨ x = '\n' ∨ x = '\t' ∨ x = '\r' then go rest (c.after x rest) else c

end Cursor

namespace Reader

/-- The largest significand that is kept exact while digits are read. -/
def significandLimit : Nat := 18446744073709551615

/-- A digit's value. -/
def digitValue (c : Char) : Nat := c.toNat - '0'.toNat

/-- Appends digits to a significand as long as it stays within 64 bits; answers the significand and
    the number of digits that were left over. -/
def accumulate : (significand : Nat) → List Char → Nat × Nat
  | s, [] => (s, 0)
  | s, c :: rest =>
    if s * 10 + digitValue c > significandLimit then (s, rest.length + 1)
    else accumulate (s * 10 + digitValue c) rest

/-- The place after `n` characters that hold no line end. -/
def skipAscii (c : Cursor) (text : List Char) : Cursor :=
  ⟨c.rest.drop text.length, c.line, c.column + text.length⟩

/-- Divides by powers of ten in steps of at most `10 ^ 308`. -/
def divideByTens : (fuel : Nat) → Float → Nat → Float
  | 0, x, _ => x
  | fuel + 1, x, n =>
    if n ≤ 308 then x / Float.ofScientific 1 false n
    else if x == 0 then x
    else divideByTens fuel (x / Float.ofScientific 1 false 308) (n - 308)

/-- The double made of a significand and a power of ten, with one rounding for each factor; nothing
    if it is infinite. -/
def doubleOfParts (significand : Nat) (exponent : Int) : Option Double :=
  let x := Float.ofNat significand
  if exponent < 0 then some (Double.ofFloat (divideByTens 8 x exponent.natAbs))
  else if exponent ≤ 308 then
    let y := x * Float.ofScientific 1 false exponent.natAbs
    if y.isInf then none else some (Double.ofFloat y)
  else if significand = 0 then some ⟨0⟩
  else none

/-- A double with its sign. -/
def signed (negative : Bool) (d : Double) : Json := .num (.double (if negative then d.neg else d))

/-- Ends a number with the double of its parts. -/
def finishDouble (negative : Bool) (significand : Nat) (exponent : Int) (c : Cursor) :
    Except ParseError (Json × Cursor) :=
  match doubleOfParts significand exponent with
  | some d => .ok (signed negative d, c)
  | none => .error (c.fault .numberOutOfRange)

/-- The largest exponent that is read as it stands. -/
def exponentLimit : Nat := 2147483647

/-- Reads digits of an exponent up to the limit; the digits left over are answered when they would
    pass it. -/
def exponentDigits : (value : Nat) → List Char → Nat × Option (List Char)
  | v, [] => (v, none)
  | v, c :: rest =>
    if v * 10 + digitValue c > exponentLimit then (v, some rest)
    else exponentDigits (v * 10 + digitValue c) rest

/-- Reads the exponent of a number; the cursor stands after the letter. -/
def exponentPart (negative : Bool) (significand : Nat) (exponent : Int) (c : Cursor) :
    Except ParseError (Json × Cursor) :=
  let (c, down) := match c.rest with
    | '+' :: _ => (c.advance, false)
    | '-' :: _ => (c.advance, true)
    | _ => (c, false)
  match c.rest with
  | [] => .error (c.fault .endInValue)
  | x :: _ =>
    if x.isDigit then
      let digits := c.rest.takeWhile Char.isDigit
      match exponentDigits 0 digits with
      | (e, none) =>
        finishDouble negative significand (if down then exponent - e else exponent + e)
          (skipAscii c digits)
      | (_, some left) =>
        if significand = 0 ∨ down then .ok (signed negative ⟨0⟩, skipAscii c digits)
        else
          .error ((skipAscii c (digits.take (digits.length - left.length))).fault .numberOutOfRange)
    else .error (c.advance.fault .invalidNumber)

/-- Reads the places after the point; the cursor stands after it. -/
def fractionPart (negative : Bool) (significand : Nat) (exponent : Int) (c : Cursor) :
    Except ParseError (Json × Cursor) :=
  let digits := c.rest.takeWhile Char.isDigit
  if digits.isEmpty then
    .error (c.faultAhead (if c.rest.isEmpty then .endInValue else .invalidNumber))
  else
    let (s, left) := accumulate significand digits
    let c := skipAscii c digits
    let e := exponent - (digits.length - left : Nat)
    match c.rest with
    | 'e' :: _ | 'E' :: _ => exponentPart negative s e c.advance
    | _ => finishDouble negative s e c

/-- Reads a number; the cursor stands after the sign. -/
def number (negative : Bool) (c : Cursor) : Except ParseError (Json × Cursor) :=
  match c.rest with
  | [] => .error (c.fault .endInValue)
  | x :: rest =>
    if ¬ x.isDigit then .error (c.advance.fault .invalidNumber)
    else if x = '0' ∧ (rest.head?.any Char.isDigit) then
      .error (c.advance.faultAhead .invalidNumber)
    else
      let digits := c.rest.takeWhile Char.isDigit
      let (s, left) := accumulate 0 digits
      let c := skipAscii c digits
      match c.rest with
      | '.' :: _ => fractionPart negative s left c.advance
      | 'e' :: _ | 'E' :: _ => exponentPart negative s left c.advance
      | _ =>
        if left ≠ 0 then finishDouble negative s left c
        else
          let n : Int := if negative then -(s : Int) else s
          if h : Fits64 n ∧ ¬ (negative ∧ s = 0) then .ok (.num (.integer n h.1), c)
          else .ok (signed negative (Double.ofNat s), c)

/-- Reads the letters of a literal that follow its first one. -/
def literal : List Char → Json → Cursor → Except ParseError (Json × Cursor)
  | [], v, c => .ok (v, c)
  | x :: more, v, c =>
    match c.rest with
    | [] => .error (c.fault .endInValue)
    | y :: _ =>
      if x = y then literal more v c.advance
      else .error (c.advance.fault .expectedLiteral)

/-- The value of a hexadecimal digit, of either case. -/
def hexValue (c : Char) : Option Nat :=
  if '0' ≤ c ∧ c ≤ '9' then some (c.toNat - '0'.toNat)
  else if 'a' ≤ c ∧ c ≤ 'f' then some (c.toNat - 'a'.toNat + 10)
  else if 'A' ≤ c ∧ c ≤ 'F' then some (c.toNat - 'A'.toNat + 10)
  else none

/-- Reads the four digits of a numbered escape. -/
def hexFour (c : Cursor) : Except ParseError (Nat × Cursor) :=
  match c.rest with
  | x₁ :: x₂ :: x₃ :: x₄ :: rest =>
    match hexValue x₁, hexValue x₂, hexValue x₃, hexValue x₄ with
    | some a, some b, some d, some e =>
      .ok (((a * 16 + b) * 16 + d) * 16 + e, ⟨rest, c.line, c.column + 4⟩)
    | _, _, _, _ => .error (c.faultAfterBytes .invalidEscape 4 c.rest)
  | short =>
    if short.foldl (fun n c => n + c.utf8Size) 0 < 4 then .error (c.faultAtEnd .endInString)
    else .error (c.faultAfterBytes .invalidEscape 4 c.rest)

/-- Reads the second half of a surrogate pair, whose first half is `high`. -/
def lowSurrogate (high : Nat) (c : Cursor) : Except ParseError (Char × Cursor) :=
  match c.rest with
  | [] => .error (c.fault .endInString)
  | '\\' :: _ =>
    let c := c.advance
    match c.rest with
    | [] => .error (c.fault .endInString)
    | 'u' :: _ => do
      let (low, c) ← hexFour c.advance
      if low < 0xDC00 ∨ low > 0xDFFF then .error (c.fault .loneSurrogate)
      else .ok (Char.ofNat ((high - 0xD800) * 0x400 + (low - 0xDC00) + 0x10000), c)
    | _ => .error (c.advance.fault .unfinishedSurrogate)
  | _ => .error (c.advance.fault .unfinishedSurrogate)

/-- Reads an escape; the cursor stands after the backslash. -/
def escaped (c : Cursor) : Except ParseError (Char × Cursor) :=
  match c.rest with
  | [] => .error (c.fault .endInString)
  | x :: _ =>
    let c := c.advance
    match x with
    | '"' => .ok ('"', c)
    | '\\' => .ok ('\\', c)
    | '/' => .ok ('/', c)
    | 'b' => .ok ('\x08', c)
    | 'f' => .ok ('\x0c', c)
    | 'n' => .ok ('\n', c)
    | 'r' => .ok ('\r', c)
    | 't' => .ok ('\t', c)
    | 'u' => do
      let (n, c) ← hexFour c
      if 0xDC00 ≤ n ∧ n ≤ 0xDFFF then .error (c.fault .loneSurrogate)
      else if 0xD800 ≤ n ∧ n ≤ 0xDBFF then lowSurrogate n c
      else .ok (Char.ofNat n, c)
    | _ => .error (c.fault .invalidEscape)

/-- Reads one character of a string, or its closing quote. -/
def stringItem (c : Cursor) : Except ParseError (Option Char × Cursor) :=
  match c.rest with
  | [] => .error (c.fault .endInString)
  | x :: _ =>
    if x = '"' then .ok (none, c.advance)
    else if x = '\\' then do
      let (y, c) ← escaped c.advance
      return (some y, c)
    else if x.toNat < 0x20 then .error (c.advance.fault .controlCharacter)
    else .ok (some x, c.advance)

/-- Reads a string up to its closing quote. Every step reads a character, so the length of the text
    is enough `fuel`. -/
def stringBody : (fuel : Nat) → (read : List Char) → Cursor → Except ParseError (String × Cursor)
  | 0, _, c => .error (c.fault .endInString)
  | fuel + 1, read, c => do
    match ← stringItem c with
    | (none, c) => return (String.ofList read.reverse, c)
    | (some x, c) => stringBody fuel (x :: read) c

/-- Reads a string whose opening quote has been read. -/
def string (c : Cursor) : Except ParseError (String × Cursor) := stringBody (c.rest.length + 1) [] c

/-- Reads the items of an array up to its closing bracket; `first` says that none has been read. -/
def items (item : Cursor → Except ParseError (Json × Cursor)) :
    (fuel : Nat) → (first : Bool) → Cursor → Except ParseError (List Json × Cursor)
  | 0, _, c => .error (c.fault .endInList)
  | fuel + 1, first, c => do
    let c := c.skipBlanks
    match c.rest with
    | [] => .error (c.faultAhead .endInList)
    | ']' :: _ => return ([], c.advance)
    | x :: _ =>
      let c ← if first then .ok c
        else if x = ',' then
          let c := c.advance.skipBlanks
          match c.rest with
          | [] => .error (c.faultAhead .endInValue)
          | ']' :: _ => .error (c.faultAhead .trailingComma)
          | _ => .ok c
        else .error (c.faultAhead .expectedCommaOrListEnd)
      let (v, c) ← item c
      let (rest, c) ← items item fuel false c
      return (v :: rest, c)

/-- Reads the fields of an object up to its closing bracket, in the order they are written. -/
def fields (item : Cursor → Except ParseError (Json × Cursor)) :
    (fuel : Nat) → (first : Bool) → Cursor → Except ParseError (List (String × Json) × Cursor)
  | 0, _, c => .error (c.fault .endInObject)
  | fuel + 1, first, c => do
    let c := c.skipBlanks
    match c.rest with
    | [] => .error (c.faultAhead .endInObject)
    | '}' :: _ => return ([], c.advance)
    | x :: _ =>
      let c ← if first then
          if x = '"' then .ok c else .error (c.faultAhead .nameNotString)
        else if x = ',' then
          let c := c.advance.skipBlanks
          match c.rest with
          | [] => .error (c.faultAhead .endInValue)
          | '"' :: _ => .ok c
          | '}' :: _ => .error (c.faultAhead .trailingComma)
          | _ => .error (c.faultAhead .nameNotString)
        else .error (c.faultAhead .expectedCommaOrObjectEnd)
      let (name, c) ← string c.advance
      let c := c.skipBlanks
      let c ← match c.rest with
        | ':' :: _ => .ok c.advance
        | [] => .error (c.faultAhead .endInObject)
        | _ => .error (c.faultAhead .expectedColon)
      let (v, c) ← item c
      let (rest, c) ← fields item fuel false c
      return ((name, v) :: rest, c)

/-- Reads one value; at most `levels` arrays and objects may be nested in each other. -/
def value (levels : Nat) (c : Cursor) : Except ParseError (Json × Cursor) :=
  let c := c.skipBlanks
  match c.rest with
  | [] => .error (c.faultAhead .endInValue)
  | 'n' :: _ => literal ['u', 'l', 'l'] .null c.advance
  | 't' :: _ => literal ['r', 'u', 'e'] (.bool true) c.advance
  | 'f' :: _ => literal ['a', 'l', 's', 'e'] (.bool false) c.advance
  | '-' :: _ => number true c.advance
  | '"' :: _ => do
    let (s, c) ← string c.advance
    return (.str s, c)
  | '[' :: _ =>
    match levels with
    | 0 => .error (c.faultAhead .tooDeep)
    | levels + 1 => do
      let (vs, c) ← items (value levels) (c.rest.length + 1) true c.advance
      return (.arr vs, c)
  | '{' :: _ =>
    match levels with
    | 0 => .error (c.faultAhead .tooDeep)
    | levels + 1 => do
      let (fs, c) ← fields (value levels) (c.rest.length + 1) true c.advance
      return (.ofFields fs, c)
  | x :: _ => if x.isDigit then number false c else .error (c.faultAhead .expectedValue)

end Reader

/-- How deep arrays and objects may nest in a text. -/
def maxDepth : Nat := 127

/-- The value of a JSON text; blanks may stand around it, and nothing else. -/
def parse (text : String) : Except ParseError Json := do
  let (v, c) ← Reader.value maxDepth (Cursor.start text.toList)
  let c := c.skipBlanks
  match c.rest with
  | [] => return v
  | _ => .error (c.faultAhead .trailingCharacters)

end Folio.Json
