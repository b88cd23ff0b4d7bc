import Folio.Text

/-!
# The words of TOML

What stands on the lines of a TOML text: keys, strings in their four forms, numbers, dates. All
readers answer what they found and what follows it, or why there is none.

* `Toml.path`: a key, maybe with dots;
* `Toml.string?`: a string, if there is one;
* `Toml.isNumber`, `Toml.isDate`: whether a word is a number or a date.
-/

namespace Folio.Toml

/-- A blank or a tab. -/
def isBlank (c : Char) : Bool := c == ' ' || c == '\t'

/-- The characters without blanks at their beginning. -/
def skipBlanks (cs : List Char) : List Char := cs.dropWhile isBlank

/-- A character that no text may hold as it is, where lines do not count. -/
def isControl (c : Char) : Bool := (c.toNat < 0x20 && c != '\t') || c.toNat = 0x7f

/-- What follows a comment, if there is one, up to the end of its line. -/
def skipComment : List Char → Except String (List Char)
  | '#' :: rest =>
    let comment := rest.takeWhile fun c => c != '\n' && c != '\r'
    if comment.any isControl then .error "control character in a comment"
    else .ok (rest.drop comment.length)
  | cs => .ok cs

/-- What follows the end of a line, if it is here. -/
def lineEnd? : List Char → Option (List Char)
  | '\n' :: rest => some rest
  | '\r' :: '\n' :: rest => some rest
  | _ => none

/-- What follows the rest of a line that holds nothing but a comment. -/
def endLine (cs : List Char) : Except String (List Char) := do
  match ← skipComment (skipBlanks cs) with
  | [] => return []
  | cs =>
    match lineEnd? cs with
    | some rest => return rest
    | none => .error "expected the end of the line"

/-- What follows blanks, comments and ends of lines, of which there are at most `fuel`. -/
def skipLines : (fuel : Nat) → List Char → Except String (List Char)
  | 0, cs => .ok cs
  | fuel + 1, cs => do
    let rest ← skipComment (skipBlanks cs)
    match lineEnd? rest with
    | some rest => skipLines fuel rest
    | none => return rest

/-! ## Strings -/

/-- The value of a hexadecimal digit. -/
def hexValue? (c : Char) : Option Nat :=
  if c.isDigit then some (c.toNat - '0'.toNat)
  else if 'a' ≤ c.toLower ∧ c.toLower ≤ 'f' then some (c.toLower.toNat - 'a'.toNat + 10)
  else none

/-- The character written by exactly `n` hexadecimal digits. -/
def hexCharacter (n : Nat) (cs : List Char) : Except String (Char × List Char) := do
  match (cs.take n).mapM hexValue? with
  | some digits =>
    let code := digits.foldl (fun v d => v * 16 + d) 0
    if digits.length = n ∧ code.isValidChar then return (Char.ofNat code, cs.drop n)
    else .error "invalid character"
  | none => .error "invalid character"

/-- The character written behind a backslash. -/
def escaped : List Char → Except String (Char × List Char)
  | 'b' :: rest => .ok ('\x08', rest)
  | 't' :: rest => .ok ('\t', rest)
  | 'n' :: rest => .ok ('\n', rest)
  | 'f' :: rest => .ok ('\x0c', rest)
  | 'r' :: rest => .ok ('\r', rest)
  | '"' :: rest => .ok ('"', rest)
  | '\\' :: rest => .ok ('\\', rest)
  | 'u' :: rest => hexCharacter 4 rest
  | 'U' :: rest => hexCharacter 8 rest
  | _ => .error "invalid escape"

/-- The rest of a string on one line, of at most `fuel` characters. -/
def line (quote : Char) : (fuel : Nat) → (taken : List Char) → List Char →
    Except String (List Char × List Char)
  | 0, _, _ => .error "unclosed string"
  | _, _, [] => .error "unclosed string"
  | fuel + 1, taken, c :: rest =>
    if c = quote then .ok (taken.reverse, rest)
    else if c = '\\' ∧ quote = '"' then do
      let (c, rest) ← escaped rest
      line quote fuel (c :: taken) rest
    else if isControl c then .error "control character in a string"
    else line quote fuel (c :: taken) rest

/-- What follows a backslash at the end of a line: blanks and lines up to the next character. -/
def skipGap (cs : List Char) : Option (List Char) :=
  (lineEnd? (skipBlanks cs)).map fun rest =>
    rest.dropWhile fun c => isBlank c || c == '\n' || c == '\r'

/-- The rest of a string of several lines, of at most `fuel` characters. Up to two quotes may stand
    right before its end. -/
def lines (quote : Char) : (fuel : Nat) → (taken : List Char) → List Char →
    Except String (List Char × List Char)
  | 0, _, _ => .error "unclosed string"
  | _, _, [] => .error "unclosed string"
  | fuel + 1, taken, c :: rest =>
    if c = quote then
      let quotes := (c :: rest).takeWhile (· == quote)
      if quotes.length ≥ 6 then .error "too many quotes"
      else if quotes.length ≥ 3 then
        .ok (taken.reverse ++ quotes.drop 3, (c :: rest).drop quotes.length)
      else lines quote fuel (c :: taken) rest
    else if c = '\\' ∧ quote = '"' then
      match skipGap rest with
      | some rest => lines quote fuel taken rest
      | none => do
        let (c, rest) ← escaped rest
        lines quote fuel (c :: taken) rest
    else
      match lineEnd? (c :: rest) with
      | some rest => lines quote fuel ('\n' :: taken) rest
      | none =>
        if isControl c then .error "control character in a string"
        else lines quote fuel (c :: taken) rest

/-- A string, if there is one. -/
def string? : List Char → Option (Except String (List Char × List Char))
  | q :: rest =>
    if q ≠ '"' ∧ q ≠ '\'' then none
    else
      match rest with
      | a :: b :: inner =>
        if a = q ∧ b = q then
          let inner := (lineEnd? inner).getD inner
          some (lines q (inner.length + 1) [] inner)
        else some (line q (rest.length + 1) [] rest)
      | _ => some (line q (rest.length + 1) [] rest)
  | [] => none

/-! ## Keys -/

/-- A character of a key without quotes. -/
def isBareKey (c : Char) : Bool := c.isAlphanum || c == '_' || c == '-'

/-- A key without dots. -/
def key : List Char → Except String (String × List Char)
  | q :: rest =>
    if q = '"' ∨ q = '\'' then do
      let (s, rest) ← line q (rest.length + 1) [] rest
      return (String.ofList s, rest)
    else
      let word := (q :: rest).takeWhile isBareKey
      if word.isEmpty then .error "expected a key"
      else .ok (String.ofList word, (q :: rest).drop word.length)
  | [] => .error "expected a key"

/-- A key with at most `fuel` dots. -/
def pathWithin : (fuel : Nat) → List Char → Except String (List String × List Char)
  | 0, _ => .error "expected a key"
  | fuel + 1, cs => do
    let (k, rest) ← key (skipBlanks cs)
    match skipBlanks rest with
    | '.' :: rest =>
      let (ks, rest) ← pathWithin fuel rest
      return (k :: ks, rest)
    | rest => return ([k], rest)

/-- A key, maybe with dots, and the blanks around it. -/
def path (cs : List Char) : Except String (List String × List Char) := pathWithin (cs.length + 1) cs

/-! ## Numbers and dates -/

/-- Whether digits are in groups that underscores divide. -/
def areDigits (isDigit : Char → Bool) (cs : List Char) : Bool :=
  (Text.fields (· == '_') cs).all fun group => !group.isEmpty && group.all isDigit

/-- A word without its sign. -/
def unsigned : List Char → List Char
  | '+' :: cs | '-' :: cs => cs
  | cs => cs

/-- Whether digits are a whole number, without zeros in front. -/
def isWhole (cs : List Char) : Bool :=
  areDigits Char.isDigit cs && (cs.head? != some '0' || cs.length == 1)

/-- Whether a word is an exponent with its mark, or nothing. -/
def isExponent : List Char → Bool
  | [] => true
  | e :: cs => (e == 'e' || e == 'E') && areDigits Char.isDigit (unsigned cs)

/-- Whether a word is a number. -/
def isNumber (cs : List Char) : Bool :=
  match cs with
  | '0' :: 'x' :: digits => areDigits (fun c => (hexValue? c).isSome) digits
  | '0' :: 'o' :: digits => areDigits (fun c => '0' ≤ c && c ≤ '7') digits
  | '0' :: 'b' :: digits => areDigits (fun c => c == '0' || c == '1') digits
  | cs =>
    let cs := unsigned cs
    let isDigit (c : Char) := c.isDigit || c == '_'
    let whole := cs.takeWhile isDigit
    cs == "inf".toList || cs == "nan".toList ||
      (isWhole whole &&
        match cs.drop whole.length with
        | '.' :: rest =>
          let part := rest.takeWhile isDigit
          areDigits Char.isDigit part && isExponent (rest.drop part.length)
        | rest => isExponent rest)

/-- The number that `n` digits make at the beginning of a word, and what follows. -/
def digits? (n : Nat) (cs : List Char) : Option (Nat × List Char) :=
  let taken := cs.take n
  if taken.length = n ∧ taken.all Char.isDigit then
    some (taken.foldl (fun v c => v * 10 + (c.toNat - '0'.toNat)) 0, cs.drop n)
  else none

/-- The number of days of a month. -/
def daysOf (year month : Nat) : Nat :=
  if month = 2 then if year % 4 = 0 ∧ (year % 100 ≠ 0 ∨ year % 400 = 0) then 29 else 28
  else if month = 4 ∨ month = 6 ∨ month = 9 ∨ month = 11 then 30
  else 31

/-- What follows a day. -/
def day? (cs : List Char) : Option (List Char) := do
  let (year, cs) ← digits? 4 cs
  let (month, cs) ← digits? 2 (← Text.after? ['-'] cs)
  let (day, cs) ← digits? 2 (← Text.after? ['-'] cs)
  if 1 ≤ month ∧ month ≤ 12 ∧ 1 ≤ day ∧ day ≤ daysOf year month then some cs else none

/-- What follows a time of the day. -/
def time? (cs : List Char) : Option (List Char) := do
  let (hour, cs) ← digits? 2 cs
  let (minute, cs) ← digits? 2 (← Text.after? [':'] cs)
  let (second, cs) ← digits? 2 (← Text.after? [':'] cs)
  if hour > 23 ∨ minute > 59 ∨ second > 60 then none
  else
    match cs with
    | '.' :: rest =>
      let part := rest.takeWhile Char.isDigit
      if part.isEmpty then none else some (rest.drop part.length)
    | cs => some cs

/-- Whether a word is the offset of a zone, or nothing. -/
def isOffset : List Char → Bool
  | [] | ['Z'] | ['z'] => true
  | sign :: cs =>
    (sign == '+' || sign == '-') &&
      match (do
        let (hour, cs) ← digits? 2 cs
        let (minute, cs) ← digits? 2 (← Text.after? [':'] cs)
        return (hour, minute, cs) : Option (Nat × Nat × List Char)) with
      | some (hour, minute, []) => hour ≤ 23 && minute ≤ 59
      | _ => false

/-- Whether a word is a day, a time of the day or both. -/
def isDate (cs : List Char) : Bool :=
  match day? cs with
  | some [] => true
  | some (t :: rest) =>
    (t == 'T' || t == 't' || t == ' ') && (time? rest).any isOffset
  | none => (time? cs).any List.isEmpty

/-- A word that is no string: the characters up to the next mark, with the time behind a day. -/
def word (cs : List Char) : List Char × List Char :=
  let isWord (c : Char) := !(isBlank c || c == '\n' || c == '\r' || c == ',' || c == ']' ||
    c == '}' || c == '#' || c == '=')
  let first := cs.takeWhile isWord
  match day? first, cs.drop first.length with
  | some [], ' ' :: d :: rest =>
    if d.isDigit then
      let second := (d :: rest).takeWhile isWord
      (first ++ ' ' :: second, (d :: rest).drop second.length)
    else (first, ' ' :: d :: rest)
  | _, rest => (first, rest)

end Folio.Toml
