import Folio.Decimal
import Folio.Json.Basic

/-!
# Writing JSON

JSON text is written compactly or with an indentation of two spaces. In a text only the quote, the
backslash and the characters below `U+0020` are escaped; everything else stands as it is. A double
can always be told from a whole number: it has a point or an exponent.

* `Json.compact`: without blanks;
* `Json.pretty`: one item or field a line;
* `Json.quote`: a text between quotes, escaped.
-/

namespace Folio

/-- Doubles have a point up to the sixteenth digit before it and the fifth place after it, and an
    exponent with its sign beyond. -/
def Json.doubleLayout : Decimal.Layout := ⟨fun e => -5 ≤ e ∧ e ≤ 15, true, true⟩

/-- The digits of a whole number, after a minus sign if it is negative. -/
def Number.integerText (n : Int) : List Char :=
  if n < 0 then '-' :: Nat.toDigits 10 n.natAbs else Nat.toDigits 10 n.natAbs

/-- The text of a number. A number that is not finite has none of its own and reads `null`. -/
def Number.text : Number → List Char
  | .integer n _ => integerText n
  | .double d =>
    if d.isFinite then (Json.doubleLayout.render d).toList else ['n', 'u', 'l', 'l']

namespace Json

/-- A hexadecimal digit below sixteen, in lower case. -/
def hexDigit (n : Nat) : Char :=
  if n < 10 then Char.ofNat ('0'.toNat + n) else Char.ofNat ('a'.toNat + (n - 10))

/-- A character inside quotes: five control characters have short escapes, the other ones below
    `U+0020` are written as their number. -/
def escape (c : Char) : List Char :=
  if c = '"' then ['\\', '"']
  else if c = '\\' then ['\\', '\\']
  else if c = '\x08' then ['\\', 'b']
  else if c = '\x0c' then ['\\', 'f']
  else if c = '\n' then ['\\', 'n']
  else if c = '\r' then ['\\', 'r']
  else if c = '\t' then ['\\', 't']
  else if c.toNat < 0x20 then
    ['\\', 'u', '0', '0', hexDigit (c.toNat / 16), hexDigit (c.toNat % 16)]
  else [c]

/-- A text between quotes. -/
def quote (s : String) : List Char := '"' :: s.toList.flatMap escape ++ ['"']

mutual

/-- The characters of the compact text. -/
def compactChars : Json → List Char
  | .null => ['n', 'u', 'l', 'l']
  | .bool true => ['t', 'r', 'u', 'e']
  | .bool false => ['f', 'a', 'l', 's', 'e']
  | .num n => n.text
  | .str s => quote s
  | .arr items => '[' :: compactItems items ++ [']']
  | .obj fields => '{' :: compactFields fields ++ ['}']

/-- Items with commas between them. -/
def compactItems : List Json → List Char
  | [] => []
  | [v] => v.compactChars
  | v :: rest => v.compactChars ++ ',' :: compactItems rest

/-- Fields with commas between them. -/
def compactFields : List (String × Json) → List Char
  | [] => []
  | [(k, v)] => quote k ++ ':' :: v.compactChars
  | (k, v) :: rest => quote k ++ ':' :: v.compactChars ++ ',' :: compactFields rest

end

/-- The text of a value without blanks. -/
def compact (v : Json) : String := String.ofList v.compactChars

/-- A new line, indented by two spaces a level. -/
def newline (level : Nat) : List Char := '\n' :: List.replicate (2 * level) ' '

mutual

/-- The characters of the indented text of a value that stands at a level. -/
def prettyChars (level : Nat) : Json → List Char
  | .arr [] => ['[', ']']
  | .obj [] => ['{', '}']
  | .arr items => '[' :: prettyItems (level + 1) items ++ newline level ++ [']']
  | .obj fields => '{' :: prettyFields (level + 1) fields ++ newline level ++ ['}']
  | .null => ['n', 'u', 'l', 'l']
  | .bool true => ['t', 'r', 'u', 'e']
  | .bool false => ['f', 'a', 'l', 's', 'e']
  | .num n => n.text
  | .str s => quote s

/-- Items, each on a line of its own. -/
def prettyItems (level : Nat) : List Json → List Char
  | [] => []
  | [v] => newline level ++ v.prettyChars level
  | v :: rest => newline level ++ v.prettyChars level ++ ',' :: prettyItems level rest

/-- Fields, each on a line of its own. -/
def prettyFields (level : Nat) : List (String × Json) → List Char
  | [] => []
  | [(k, v)] => newline level ++ quote k ++ ':' :: ' ' :: v.prettyChars level
  | (k, v) :: rest =>
    newline level ++ quote k ++ ':' :: ' ' :: v.prettyChars level ++ ',' :: prettyFields level rest

end

/-- The text of a value with an indentation of two spaces. -/
def pretty (v : Json) : String := String.ofList (v.prettyChars 0)

end Json

end Folio
