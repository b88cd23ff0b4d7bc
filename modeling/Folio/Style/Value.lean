import Folio.Style.Color
import Folio.Style.Tree

/-!
# Values of style sheets

Expressions have values: numbers, texts, colors, lists, maps, truth values and calculations that are
left to the reader of the result. Not every value can be written into the result, such as a map or a
number with several units.

* `Style.Value`: a value;
* `Style.Value.css`: how a value is written into the result;
* `Style.Value.inspect`: how a value is shown for reports;
* `Style.Value.isEqual`: whether values are the same.
-/

namespace Folio.Style

/-- An operand of a calculation. -/
inductive Operand where
  /-- A number. -/
  | number (n : Number)
  /-- A text that has a value for the reader of the result. -/
  | text (s : String)
  /-- An operator with its operands. -/
  | operation (op : BinaryOperator) (l r : Operand)
  /-- A calculation by its name. -/
  | nested (name : String) (operands : List Operand)

/-- A value. -/
inductive Value where
  /-- A number. -/
  | number (n : Number)
  /-- A text, in quotes or not. -/
  | text (s : String) (isQuoted : Bool)
  /-- A color. -/
  | color (c : Color)
  /-- A list, in brackets or not. -/
  | list (items : List Value) (separator : Separator) (inBrackets : Bool)
  /-- A map: pairs of key and value in their order. -/
  | map (entries : List (Value × Value))
  /-- A truth value. -/
  | boolean (b : Bool)
  /-- The value of nothing. -/
  | null
  /-- A calculation. -/
  | calculation (name : String) (operands : List Operand)

/-! ## Calculations as text -/

/-- How an operator is written. -/
def BinaryOperator.text : BinaryOperator → String
  | .or => "or"
  | .and => "and"
  | .eq => "=="
  | .ne => "!="
  | .lt => "<"
  | .le => "<="
  | .gt => ">"
  | .ge => ">="
  | .plus => "+"
  | .minus => "-"
  | .times => "*"
  | .divide => "/"
  | .modulo => "%"

/-- Whether an operator is one of sums. -/
def BinaryOperator.isSum : BinaryOperator → Bool
  | .plus | .minus => true
  | _ => false

namespace Operand

/-- Whether an operand is a sum. -/
def isSum : Operand → Bool
  | .operation op _ _ => op.isSum
  | _ => false

/-- Whether an operand is an operation. -/
def isOperation : Operand → Bool
  | .operation .. => true
  | _ => false

/-- A text in parentheses if they are needed. -/
def enclosed (isNeeded : Bool) (s : String) : String := if isNeeded then "(" ++ s ++ ")" else s

mutual

/-- How an operand is written. -/
def shown : Operand → String
  | .number n => n.text
  | .text s => s
  | .operation op l r =>
    let left := enclosed (!op.isSum && l.isSum) l.shown
    let right := enclosed
      (r.isOperation && (op == .divide || (op != .plus && r.isSum))) r.shown
    left ++ " " ++ op.text ++ " " ++ right
  | .nested name operands => name ++ "(" ++ ", ".intercalate (shownAll operands) ++ ")"

/-- How operands are written. -/
def shownAll : List Operand → List String
  | [] => []
  | o :: rest => o.shown :: shownAll rest

end

end Operand

/-! ## Texts in quotes -/

/-- Whether a character behind hexadecimal digits would count as one of them or be left out. -/
def goesOn (c : Char) : Bool :=
  c.isDigit || ('a' ≤ c.toLower && c.toLower ≤ 'f') || c == ' ' || c == '\t'

/-- A character of a text in quotes, given the one after it. -/
def quotedCharacter (quote c : Char) (next : Option Char) : List Char :=
  if c = '\\' then ['\\', '\\']
  else if c = quote then ['\\', c]
  else if c.toNat < 0x20 ∧ c ≠ '\t' then
    let digits := Nat.toDigits 16 c.toNat
    '\\' :: digits ++
      (if next.any goesOn then [' '] else [])
  else [c]

/-- The characters of a text in quotes. -/
def quotedCharacters (quote : Char) : List Char → List Char
  | [] => []
  | c :: rest => quotedCharacter quote c rest.head? ++ quotedCharacters quote rest

/-- A text in quotes: double ones unless there are double quotes and no single ones inside. -/
def quotedString (s : String) : String :=
  let cs := s.toList
  let quote := if cs.contains '"' && !cs.contains '\'' then '\'' else '"'
  String.ofList (quote :: quotedCharacters quote cs ++ [quote])

/-- A text without quotes on one line: the end of a line is a blank, and blanks behind it are left
    out. -/
def unquotedCharacters (afterLine : Bool) : List Char → List Char
  | [] => []
  | '\n' :: rest => ' ' :: unquotedCharacters true rest
  | ' ' :: rest =>
    if afterLine then unquotedCharacters true rest else ' ' :: unquotedCharacters false rest
  | c :: rest => c :: unquotedCharacters false rest

namespace Value

/-- A text without quotes. -/
def word (s : String) : Value := .text s false

/-- Whether a value is null or false. -/
def isFalse : Value → Bool
  | .null | .boolean false => true
  | _ => false

mutual

/-- Whether nothing is to be seen of a value. -/
def isBlank : Value → Bool
  | .null => true
  | .text s false => s.isEmpty
  | .list items _ false => areBlank items
  | _ => false

/-- Whether nothing is to be seen of any value. -/
def areBlank : List Value → Bool
  | [] => true
  | v :: rest => v.isBlank && areBlank rest

end

/-- Whether a value is a list without items, or a map without entries. -/
def isEmptyList : Value → Bool
  | .list [] _ _ | .map [] => true
  | _ => false

/-- How the separator of a list is written. -/
def separatorText : Separator → String
  | .comma => ", "
  | .slash => " / "
  | _ => " "

mutual

/-- How a value is written into the result, with quotes or without. -/
def write (quotes : Bool) : Value → Except String String
  | .number n =>
    if n.slash.isNone && (n.above.length > 1 || !n.below.isEmpty) then
      .error s!"{n.text} isn't a valid CSS value."
    else .ok n.text
  | .text s true =>
    .ok (if quotes then quotedString s else String.ofList (unquotedCharacters false s.toList))
  | .text s false => .ok (String.ofList (unquotedCharacters false s.toList))
  | .color c => .ok c.text
  | .list items separator inBrackets =>
    if items.isEmpty && !inBrackets then .error "() isn't a valid CSS value."
    else do
      let texts ← writeAll quotes items
      let inside := (separatorText separator).intercalate texts
      return if inBrackets then "[" ++ inside ++ "]" else inside
  | .map _ => .error "A map isn't a valid CSS value."
  | .boolean b => .ok (if b then "true" else "false")
  | .null => .ok ""
  | .calculation name operands => .ok (Operand.shown (.nested name operands))

/-- How the values are written of which something is to be seen. -/
def writeAll (quotes : Bool) : List Value → Except String (List String)
  | [] => .ok []
  | v :: rest => do
    let more ← writeAll quotes rest
    if v.isBlank then return more else return (← v.write quotes) :: more

end

/-- How a value is written into the result. -/
def css (v : Value) : Except String String := v.write true

/-- Whether a list needs parentheses as an item of another one. -/
def needsParentheses (outer : Separator) : Value → Bool
  | .list (_ :: _ :: _) inner false =>
    match outer with
    | .comma => inner == .comma
    | .slash => inner == .comma || inner == .slash
    | _ => inner != .undecided
  | _ => false

mutual

/-- How a value is shown for reports. -/
def inspect : Value → String
  | .number n => n.text
  | .text s true => quotedString s
  | .text s false => String.ofList (unquotedCharacters false s.toList)
  | .color c => c.text
  | .list items separator inBrackets =>
    let texts := inspectItems separator items
    let inside := (separatorText separator).intercalate texts
    let inside := if items.length = 1 ∧ separator = .comma then inside ++ "," else inside
    if inBrackets then "[" ++ inside ++ "]"
    else if items.isEmpty then "()"
    else if items.length = 1 ∧ separator = .comma then "(" ++ inside ++ ")"
    else inside
  | .map entries => "(" ++ ", ".intercalate (inspectEntries entries) ++ ")"
  | .boolean b => if b then "true" else "false"
  | .null => "null"
  | .calculation name operands => Operand.shown (.nested name operands)

/-- How the items of a list are shown. -/
def inspectItems (outer : Separator) : List Value → List String
  | [] => []
  | v :: rest =>
    Operand.enclosed (v.needsParentheses outer) v.inspect :: inspectItems outer rest

/-- How the entries of a map are shown. -/
def inspectEntries : List (Value × Value) → List String
  | [] => []
  | (k, v) :: rest =>
    (Operand.enclosed (k.needsParentheses .comma) k.inspect ++ ": " ++
      Operand.enclosed (v.needsParentheses .comma) v.inspect) :: inspectEntries rest

end

mutual

/-- Whether values are the same. Quotes make no difference, and neither does the kind of an empty
    list. -/
def isEqual : Value → Value → Bool
  | .number m, .number n => m.isEqual n
  | .text s _, .text t _ => s == t
  | .color c, .color d => c.isEqual d
  | .list xs s a, .list ys t b =>
    (xs.isEmpty && ys.isEmpty && a == b) || (s == t && a == b && areEqual xs ys)
  | .list xs _ _, .map es | .map es, .list xs _ _ => xs.isEmpty && es.isEmpty
  | .map xs, .map ys => xs.length == ys.length && haveEqual xs ys
  | .boolean a, .boolean b => a == b
  | .null, .null => true
  | .calculation f xs, .calculation g ys => f == g && Operand.shownAll xs == Operand.shownAll ys
  | _, _ => false

/-- Whether values are the same one by one. -/
def areEqual : List Value → List Value → Bool
  | [], [] => true
  | x :: xs, y :: ys => x.isEqual y && areEqual xs ys
  | _, _ => false

/-- Whether entries stand among others, in any order. -/
def haveEqual : List (Value × Value) → List (Value × Value) → Bool
  | [], _ => true
  | (k, v) :: rest, ys => (ys.any fun e => k.isEqual e.1 && v.isEqual e.2) && haveEqual rest ys

end

/-- The items of a value as a list: a map has its entries as items, and any other value itself. -/
def asList : Value → List Value
  | .list items _ _ => items
  | .map entries => entries.map fun (k, v) => .list [k, v] .space false
  | v => [v]

/-- The separator of a value as a list. -/
def separatorOf : Value → Separator
  | .list _ separator _ => separator
  | .map (_ :: _) => .comma
  | _ => .undecided

/-- The value of a key. -/
def lookup (entries : List (Value × Value)) (k : Value) : Option Value :=
  (entries.find? fun e => e.1.isEqual k).map Prod.snd

/-- Entries with a value for a key, in the place of the one there. -/
def put (entries : List (Value × Value)) (k v : Value) : List (Value × Value) :=
  if entries.any fun e => e.1.isEqual k then
    entries.map fun e => if e.1.isEqual k then (e.1, v) else e
  else entries ++ [(k, v)]

/-- The value with what a quotient was written as forgotten. -/
def settled : Value → Value
  | .number n => .number n.settled
  | v => v

end Value

end Folio.Style
