import Folio.Markdown.Entity
import Folio.Markdown.Line
import Folio.Unicode.Case
import Folio.Unicode.Classes

/-!
# Targets of links

A link leads to a target and may have a title. Both are either written behind the text of the link,
or given a label somewhere in the document, by which links refer to them. Labels are compared
without regard to case and to how blanks are spread.

* `Markdown.target?`, `Markdown.title?`, `Markdown.label?`: the parts of a link;
* `Markdown.Reference.leading`: the definitions at the beginning of a paragraph.
-/

namespace Folio.Markdown

/-- A mark that a backslash makes an ordinary character. -/
def isMark (c : Char) : Bool := c.toNat < 0x80 && Unicode.isPunctuation c

/-- The character of a number, unless there is none. -/
def characterOf (n : Nat) : Char :=
  if n = 0 ∨ (0xd800 ≤ n ∧ n < 0xe000) ∨ n ≥ 0x110000 then '\ufffd' else Char.ofNat n

/-- The value of some digits of a base. -/
def numeral (base : Nat) (digits : List Char) : Nat :=
  digits.foldl (fun n c => n * base + Entity.digitValue c.toLower) 0

/-- The characters written by number or name behind an ampersand, and what follows. -/
def entity? : List Char → Option (List Char × List Char)
  | '#' :: x :: rest =>
    let isHex := x = 'x' ∨ x = 'X'
    let cs := if isHex then rest else x :: rest
    let isDigit (c : Char) : Bool :=
      c.isDigit || (decide isHex && 'a' ≤ c.toLower && c.toLower ≤ 'f')
    let digits := cs.takeWhile isDigit
    match cs.drop digits.length with
    | ';' :: rest =>
      if digits.isEmpty ∨ digits.length > (if isHex then 6 else 7) then none
      else some ([characterOf (numeral (if isHex then 16 else 10) digits)], rest)
    | _ => none
  | cs =>
    let name := cs.takeWhile Char.isAlphanum
    match cs.drop name.length with
    | ';' :: rest => (Entity.find? name).map (·, rest)
    | _ => none

/-- The characters that some source stands for, without backslashes before marks and with the
    characters that are written by name. `fuel` bounds the number of characters. -/
def unescapeWithin : (fuel : Nat) → List Char → List Char
  | 0, cs => cs
  | _, [] => []
  | fuel + 1, '\\' :: c :: rest =>
    if isMark c then c :: unescapeWithin fuel rest else '\\' :: unescapeWithin fuel (c :: rest)
  | fuel + 1, '&' :: rest =>
    match entity? rest with
    | some (cs, rest) => cs ++ unescapeWithin fuel rest
    | none => '&' :: unescapeWithin fuel rest
  | fuel + 1, c :: rest => c :: unescapeWithin fuel rest

/-- The characters that some source stands for. -/
def unescape (cs : List Char) : List Char := unescapeWithin cs.length cs

/-- A blank or the end of a line. -/
def isGapChar (c : Char) : Bool := c == ' ' || c == '\t' || c == '\n'

/-- What stands before the first character of a class and what follows it. A character behind a
    backslash counts as none of the class, and one that is forbidden ends the search. -/
def upTo (isEnd isForbidden : Char → Bool) (taken : List Char) :
    List Char → Option (List Char × List Char)
  | [] => none
  | '\\' :: c :: rest =>
    if c = '\n' then upTo isEnd isForbidden ('\\' :: taken) (c :: rest)
    else upTo isEnd isForbidden (c :: '\\' :: taken) rest
  | c :: rest =>
    if isEnd c then some (taken.reverse, rest)
    else if isForbidden c then none
    else upTo isEnd isForbidden (c :: taken) rest

/-- A target without brackets: parentheses are in pairs, and blanks and control characters end it.
    -/
def bareTarget (depth : Nat) (taken : List Char) : List Char → List Char × List Char × Nat
  | [] => (taken.reverse, [], depth)
  | '\\' :: c :: rest =>
    if isMark c then bareTarget depth (c :: '\\' :: taken) rest
    else bareTarget depth ('\\' :: taken) (c :: rest)
  | c :: rest =>
    if c.toNat ≤ 0x20 ∨ c.toNat = 0x7f then (taken.reverse, c :: rest, depth)
    else if c = '(' then bareTarget (depth + 1) (c :: taken) rest
    else if c = ')' then
      if depth = 0 then (taken.reverse, c :: rest, 0) else bareTarget (depth - 1) (c :: taken) rest
    else bareTarget depth (c :: taken) rest

/-- The target at the beginning of some source, and what follows. -/
def target? : List Char → Option (List Char × List Char)
  | '<' :: rest =>
    (upTo (· == '>') (fun c => c == '<' || c == '\n') [] rest).map fun (t, rest) =>
      (unescape t, rest)
  | cs =>
    match bareTarget 0 [] cs with
    | (t, rest, 0) => some (unescape t, rest)
    | _ => none

/-- Whether a text has a blank line in it. -/
def hasBlankLine (cs : List Char) : Bool :=
  ((Text.fields (· == '\n') cs).drop 1).dropLast.any fun l => l.all Line.isBlankChar

/-- The title at the beginning of some source, and what follows. -/
def title? : List Char → Option (List Char × List Char)
  | [] => none
  | q :: rest =>
    let found :=
      if q = '"' ∨ q = '\'' then upTo (· == q) (fun _ => false) [] rest
      else if q = '(' then upTo (· == ')') (· == '(') [] rest
      else none
    match found with
    | some (t, rest) => if hasBlankLine t then none else some (unescape t, rest)
    | none => none

/-- The label up to a bracket at the beginning of some source, and what follows. -/
def label? (cs : List Char) : Option (List Char × List Char) :=
  match upTo (· == ']') (· == '[') [] cs with
  | some (label, rest) =>
    if label.length > 999 ∨ label.all isGapChar ∨ hasBlankLine label then none
    else some (label, rest)
  | none => none

/-- A label as it is compared with others. -/
def normalLabel (label : List Char) : List Char :=
  Unicode.toLower (Unicode.toUpper ([' '].intercalate (Text.words isGapChar label)))

/-- A target with its label. -/
structure Reference where
  /-- The label as it is compared with others. -/
  label : List Char
  /-- The target. -/
  target : List Char
  /-- The title, maybe empty. -/
  title : List Char

namespace Reference

/-- What follows if nothing else stands in the line. -/
def lineEnd? (cs : List Char) : Option (List Char) :=
  match cs.dropWhile Line.isBlankChar with
  | [] => some []
  | '\n' :: rest => some rest
  | _ => none

/-- Blanks with at most one end of a line among them are left out. -/
def skipGap (cs : List Char) : List Char :=
  match cs.dropWhile Line.isBlankChar with
  | '\n' :: rest => rest.dropWhile Line.isBlankChar
  | cs => cs

/-- The definition of a target at the beginning of some source, and what follows. -/
def definition? : List Char → Option (Reference × List Char)
  | '[' :: rest => do
    let (label, rest) ← label? rest
    match rest with
    | ':' :: rest =>
      let start := skipGap rest
      let (target, rest) ← target? start
      if start.head? ≠ some '<' ∧ target.isEmpty then none
      else
        let gap := skipGap rest
        let titled := if gap.length < rest.length then
            (title? gap).bind fun (title, rest) => (lineEnd? rest).map (title, ·)
          else none
        match titled with
        | some (title, rest) => some (⟨normalLabel label, target, title⟩, rest)
        | none => (lineEnd? rest).map (⟨normalLabel label, target, []⟩, ·)
    | _ => none
  | _ => none

/-- The definitions at the beginning of a paragraph, of which there are at most `fuel`, and what
    follows. -/
def leadingWithin : (fuel : Nat) → List Char → List Reference × List Char
  | 0, cs => ([], cs)
  | fuel + 1, cs =>
    match definition? cs with
    | none => ([], cs)
    | some (r, rest) =>
      let (more, rest) := leadingWithin fuel rest
      (r :: more, rest)

/-- The definitions at the beginning of a paragraph, and what follows. -/
def leading (cs : List Char) : List Reference × List Char := leadingWithin cs.length cs

/-- The first of some definitions with a label. -/
def find? (references : List Reference) (label : List Char) : Option Reference :=
  references.find? fun r => r.label == normalLabel label

end Reference

end Folio.Markdown
