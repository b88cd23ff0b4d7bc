/-!
# Lines of markdown

The structure of a document shows in the indentation of its lines. Columns are counted with tabs
that reach to the next multiple of four, and a tab of which only a part is used up leaves blanks
behind.

* `Markdown.Line`: what is left of a line, and the column it begins at;
* `Markdown.Line.indent`, `Markdown.Line.skip`: measuring and using up indentation.
-/

namespace Folio.Markdown

/-- What is left of a line. -/
structure Line where
  /-- The column it begins at. -/
  column : Nat
  /-- Its characters. -/
  chars : List Char

namespace Line

/-- A blank or a tab. -/
def isBlankChar (c : Char) : Bool := c == ' ' || c == '\t'

/-- How far a character at a column reaches. -/
def width (column : Nat) (c : Char) : Nat := if c = '\t' then 4 - column % 4 else 1

/-- The columns of blanks at the beginning of some characters. -/
def indentFrom (column : Nat) : List Char → Nat
  | [] => 0
  | c :: rest =>
    if isBlankChar c then width column c + indentFrom (column + width column c) rest else 0

/-- The columns of blanks at the beginning of a line. -/
def indent (l : Line) : Nat := indentFrom l.column l.chars

/-- Whether a line holds nothing but blanks. -/
def isBlank (l : Line) : Bool := l.chars.all isBlankChar

/-- Uses up to `n` columns of blanks at the beginning of some characters. -/
def skipFrom (column n : Nat) : List Char → Line
  | [] => ⟨column, []⟩
  | c :: rest =>
    if n = 0 || !isBlankChar c then ⟨column, c :: rest⟩
    else
      let w := width column c
      if w ≤ n then skipFrom (column + w) (n - w) rest
      else ⟨column + n, List.replicate (w - n) ' ' ++ rest⟩

/-- The line without up to `n` columns of blanks at its beginning. -/
def skip (l : Line) (n : Nat) : Line := skipFrom l.column n l.chars

/-- The line without all blanks at its beginning. -/
def skipAll (l : Line) : Line := l.skip l.indent

/-- The line without its first `n` characters, which are no tabs. -/
def drop (l : Line) (n : Nat) : Line := ⟨l.column + n, l.chars.drop n⟩

end Line

/-- Characters without blanks at their end. -/
def trimBlanksEnd (cs : List Char) : List Char := (cs.reverse.dropWhile Line.isBlankChar).reverse

/-- Characters without blanks at both ends. -/
def trimBlanks (cs : List Char) : List Char := trimBlanksEnd (cs.dropWhile Line.isBlankChar)

end Folio.Markdown
