import Folio.Markdown.Blocks
import Folio.Markdown.Inlines
import Folio.Settings

/-!
# Markdown as HTML

A document is written block by block. A block begins on a line of its own, and so does an item of a
list; what is inside a paragraph, a heading or a cell stays on its line.

* `Markdown.Page`: what has been written;
* `Markdown.Page.inlines`, `Markdown.Page.blocks`: writing a document;
* `Markdown.render`: the HTML of a text.
-/

namespace Folio.Markdown

/-- Characters with those replaced that mean something between tags. -/
def escapeText (cs : List Char) : List Char :=
  cs.flatMap fun c =>
    match c with
    | '&' => "&amp;".toList
    | '<' => "&lt;".toList
    | '>' => "&gt;".toList
    | c => [c]

/-- Characters with those replaced that mean something in the value of an attribute. -/
def escapeValue (cs : List Char) : List Char :=
  cs.flatMap fun c =>
    match c with
    | '&' => "&amp;".toList
    | '<' => "&lt;".toList
    | '>' => "&gt;".toList
    | '"' => "&quot;".toList
    | '\'' => "&#x27;".toList
    | c => [c]

/-- A character as the bytes that stand for it in an address. -/
def percentBytes (c : Char) : List Char :=
  c.toString.toUTF8.toList.flatMap fun b =>
    let digit (n : Nat) := (Nat.digitChar n).toUpper
    ['%', digit (b.toNat / 16), digit (b.toNat % 16)]

/-- A target as the value of an attribute. -/
def escapeTarget (cs : List Char) : List Char :=
  cs.flatMap fun c =>
    match c with
    | '&' => "&amp;".toList
    | '\'' => "&#x27;".toList
    | c =>
      if c.isAlphanum ∨ "-_.+!*(),%#@?=;:/$~".toList.contains c then [c] else percentBytes c

/-- What has been written, last character first. -/
structure Page where
  /-- The characters. -/
  written : List Char := []

namespace Page

/-- Writes characters. -/
def put (p : Page) (cs : List Char) : Page := ⟨cs.reverse ++ p.written⟩

/-- Writes a text. -/
def write (p : Page) (s : String) : Page := p.put s.toList

/-- Ends the line at hand, if there is one. -/
def freshLine (p : Page) : Page :=
  match p.written with
  | [] | '\n' :: _ => p
  | _ => p.write "\n"

mutual

/-- The text of an inline that describes an image. -/
def altText : Inline → List Char
  | .text s | .code s | .html s => s
  | .softBreak | .hardBreak => [' ']
  | .checkbox done => if done then "[x]".toList else "[ ]".toList
  | .emphasis content | .strong content | .deleted content | .link _ _ content
  | .image _ _ content => altTexts content

/-- The text of inlines that describe an image. -/
def altTexts : List Inline → List Char
  | [] => []
  | i :: rest => altText i ++ altTexts rest

end

/-- The title of a link or image, where there is one. -/
def title (p : Page) (title : List Char) : Page :=
  if title.isEmpty then p else p.write "\" title=\"" |>.put (escapeValue title)

mutual

/-- Writes an inline. -/
def inline (p : Page) : Inline → Page
  | .text s => p.put (escapeText s)
  | .code s => p.write "<code>" |>.put (escapeText s) |>.write "</code>"
  | .html s => p.put s
  | .softBreak => p.write "\n"
  | .hardBreak => p.write "<br />\n"
  | .checkbox true => p.write "<input disabled=\"\" type=\"checkbox\" checked=\"\"/>\n"
  | .checkbox false => p.write "<input disabled=\"\" type=\"checkbox\"/>\n"
  | .emphasis content => inlines (p.write "<em>") content |>.write "</em>"
  | .strong content => inlines (p.write "<strong>") content |>.write "</strong>"
  | .deleted content => inlines (p.write "<del>") content |>.write "</del>"
  | .link target title content =>
    inlines ((p.write "<a href=\"" |>.put (escapeTarget target)).title title |>.write "\">") content
      |>.write "</a>"
  | .image target title content =>
    (p.write "<img src=\"" |>.put (escapeTarget target) |>.write "\" alt=\""
      |>.put (escapeValue (altTexts content))).title title |>.write "\" />"

/-- Writes inlines. -/
def inlines (p : Page) : List Inline → Page
  | [] => p
  | i :: rest => inlines (p.inline i) rest

end

/-- How running text is read. -/
abbrev Reader := Source → List Inline

/-- Writes code; the first word behind its fence names the language. -/
def code (p : Page) (info text : List Char) : Page :=
  let language := (unescape info).takeWhile (· != ' ')
  let p := p.freshLine
  let p := if language.isEmpty then p.write "<pre><code>"
    else p.write "<pre><code class=\"language-" |>.put (escapeValue language) |>.write "\">"
  p.put (escapeText text) |>.write "</code></pre>\n"

/-- Writes the cells of a row. -/
def cells (r : Reader) (tag : String) (p : Page) : List (Alignment × Source) → Page
  | [] => p
  | (a, source) :: rest =>
    let style := match a with
      | .plain => ""
      | .left => " style=\"text-align: left\""
      | .center => " style=\"text-align: center\""
      | .right => " style=\"text-align: right\""
    let p := p.write ("<" ++ tag ++ style ++ ">") |>.inlines (r source)
    cells r tag (p.write ("</" ++ tag ++ ">")) rest

/-- Writes a table. -/
def table (r : Reader) (p : Page) (columns : List Alignment) (head : List Source)
    (rows : List (List Source)) : Page :=
  let p := cells r "th" (p.write "<table><thead><tr>") (columns.zip head)
  let p := p.write "</tr></thead><tbody>\n"
  let p := rows.foldl (fun p row =>
    (cells r "td" (p.write "<tr>") (columns.zip row)).write "</tr>\n") p
  p.write "</tbody></table>\n"

mutual

/-- Writes a block; in a tight item a paragraph has no tag of its own. -/
def block (r : Reader) (isTight : Bool) (p : Page) : Block Source → Page
  | .paragraph source =>
    if isTight then p.inlines (r source)
    else p.freshLine.write "<p>" |>.inlines (r source) |>.write "</p>\n"
  | .heading level source =>
    p.freshLine.write s!"<h{level}>" |>.inlines (r source) |>.write s!"</h{level}>\n"
  | .rule => p.freshLine.write "<hr />\n"
  | .code info text => p.code info text
  | .html text => p.put text
  | .quote content =>
    (blocks r false (p.freshLine.write "<blockquote>\n") content).write "</blockquote>\n"
  | .list none isTight all => (items r isTight (p.freshLine.write "<ul>\n") all).write "</ul>\n"
  | .list (some start) isTight all =>
    let opening := if start = 1 then "<ol>\n" else s!"<ol start=\"{start}\">\n"
    (items r isTight (p.freshLine.write opening) all).write "</ol>\n"
  | .table columns head rows => p.table r columns head rows

/-- Writes blocks. -/
def blocks (r : Reader) (isTight : Bool) (p : Page) : List (Block Source) → Page
  | [] => p
  | b :: rest => blocks r isTight (p.block r isTight b) rest

/-- Writes the items of a list. -/
def items (r : Reader) (isTight : Bool) (p : Page) : List (List (Block Source)) → Page
  | [] => p
  | content :: rest =>
    let p := blocks r isTight (p.freshLine.write "<li>") content
    items r isTight (p.write "</li>\n") rest

end

end Page

/-- The HTML of a text, with the extensions that are turned on. -/
def render (settings : MarkdownSettings) (text : String) : String :=
  let (all, references) := blocks settings.tables settings.tasklists text.toList
  let read (s : Source) : List Inline :=
    (s.task.map Inline.checkbox).toList ++ inlines settings.strikethrough references s.text
  String.ofList (Page.blocks read false {} all).written.reverse

end Folio.Markdown
