import Folio.Text

/-!
# Markup inside markdown

Markdown holds markup of its own accord: tags, comments, instructions and declarations. They are
only recognised here, and kept as they are. A tag in running text may span lines, one that begins a
block may not.

* `Markdown.Markup.tag?`: what follows a tag;
* `Markdown.Markup.piece?`: what follows a tag, comment, instruction or declaration.
-/

namespace Folio.Markdown.Markup

/-- A blank inside a tag, or the end of a line where lines may be spanned. -/
def isGap (spans : Bool) (c : Char) : Bool :=
  c == ' ' || c == '\t' || c == '\x0c' || (spans && c == '\n')

/-- The name of a tag is made of letters, digits and dashes. -/
def isTagPart (c : Char) : Bool := c.isAlphanum || c == '-'

/-- The first character of the name of an attribute. -/
def isAttributeStart (c : Char) : Bool := c.isAlpha || c == '_' || c == ':'

/-- A further character of the name of an attribute. -/
def isAttributePart (c : Char) : Bool := c.isAlphanum || "_.:-".toList.contains c

/-- A character of a value without quotes. -/
def isBareValue (c : Char) : Bool :=
  !(isGap true c || c == '"' || c == '\'' || c == '=' || c == '<' || c == '>' || c == '\x60')

/-- What follows the value of an attribute. -/
def value? (spans : Bool) : List Char → Option (List Char)
  | [] => none
  | q :: rest =>
    if q = '"' ∨ q = '\'' then
      let inside := rest.takeWhile (· != q)
      if !spans && inside.contains '\n' then none
      else if inside.length < rest.length then some (rest.drop (inside.length + 1)) else none
    else
      match (q :: rest).dropWhile isBareValue with
      | left => if left.length < (q :: rest).length then some left else none

/-- What follows attributes, of which there are at most `fuel`. -/
def attributes (spans : Bool) : (fuel : Nat) → List Char → List Char
  | 0, cs => cs
  | fuel + 1, cs =>
    let gap := cs.dropWhile (isGap spans)
    match gap with
    | [] => cs
    | c :: _ =>
      if gap.length = cs.length || !isAttributeStart c then cs
      else
        let named := gap.dropWhile isAttributePart
        match named.dropWhile (isGap spans) with
        | '=' :: rest =>
          match value? spans (rest.dropWhile (isGap spans)) with
          | some rest => attributes spans fuel rest
          | none => cs
        | _ => attributes spans fuel named

/-- What follows a tag that opens or closes something. -/
def tag? (spans : Bool) : List Char → Option (List Char)
  | '<' :: '/' :: c :: rest =>
    if !c.isAlpha then none
    else
      match (rest.dropWhile isTagPart).dropWhile (isGap spans) with
      | '>' :: rest => some rest
      | _ => none
  | '<' :: c :: rest =>
    if !c.isAlpha then none
    else
      let rest := rest.dropWhile isTagPart
      match (attributes spans rest.length rest).dropWhile (isGap spans) with
      | '>' :: rest | '/' :: '>' :: rest => some rest
      | _ => none
  | _ => none

/-- What follows the first place of an end. -/
def behind? (mark : String) (cs : List Char) : Option (List Char) :=
  (Text.cut? mark.toList cs).map Prod.snd

/-- What follows a comment, an instruction, a declaration or a section of character data. -/
def special? (cs : List Char) : Option (List Char) :=
  if let some rest := Text.after? "<!--".toList cs then
    match rest with
    | '>' :: rest | '-' :: '>' :: rest => some rest
    | rest => behind? "-->" rest
  else if let some rest := Text.after? "<?".toList cs then behind? "?>" rest
  else if let some rest := Text.after? "<![CDATA[".toList cs then behind? "]]>" rest
  else
    match cs with
    | '<' :: '!' :: c :: rest => if c.isAlpha then behind? ">" rest else none
    | _ => none

/-- What follows a piece of markup in running text. -/
def piece? (cs : List Char) : Option (List Char) := (tag? true cs).or (special? cs)

/-- The names of the tags that begin a block whatever follows them in the line. -/
def blockNames : List String :=
  ["address", "article", "aside", "base", "basefont", "blockquote", "body", "caption", "center",
    "col", "colgroup", "dd", "details", "dialog", "dir", "div", "dl", "dt", "fieldset",
    "figcaption", "figure", "footer", "form", "frame", "frameset", "h1", "h2", "h3", "h4", "h5",
    "h6", "head", "header", "hr", "html", "iframe", "legend", "li", "link", "main", "menu",
    "menuitem", "nav", "noframes", "ol", "optgroup", "option", "p", "param", "search", "section",
    "summary", "table", "tbody", "td", "tfoot", "th", "thead", "title", "tr", "track", "ul"]

/-- The names of the tags whose block ends with the tag that closes it. -/
def rawNames : List String := ["pre", "style", "script", "textarea"]

/-- How a block of markup ends. -/
inductive Ending where
  /-- With the line that holds this text. -/
  | holding (mark : List Char)
  /-- Before a blank line. -/
  | blankLine
  /-- It has ended with its last line. -/
  | met
deriving DecidableEq

/-- The block of markup that begins a line, by its ending. A tag of any name begins one only if it
    is alone in its line and `mayBeAnyTag`. -/
def blockStart? (mayBeAnyTag : Bool) (cs : List Char) : Option Ending :=
  match cs with
  | '<' :: rest =>
    let name (cs : List Char) := String.ofList ((cs.takeWhile isTagPart).map Char.toLower)
    let first := name rest
    let follows := (rest.drop first.length).head?
    if rawNames.contains first ∧ follows.all (fun c => isGap true c || c == '>') then
      some (.holding ("</" ++ first ++ ">").toList)
    else if Text.begins "!--".toList rest then some (.holding "-->".toList)
    else if rest.head? = some '?' then some (.holding "?>".toList)
    else if Text.begins "![CDATA[".toList rest then some (.holding "]]>".toList)
    else if rest.head? = some '!' ∧ (rest.drop 1).head?.any Char.isAlpha then some (.holding ['>'])
    else
      let inner := if rest.head? = some '/' then rest.drop 1 else rest
      let word := name inner
      let after := inner.drop word.length
      let isWhole := after.head?.all (fun c => isGap true c || c == '>') ||
        Text.begins "/>".toList after
      if blockNames.contains word ∧ isWhole then
        some .blankLine
      else if mayBeAnyTag ∧ (tag? false cs).any (fun rest => rest.all (isGap true)) then
        some .blankLine
      else none
  | _ => none

end Folio.Markdown.Markup
