import Folio.Template.Blank
import Folio.Template.Expression

/-!
# Reading templates

A template is read into its nodes: text up to the next tag, and tags, of which some have a body that
ends at a tag of its own. What a body may hold depends on what it is the body of. A mistake is
reported with the line of the furthest place that was tried in vain.

* `Template.nodesWithin`: the nodes of a body, with a bound on the nesting of bodies;
* `Template.read`: the nodes of a whole template.
-/

namespace Folio.Template

open Reader

/-- What a body is the body of, where that decides what it may hold. -/
inductive Place where
  /-- The template itself. -/
  | outermost
  /-- A block. -/
  | block
  /-- A definition. -/
  | definition
  /-- A loop. -/
  | loop
  /-- A part that goes through a filter. -/
  | filtered
deriving DecidableEq

/-- The beginning of a tag: a bracket, and whether a dash follows it. -/
def opening (bracket : String) : Reader Bool :=
  oneOf [(bracket ++ "-", true), (bracket, false)]

/-- The end of a tag: a bracket, and whether a dash stands before it. -/
def closing (bracket : String) : Reader Bool :=
  spaced (oneOf [("-" ++ bracket, true), (bracket, false)])

/-- A tag of this inside. -/
def tag {α : Type} (inside : Reader α) : Reader (Trim × α) := rule do
  let before ← opening "\x7b%"
  let a ← spaced inside
  let after ← closing "%\x7d"
  return (⟨before, after⟩, a)

/-- A tag of one word. -/
def wordTag (word : String) : Reader Trim := Prod.fst <$> tag (exactly word)

/-- A tag of one word, and maybe a name. -/
def namedEndTag (word : String) : Reader Trim := Prod.fst <$> tag (do
  exactly word
  let _ ← optional (spaced identifier))

/-- A tag that begins with a word. -/
def tagOf {α : Type} (word : String) (inside : Reader α) : Reader (Trim × α) := tag (do
  exactly word
  spaced inside)

/-- Whether some characters begin a tag of any kind. -/
def beginsTag (cs : List Char) : Bool :=
  match cs with
  | '{' :: c :: _ => c == '{' || c == '%' || c == '#'
  | _ => false

/-- The number of characters before the first tag. -/
def textLength : List Char → Nat
  | [] => 0
  | c :: rest => if beginsTag (c :: rest) then 0 else 1 + textLength rest

/-- Text before the next tag. -/
def textNode : Reader Node := fun c furthest =>
  match textLength c.rest with
  | 0 => .missed furthest
  | n =>
    .found (.text (String.ofList (c.rest.take n))) ⟨c.rest.drop n, c.position + n⟩ furthest

/-- A comment. -/
def commentNode : Reader Node := rule do
  let before ← opening "\x7b#"
  let after ← fun c furthest =>
    match Text.cut? "#\x7d".toList c.rest with
    | none => .missed furthest
    | some (inside, rest) =>
      .found (inside.getLast? == some '-') ⟨rest, c.position + inside.length + 2⟩ furthest
  return .comment ⟨before, after⟩

/-- The value of an expression. -/
def printNode (nested : Nested) : Reader Node := rule do
  let before ← opening "\x7b\x7b"
  let e ← spaced (valueOf nested)
  let after ← closing "\x7d\x7d"
  return .print ⟨before, after⟩ e

/-- The block of the template that is extended. -/
def parentBlockNode : Reader Node := rule do
  let _ ← opening "\x7b\x7b"
  mark "super()"
  let _ ← closing "\x7d\x7d"
  return .parentBlock

/-- The names of templates to include: one, or a list. -/
def templateNames : Reader (List String) :=
  orElse ((fun s => [s]) <$> quoted) (rule do
    exactly "["
    let names ← optional (separated quoted)
    mark "]"
    return names.getD [])

/-- Other templates in this place. -/
def inclusionNode : Reader Node := do
  let (trim, names, isOptional) ← tagOf "include" (do
    let names ← templateNames
    let isOptional ← present (do
      mark "ignore"
      mark "missing")
    return (names, isOptional))
  return .inclusion trim names isOptional

/-- Definitions of another template. -/
def definitionsOfNode : Reader Node := do
  let (trim, file, space) ← tagOf "import" (do
    let file ← quoted
    mark "as"
    return (file, ← spaced identifier))
  return .definitionsOf trim file space

/-- The template that is extended. -/
def extensionNode : Reader Node := rule do
  blanks
  let (trim, file) ← tagOf "extends" quoted
  return .extension trim file

/-- The binding of a name. -/
def bindNode (nested : Nested) (word : String) (isGlobal : Bool) : Reader Node := do
  let (trim, name, e) ← tagOf word (do
    let name ← identifier
    mark "="
    return (name, ← spaced (valueOf nested)))
  return .bind trim isGlobal name e

/-- Text that is not read as a template: all up to the tag that ends it, of which there are at most
    `fuel` characters. -/
def verbatimWithin : (fuel : Nat) → List Char → Reader (List Char × Trim)
  | 0, _ => miss
  | fuel + 1, taken => fun c furthest =>
    match wordTag "endraw" c furthest with
    | .missed _ =>
      match c.rest with
      | [] => .missed (max furthest c.position)
      | x :: rest => verbatimWithin fuel (x :: taken) ⟨rest, c.position + 1⟩ furthest
    | .found last c furthest => .found (taken.reverse, last) c furthest
    | .refused reason => .refused reason

/-- Text that is not read as a template. -/
def verbatimNode : Reader Node := do
  let first ← wordTag "raw"
  let (s, last) ← fun c furthest => verbatimWithin (c.rest.length + 1) [] c furthest
  return .verbatim first (String.ofList s) last

/-- The default of a parameter. -/
def parameterDefault : Reader Operand :=
  choice [.truth <$> truthValue, .text <$> quoted, .real <$> real, .integer <$> integer]

/-- A parameter, maybe with a default. -/
def parameter : Reader (String × Option Operand) := rule do
  let name ← identifier
  let value ← optional (do
    mark "="
    spaced parameterDefault)
  return (name, value)

section

variable (nested : Nested) (body : Place → Reader (List Node))

/-- The first branch whose condition holds. -/
def branchesNode (place : Place) : Reader Node := do
  let (trim, e) ← tagOf "if" (valueOf nested)
  let first ← body place
  let more ← many (do
    let (trim, e) ← tagOf "elif" (valueOf nested)
    return (trim, e, ← body place))
  let otherwise ← optional (do
    let trim ← wordTag "else"
    return (trim, ← body place))
  let last ← wordTag "endif"
  return .branches ((trim, e, first) :: more) otherwise last

/-- A body for every item. -/
def loopNode : Reader Node := do
  let (first, name, second, container) ← tagOf "for" (do
    let name ← identifier
    let second ← optional (do
      mark ","
      spaced identifier)
    mark "in"
    let container ← spaced (orElse (basicWithFiltersOf nested) (listWithFiltersOf nested))
    return (name, second, container))
  let inside ← body .loop
  let ifEmpty ← optional (do
    let _ ← wordTag "else"
    body .loop)
  let last ← wordTag "endfor"
  match second with
  | none => return .loop first none name container inside ifEmpty last
  | some item => return .loop first (some name) item container inside ifEmpty last

/-- A part that goes through a filter. -/
def filteredNode : Reader Node := do
  let (first, filter) ← tagOf "filter" (filterCallOf nested.value)
  let inside ← body .filtered
  return .filtered first filter inside (← wordTag "endfilter")

/-- A block. -/
def blockNode : Reader Node := do
  let (first, name) ← tagOf "block" identifier
  let inside ← body .block
  return .block first name inside (← namedEndTag "endblock")

/-- A definition. -/
def definitionNode : Reader Node := do
  let (first, name, parameters) ← tagOf "macro" (rule do
    let name ← identifier
    mark "("
    let parameters ← optional (separated parameter)
    mark ")"
    return (name, parameters.getD []))
  let inside ← body .definition
  return .definition first name parameters inside (← namedEndTag "endmacro")

/-- A node in a body. -/
def nodeOf (place : Place) : Reader Node :=
  let parts : List (Reader Node) := match place with
    | .outermost => [definitionsOfNode, definitionNode body, blockNode body]
    | .block => [parentBlockNode, blockNode body]
    | .filtered => [blockNode body]
    | .loop =>
      [(.leave · true) <$> wordTag "break", (.leave · false) <$> wordTag "continue"]
    | .definition => []
  rule (choice (parts ++ [inclusionNode, printNode nested, commentNode,
    bindNode nested "set" false, bindNode nested "set_global" true, verbatimNode,
    branchesNode nested body place, loopNode nested body, filteredNode nested body, textNode]))

end

/-- The nodes of a body, where bodies are nested at most `fuel` deep. -/
def nodesWithin (nested : Nested) : (fuel : Nat) → Place → Reader (List Node)
  | 0, _ => miss
  | fuel + 1, place => fun c furthest =>
    many (nodeOf nested (nodesWithin nested fuel) place) c furthest

/-- A whole template. -/
def documentWithin (fuel : Nat) : Reader (List Node) := do
  let comments ← many commentNode
  let extension ← optional extensionNode
  let nodes ← nodesWithin (Nested.within fuel) fuel .outermost
  finish
  return comments ++ extension.toList ++ nodes

/-- The nodes of a template; of a malformed one the line of the mistake, or what is wrong with what
    was read. -/
def read (source : String) : Except String (List Node) :=
  let cs := source.toList
  match documentWithin (cs.length + 1) ⟨cs, 0⟩ 0 with
  | .found nodes _ _ => .ok (tighten nodes)
  | .missed furthest =>
    let line := lineAt cs furthest
    let column := ((cs.take furthest).reverse.takeWhile (· != '\n')).length + 1
    .error s!"--> {line}:{column}"
  | .refused reason => .error reason

end Folio.Template
