import Folio.Style.Extension
import Folio.Style.Media
import Folio.Style.Value

/-!
# Layouts

What a style sheet amounts to is laid out as nodes, numbered in the order in which they come up.
Each node stands in an earlier one, its *parent*; node 0 is the whole sheet. Rules do not stand in
rules, so a node may have to go further out than where it comes up, and an outer node that has
something behind it is then opened once more.

* `Style.Layout`: nodes with their parents;
* `Style.Layout.add`, `Layout.addThrough`: a further node;
* `Style.Tree`: a node with all that stands in it, and `Style.Tree.sheetText`: how a sheet is
  written.
-/

namespace Folio.Style

/-- What a node says. -/
inductive Block where
  /-- The whole sheet. -/
  | sheet
  /-- A rule inside some media. -/
  | rule (selector : Selector) (media : Option String)
  /-- A step of an animation. -/
  | step (selector : String)
  /-- What holds for some media. -/
  | media (queries : List MediaQuery)
  /-- What holds for readers that support something. -/
  | supports (condition : String)
  /-- Any other statement with an at sign, maybe with a block. -/
  | other (name text : String) (hasBlock : Bool)
  /-- A property with its value; a raw one is written as it was read. -/
  | declaration (name : String) (value : Value) (isRaw : Bool)
  /-- A comment that began in some column. -/
  | comment (text : String) (column : Nat)
  /-- A reference to another sheet. -/
  | reference (text : String)

/-- Whether a node is a rule. -/
def Block.isRule : Block → Bool
  | .rule .. => true
  | _ => false

/-- A node of a layout. -/
structure Node where
  /-- What it says. -/
  block : Block
  /-- The number of the node that it stands in. -/
  parent : Nat
  /-- The number of the last node in it. -/
  lastChild : Option Nat := none
  /-- Whether a blank line follows it. -/
  endsGroup : Bool := false

/-- The nodes of a sheet. -/
structure Layout where
  /-- The nodes by their numbers. -/
  nodes : Array Node := #[{ block := .sheet, parent := 0 }]

namespace Layout

/-- What a node says. -/
def block (l : Layout) (i : Nat) : Block := l.nodes[i]?.elim .sheet Node.block

/-- The node that a node stands in. -/
def parent (l : Layout) (i : Nat) : Nat := l.nodes[i]?.elim 0 Node.parent

/-- The last node in a node. -/
def lastChild? (l : Layout) (i : Nat) : Option Nat := l.nodes[i]?.bind Node.lastChild

/-- A further node inside another one, and its number. -/
def add (l : Layout) (b : Block) (parent : Nat) : Nat × Layout :=
  let i := l.nodes.size
  let nodes := l.nodes.modify parent fun n => { n with lastChild := some i }
  (i, ⟨nodes.push { block := b, parent }⟩)

/-- The node that a node stands in which some blocks cannot hold, passing at most `fuel` of them. -/
def outside (l : Layout) (passes : Block → Bool) : (fuel : Nat) → Nat → Nat
  | 0, _ => 0
  | fuel + 1, i =>
    if i ≠ 0 ∧ passes (l.block i) then outside l passes fuel (l.parent i) else i

/-- A further node that comes up inside another one and goes through some blocks. If something
    follows the node that it then stands in, it stands in a copy behind that. -/
def addThrough (l : Layout) (b : Block) (passes : Block → Bool) (parent : Nat) : Nat × Layout :=
  let holder := l.outside passes (parent + 1) parent
  let outer := l.parent holder
  if holder ≠ 0 ∧ l.lastChild? outer ≠ some holder then
    let (copy, l) := l.add (l.block holder) outer
    l.add b copy
  else l.add b holder

/-- Leaves a blank line behind the last node in a node. -/
def endGroup (l : Layout) (parent : Nat) : Layout :=
  match l.lastChild? parent with
  | some i => ⟨l.nodes.modify i fun n => { n with endsGroup := true }⟩
  | none => l

/-- The nodes around a node that is not the sheet, from inside out, beginning with itself. -/
def around (l : Layout) : (fuel : Nat) → Nat → List Nat
  | 0, _ => []
  | fuel + 1, i => if i = 0 then [] else i :: around l fuel (l.parent i)

end Layout

/-! ## Layouts as trees -/

/-- A node with all that stands in it. -/
inductive Tree where
  /-- The node, whether a blank line follows it, and what stands in it. -/
  | mk (block : Block) (endsGroup : Bool) (children : List Tree)

/-- Whether a blank line follows a tree. -/
def Tree.endsGroup : Tree → Bool
  | .mk _ b _ => b

/-- The trees in the sheet, where rules are extended. The nodes are taken from the last to the
    first, with the trees found so far in each node. -/
def Layout.trees (l : Layout) (extensions : List Extension) : Except String (List Tree) := do
  let found ← l.nodes.toList.zipIdx.foldrM
    (fun (n, i) (found : Array (List Tree)) => do
      let b ← match n.block with
        | .rule s media => pure (.rule (← Extension.apply extensions media s) media)
        | b => pure b
      if i = 0 then return found
      else
        let t := Tree.mk b n.endsGroup ((found[i]?).getD [])
        return found.modify n.parent (t :: ·))
    (Array.replicate l.nodes.size [])
  return (found[0]?).getD []

namespace Tree

mutual

/-- Whether nothing of a tree is written: an empty rule, or one that fits nothing. -/
def isInvisible : Tree → Bool
  | .mk (.rule s _) _ children => s.all Complex.isInvisible || areInvisible children
  | .mk (.step _) _ children => areInvisible children
  | .mk (.media _) _ children => areInvisible children
  | .mk (.supports _) _ children => areInvisible children
  | .mk (.declaration _ v _) _ _ => v.isBlank && !v.isEmptyList
  | _ => false

/-- Whether nothing of any tree is written. -/
def areInvisible : List Tree → Bool
  | [] => true
  | t :: rest => t.isInvisible && areInvisible rest

end

/-- A line of a comment that began in some column, moved there from the left. -/
def commentLine (column : Nat) (line : List Char) : List Char :=
  let text := line.dropWhile Scan.isBlank
  List.replicate (line.length - text.length - column) ' ' ++ text

/-- How a comment is written. -/
def commentText (text : String) (column : Nat) : List Char :=
  match Text.fields (· == '\n') text.toList with
  | [] => []
  | first :: rest =>
    ['\n'].intercalate (first.dropWhile Scan.isBlank :: rest.map (commentLine column))

mutual

/-- How a tree is written behind a margin. -/
def write (margin : String) : Tree → Except String String
  | .mk b _ children =>
    let inside : Except String String := do
      return " \x7b\n" ++ (← writeAll (margin ++ "  ") children) ++ margin ++ "\x7d"
    match b with
    | .sheet => .ok ""
    | .rule s _ => do return margin ++ Selector.text s ++ (← inside)
    | .step s => do return margin ++ s ++ (← inside)
    | .media queries => do return margin ++ "@media " ++ MediaQuery.textAll queries ++ (← inside)
    | .supports condition => do return margin ++ "@supports " ++ condition ++ (← inside)
    | .other name text hasBlock => do
      let head := margin ++ "@" ++ name ++ (if text.isEmpty then "" else " " ++ text)
      if !hasBlock then return head ++ ";"
      else if areInvisible children then return head ++ " \x7b\x7d"
      else return head ++ (← inside)
    | .declaration name value isRaw => do
      return margin ++ name ++ (if isRaw then ":" else ": ") ++ (← value.css) ++ ";"
    | .comment text column => .ok (margin ++ String.ofList (commentText text column))
    | .reference text => .ok (margin ++ "@import " ++ text ++ ";")

/-- How trees are written behind a margin, each on lines of its own. -/
def writeAll (margin : String) : List Tree → Except String String
  | [] => .ok ""
  | t :: rest =>
    if t.isInvisible then writeAll margin rest
    else do
      let first ← t.write margin
      return first ++ "\n" ++ (← writeAll margin rest)

end

/-- How the trees of a sheet are written, with blank lines between groups. -/
def sheetText (trees : List Tree) : Except String String := do
  let (text, _) ← (trees.filter (!·.isInvisible)).foldlM
    (fun (text, afterGroup) t => do
      return (text ++ (if afterGroup then "\n" else "") ++ (← t.write "") ++ "\n", t.endsGroup))
    ("", false)
  return if text.toList.all (·.toNat < 0x80) then text else "@charset \"UTF-8\";\n" ++ text

end Tree

end Folio.Style
