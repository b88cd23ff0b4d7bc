import Folio.Template.Tree
import Folio.Unicode.Classes

/-!
# Blanks next to tags

A tag with a dash at one of its ends drops the blanks of the text on that side. Texts that nothing
is left of are dropped as well.

* `Template.tighten`: a list of nodes without those blanks;
* `Template.Node.tightened`: the bodies of one node without them.
-/

namespace Folio.Template

/-- Drops the blanks at the end of the last of some nodes, given last first, where it is a text. -/
def trimLast : List Node → List Node
  | .text s :: rest =>
    match Unicode.trimEnd s.toList with
    | [] => rest
    | s => .text (String.ofList s) :: rest
  | nodes => nodes

/-- The same for nodes in their order. -/
def trimEnding (nodes : List Node) : List Node := (trimLast nodes.reverse).reverse

/-- On which sides of a node blanks are dropped; the block of the parent does not say. -/
def Node.edges : Node → Option Trim
  | .text _ | .parentBlock => none
  | .comment t | .print t _ | .bind t .. | .inclusion t .. | .definitionsOf t .. | .extension t _
  | .leave t _ => some t
  | .verbatim first _ last | .loop first _ _ _ _ _ last | .filtered first _ _ last
  | .block first _ _ last | .definition first _ _ _ last => some ⟨first.before, last.after⟩
  | .branches [] _ last => some last
  | .branches ((first, _, _) :: _) _ last => some ⟨first.before, last.after⟩

/-- Drops the blanks of the texts between nodes. `trimming` says whether the next text loses those
    in front, `afterText` whether the node before is a text; the nodes passed are in `done`, last
    first. -/
def tightenFrom (trimming afterText : Bool) (done : List Node) : List Node → List Node
  | [] => done
  | .text s :: rest =>
    if trimming then
      match Unicode.trimStart s.toList with
      | [] => tightenFrom false true done rest
      | s => tightenFrom false true (.text (String.ofList s) :: done) rest
    else tightenFrom false true (.text s :: done) rest
  | node :: rest =>
    match node.edges with
    | none => tightenFrom trimming false (node :: done) rest
    | some edges =>
      let done := if afterText && edges.before then trimLast done else done
      tightenFrom edges.after false (node :: done) rest

/-- Drops blanks between nodes, and at the two ends of the list where asked to. -/
def tightenBetween (atStart atEnd : Bool) (nodes : List Node) : List Node :=
  let done := tightenFrom atStart false [] nodes
  (if atEnd then trimLast done else done).reverse

/-- Drops the blanks at the ends of branches: each ends where the next one begins. -/
def trimBranches (last : Trim) :
    List (Trim × Expr × List Node) → List (Trim × Expr × List Node)
  | [] => []
  | [(t, e, body)] => [(t, e, if last.before then trimEnding body else body)]
  | (t, e, body) :: next :: rest =>
    (t, e, if next.1.before then trimEnding body else body) :: trimBranches last (next :: rest)

/-- The text between tags without the blanks next to them. -/
def trimVerbatim (first last : Trim) (s : String) : String :=
  let cs := if first.after then Unicode.trimStart s.toList else s.toList
  String.ofList (if last.before then Unicode.trimEnd cs else cs)

mutual

/-- A node with the blanks in its bodies dropped. What a loop renders in place of no items is left
    as it is. -/
def Node.tightened : Node → Node
  | .verbatim first s last => .verbatim first (trimVerbatim first last s) last
  | .loop first key item container body ifEmpty last =>
    .loop first key item container (tightenBetween first.after last.before (tightenedAll body))
      ifEmpty last
  | .filtered first filter body last =>
    .filtered first filter (tightenBetween first.after last.before (tightenedAll body)) last
  | .block first name body last =>
    .block first name (tightenBetween first.after last.before (tightenedAll body)) last
  | .definition first name parameters body last =>
    .definition first name parameters
      (tightenBetween first.after last.before (tightenedAll body)) last
  | .branches all none last => .branches (trimBranches last (tightenedBranches all)) none last
  | .branches all (some (t, body)) last =>
    let body := tightenBetween t.after last.before (tightenedAll body)
    .branches (trimBranches t (tightenedBranches all)) (some (t, body)) last
  | node => node

/-- Nodes with the blanks in their bodies dropped. -/
def tightenedAll : List Node → List Node
  | [] => []
  | node :: rest => node.tightened :: tightenedAll rest

/-- Branches with the blanks in their bodies dropped, up to those at their ends. -/
def tightenedBranches : List (Trim × Expr × List Node) → List (Trim × Expr × List Node)
  | [] => []
  | (t, e, body) :: rest =>
    (t, e, tightenBetween t.after false (tightenedAll body)) :: tightenedBranches rest

end

/-- The nodes of a template without the blanks that its tags drop. -/
def tighten (nodes : List Node) : List Node := tightenBetween false false (tightenedAll nodes)

end Folio.Template
