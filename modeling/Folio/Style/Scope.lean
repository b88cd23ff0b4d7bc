import Folio.Style.Layout

/-!
# Scopes

Blocks open frames, in which variables, mixins and functions are kept. A frame stays as it is for
what is defined in it, as mixins and functions go on seeing the frames that they were defined in. At
the outermost level loops and conditions change variables of the sheet; elsewhere an assignment
needs a flag for that.

* `Style.Work`: what there is of a result so far, with all frames;
* `Style.Place`: where in the sheet and in the result a statement stands;
* `Style.Evaluation`: what is computed at a place;
* `Style.Evaluation.valueOf?`, `Evaluation.setVariable`: the variables.
-/

namespace Folio.Style

/-- A mixin, function or content with the frames that it sees. -/
structure Closure where
  /-- The parameters. -/
  parameters : Parameters
  /-- The statements. -/
  body : List Statement
  /-- The numbers of the frames, from inside out. -/
  frames : List Nat

/-- Content that a mixin is included with, and the content of the mixin around it. -/
inductive Content where
  /-- The content. -/
  | mk (closure : Closure) (outer : Option Content)

/-- What is defined in a block. -/
structure Frame where
  /-- Variables with their values. -/
  bindings : List (String × Value) := []
  /-- Mixins. -/
  mixins : List (String × Closure) := []
  /-- Functions. -/
  functions : List (String × Closure) := []

/-- What there is of a result. -/
structure Work where
  /-- All frames; the first one is that of the sheet. -/
  frames : Array Frame := #[{}]
  /-- The nodes. -/
  layout : Layout := {}
  /-- References to other sheets, which go first. -/
  references : List String := []
  /-- The extensions so far. -/
  extensions : List Extension := []
  /-- The modules in use with their names, if they have any. -/
  modules : List (Option String × String) := []

/-- Where a statement stands. -/
structure Place where
  /-- The numbers of the frames that it sees, from inside out. -/
  frames : List Nat := [0]
  /-- Whether assignments change variables of the sheet. -/
  isOutermost : Bool := true
  /-- The node that it adds to. -/
  parent : Nat := 0
  /-- The selector of the rule around it. -/
  rule : Option Selector := none
  /-- Whether it stands outside of that rule in the result. -/
  leavesRule : Bool := false
  /-- The media that it holds for. -/
  media : Option (List MediaQuery) := none
  /-- The queries that these came from. -/
  mediaSources : List MediaQuery := []
  /-- Whether it is in an animation, whose rules are steps. -/
  inSteps : Bool := false
  /-- Whether it is in a block of a statement with an at sign that may hold declarations. -/
  inOther : Bool := false
  /-- Whether it is in a function. -/
  inFunction : Bool := false
  /-- Whether it is in a mixin. -/
  inMixin : Bool := false
  /-- The content of the mixin around it. -/
  content : Option Content := none
  /-- The beginning of the names of properties. -/
  group : Option String := none
  /-- The columns of comments by the number of characters from there on. -/
  columnOf : Nat → Nat := fun _ => 0

/-- Whether a place is inside a rule of the result. -/
def Place.inRule (p : Place) : Bool := p.rule.isSome && !p.leavesRule

/-- What is computed at a place, changing the work, or why it fails. -/
abbrev Evaluation := ReaderT Place (StateT Work (Except String))

/-- How statements are run: the value that they return, if they do. -/
abbrev Runner := List Statement → Evaluation (Option Value)

namespace Evaluation

/-! ## Frames -/

/-- A new frame. -/
def newFrame : Evaluation Nat :=
  modifyGet fun w => (w.frames.size, { w with frames := w.frames.push {} })

/-- Evaluates in a new frame. -/
def inFrame {α : Type} (staysOutermost : Bool) (e : Evaluation α) : Evaluation α := do
  let i ← newFrame
  withReader (fun p => { p with
    frames := i :: p.frames
    isOutermost := p.isOutermost && staysOutermost }) e

/-- The frame of a number. -/
def frame (i : Nat) : Evaluation Frame := return ((← get).frames[i]?).getD {}

/-- Changes a frame. -/
def modifyFrame (i : Nat) (f : Frame → Frame) : Evaluation Unit :=
  modify fun w => { w with frames := w.frames.modify i f }

/-- The number of the innermost frame. -/
def innermost : Evaluation Nat := return ((← read).frames.head?).getD 0

/-- What is found in the first frame that has it. -/
def find? {α : Type} (look : Frame → Option α) : Evaluation (Option (Nat × α)) := do
  let work ← get
  return (← read).frames.findSome? fun i => ((work.frames[i]?).bind look).map (i, ·)

/-- The value of a name in a list, the last one put there first. -/
def named? {α : Type} (name : String) (entries : List (String × α)) : Option α :=
  (entries.find? (·.1 == name)).map Prod.snd

/-- A list with a value for a name. -/
def putNamed {α : Type} (name : String) (a : α) (entries : List (String × α)) : List (String × α) :=
  (name, a) :: entries.filter (·.1 != name)

/-- The value of a variable. -/
def valueOf? (name : String) : Evaluation (Option Value) := do
  return (← find? fun f => named? name f.bindings).map Prod.snd

/-- Gives a value to a variable of a frame. -/
def setVariableIn (i : Nat) (name : String) (v : Value) : Evaluation Unit :=
  modifyFrame i fun f => { f with bindings := putNamed name v f.bindings }

/-- Gives a value to a variable: of the sheet, or of the frame that has it, or of the innermost one.
    -/
def setVariable (name : String) (v : Value) (isGlobal : Bool) : Evaluation Unit := do
  let p ← read
  if isGlobal || p.frames.length = 1 then setVariableIn 0 name v
  else
    match ← find? fun f => named? name f.bindings with
    | some (i, _) =>
      if i = 0 && !p.isOutermost then setVariableIn (← innermost) name v
      else setVariableIn i name v
    | none => setVariableIn (← innermost) name v

/-! ## Nodes -/

/-- Adds a node where the statement stands. -/
def addNode (b : Block) : Evaluation Unit := do
  let parent := (← read).parent
  modify fun w => { w with layout := (w.layout.add b parent).2 }

/-- Evaluates inside a new node, which goes out through some blocks. -/
def inNode {α : Type} (b : Block) (passes : Block → Bool) (e : Evaluation α) : Evaluation α := do
  let parent := (← read).parent
  let i ← modifyGet fun w =>
    let (i, layout) := w.layout.addThrough b passes parent
    (i, { w with layout })
  withReader (fun p => { p with parent := i }) e

end Evaluation

end Folio.Style
