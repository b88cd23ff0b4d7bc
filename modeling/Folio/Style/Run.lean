import Folio.Style.Evaluation
import Folio.Style.Sheet

/-!
# Running style sheets

Statements are run one after the other. They define names, add nodes to the result or return a
value. Again the run of smaller blocks is given from outside; `Style.evaluate` and `Style.execute`
are the two together, nested no deeper than some limit.

* `Style.Statement.run`: what a statement does;
* `Style.render`: the result of a whole sheet as text.
-/

namespace Folio.Style

open Evaluation

namespace Evaluation

/-! ## Rules and blocks with an at sign -/

/-- Runs statements for their effects. -/
def perform (run : Runner) (body : List Statement) : Evaluation Unit := do
  let _ ← run body

/-- Runs statements inside a node. If that is inside a rule, a copy of the rule holds them. -/
def inRuleCopy (run : Runner) (body : List Statement) : Evaluation Unit := do
  let p ← read
  match p.rule with
  | some s =>
    if p.inRule then
      inNode (.rule s (p.media.map MediaQuery.textAll)) (fun _ => false) (perform run body)
    else perform run body
  | none => perform run body

/-- A step of an animation: the words for its ends in small letters, or a percentage. -/
def stepText (s : List Char) : Except String String :=
  let s := (s.dropWhile Scan.isBlank).reverse.dropWhile Scan.isBlank
  let s := s.reverse
  let lower := String.ofList (s.map Char.toLower)
  if lower = "from" ∨ lower = "to" then .ok lower
  else
    let digits := s.dropLast
    let isNumber := digits.any Char.isDigit &&
      digits.all fun c => c.isDigit || ".+-eE".toList.contains c
    if s.getLast? = some '%' ∧ isNumber then .ok (String.ofList s)
    else .error "Expected \"to\" or \"from\"."

/-- Runs a step of an animation. -/
def runStep (run : Runner) (selector : String) (body : List Statement) : Evaluation Unit := do
  let steps ← ofExcept ((Text.fields (· == ',') selector.toList).mapM stepText)
  inNode (.step (", ".intercalate steps)) Block.isRule (inFrame false (perform run body))

/-- Runs a rule. -/
def runRule (run : Runner) (selector : String) (body : List Statement) : Evaluation Unit := do
  let p ← read
  let s ← ofExcept (Selector.parse selector)
  let s ← ofExcept (s.within p.rule (!p.leavesRule))
  withReader (fun p => { p with rule := some s, leavesRule := false })
    (inNode (.rule s (p.media.map MediaQuery.textAll)) Block.isRule
      (inFrame false (perform run body)))
  if !p.inRule then modify fun w => { w with layout := w.layout.endGroup p.parent }

/-- Runs statements for some media. -/
def runMedia (run : Runner) (queries : List MediaQuery) (body : List Statement) :
    Evaluation Unit := do
  let p ← read
  let met := p.media.bind fun outer => MediaQuery.meetAll outer queries
  let sources := if met.isSome then p.mediaSources ++ p.media.getD [] ++ queries else []
  let all := met.getD queries
  let passes : Block → Bool
    | .rule .. => true
    | .media qs => !sources.isEmpty && qs.all sources.contains
    | _ => false
  if met = some [] then return
  else
    withReader (fun p => { p with media := some all, mediaSources := sources })
      (inNode (.media all) passes (inFrame false (inRuleCopy run body)))

/-- Runs the block of any other statement with an at sign. -/
def runOther (run : Runner) (name text : String) (body : List Statement) : Evaluation Unit := do
  let isAnimation := Scan.unprefixed name = "keyframes"
  let inside : Evaluation Unit :=
    if isAnimation then perform run body else inRuleCopy run body
  withReader (fun p => { p with
    inSteps := p.inSteps || isAnimation
    inOther := p.inOther || !isAnimation })
    (inNode (.other name text true) Block.isRule (inFrame false inside))

/-! ## Leaving blocks -/

/-- Which blocks a statement leaves: those of some names, or all but those. -/
structure Leaving where
  /-- The names. -/
  names : List String := ["rule"]
  /-- Whether these are the ones that are kept. -/
  keeps : Bool := false

/-- Whether blocks of a name are left. -/
def Leaving.leaves (l : Leaving) (name : String) : Bool :=
  (l.names.contains "all" || l.names.contains name) != l.keeps

/-- Whether a block is left. -/
def Leaving.leavesBlock (l : Leaving) : Block → Bool
  | .rule .. => l.leaves "rule"
  | .media _ => l.leaves "media"
  | .supports _ => l.leaves "supports"
  | .other name _ _ => l.leaves (name.map Char.toLower)
  | _ => l.names.contains "all" && !l.keeps

/-- The blocks that a text in parentheses tells to leave. -/
def Leaving.parse (text : String) : Except String Leaving :=
  let words := Text.words (fun c => Scan.isBlank c || "():".toList.contains c) text.toList
  match words.map fun w => String.ofList (w.map Char.toLower) with
  | "with" :: n :: names => .ok { names := n :: names, keeps := true }
  | "without" :: n :: names => .ok { names := n :: names }
  | _ => .error "Expected \"with\" or \"without\"."

/-- Copies of blocks inside a node, each in the one before it; the number of the last one. -/
def copies (base : Nat) : List Nat → Evaluation Nat
  | [] => return base
  | i :: rest => do
    let copy ← modifyGet fun w =>
      let (copy, layout) := w.layout.add (w.layout.block i) base
      (copy, { w with layout })
    copies copy rest

/-- Runs statements outside of some of the blocks around them. The outermost blocks that are kept
    hold them if nothing between these is left; further ones that are kept are copied. -/
def runOutside (run : Runner) (l : Leaving) (body : List Statement) : Evaluation Unit := do
  let p ← read
  let layout := (← get).layout
  let isKept (i : Nat) : Bool := !l.leavesBlock (layout.block i)
  let around := (layout.around (p.parent + 1) p.parent).reverse
  let outer := around.takeWhile isKept
  let inner := (around.dropWhile isKept).filter isKept
  let base := outer.getLast?.getD 0
  if base = p.parent then inFrame false (perform run body)
  else
    let parent ← copies base inner
    let isOther : Block → Bool
      | .other .. => true
      | _ => false
    withReader (fun p => { p with
      parent
      leavesRule := p.leavesRule || l.leaves "rule"
      media := if l.leaves "media" then none else p.media
      mediaSources := if l.leaves "media" then [] else p.mediaSources
      inSteps := p.inSteps && !l.leaves "keyframes"
      inOther := p.inOther && (outer ++ inner).any fun i => isOther (layout.block i) })
      (inFrame false (perform run body))

/-! ## Declarations -/

/-- The name of a property inside a group. -/
def propertyName (name : String) : Evaluation String :=
  return (← read).group.elim name fun g => g ++ "-" ++ name

/-- Adds a declaration unless nothing is to be seen of its value. -/
def addDeclaration (name : String) (v : Value) (isRaw : Bool) : Evaluation Unit := do
  if !v.isBlank || v.isEmptyList then addNode (.declaration name v isRaw)

/-- Fails where no property can be declared. -/
def needsDeclarations : Evaluation Unit := do
  let p ← read
  if p.inFunction then throw "@function rules may not contain declarations."
  if !(p.inRule || p.inOther || p.inSteps) then
    throw "Declarations may only be used within style rules."

/-- Fails where there can be no block: inside a group of declarations or a function. -/
def needsBlocks : Evaluation Unit := do
  let p ← read
  if p.group.isSome then throw "This may not be used within nested declarations."
  if p.inFunction then throw "This may not be used within a function."

/-- Extends a target by the rule around it. -/
def addExtensions (target : String) : Evaluation Unit := do
  let p ← read
  match p.inRule, p.rule with
  | true, some rows =>
    for row in ← ofExcept (Selector.parse target) do
      match row.parts with
      | [.compound [.parent _]] => throw "Parent selectors aren't allowed here."
      | [.compound [s]] =>
        modify fun w => { w with
          extensions := Extension.add w.extensions s.text rows (p.media.map MediaQuery.textAll) }
      | _ => throw "Complex selectors may not be extended."
  | _, _ => throw "@extend may only be used within style rules."

/-! ## Loops -/

/-- The first value that is returned by statements, each for one of some items. -/
def firstReturned {α : Type} (f : α → Evaluation (Option Value)) :
    List α → Evaluation (Option Value)
  | [] => return none
  | a :: rest => do
    match ← f a with
    | some v => return some v
    | none => firstReturned f rest

/-- Runs statements under the first condition that holds. -/
def runBranch (value : Evaluator) (run : Runner) :
    List (Option Expression × List Statement) → Evaluation (Option Value)
  | [] => return none
  | (none, body) :: _ => inFrame true (run body)
  | (some condition, body) :: rest => do
    if (← value condition).isFalse then runBranch value run rest else inFrame true (run body)

/-- The whole numbers from one to another, up or down, and maybe the last one too. -/
def countedFrom (first last : Int) (includesLast : Bool) : List Int :=
  let length := (last - first).natAbs + if includesLast then 1 else 0
  (List.range length).map fun (i : Nat) => if first ≤ last then first + i else first - i

/-- Runs statements for whole numbers. -/
def runFor (value : Evaluator) (run : Runner) (name : String) (first last : Expression)
    (includesLast : Bool) (body : List Statement) : Evaluation (Option Value) := do
  let m ← ofExcept (← value first).toNumber
  let n ← ofExcept (← value last).toNumber
  match whole? m.value, (n.convert? m).bind whole? with
  | some i, some j =>
    inFrame true do
      let frame ← innermost
      firstReturned (fun k => do
        setVariableIn frame name (.number (m.withValue (Float.ofInt k)))
        run body) (countedFrom i j includesLast)
  | _, _ => throw "The bounds are not whole numbers."

/-- Runs statements for the items of a list. -/
def runEach (value : Evaluator) (run : Runner) (names : List String) (list : Expression)
    (body : List Statement) : Evaluation (Option Value) := do
  let items := (← value list).asList
  inFrame true do
    let frame ← innermost
    firstReturned (fun item => do
      match names with
      | [name] => setVariableIn frame name item.settled
      | names =>
        let values := item.asList
        for (name, i) in names.zipIdx do
          setVariableIn frame name ((values[i]?).getD .null).settled
      run body) items

/-- Runs statements as long as a condition holds, at most `fuel` times. -/
def runWhile (value : Evaluator) (run : Runner) (condition : Expression) (body : List Statement) :
    (fuel : Nat) → Evaluation (Option Value)
  | 0 => throw "Too many rounds."
  | fuel + 1 => do
    if (← value condition).isFalse then return none
    else
      match ← run body with
      | some v => return some v
      | none => runWhile value run condition body fuel

/-- The rounds that a loop has at most. -/
def mostRounds : Nat := 1000000

end Evaluation

/-! ## Statements -/

mutual

/-- Whether a statement has a place for content. -/
def Statement.takesContent : Statement → Bool
  | .content _ => true
  | .declare _ _ (some body) => takeContent body
  | .rule _ body | .media _ body | .supports _ body | .atRoot _ body => takeContent body
  | .other _ _ (some body) => takeContent body
  | .includes _ _ (some (_, body)) => takeContent body
  | .branch cases => casesTakeContent cases
  | .forLoop _ _ _ _ body | .eachLoop _ _ body | .whileLoop _ body => takeContent body
  | _ => false

/-- Whether any of some statements has a place for content. -/
def takeContent : List Statement → Bool
  | [] => false
  | s :: rest => s.takesContent || takeContent rest

/-- Whether any of some cases has a place for content. -/
def casesTakeContent : List (Option Expression × List Statement) → Bool
  | [] => false
  | (_, body) :: rest => takeContent body || casesTakeContent rest

end

/-- What a statement does, and the value that it returns, if it does. -/
def Statement.run (value : Evaluator) (run : Runner) : Statement → Evaluation (Option Value)
  | .assign name e isDefault isGlobal => do
    let old ← valueOf? name
    let isKept := isDefault && old.any fun | .null => false | _ => true
    if !isKept then setVariable name (← value e).settled isGlobal
    return none
  | .declare name e body => do
    needsDeclarations
    let name ← propertyName (← trimmedText value name)
    match e with
    | some e => addDeclaration name (← value e) false
    | none => pure ()
    match body with
    | some body =>
      withReader (fun p => { p with group := some name }) (inFrame false (perform run body))
    | none => pure ()
    return none
  | .declareRaw name pieces => do
    needsDeclarations
    addDeclaration (← trimmedText value name) (.word (← text value pieces)) true
    return none
  | .rule selector body => do
    needsBlocks
    let selector ← trimmedText value selector
    if (← read).inSteps then runStep run selector body else runRule run selector body
    return none
  | .comment pieces place => do
    if !(← read).inFunction then
      addNode (.comment (← text value pieces) ((← read).columnOf place))
    return none
  | .media queries body => do
    needsBlocks
    runMedia run (← ofExcept (MediaQuery.parse (← trimmedText value queries))) body
    return none
  | .supports condition body => do
    needsBlocks
    inNode (.supports (← trimmedText value condition)) Block.isRule
      (inFrame false (inRuleCopy run body))
    return none
  | .atRoot query body => do
    let l ← match query with
      | none => pure {}
      | some q => do ofExcept (Leaving.parse (← text value q))
    runOutside run l body
    return none
  | .other name pieces body => do
    needsBlocks
    let name ← trimmedText value name
    let words ← trimmedText value pieces
    match body with
    | some body => runOther run name words body
    | none => addNode (.other name words false)
    return none
  | .extend target _ => do
    addExtensions (← trimmedText value target)
    return none
  | .mixin name parameters body => do
    let closure : Closure := ⟨parameters, body, (← read).frames⟩
    modifyFrame (← innermost) fun f => { f with mixins := putNamed name closure f.mixins }
    return none
  | .function name parameters body => do
    let closure : Closure := ⟨parameters, body, (← read).frames⟩
    modifyFrame (← innermost) fun f => { f with functions := putNamed name closure f.functions }
    return none
  | .includes name given block => do
    match ← find? fun f => named? name f.mixins with
    | none => throw "Undefined mixin."
    | some (_, m) =>
      if (← read).inFunction then throw "This may not be used within a function."
      if block.isSome && !takeContent m.body then
        throw "Mixin doesn't accept a content block."
      let p ← read
      let inner := block.map fun (parameters, body) =>
        Content.mk ⟨parameters, body, p.frames⟩ p.content
      let values ← arguments value given
      withReader (fun p => { p with inMixin := true })
        (withArguments value m inner values (perform run m.body))
      return none
  | .content given => do
    if !(← read).inMixin then throw "@content is only allowed within mixin declarations."
    match (← read).content with
    | none => return none
    | some (.mk closure outer) =>
      withArguments value closure outer (← arguments value given) (perform run closure.body)
      return none
  | .returns e => do
    if !(← read).inFunction then throw "This at-rule is not allowed here."
    return some (← value e).settled
  | .branch cases => runBranch value run cases
  | .forLoop name first last includesLast body =>
    runFor value run name first last includesLast body
  | .eachLoop names list body => runEach value run names list body
  | .whileLoop condition body => inFrame true (runWhile value run condition body mostRounds)
  | .fail e => do throw (← value e).inspect
  | .note e => do
    let _ ← value e
    return none
  | .imports target => do
    let target ← trimmedText value target
    if (← read).parent = 0 then modify fun w => { w with references := w.references ++ [target] }
    else addNode (.reference target)
    return none
  | .uses module name => do
    if (← read).frames.length > 1 then throw "This at-rule is not allowed here."
    if !Function.modules.contains module then throw "There is no such module."
    modify fun w => { w with modules := (name, module) :: w.modules }
    return none

mutual

/-- The value of an expression, nested no deeper than `fuel`. -/
def evaluate : (fuel : Nat) → Expression → Evaluation Value
  | 0, _ => throw "Nested too deep."
  | fuel + 1, e => e.value (evaluate fuel) (execute fuel)

/-- The value that statements return, if they do, nested no deeper than `fuel`. -/
def execute : (fuel : Nat) → List Statement → Evaluation (Option Value)
  | 0, _ => throw "Nested too deep."
  | fuel + 1, body => firstReturned (Statement.run (evaluate fuel) (execute fuel)) body

end

/-- How deep blocks, calls and expressions are nested at most. -/
def mostNested : Nat := 20000

/-- The column of the character that so many characters of a text stand from on. -/
def columnOf (s : List Char) (place : Nat) : Nat :=
  ((s.take (s.length - place)).reverse.takeWhile (· != '\n')).length

/-- The result of a sheet as text. -/
def render (sheet : String) : Except String String := do
  let s := sheet.toList
  let statements ← parse s
  let place : Place := { columnOf := columnOf s }
  let (_, work) ← ((execute mostNested statements).run place).run {}
  let trees ← work.layout.trees work.extensions
  Tree.sheetText (work.references.map (fun r => .mk (.reference r) false []) ++ trees)

end Folio.Style
