import Folio.Failure
import Folio.Template.Document
import Folio.Template.Evaluation
import Folio.Word

/-!
# Rendering templates

A template is rendered node by node. Loops, definitions and included templates open frames of their
own; what is bound inside a round of a loop is gone in the next one. A fault is told from outside
in, with the line where the template is malformed.

* `Template.load`: a template from its source;
* `Template.Renderer.nodes`: the text of nodes, and the frames after them;
* `Template.render`: the text of a template given a value.
-/

namespace Folio.Template

/-- A template that has been read. -/
structure Document where
  /-- Its name. -/
  name : String
  /-- What it is made of. -/
  nodes : List Node

/-- A definition of a template. -/
structure Definition where
  /-- Its name. -/
  name : String
  /-- Its parameters. -/
  parameters : Parameters
  /-- What it renders. -/
  body : List Node

namespace Document

/-- The definitions of a template. -/
def definitions (t : Document) : List Definition :=
  t.nodes.filterMap fun
    | .definition _ name parameters body _ => some ⟨name, parameters, body⟩
    | _ => none

/-- The template that one extends. -/
def parent? (t : Document) : Option String :=
  t.nodes.findSome? fun
    | .extension _ name => some name
    | _ => none

/-- The templates that definitions are taken over from. -/
def sources (t : Document) : List String :=
  t.nodes.filterMap fun
    | .definitionsOf _ name _ => some name
    | _ => none

end Document

mutual

/-- The names of the blocks of a node: its own, if it is one, and those in its body. -/
def blockNames : Node → List String
  | .block _ name body _ => name :: blockNamesOf body
  | _ => []

/-- The names of the blocks of nodes. -/
def blockNamesOf : List Node → List String
  | [] => []
  | node :: rest => blockNames node ++ blockNamesOf rest

end

/-- The first name that stands for a second time. -/
def repeated? (seen : List String) : List String → Option String
  | [] => none
  | name :: rest => if seen.contains name then some name else repeated? (name :: seen) rest

/-- Reads a template. No other one is at hand, so it may neither extend one nor take over its
    definitions. -/
def load (name source : String) : Except Fault Document := do
  let malformed (words : String) : Fault := (Fault.of words).under s!"Failed to parse '{name}'"
  let t : Document := ⟨name, ← (read source).mapError malformed⟩
  match repeated? [] (blockNamesOf t.nodes) with
  | some block => throw (malformed s!"Block `{block}` is duplicated")
  | none => pure ()
  match repeated? [] (t.definitions.map Definition.name) with
  | some definition => throw (malformed s!"Macro `{definition}` is duplicated")
  | none => pure ()
  match t.parent? with
  | some parent =>
    if parent = name then
      throw (.of (s!"Circular extend detected for template '{name}'. Inheritance chain: " ++
        s!"`[{Unicode.debugQuote name}]`"))
    else
      throw (.of (s!"Template '{name}' is inheriting from '{parent}', which doesn't exist or " ++
        "isn't loaded."))
  | none => pure ()
  match t.sources.find? (· != name) with
  | some other =>
    throw (.of s!"Template `{name}` loads macros from `{other}` which isn't present in Tera")
  | none => return t

/-- How rendering goes on after a node. -/
inductive Flow where
  /-- With the next node. -/
  | onward
  /-- With the next round of the loop. -/
  | nextRound
  /-- After the loop. -/
  | afterLoop
deriving DecidableEq

/-- What nodes have rendered. -/
structure Rendered where
  /-- The text. -/
  text : String
  /-- The frames after them. -/
  frames : Frames
  /-- How rendering goes on. -/
  flow : Flow := .onward

/-- The frames with a name bound outside of all loops. -/
def Frames.bindOutside (name : String) (v : Json) : Frames → Frames
  | [] => []
  | f :: rest => if f.isRound then f :: bindOutside name v rest else f.bind name v :: rest

/-- The frames with a name bound in the innermost one. -/
def Frames.bindInside (name : String) (v : Json) : Frames → Frames
  | [] => []
  | f :: rest => f.bind name v :: rest

/-- What a loop runs over: items, with keys where it is an object. -/
def loopItems (name : String) (withKeys : Bool) : Json → Except Fault (List (String × Json))
  | .arr items => if withKeys then noKeys else .ok (items.map ("", ·))
  | .str s => if withKeys then noKeys else .ok (s.toList.map fun c => ("", .str c.toString))
  | .obj fields =>
    if withKeys then .ok fields
    else
      .error (.of (s!"Tried to iterate using key value on variable `{name}`, " ++
        "but it is missing a key"))
  | _ =>
    .error (.of s!"Tried to iterate on a container (`{name}`) that has a unsupported type")
where
  /-- Only objects have keys. -/
  noKeys : Except Fault (List (String × Json)) :=
    .error (.of (s!"Tried to iterate using key value on variable `{name}`, but it isn't an " ++
      "object/map"))

/-- The name of what a loop runs over. -/
def containerName (e : Expr) : Except Fault String :=
  match e.operand with
  | .path name => .ok name
  | .call c => .ok c.name
  | .array _ => .ok "an array literal"
  | operand =>
    .error (.of ("Forloop containers have to be an ident or a function call " ++
      s!"(tried to iterate on '{operandWords operand}')"))

/-- What nodes are rendered with. -/
structure Renderer where
  /-- What their expressions are evaluated in. -/
  setting : Setting
  /-- Renders the template itself in the place of a node. -/
  includeSelf : (escapes : Bool) → Frames → Except Fault String

namespace Renderer

/-- The rounds of a loop, one after the other, until the body leaves it. -/
def rounds (body : Frames → Except Fault Rendered) (key : Option String) (itemName : String)
    (count : Nat) : (index : Nat) → Frames → List (String × Json) → Except Fault Rendered
  | _, frames, [] => .ok ⟨"", frames, .onward⟩
  | index, frames, (k, item) :: rest => do
    let round : Round := ⟨key.map (·, k), itemName, item, index, count⟩
    let done ← (body (⟨.round round, []⟩ :: frames)).mapError (·.within .other)
    let frames := done.frames.drop 1
    if done.flow = .afterLoop then return { done with frames := frames, flow := .onward }
    let more ← rounds body key itemName count (index + 1) frames rest
    return { more with text := done.text ++ more.text }

mutual

/-- Renders a node. -/
def node (r : Renderer) (escapes : Bool) (frames : Frames) : Node → Except Fault Rendered
  | .text s | .verbatim _ s _ => .ok ⟨s, frames, .onward⟩
  | .comment _ | .definitionsOf .. | .extension .. | .definition .. => .ok ⟨"", frames, .onward⟩
  | .print _ e => do
    return ⟨(← (r.setting.readings frames e).value escapes).display, frames, .onward⟩
  | .bind _ isGlobal name e => do
    let v ← (r.setting.readings frames e).value false
    return ⟨"", if isGlobal then frames.bindOutside name v else frames.bindInside name v, .onward⟩
  | .inclusion _ names isOptional =>
    if names.contains r.setting.template then do
      return ⟨← (r.includeSelf escapes frames).mapError (·.within .other), frames, .onward⟩
    else if isOptional then .ok ⟨"", frames, .onward⟩
    else .error (.of ("Template '[" ++ ", ".intercalate names ++ "]' not found"))
  | .leave _ wholeLoop => .ok ⟨"", frames, if wholeLoop then .afterLoop else .nextRound⟩
  | .parentBlock => .error (.of "Tried to use super() in the top level block")
  | .branches all none _ => branch r escapes frames (.ok ⟨"", frames, .onward⟩) all
  | .branches all (some (_, body)) _ => branch r escapes frames (nodes r escapes frames body) all
  | .loop _ key itemName container body none _ => do
    let items ← containerItems r frames key container
    rounds (fun frames => nodes r escapes frames body) key itemName items.length 0 frames items
  | .loop _ key itemName container body (some ifEmpty) _ => do
    let items ← containerItems r frames key container
    if items.isEmpty then nodes r escapes frames ifEmpty
    else
      rounds (fun frames => nodes r escapes frames body) key itemName items.length 0 frames items
  | .filtered _ (.mk name args) body _ => do
    let done ← nodes r escapes frames body
    let step : Step := ⟨name, r.setting.readingsOfArgs done.frames args⟩
    let (v, _) ← step.apply (.str done.text) false
    return { done with text := v.display }
  | .block _ _ body _ => nodes r escapes frames body
where
  /-- What a loop runs over. -/
  containerItems (r : Renderer) (frames : Frames) (key : Option String) (container : Expr) :
      Except Fault (List (String × Json)) := do
    let name ← containerName container
    loopItems name key.isSome (← (r.setting.readings frames container).value false)

/-- Renders nodes one after the other, until one of them leaves the round of a loop. -/
def nodes (r : Renderer) (escapes : Bool) (frames : Frames) : List Node → Except Fault Rendered
  | [] => .ok ⟨"", frames, .onward⟩
  | n :: rest => do
    let done ← node r escapes frames n
    if done.flow ≠ .onward then return done
    let more ← nodes r escapes done.frames rest
    return { more with text := done.text ++ more.text }

/-- Renders the first branch whose condition holds, or else what is left. -/
def branch (r : Renderer) (escapes : Bool) (frames : Frames)
    (otherwise : Except Fault Rendered) : List (Trim × Expr × List Node) → Except Fault Rendered
  | [] => otherwise
  | (_, e, body) :: rest => do
    if ← (r.setting.readings frames e).truth escapes then nodes r escapes frames body
    else branch r escapes frames otherwise rest

end

/-- The arguments of a definition: those given, and else the defaults. -/
def arguments (definition : String) (given : List (String × Except Fault Json)) :
    Parameters → Except Fault Json.Fields
  | [] => .ok []
  | (name, absent) :: rest => do
    let v ← match given.find? fun a => a.1 == name with
      | some (_, v) => v
      | none =>
        match absent with
        | some (.text t) => pure (.str t)
        | some (.integer n) => pure (.ofInt n)
        | some (.real d) => pure (.ofDouble d)
        | some (.truth b) => pure (.bool b)
        | _ => throw (.of s!"Macro `{definition}` is missing the argument `{name}`")
    return Json.Fields.insert name v (← arguments definition given rest)

/-- What a template is rendered with, where definitions and the template itself are rendered inside
    one another at most `fuel` times. -/
def within (t : Document) (given : Json.Fields) : (fuel : Nat) → Renderer
  | 0 =>
    { setting := ⟨t.name, given, fun _ _ _ _ => .error (.of "Templates are nested too deeply")⟩
      includeSelf := fun _ _ => .error (.of "Templates are nested too deeply") }
  | fuel + 1 =>
    { setting := ⟨t.name, given, fun escapes space name args => do
        if space ≠ "self" ∨ t.definitions.isEmpty then
          throw (.of (s!"Macro namespace `{space}` was not found in template `{t.name}`. " ++
            "Have you maybe forgotten to import it, or misspelled it?"))
        match t.definitions.find? fun d => d.name == name with
        | none => throw (.of s!"Macro `{space}::{name}` not found in template `{t.name}`")
        | some d =>
          let bindings ← arguments name args d.parameters
          let done ← (nodes (within t given fuel) escapes [⟨.definition, bindings⟩] d.body).mapError
            (·.within (.definition space name))
          return done.text⟩
      includeSelf := fun escapes frames => do
        return (← nodes (within t given fuel) escapes (⟨.inclusion, []⟩ :: frames) t.nodes).text }

end Renderer

/-- How deep definitions may call one another. -/
def maxDepth : Nat := 2000

/-- The values that a template sees: those of an object by their names, or one value under a fixed
    name. -/
def visibleValues : Option Json → Json.Fields
  | none | some .null => []
  | some (.obj fields) => fields
  | some v => [("value", v)]

/-- Where a fault arose, in words. -/
def Fault.location (f : Fault) (template : String) : String :=
  let inside := match f.surroundings with
    | some (.definition space name) => s!": error while rendering macro `{space}::{name}`"
    | _ => ""
  s!"Failed to render '{template}'" ++ inside

/-- The text of a template given a value, or why there is none. -/
def renderSource (escapes : Bool) (name source : String) (value : Option Json) :
    Except Fault String := do
  let t ← load name source
  let r := Renderer.within t (visibleValues value) maxDepth
  match r.nodes escapes [⟨.outermost, []⟩] t.nodes with
  | .ok done => return done.text
  | .error f => throw (f.under (f.location name))

/-- The number of digits, if it is one of 64 bits in ASCII digits. -/
def lineNumber (digits : List Char) : Option Nat :=
  if digits.all Char.isDigit then
    let n := digitsValue digits
    if Word.isUnsigned n then some n else none
  else none

/-- The number before the first colon that stands between digits; `some none` where it is too large.
    `fuel` bounds the number of characters. -/
def lineMark : (fuel : Nat) → List Char → Option (Option Nat)
  | 0, _ => none
  | _, [] => none
  | fuel + 1, c :: rest =>
    if Unicode.isDigit c then
      let digits := (c :: rest).takeWhile Unicode.isDigit
      match (c :: rest).drop digits.length with
      | ':' :: d :: more =>
        if Unicode.isDigit d then some (lineNumber digits) else lineMark fuel (d :: more)
      | more => lineMark fuel more
    else lineMark fuel rest

/-- The line that the words of a fault speak of. -/
def Fault.line (f : Fault) : Option Nat :=
  (f.words.findSome? fun words =>
    let cs := (Unicode.debugQuote words).toList
    lineMark cs.length cs).join

/-- All words of a fault, one line for each level. -/
def Fault.text (f : Fault) : String :=
  let words := f.words.map fun w => String.ofList (Unicode.trim w.toList)
  match words.filter (· ≠ "") with
  | [] => "Template syntax error"
  | words => "\n  -> ".intercalate words

/-- Renders a template, known by a name, with a value. -/
def render (escapes : Bool) (name source : String) (value : Option Json) :
    Except TemplateError String :=
  (renderSource escapes name source value).mapError fun f => .rendering name f.text f.line

end Folio.Template
