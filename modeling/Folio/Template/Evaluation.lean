import Folio.Template.Check
import Folio.Template.Filter
import Folio.Template.Tree
import Folio.Unicode.Printable
import Folio.Word

/-!
# Evaluating expressions

An expression is evaluated where it stands: under the names bound by loops, definitions and `set`,
and under the values that the template was given. It has three readings. As a value it goes through
its filters and may be escaped; as a condition an unknown variable counts as false; as a number
everything but a number is a mistake.

* `Template.Setting`: what an expression is evaluated in;
* `Template.Readings`: the three readings of an expression;
* `Template.Setting.readings`: evaluation.
-/

namespace Folio.Template

/-! ## Faults -/

/-- Inside of what a fault arose, where the words for it say so. -/
inductive Surroundings where
  /-- In a loop or an included template. -/
  | other
  /-- In a definition of this name. -/
  | definition (space name : String)
deriving DecidableEq

/-- What went wrong while rendering. -/
structure Fault where
  /-- The words for it, outermost first. -/
  words : List String
  /-- The innermost surroundings, where there are any. -/
  surroundings : Option Surroundings := none
deriving DecidableEq

namespace Fault

/-- A fault in some words. -/
def of (words : String) : Fault := { words := [words] }

/-- The same fault with words outside of it. -/
def under (f : Fault) (words : String) : Fault := { f with words := words :: f.words }

/-- The same fault, seen from outside of what it arose in. -/
def within (f : Fault) (s : Surroundings) : Fault :=
  { f with surroundings := f.surroundings.or (some s) }

/-- The same fault with its outermost words alone. -/
def outermost (f : Fault) : Fault := { f with words := f.words.take 1 }

end Fault

/-! ## Names in view -/

/-- One round of a loop. -/
structure Round where
  /-- The name and the value of the key, where the loop runs over an object. -/
  key : Option (String × String)
  /-- The name of the item. -/
  itemName : String
  /-- The item of this round. -/
  item : Json
  /-- How many rounds went before. -/
  index : Nat
  /-- How many rounds there are. -/
  count : Nat

/-- What a frame was opened for. -/
inductive Frame.Kind where
  /-- The template. -/
  | outermost
  /-- An included template. -/
  | inclusion
  /-- A definition. -/
  | definition
  /-- A round of a loop. -/
  | round (r : Round)

/-- The names bound at one level. -/
structure Frame where
  /-- What the frame was opened for. -/
  kind : Frame.Kind
  /-- Names and values. -/
  bindings : Json.Fields := []

namespace Frame

/-- Whether this is the frame of a round of a loop. -/
def isRound (f : Frame) : Bool :=
  match f.kind with
  | .round _ => true
  | _ => false

/-- Whether the frames around this one are out of view. -/
def isWall (f : Frame) : Bool :=
  match f.kind with
  | .outermost | .definition => true
  | _ => false

/-- The same frame with one more name bound. -/
def bind (f : Frame) (name : String) (v : Json) : Frame :=
  { f with bindings := Json.Fields.insert name v f.bindings }

end Frame

/-- A dotted path, cut at its first dot. -/
def splitPath (path : String) : String × Option String :=
  let cs := path.toList
  match cs.dropWhile (· != '.') with
  | [] => (path, none)
  | _ :: rest => (String.ofList (cs.takeWhile (· != '.')), some (String.ofList rest))

/-- What a path leads to among named values. -/
def lookUp (fields : Json.Fields) (path : String) : Option Json :=
  match splitPath path with
  | (name, none) => Json.Fields.get? fields name
  | (name, some rest) => (Json.Fields.get? fields name).bind fun v => v.below? rest

namespace Round

/-- What a path leads to in a round of a loop: the count of rounds, the key or the item. -/
def find? (r : Round) (path : String) : Option Json :=
  match path with
  | "loop.index" => some (.ofNat (r.index + 1))
  | "loop.index0" => some (.ofNat r.index)
  | "loop.first" => some (.bool (r.index = 0))
  | "loop.last" => some (.bool (r.index + 1 = r.count))
  | path =>
    match r.key with
    | some (name, key) =>
      if path = name then some (.str key) else lookUp [(r.itemName, r.item)] path
    | none => lookUp [(r.itemName, r.item)] path

end Round

/-- What a path leads to in a frame. -/
def Frame.find? (f : Frame) (path : String) : Option Json :=
  (lookUp f.bindings path).or
    (match f.kind with
      | .round r => r.find? path
      | _ => none)

/-- The frames in view, innermost first. -/
abbrev Frames := List Frame

/-- What a path leads to in the frames in view. -/
def Frames.find? (path : String) : Frames → Option Json
  | [] => none
  | f :: rest =>
    match f.find? path with
    | some v => some v
    | none => if f.isWall then none else find? path rest

/-- The names that a frame binds, with those of its round. -/
def Frame.visible (f : Frame) : Json.Fields :=
  match f.kind with
  | .round r =>
    let fields := Json.Fields.insert r.itemName r.item f.bindings
    match r.key with
    | some (name, key) => Json.Fields.insert name (.str key) fields
    | none => fields
  | _ => f.bindings

/-- Everything that a template was given and has bound, as one object. An outer frame counts more
    than an inner one. -/
def Frames.visible (given : Json.Fields) : Frames → Json.Fields → Json.Fields
  | [], seen => seen.foldl (fun all f => Json.Fields.insert f.1 f.2 all) given
  | f :: rest, seen =>
    let seen := f.visible.foldl (fun all f => Json.Fields.insert f.1 f.2 all) seen
    match f.kind with
    | .definition => seen
    | _ => visible given rest seen

/-- What an expression is evaluated in. -/
structure Setting where
  /-- The name of the template. -/
  template : String
  /-- The values that the template was given. -/
  given : Json.Fields
  /-- Renders a definition with some arguments, escaping texts or not. -/
  invoke : (escapes : Bool) → (space name : String) → List (String × Except Fault Json) →
    Except Fault String

namespace Setting

/-! ## Variables -/

/-- What a path without brackets leads to. -/
def search (s : Setting) (frames : Frames) (path : String) : Option Json :=
  (frames.find? path).or (lookUp s.given path)

/-- The variables in the outermost brackets of a path. -/
def indices : (fuel : Nat) → List Char → List (List Char)
  | 0, _ => []
  | _, [] => []
  | fuel + 1, '[' :: rest =>
    let inside := inner 1 rest
    let more := indices fuel (rest.drop (inside.length + 1))
    match inside with
    | '"' :: _ | '\'' :: _ => indices fuel rest
    | _ => if inside.all Char.isDigit then more else inside :: more
  | fuel + 1, _ :: rest => indices fuel rest
where
  /-- The characters up to the bracket that closes the one before. -/
  inner : (depth : Nat) → List Char → List Char
    | 0, _ => []
    | _, [] => []
    | depth + 1, ']' :: rest => if depth = 0 then [] else ']' :: inner depth rest
    | depth + 1, '[' :: rest => '[' :: inner (depth + 2) rest
    | depth + 1, c :: rest => c :: inner (depth + 1) rest

/-- A path with brackets, written with dots. -/
def dotted (path : List Char) : List Char :=
  let path := Text.replace ['/'] "~1".toList path
  let path := Text.replace "['".toList ".\"".toList path
  let path := Text.replace "[\"".toList ".\"".toList path
  let path := Text.replace ['['] ['.'] path
  let path := Text.replace "']".toList ['"'] path
  let path := Text.replace "\"]".toList ['"'] path
  Text.replace [']'] [] path

/-- What a path leads to. A variable in brackets stands for its value; brackets are nested at most
    `fuel` deep. -/
def variableWithin (s : Setting) (frames : Frames) :
    (fuel : Nat) → (path : String) → Except Fault Json
  | 0, path => .error (.of s!"Variable `{path}` not found")
  | fuel + 1, path => do
    let missing := s!"Variable `{path}` not found in context while rendering '{s.template}'"
    let cs := path.toList
    if !cs.contains '[' then
      match s.search frames path with
      | some v => return v
      | none => throw (.of missing)
    else
      let resolved ← (indices cs.length cs).foldlM (fun cs index => do
        let name := String.ofList index
        let v ← (variableWithin s frames fuel name).mapError fun f =>
          Fault.of (s!"Variable {path} can not be evaluated because: " ++ f.words.headD "")
        let place ← match v with
          | .str t => pure ('"' :: t.toList ++ ['"'])
          | .num n => pure (Number.text n)
          | _ => throw (.of ("Only variables evaluating to String or Number can be used as " ++
              s!"index (`{name}` of `{path}`)"))
        match Text.cut? ('[' :: index ++ [']']) cs with
        | some (before, rest) => return before ++ '.' :: place ++ rest
        | none => return cs ++ '.' :: place) cs
      let full := String.ofList (dotted resolved)
      match s.search frames full with
      | some v => return v
      | none =>
        throw (.of (missing ++ s!": the evaluated version was `{full}`. " ++
          "Maybe the index is out of bounds?"))

/-- The name under which everything in view is printed. -/
def overviewName : String := "__tera_context"

/-- What a path leads to. -/
def lookup (s : Setting) (frames : Frames) (path : String) : Except Fault Json :=
  if path = overviewName then .ok (.str (Json.obj (frames.visible s.given [])).pretty)
  else variableWithin s frames path.length path

end Setting

/-! ## Numbers -/

/-- The result of an operation, where it is a number of its kind. -/
abbrev Computed := Except Fault (Option Number)

/-- A finite double as a number. -/
def finite (d : Double) : Option Number := if d.isFinite then some (.double d) else none

/-- An operation on two whole numbers, which stays among the numbers of 64 bits: those with a sign
    where both have one, and those without where both are beyond them. -/
def exact (sign : String) (f : Int → Int → Int) (a b : Int) : Computed :=
  let r := f a b
  let tooBig (kind : String) : Computed :=
    .error (.of s!"{a} {sign} {b} results in an out of bounds {kind}")
  if Word.isSigned a && Word.isSigned b then
    if Word.isSigned r then .ok (some (.ofInt r)) else tooBig "i64"
  else if Word.isUnsigned r then .ok (some (.ofInt r)) else tooBig "u64"

/-- Whether an operation on two whole numbers is exact: they are of one kind. -/
def sameKind (a b : Int) : Bool := (Word.isSigned a && Word.isSigned b) || (0 ≤ a && 0 ≤ b)

/-- The result of an operation; a remainder of zero is told apart by the operands in words. -/
def compute (op : Arithmetic) (words : Unit → String) (a b : Number) : Computed :=
  let x := a.toDouble.toFloat
  let y := b.toDouble.toFloat
  let whole : Option (Int × Int) := match a, b with
    | .integer m _, .integer n _ => if sameKind m n then some (m, n) else none
    | _, _ => none
  match op, whole with
  | .add, some (m, n) => exact "+" (· + ·) m n
  | .sub, some (m, n) => exact "-" (· - ·) m n
  | .mul, some (m, n) => exact "x" (· * ·) m n
  | .rem, some (m, n) =>
    if n = 0 then .error (.of s!"Tried to do a modulo by zero: {words ()}")
    else .ok (some (.ofInt (Int.tmod m n)))
  | .add, none => .ok (finite (.ofFloat (x + y)))
  | .sub, none => .ok (finite (.ofFloat (x - y)))
  | .mul, none => .ok (finite (.ofFloat (x * y)))
  | .rem, none => .ok (finite (Check.remainder a.toDouble b.toDouble))
  | .div, _ =>
    let q := Double.ofFloat (x / y)
    if q.isFinite && q.isWhole then .ok (some (.ofInt q.toInt64)) else .ok (finite q)

/-- A value that has to be a number. -/
def asNumber (words : String) (v : Json) : Computed :=
  match v with
  | .num n => .ok (some n)
  | _ => .error (.of words)

/-- Compares two numbers as doubles. -/
def compare (op : Relation) (a b : Number) : Bool :=
  let x := a.toDouble.toFloat
  let y := b.toDouble.toFloat
  match op with
  | .lt => x < y
  | .le => x ≤ y
  | .gt => x > y
  | .ge => x ≥ y
  | _ => false

/-- Whether two values are equal, or different. Numbers are compared as doubles, and a number is
    neither equal to nor different from anything else. -/
def related (wantsEqual : Bool) (a b : Json) : Bool :=
  match a, b with
  | .num m, .num n => (m.toDouble.toFloat == n.toDouble.toFloat) == wantsEqual
  | .num _, _ | _, .num _ => false
  | a, b => a.equals b == wantsEqual

/-! ## Texts of expressions -/

/-- A truth value in words. -/
def truthWord (b : Bool) : String := if b then "true" else "false"

/-- A value in the words of a developer. -/
def describe : Json → String
  | .null => "Null"
  | .bool b => s!"Bool({truthWord b})"
  | .num n => s!"Number({String.ofList n.text})"
  | .str s => s!"String({Unicode.debugQuote s})"
  | .arr items => "Array [" ++ ", ".intercalate (describeItems items) ++ "]"
  | .obj fields => "Object \x7b" ++ ", ".intercalate (describeFields fields) ++ "\x7d"
where
  /-- Items in the words of a developer. -/
  describeItems : List Json → List String
    | [] => []
    | v :: rest => describe v :: describeItems rest
  /-- Fields in the words of a developer. -/
  describeFields : List (String × Json) → List String
    | [] => []
    | (name, v) :: rest => s!"{Unicode.debugQuote name}: {describe v}" :: describeFields rest

/-- An operation in the words of a developer. -/
def arithmeticWord : Arithmetic → String
  | .add => "Add"
  | .sub => "Sub"
  | .mul => "Mul"
  | .div => "Div"
  | .rem => "Modulo"

mutual

/-- An operand of a computation in the words of a developer. -/
def operandWords : Operand → String
  | .integer n => s!"Int({n})"
  | .real d => s!"Float({String.ofList (Number.text (.double d))})"
  | .path name => s!"Ident({Unicode.debugQuote name})"
  | .text s => s!"String({Unicode.debugQuote s})"
  | .truth b => s!"Bool({truthWord b})"
  | .arithmetic op a b =>
    "Math(MathExpr \x7b lhs: " ++ exprWords a ++ ", rhs: " ++ exprWords b ++ ", operator: " ++
      arithmeticWord op ++ " \x7d)"
  | _ => "FunctionCall"

/-- An expression of a computation in the words of a developer. -/
def exprWords : Expr → String
  | .mk operand negated _ =>
    "Expr \x7b val: " ++ operandWords operand ++ ", negated: " ++
      truthWord negated ++ ", filters: [] \x7d"

end

/-! ## The three readings -/

/-- How an expression, or an operand before its filters, is read. Each reading depends on whether
    texts are escaped. -/
structure Readings where
  /-- As a value. -/
  value : (escapes : Bool) → Except Fault Json
  /-- As a condition. -/
  truth : (escapes : Bool) → Except Fault Bool
  /-- As a number. -/
  number : (escapes : Bool) → Computed

namespace Readings

/-- What reads as one value, as a condition by whether it counts as true, and as a number by being
    one. -/
def ofValue (words : String) (value : (escapes : Bool) → Except Fault Json) : Readings where
  value := value
  truth escapes := do return (← value escapes).isTruthy
  number escapes := do asNumber words (← value escapes)

/-- A condition. -/
def ofTruth (truth : (escapes : Bool) → Except Fault Bool) : Readings where
  value escapes := do return .bool (← truth escapes)
  truth := truth
  number _ := .error (.of "Tried to do math with an expression not resulting in a number")

/-- The result of a computation. A fault loses all but its outermost words where the value is
    asked for. -/
def ofNumber (number : (escapes : Bool) → Computed) : Readings where
  value escapes :=
    match number escapes with
    | .ok (some n) => .ok (.num n)
    | .ok none => .ok (.str "NaN")
    | .error fault => .error fault.outermost
  truth escapes := do
    match ← number escapes with
    | some n => return !n.toDouble.isZero
    | none => return false
  number := number

/-- Two expressions in a relation. The second one is read only where it matters. -/
def ofRelation (op : Relation) (lhs rhs : Readings) : Readings := ofTruth fun escapes => do
  match op with
  | .or => if ← lhs.truth escapes then return true else rhs.truth escapes
  | .and => if ← lhs.truth escapes then rhs.truth escapes else return false
  | .eq => return related true (← lhs.value escapes) (← rhs.value escapes)
  | .ne => return related false (← lhs.value escapes) (← rhs.value escapes)
  | op =>
    match ← lhs.number escapes, ← rhs.number escapes with
    | some a, some b => return compare op a b
    | _, _ => throw (.of "Comparison to NaN")

/-- The result of an operation on two expressions; `words` says which they are. -/
def ofArithmetic (op : Arithmetic) (words : Unit → String) (lhs rhs : Readings) : Readings :=
  ofNumber fun escapes => do
    match ← lhs.number escapes, ← rhs.number escapes with
    | some a, some b => compute op words a b
    | _, _ => return none

/-- Whether one value holds another. -/
def holds (container v : Json) : Except Fault Bool :=
  match container, v with
  | .arr items, v => .ok (items.any v.equals)
  | .str s, .str part => .ok (Text.occurs part.toList s.toList)
  | .obj fields, .str name => .ok (Json.Fields.contains fields name)
  | .str _, v =>
    .error (.of s!"Tried to check if {describe v} is in a string, but it isn't a string")
  | .obj _, v =>
    .error (.of s!"Tried to check if {describe v} is in a object, but it isn't a string")
  | _, _ => .error (.of "The `in` operator only supports strings, arrays and objects.")

/-- Whether the second expression holds the first one, or does not. -/
def ofMembership (isNegated : Bool) (lhs rhs : Readings) : Readings := ofTruth fun _ => do
  let v ← lhs.value false
  return (← holds (← rhs.value false) v) != isNegated

/-- The answer of a function to its arguments. -/
def answer (name : String) (args : List (String × Readings)) : Except Fault Json :=
  match Function.find? name with
  | none => .error (.of s!"Function '{name}' not found")
  | some f =>
    let failed (fault : Fault) := fault.under s!"Function call '{name}' failed"
    do
      let args ← args.mapM fun (k, r) => ((r.value false).map (k, ·)).mapError failed
      ((f (Json.Fields.ofPairs args)).mapError Fault.of).mapError failed

/-- The answer of a function. As a condition it has to be a truth value. -/
def ofCall (name : String) (args : List (String × Readings)) : Readings where
  value _ := answer name args
  truth _ := do
    match ← answer name args with
    | .bool b => return b
    | _ => throw (.of (s!"Function `{name}` was used in a logic expression but is not " ++
        "returning a bool"))
  number _ := do
    asNumber s!"Function `{name}` was used in a math operation but is not returning a number"
      (← answer name args)

/-- Whether a value passes a check. -/
def passes (name : String) (v : Option Json) (args : List Readings) : Except Fault Bool :=
  match Check.find? name with
  | none => .error (.of s!"Test '{name}' not found")
  | some f =>
    let failed (fault : Fault) := fault.under s!"Test call '{name}' failed"
    do
      let args ← args.mapM fun r => (r.value false).mapError failed
      ((f v args).mapError Fault.of).mapError failed

/-- The text of a part of a joined text. -/
def partText : Operand × Readings → Except Fault String
  | (.text t, _) => .ok t
  | (.integer n, _) => .ok (String.ofList (Number.integerText n))
  | (.real d, _) => .ok (Decimal.Layout.plain.render d)
  | (operand, r) => do
    let words := match operand with
      | .path name => "ident " ++ name
      | .call c => "function call " ++ c.name
      | _ => "expression"
    match ← r.value false with
    | .str s => return s
    | .num n => return String.ofList n.text
    | _ => throw (.of ("Tried to concat a value that is not a string or a number from " ++ words))

/-- Parts joined to one text. -/
def ofJoined (parts : List (Operand × Readings)) : Readings :=
  ofValue "Tried to do math with a string concatenation" fun _ => do
    return .str (String.join (← parts.mapM partText))

end Readings

/-- A filter with its arguments. -/
structure Step where
  /-- The name of the filter. -/
  filter : String
  /-- Its arguments by name. -/
  args : List (String × Readings)

namespace Step

/-- The value that a filter makes of another, and that it can be escaped. Two filters only leave a
    mark on the expression. -/
def apply (s : Step) (v : Json) (escaping : Bool) : Except Fault (Json × Bool) :=
  if s.filter = "safe" ∨ s.filter = "default" then .ok (v, escaping)
  else
    match Filter.find? s.filter with
    | none => .error (.of s!"Filter '{s.filter}' not found")
    | some f =>
      let failed (fault : Fault) := fault.under s!"Filter call '{s.filter}' failed"
      do
        let args ← s.args.mapM fun (k, r) => ((r.value false).map (k, ·)).mapError failed
        let v ← ((f v (Json.Fields.ofPairs args)).mapError Fault.of).mapError failed
        return (v, true)

/-- What the first filter gives for an unknown variable, where it is there for that. -/
def default? (escapes : Bool) : List Step → Option (Except Fault Json)
  | [] => none
  | s :: _ =>
    if s.filter ≠ "default" then none
    else
      match s.args.find? fun a => a.1 == "value" with
      | some (_, r) => some (r.value escapes)
      | none => some (.error (.of "The `default` filter requires a `value` argument."))

/-- Whether the last filter keeps the value from being escaped. -/
def isSafe (steps : List Step) : Bool := steps.getLast?.any fun s => s.filter == "safe"

/-- Puts a value through filters, turns its truth around and escapes it, each where it applies. -/
def finish (steps : List Step) (negated escapes escaping : Bool) (v : Json) :
    Except Fault Json := do
  let (v, escaping) ← steps.foldlM (fun (v, escaping) s => s.apply v escaping) (v, escaping)
  if negated then return .bool !v.isTruthy
  match v with
  | .str t => return if escapes && escaping && !isSafe steps then .str (escapeMarkup t) else v
  | v => return v

end Step

/-- Whether the text that an operand is may be escaped before it goes through any filter. -/
def Operand.escaping : Operand → Bool
  | .text _ | .call _ => true
  | .path name => name ≠ Setting.overviewName
  | .joined parts => parts.any fun
    | .call _ => true
    | _ => false
  | _ => false

/-- The readings of an expression by those of its operand. Its negation applies to a condition of
    two sides before the value is made of it, and to the value once more. -/
def Readings.ofExpr (operand : Operand) (r : Readings) (negated : Bool) (steps : List Step) :
    Readings :=
  let finish (escapes : Bool) (v : Json) := Step.finish steps negated escapes operand.escaping v
  let value (escapes : Bool) : Except Fault Json :=
    match operand, r.value escapes with
    | .path _, .ok .null => if negated then .ok (.bool true) else finish escapes .null
    | .path _, .error fault =>
      match Step.default? escapes steps with
      | some v => do finish escapes (← v)
      | none => if negated then .ok (.bool true) else .error fault
    | .relation .., .ok v => finish escapes (.bool (v.isTruthy != negated))
    | _, v => do finish escapes (← v)
  { value := value
    truth := fun escapes =>
      match operand with
      | .path _ =>
        match value escapes with
        | .ok v => .ok v.isTruthy
        | .error _ => .ok false
      | _ => do return (← r.truth escapes) != negated
    number := fun escapes =>
      if steps.isEmpty then r.number escapes
      else do
        asNumber "Tried to do math with an expression not resulting in a number" (← value escapes) }

namespace Setting

mutual

/-- How an operand is read. -/
def operandReadings (s : Setting) (frames : Frames) : Operand → Readings
  | .path name =>
    .ofValue s!"Variable `{name}` was used in a math operation but is not a number"
      fun _ => s.lookup frames name
  | .text t => .ofValue s!"Tried to do math with a string: `{t}`" fun _ => .ok (.str t)
  | .integer n => .ofNumber fun _ => .ok (some (.ofInt n))
  | .real d => .ofNumber fun _ => .ok (some (.double d))
  | .truth b =>
    .ofValue s!"Tried to do math with a boolean: `{truthWord b}`"
      fun _ => .ok (.bool b)
  | .array items =>
    let items := readingsOfAll s frames items
    .ofValue "Tried to do math with a list" fun escapes => do
      return .arr (← items.mapM fun r => r.value escapes)
  | .membership isNegated lhs rhs =>
    .ofMembership isNegated (readings s frames lhs) (readings s frames rhs)
  | .relation op lhs rhs => .ofRelation op (readings s frames lhs) (readings s frames rhs)
  | .arithmetic op lhs rhs =>
    .ofArithmetic op (fun _ => exprWords lhs ++ "/" ++ exprWords rhs) (readings s frames lhs)
      (readings s frames rhs)
  | .check isNegated path name args =>
    let args := readingsOfAll s frames args
    { Readings.ofTruth fun _ => do
        return (← Readings.passes name (s.lookup frames path).toOption args) != isNegated with
      number := fun _ => .error (.of s!"Tried to do math with a test: {name}") }
  | .call (.mk name args) => .ofCall name (readingsOfArgs s frames args)
  | .invoke space name args =>
    let args := readingsOfArgs s frames args
    .ofValue "Tried to do math with a text" fun escapes => do
      return .str (← s.invoke escapes space name (args.map fun (k, r) => (k, r.value false)))
  | .joined parts => .ofJoined (readingsOfParts s frames parts)

/-- How an expression is read. -/
def readings (s : Setting) (frames : Frames) : Expr → Readings
  | .mk operand negated filters =>
    .ofExpr operand (operandReadings s frames operand) negated (steps s frames filters)

/-- How expressions are read. -/
def readingsOfAll (s : Setting) (frames : Frames) : List Expr → List Readings
  | [] => []
  | e :: rest => readings s frames e :: readingsOfAll s frames rest

/-- How arguments are read. -/
def readingsOfArgs (s : Setting) (frames : Frames) :
    List (String × Expr) → List (String × Readings)
  | [] => []
  | (name, e) :: rest => (name, readings s frames e) :: readingsOfArgs s frames rest

/-- How the parts of a joined text are read. -/
def readingsOfParts (s : Setting) (frames : Frames) : List Operand → List (Operand × Readings)
  | [] => []
  | part :: rest => (part, operandReadings s frames part) :: readingsOfParts s frames rest

/-- Filters with the readings of their arguments. -/
def steps (s : Setting) (frames : Frames) : List Call → List Step
  | [] => []
  | .mk name args :: rest => ⟨name, readingsOfArgs s frames args⟩ :: steps s frames rest

end

end Setting

end Folio.Template
