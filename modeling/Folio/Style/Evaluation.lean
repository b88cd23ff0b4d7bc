import Folio.Style.Arithmetic
import Folio.Style.Calculation
import Folio.Style.Function.All
import Folio.Style.Scope

/-!
# Values of expressions

The value of an expression at a place. The values of its parts, and what the statements of a
function return, are given from outside, so that each step here is only about one expression.

* `Style.Evaluation.text`: a composed text with the values in their places;
* `Style.Evaluation.withArguments`: parameters with values for a mixin or function;
* `Style.Expression.value`: the value of an expression.
-/

namespace Folio.Style

/-- How expressions are evaluated. -/
abbrev Evaluator := Expression → Evaluation Value

namespace Evaluation

/-- A composed text with the values in their places. -/
def text (value : Evaluator) (pieces : Composed) : Evaluation String := do
  let texts ← pieces.mapM fun
    | .chars s => return String.ofList s
    | .value e => do ofExcept ((← value e).write false)
  return String.join texts

/-- A composed text without blanks at its ends. -/
def trimmedText (value : Evaluator) (pieces : Composed) : Evaluation String := do
  let s := ((← text value pieces).toList.dropWhile Scan.isBlank).reverse.dropWhile Scan.isBlank
  return String.ofList s.reverse

/-! ## Arguments -/

/-- The arguments that a list or map stands for. -/
def spreadArguments (positional : List Value) (named : List (String × Value)) :
    List Value → Except String (List Value × List (String × Value))
  | [] => .ok (positional, named)
  | .map entries :: rest => do
    let more ← entries.mapM fun (k, v) => do
      return (Scan.normalName (String.ofList (← k.toText).1), v)
    spreadArguments positional (named ++ more) rest
  | v :: rest => spreadArguments (positional ++ v.asList) named rest

/-- The values of arguments, by place and by name. -/
def arguments (value : Evaluator) : Arguments → Evaluation (List Value × List (String × Value))
  | .mk positional named spread => do
    let values ← positional.mapM fun e => return (← value e).settled
    let pairs ← named.mapM fun (k, e) => return (k, (← value e).settled)
    let lists ← spread.mapM value
    ofExcept (spreadArguments values pairs lists)

/-- Gives values to parameters in the innermost frame. -/
def bindParameters (value : Evaluator) (rest : Option String) :
    List (String × Option Expression) → List Value → List (String × Value) → Evaluation Unit
  | [], positional, named => do
    if !named.isEmpty then throw "No such argument."
    match rest with
    | some name => setVariableIn (← innermost) name (.commaList positional)
    | none => if !positional.isEmpty then throw "Too many arguments."
  | (name, _) :: parameters, v :: positional, named => do
    if named.any (·.1 == name) then
      throw "Argument was passed both by position and by name."
    setVariableIn (← innermost) name v
    bindParameters value rest parameters positional named
  | (name, default) :: parameters, [], named => do
    let v ← match named? name named, default with
      | some v, _ => pure v
      | none, some e => do pure (← value e).settled
      | none, none => throw "Missing argument."
    setVariableIn (← innermost) name v
    bindParameters value rest parameters [] (named.filter (·.1 != name))

/-- Evaluates in a new frame inside those that a closure sees, with values for its parameters. -/
def withArguments {α : Type} (value : Evaluator) (closure : Closure) (content : Option Content)
    (given : List Value × List (String × Value)) (e : Evaluation α) : Evaluation α := do
  let i ← newFrame
  withReader (fun p => { p with
    frames := i :: closure.frames
    isOutermost := false
    content }) do
    bindParameters value closure.parameters.rest closure.parameters.named given.1 given.2
    e

/-! ## Calls -/

/-- The value that a function returns. -/
def returned (value : Evaluator) (run : Runner) (f : Closure)
    (given : List Value × List (String × Value)) : Evaluation Value := do
  let result ← withArguments value f none given
    (withReader (fun p => { p with inFunction := true }) (run f.body))
  match result with
  | some v => return v.settled
  | none => throw "Function finished without @return."

/-- The module that a name stands for. -/
def moduleOf (name : String) : Evaluation String := do
  match (← get).modules.find? (·.1 == some name) with
  | some (_, m) => return m
  | none => throw "There is no module with this namespace."

/-- A function that there is without a definition in the sheet. -/
def provided? (module : Option String) (name : String) : Evaluation (Option Function) := do
  match module with
  | some m => return Function.find? (some (← moduleOf m)) name
  | none =>
    let unnamed := (← get).modules.filterMap fun (n, m) => if n.isNone then some m else none
    return (unnamed.findSome? fun m => Function.find? (some m) name) <|> Function.find? none name

/-- The answer to a question about what is defined at a place. -/
def question? (name : String) (given : List Value × List (String × Value)) :
    Evaluation (Option Value) := do
  let subject : Except String String :=
    match given.1, given.2 with
    | [v], [] | [], [(_, v)] => do return Scan.normalName (String.ofList (← v.toText).1)
    | _, _ => .error "Wrong arguments."
  match name with
  | "variable-exists" => return some (.boolean (← valueOf? (← ofExcept subject)).isSome)
  | "global-variable-exists" =>
    return some (.boolean (named? (← ofExcept subject) (← frame 0).bindings).isSome)
  | "function-exists" =>
    let f ← ofExcept subject
    let isOwn := (← find? fun frame => named? f frame.functions).isSome
    return some (.boolean (isOwn || (← provided? none f).isSome || f == "if"))
  | "mixin-exists" =>
    let m ← ofExcept subject
    return some (.boolean (← find? fun frame => named? m frame.mixins).isSome)
  | "content-exists" => return some (.boolean (← read).content.isSome)
  | _ => return none

/-- The value of a call. A function that is not known is left to the reader of the result. -/
def called (value : Evaluator) (run : Runner) (module : Option String) (name : String)
    (given : List Value × List (String × Value)) : Evaluation Value := do
  let own ← if module.isSome then pure none else find? fun frame => named? name frame.functions
  match own with
  | some (_, f) => returned value run f given
  | none =>
    match ← question? name given with
    | some v => return v
    | none =>
      match ← provided? module name with
      | some f => ofExcept (f.apply given.1 given.2)
      | none =>
        if module.isSome then throw "Undefined function."
        if !given.2.isEmpty then throw "Plain CSS functions don't support keyword arguments."
        ofExcept (callText name given.1)

/-- The value of a choice between two expressions, of which only one is evaluated. -/
def choice (value : Evaluator) : Arguments → Evaluation Value
  | .mk positional named spread => do
    if !spread.isEmpty then throw "Wrong arguments."
    let part (i : Nat) (name : String) : Evaluation Expression :=
      match positional[i]? <|> named? name named with
      | some e => return e
      | none => throw "Missing argument."
    if positional.length + named.length > 3 then throw "Too many arguments."
    let condition ← part 0 "condition"
    let ifTrue ← part 1 "if-true"
    let ifFalse ← part 2 "if-false"
    return (← value (if (← value condition).isFalse then ifFalse else ifTrue)).settled

/-! ## Other values -/

/-- The value of a word: most words are texts, but some name colors or truth values. -/
def wordValue (word : String) : Value :=
  match word with
  | "true" => .boolean true
  | "false" => .boolean false
  | "null" => .null
  | _ =>
    match Color.ofName? word with
    | some c => .color c
    | none => .word word

/-- A selector as a value: its rows divided by commas, their parts by blanks. -/
def selectorValue : Option Selector → Value
  | none => .null
  | some rows =>
    .commaList (rows.map fun row => .list (row.parts.map fun p => .word p.text) .space false)

/-- The operand of a calculation that an expression is, given how smaller ones are. -/
def operand (value : Evaluator) (inExtremum : Bool) : (fuel : Nat) → Expression → Evaluation Operand
  | 0, _ => throw "Too deep."
  | fuel + 1, e => do
    let leaf : Evaluation Operand := do ofExcept (Operand.ofValue (← value e))
    match e with
    | .parens e => return (← operand value inExtremum fuel e).parenthesized
    | .binary op l r _ =>
      if op.isSum || op == .times || op == .divide then
        let l ← operand value inExtremum fuel l
        let r ← operand value inExtremum fuel r
        ofExcept (Operand.operate inExtremum op l r)
      else leaf
    | _ => leaf

/-- The entries of a map, whose keys have to differ. -/
def entries (value : Evaluator) : List (Expression × Expression) → List (Value × Value) →
    Evaluation Value
  | [], found => return .map found
  | (k, v) :: rest, found => do
    let k ← value k
    let v ← value v
    if (Value.lookup found k).isSome then throw "Duplicate key."
    entries value rest (found ++ [(k, v)])

end Evaluation

open Evaluation

/-- The value of an expression, given those of smaller ones and what functions return. -/
def Expression.value (value : Evaluator) (run : Runner) : Expression → Evaluation Value
  | .number x unit => return .number { value := x, above := if unit.isEmpty then [] else [unit] }
  | .hexColor digits =>
    match Color.ofHex? digits with
    | some c => return .color { c with form := .literal (String.ofList ('#' :: digits)) }
    | none => throw "Expected hex digit."
  | .quoted content => return .text (← text value content) true
  | .word content =>
    match content with
    | [.chars s] => return wordValue (String.ofList s)
    | content => return .word (← text value content)
  | .named none name => do
    match ← valueOf? name with
    | some v => return v
    | none => throw "Undefined variable."
  | .named (some module) name => do
    match Function.constant? (← moduleOf module) name with
    | some x => return .number (.plain x)
    | none => throw "Undefined variable."
  | .parent => do return selectorValue (← read).rule
  | .list items separator inBrackets => return .list (← items.mapM value) separator inBrackets
  | .map es => entries value es []
  | .parens e => value e
  | .unary op e => do ofExcept (Value.unary op (← value e))
  | .binary op l r staysSlash => do
    let v ← value l
    match op with
    | .and => if v.isFalse then return v else value r
    | .or => if v.isFalse then value r else return v
    | op =>
      let w ← value r
      if staysSlash then ofExcept (v.quotient w) else ofExcept (Value.binary op v w)
  | .call none "if" given => do
    match ← find? fun frame => named? "if" frame.functions with
    | some (_, f) => returned value run f (← arguments value given)
    | none => choice value given
  | .call module name given => do
    called value run module (Scan.normalName name) (← arguments value given)
  | .composedCall name given => do
    let name ← text value name
    let values ← arguments value given
    if !values.2.isEmpty then throw "Plain CSS functions don't support keyword arguments."
    ofExcept (callText name values.1)
  | .calculation name operands => do
    let inExtremum := name == "min" || name == "max"
    let operands ← operands.mapM (operand value inExtremum 1000)
    ofExcept (Value.ofCalculation name operands)

end Folio.Style
