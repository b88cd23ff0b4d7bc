import Folio.Template.Grammar
import Folio.Template.Tree
import Folio.Word

/-!
# Reading expressions

The grammar of expressions, from names and literals up to conditions. Products bind tighter than
sums, `and` tighter than `or`, and a filter takes in the whole computation before it. A condition
that is nested in another one is read by the same grammar, one level of nesting down.

* `Template.conditionOf`, `Template.valueOf`: a whole expression;
* `Template.Nested.within`: the readers of nested expressions, with a bound on their depth.
-/

namespace Folio.Template

open Reader

/-! ## Names and literals -/

/-- A letter or an underscore. -/
def isNameStart (c : Char) : Bool := c.isAlpha || c == '_'

/-- A character of a name after its first. -/
def isNamePart (c : Char) : Bool := isNameStart c || c.isDigit

/-- A name. -/
def identifier : Reader String := rule do
  let first ← fun c furthest =>
    match c.rest with
    | x :: rest =>
      if isNameStart x then .found x ⟨rest, c.position + 1⟩ furthest else .missed furthest
    | [] => .missed furthest
  return String.ofList (first :: (← run 0 isNamePart))

/-- The length of a whole number at the beginning of a text: no zero stands before other digits. -/
def integerLength (cs : List Char) : Option Nat :=
  match cs with
  | '-' :: rest => (digits rest).map (· + 1)
  | _ => digits cs
where
  /-- The length of its digits. -/
  digits : List Char → Option Nat
    | '0' :: _ => some 1
    | cs => match (cs.takeWhile Char.isDigit).length with
      | 0 => none
      | n => some n

/-- The length of a quoted text at the beginning of a text; there are no escapes. -/
def quotedLength : List Char → Option Nat
  | q :: rest =>
    if q = '"' ∨ q = '\'' ∨ q = '`' then
      let inside := rest.takeWhile (· != q)
      if inside.length < rest.length then some (inside.length + 2) else none
    else none
  | [] => none

/-- The length of a name with what lies below it: dots before names and numbers, brackets around
    numbers, quoted texts and other such names. -/
def pathLength : (fuel : Nat) → List Char → Option Nat
  | 0, _ => none
  | fuel + 1, cs =>
    match cs with
    | c :: rest =>
      if isNameStart c then
        let n := (rest.takeWhile isNamePart).length
        some (1 + n + steps fuel (rest.drop n))
      else none
    | [] => none
where
  /-- The length of the steps below a name. -/
  steps (fuel : Nat) (cs : List Char) : Nat :=
    match fuel with
    | 0 => 0
    | fuel + 1 =>
      match cs with
      | '.' :: rest =>
        let n := (rest.takeWhile isNamePart).length
        if n = 0 then 0 else 1 + n + steps fuel (rest.drop n)
      | '[' :: rest =>
        let inside := (integerLength rest).orElse fun _ =>
          (quotedLength rest).orElse fun _ => pathLength fuel rest
        match inside with
        | none => 0
        | some n =>
          match rest.drop n with
          | ']' :: rest => n + 2 + steps fuel rest
          | _ => 0
      | _ => 0

/-- As many characters as a measure says. -/
def measured (length : List Char → Option Nat) : Reader (List Char) := rule fun c furthest =>
  match length c.rest with
  | none => .missed furthest
  | some n => .found (c.rest.take n) ⟨c.rest.drop n, c.position + n⟩ furthest

/-- A variable, and what lies below it. -/
def path : Reader String :=
  String.ofList <$> measured fun cs => pathLength (cs.length + 1) cs

/-- A quoted text. -/
def quoted : Reader String := do
  let cs ← measured quotedLength
  return String.ofList cs.tail.dropLast

/-- A truth value. -/
def truthValue : Reader Bool :=
  rule (oneOf [("true", true), ("false", false), ("True", true), ("False", false)])

/-- The value of digits. -/
def digitsValue (cs : List Char) : Nat :=
  cs.foldl (fun n c => n * 10 + (c.toNat - '0'.toNat)) 0

/-- A whole number of 64 bits. -/
def integer : Reader Int := do
  let cs ← measured integerLength
  let n : Int := match cs with
    | '-' :: rest => -(digitsValue rest : Int)
    | _ => digitsValue cs
  if Word.isSigned n then return n
  else refuse s!"Integer out of bounds: `{String.ofList cs}`"

/-- The length of a number with a point, which has digits on both sides. -/
def realLength (cs : List Char) : Option Nat := do
  let n ← integerLength cs
  match cs.drop n with
  | '.' :: rest =>
    match (rest.takeWhile Char.isDigit).length with
    | 0 => none
    | places => some (n + 1 + places)
  | _ => none

/-- A number with a point. -/
def real : Reader Double := do
  let cs ← measured realLength
  let digits := cs.filter Char.isDigit
  let places := (cs.dropWhile (· != '.')).length - 1
  let d := Double.ofDecimal (digitsValue digits) (-(places : Int))
  return if cs.head? = some '-' then d.neg else d

/-! ## Precedence -/

/-- A product of what is given with the first operands that follow, and the remaining ones. -/
def Arithmetic.products {α : Type} (combine : Arithmetic → α → α → α) (first : α) :
    List (Arithmetic × α) → α × List (Arithmetic × α)
  | [] => (first, [])
  | (.add, b) :: rest => (first, (.add, b) :: rest)
  | (.sub, b) :: rest => (first, (.sub, b) :: rest)
  | (op, b) :: rest => products combine (combine op first b) rest

/-- Operands joined from the left, products before sums. At most `fuel` sums are taken. -/
def Arithmetic.sums {α : Type} (combine : Arithmetic → α → α → α) :
    (fuel : Nat) → α → List (Arithmetic × α) → α
  | 0, first, _ => first
  | fuel + 1, first, rest =>
    match products combine first rest with
    | (total, []) => total
    | (total, (op, b) :: rest) =>
      let (next, rest) := products combine b rest
      sums combine fuel (combine op total next) rest

/-- Operands joined by their precedence. -/
def Arithmetic.tree {α : Type} (combine : Arithmetic → α → α → α) (first : α)
    (rest : List (Arithmetic × α)) : α :=
  sums combine (rest.length + 1) first rest

/-- Conditions joined from the left, `and` before `or`: `pending` waits for the end of what `and`
    joins. -/
def Relation.tree (pending : Option Expr) (first : Expr) : List (Relation × Expr) → Expr
  | [] => close pending first
  | (.and, b) :: rest => tree pending (.plain (.relation .and first b)) rest
  | (_, b) :: rest => tree (some (close pending first)) b rest
where
  /-- What is pending, joined by `or` with what follows. -/
  close (pending : Option Expr) (e : Expr) : Expr :=
    match pending with
    | none => e
    | some p => .plain (.relation .or p e)

/-! ## Expressions -/

/-- An operation on numbers. -/
def arithmeticSign : Reader Arithmetic :=
  rule (oneOf [("+", .add), ("-", .sub), ("*", .mul), ("/", .div), ("%", .rem)])

/-- A comparison. -/
def comparisonSign : Reader Relation :=
  rule (oneOf [("<=", .le), (">=", .ge), ("<", .lt), (">", .gt), ("==", .eq), ("!=", .ne)])

/-- A word that a blank follows. -/
def wordMark (s : String) : Reader Unit := rule do
  exactly s
  let _ ← run 1 fun c => c == ' ' || c == '\t' || c == '\r' || c == '\n'

/-- A word for a connection of conditions. -/
def connective : Reader Relation :=
  orElse ((fun _ => .or) <$> wordMark "or") ((fun _ => .and) <$> wordMark "and")

/-- Some things with a separator between them, and maybe one after the last. -/
def separated {α : Type} (p : Reader α) : Reader (List α) := do
  let first ← spaced p
  let rest ← many (do
    mark ","
    spaced p)
  let _ ← optional (mark ",")
  return first :: rest

/-- The readers of the expressions one level of nesting down. -/
structure Nested where
  /-- A whole expression. -/
  condition : Reader Expr
  /-- One of the conditions that `and` and `or` connect, which is what lists hold. -/
  item : Reader Expr
  /-- A computation in parentheses. -/
  basic : Reader Operand

section

variable {α : Type} (nested : Nested)

/-- An argument with its name. -/
def argumentOf (value : Reader Expr) : Reader (String × Expr) := rule do
  let name ← identifier
  mark "="
  return (name, ← spaced value)

/-- Arguments in parentheses; of two with one name the last counts. -/
def argumentsOf (value : Reader Expr) : Reader (List (String × Expr)) := do
  mark "("
  let args := (← optional (separated (argumentOf value))).getD []
  mark ")"
  return args.foldl (fun kept a => kept.filter (·.1 != a.1) ++ [a]) []

/-- The call of a function or filter with arguments. -/
def callOf (value : Reader Expr) : Reader Call := rule do
  let name ← identifier
  return .mk name (← argumentsOf value)

/-- A filter, with or without arguments. -/
def filterCallOf (value : Reader Expr) : Reader Call :=
  orElse (callOf value) ((.mk · []) <$> identifier)

/-- The filters that a value goes through. -/
def filtersOf (value : Reader Expr) : Reader (List Call) :=
  many (spaced (rule do
    exactly "|"
    spaced (filterCallOf value)))

/-- A list in brackets. -/
def listOf : Reader Operand := rule do
  exactly "["
  let items ← optional (separated nested.item)
  mark "]"
  return .array (items.getD [])

/-- The value of an argument one level down. It is a condition, or a list, whose filters have no
    lists for arguments. -/
def Nested.value : Reader Expr := orElse nested.condition (rule do
  return .mk (← listOf nested) false (← filtersOf nested.condition))

/-- A check of a variable. -/
def checkOf (isNegated : Bool) : Reader Operand := rule do
  let name ← path
  mark "is"
  if isNegated then mark "not"
  let check ← spaced identifier
  let args ← optional (do
    mark "("
    let args ← separated nested.value
    mark ")"
    return args)
  return .check isNegated name check (args.getD [])

/-- The text of a definition, by the name it was taken over under. -/
def invocationOf : Reader Operand := rule do
  let space ← identifier
  mark "::"
  let name ← spaced identifier
  return .invoke space name (← argumentsOf nested.value)

/-- What stands between the signs of a computation. -/
def basicOperandOf : Reader Operand :=
  choice [
    do
      exactly "("
      let operand ← spaced nested.basic
      mark ")"
      return operand,
    .truth <$> truthValue,
    checkOf nested true,
    checkOf nested false,
    invocationOf nested,
    .call <$> callOf nested.value,
    .path <$> path,
    .real <$> real,
    .integer <$> integer]

/-- A computation. -/
def basicOf : Reader Operand := rule do
  let first ← basicOperandOf nested
  let rest ← many (do
    let op ← spaced arithmeticSign
    return (op, ← spaced (basicOperandOf nested)))
  return Arithmetic.tree (fun op a b => .arithmetic op (.plain a) (.plain b)) first rest

/-- A computation and its filters. -/
def basicWithFiltersOf : Reader Expr := rule do
  return .mk (← basicOf nested) false (← filtersOf nested.value)

/-- A list and its filters. -/
def listWithFiltersOf : Reader Expr := rule do
  return .mk (← listOf nested) false (← filtersOf nested.value)

/-- What is put together to a text. -/
def joinableOf : Reader Operand :=
  choice [.call <$> callOf nested.value, .real <$> real, .integer <$> integer, .text <$> quoted,
    .path <$> path]

/-- A text put together from parts. -/
def joinedOf : Reader Operand := rule do
  let first ← joinableOf nested
  mark "~"
  let second ← spaced (joinableOf nested)
  let rest ← many (do
    mark "~"
    spaced (joinableOf nested))
  return .joined (first :: second :: rest)

/-- A text and its filters. -/
def textWithFiltersOf : Reader Expr := rule do
  let operand ← orElse (joinedOf nested) (.text <$> quoted)
  return .mk operand false (← filtersOf nested.value)

/-- A computation whose operands have filters of their own. -/
def comparableOf : Reader Expr := rule do
  let first ← basicWithFiltersOf nested
  let rest ← many (do
    let op ← spaced arithmeticSign
    return (op, ← spaced (basicWithFiltersOf nested)))
  return Arithmetic.tree (fun op a b => .plain (.arithmetic op a b)) first rest

/-- One value, or two compared. -/
def comparisonOf : Reader Expr := rule do
  let side := orElse (textWithFiltersOf nested) (comparableOf nested)
  let lhs ← side
  let rhs ← optional (do
    let op ← spaced comparisonSign
    return (op, ← spaced side))
  match rhs with
  | none => return lhs
  | some (op, rhs) => return .plain (.relation op lhs rhs)

/-- Whether one value holds another. -/
def membershipOf : Reader Expr := rule do
  let lhs ← orElse (textWithFiltersOf nested) (basicWithFiltersOf nested)
  let isNegated ← present (spaced (wordMark "not"))
  mark "in"
  let rhs ← spaced (choice [textWithFiltersOf nested, listWithFiltersOf nested,
    basicWithFiltersOf nested])
  return .plain (.membership isNegated lhs rhs)

/-- One of the conditions that `and` and `or` connect. -/
def connectedOf : Reader Expr := rule do
  let isNegated ← present (wordMark "not")
  let e ← spaced (choice [membershipOf nested, comparisonOf nested, do
    exactly "("
    let e ← spaced nested.condition
    mark ")"
    return e])
  return if isNegated then e.negate else e

/-- Conditions, connected. -/
def conditionOf : Reader Expr := rule do
  let first ← connectedOf nested
  let rest ← many (do
    let op ← spaced connective
    return (op, ← spaced (connectedOf nested)))
  return Relation.tree none first rest

/-- A condition, or a list with its filters: what most tags ask for. -/
def valueOf : Reader Expr := orElse (conditionOf nested) (listWithFiltersOf nested)

end

/-- The readers of expressions that are nested at most `fuel` deep. -/
def Nested.within : (fuel : Nat) → Nested
  | 0 => ⟨miss, miss, miss⟩
  | fuel + 1 =>
    { condition := fun c furthest => conditionOf (within fuel) c furthest
      item := fun c furthest => connectedOf (within fuel) c furthest
      basic := fun c furthest => basicOf (within fuel) c furthest }

end Folio.Template
