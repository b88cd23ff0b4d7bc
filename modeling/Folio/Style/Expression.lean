import Folio.Double
import Folio.Style.Scan

/-!
# Expressions of style sheets

Expressions are read by levels, from lists divided by commas down to single operands. Whether a
minus is an operator or belongs to what follows depends on the blanks around it, and a quotient of
numbers outside parentheses may be meant as it is written.

All levels are functions of the reader for single operands; only that one calls itself.

* `Style.Scan.expression`: an expression;
* `Style.Scan.argumentList`: the arguments of a call.
-/

namespace Folio.Style

/-- The expression as an operand: quotients in it are computed. -/
def Expression.settle : Expression → Expression
  | .binary .divide l r true => .binary .divide l.settle r.settle false
  | e => e

/-- Whether a quotient with this operand may stay as it is written. -/
def Expression.isSlashOperand : Expression → Bool
  | .number .. | .calculation .. | .binary .divide _ _ true => true
  | _ => false

namespace Scan

/-- An operator between its operands. -/
def operation (inParens : Bool) (op : BinaryOperator) (l r : Expression) : Expression :=
  if op = .divide then
    .binary op l r (!inParens && l.isSlashOperand && r.isSlashOperand)
  else .binary op l.settle r.settle false

/-! ## Numbers -/

/-- The number that digits make, with so many of them behind the point and an exponent. -/
def numberOf (digits : List Char) (places : Nat) (exponent : Int) : Float :=
  let n := digits.foldl (fun v c => v * 10 + (c.toNat - '0'.toNat)) 0
  (Double.ofDecimal n (exponent - places)).toFloat

/-- The exponent of a number, if there is one. -/
def exponent : Scan Int := do
  match ← get with
  | e :: sign :: rest =>
    let digits (cs : List Char) := cs.takeWhile Char.isDigit
    let value (cs : List Char) : Int :=
      cs.foldl (fun v c => v * 10 + ((c.toNat - '0'.toNat : Nat) : Int)) 0
    if e ≠ 'e' ∧ e ≠ 'E' then return 0
    else if sign.isDigit then
      skip 1
      return value (← takeWhile Char.isDigit)
    else if (sign = '-' ∨ sign = '+') ∧ !(digits rest).isEmpty then
      skip 2
      let v := value (← takeWhile Char.isDigit)
      return if sign = '-' then -v else v
    else return 0
  | _ => return 0

/-- The unit of a number; a dash in it is not followed by a digit. -/
def unitWithin : (fuel : Nat) → Scan (List Char)
  | 0 => return []
  | fuel + 1 => do
    match ← get with
    | '-' :: c :: _ =>
      if c.isDigit || c == '.' then return []
      else
        skip 1
        return '-' :: (← unitWithin fuel)
    | c :: _ =>
      if isNamePart c ∧ c ≠ '-' then
        skip 1
        return c :: (← unitWithin fuel)
      else return []
    | [] => return []

/-- A number without a sign. -/
def unsignedNumber (isNegative : Bool) : Scan Expression := do
  let whole ← takeWhile Char.isDigit
  let fraction ← match ← get with
    | '.' :: c :: _ =>
      if c.isDigit then
        skip 1
        takeWhile Char.isDigit
      else pure []
    | _ => pure []
  if whole.isEmpty ∧ fraction.isEmpty then throw "expected a number"
  let power ← exponent
  let value := numberOf (whole ++ fraction) fraction.length power
  let value := if isNegative then -value else value
  if ← accept "%" then return .number value "%"
  else
    let cs ← get
    if startsIdentifier cs ∧ cs.head? ≠ some '#' ∧ !Text.begins ['-', '-'] cs ∧
        !Text.begins ['-', '#'] cs then
      return .number value (String.ofList (← unitWithin cs.length))
    else return .number value ""

/-! ## Levels -/

/-- Operands of one level with the operators between them, of which there are at most `fuel`. -/
def chain (inParens : Bool) (operand : Scan Expression) (operator? : Scan (Option BinaryOperator)) :
    (fuel : Nat) → Expression → Scan Expression
  | 0, l => return l
  | fuel + 1, l => do
    match ← operator? with
    | none => return l
    | some op =>
      blanks
      let r ← operand
      chain inParens operand operator? fuel (operation inParens op l r)

/-- One level above another: its operands, and an operator if one comes next. -/
def level (inParens : Bool) (operand : Scan Expression)
    (operator? : List Char → Bool → Option (BinaryOperator × Nat)) : Scan Expression := do
  let first ← operand
  let next : Scan (Option BinaryOperator) := do
    let before ← get
    blanks
    let cs ← get
    match operator? cs (cs.length < before.length) with
    | some (op, length) =>
      skip length
      return some op
    | none =>
      set before
      return none
  chain inParens operand next ((← get).length + 1) first

/-- Operators of products. -/
def productOperator? (cs : List Char) (_afterBlank : Bool) : Option (BinaryOperator × Nat) :=
  match cs with
  | '*' :: _ => some (.times, 1)
  | '/' :: _ => some (.divide, 1)
  | '%' :: _ => some (.modulo, 1)
  | _ => none

/-- Operators of sums. A minus behind a blank and right before a number is its sign, and one before
    a name belongs to the name. -/
def sumOperator? (cs : List Char) (afterBlank : Bool) : Option (BinaryOperator × Nat) :=
  match cs with
  | '+' :: _ => some (.plus, 1)
  | '-' :: rest =>
    if afterBlank ∧ rest.head?.any (fun c => c.isDigit || c == '.') then none
    else if startsIdentifier ('-' :: rest) then none
    else some (.minus, 1)
  | _ => none

/-- Operators of comparisons. -/
def orderOperator? (cs : List Char) (_afterBlank : Bool) : Option (BinaryOperator × Nat) :=
  match cs with
  | '<' :: '=' :: _ => some (.le, 2)
  | '<' :: _ => some (.lt, 1)
  | '>' :: '=' :: _ => some (.ge, 2)
  | '>' :: _ => some (.gt, 1)
  | _ => none

/-- Operators of equality. -/
def equalityOperator? (cs : List Char) (_afterBlank : Bool) : Option (BinaryOperator × Nat) :=
  match cs with
  | '=' :: '=' :: _ => some (.eq, 2)
  | '!' :: '=' :: _ => some (.ne, 2)
  | _ => none

/-- An operator that is a word. -/
def wordOperator? (word : String) (op : BinaryOperator) (cs : List Char) (_afterBlank : Bool) :
    Option (BinaryOperator × Nat) :=
  if (cs.takeWhile isNamePart).map Char.toLower = word.toList then some (op, word.length) else none

/-- A sum of operands. -/
def sum (inParens : Bool) (single : Scan Expression) : Scan Expression :=
  level inParens (level inParens single productOperator?) sumOperator?

/-- Operands with operators between them. -/
def operations (inParens : Bool) (single : Scan Expression) : Scan Expression :=
  let comparison := level inParens (sum inParens single) orderOperator?
  let equality := level inParens comparison equalityOperator?
  level inParens (level inParens equality (wordOperator? "and" .and)) (wordOperator? "or" .or)

/-- Whether an operand comes next. -/
def startsOperand (cs : List Char) : Bool :=
  match cs with
  | [] => false
  | '.' :: c :: _ => c.isDigit
  | '!' :: rest =>
    Text.begins "important".toList ((rest.dropWhile isBlank).map Char.toLower)
  | c :: _ => startsName c || c.isDigit || "(/[\"'#+-\\$&".toList.contains c

/-- Further items of a list divided by blanks, last first. -/
def itemsWithin (item : Scan Expression) (stops : Scan Bool) :
    (fuel : Nat) → List Expression → Scan (List Expression)
  | 0, items => return items
  | fuel + 1, items => do
    let before ← get
    blanks
    if startsOperand (← get) ∧ !(← stops) then
      let e ← item
      itemsWithin item stops fuel (e :: items)
    else
      set before
      return items

/-- A list divided by blanks, or its only item, up to a place where reading stops. -/
def spacedUntil (inParens : Bool) (single : Scan Expression) (stops : Scan Bool) :
    Scan Expression := do
  let item := operations inParens single
  let first ← item
  match ← itemsWithin item stops ((← get).length + 1) [first] with
  | [e] => return e
  | items => return .list items.reverse .space false

/-- A list divided by blanks, or its only item. -/
def spaced (inParens : Bool) (single : Scan Expression) : Scan Expression :=
  spacedUntil inParens single (return false)

/-- Further items of a list divided by commas, last first. A comma may stand behind the last one. -/
def commaItemsWithin (item : Scan Expression) :
    (fuel : Nat) → List Expression → Scan (List Expression)
  | 0, items => return items
  | fuel + 1, items => do
    let before ← get
    blanks
    if ← accept "," then
      blanks
      if startsOperand (← get) then
        let e ← item
        commaItemsWithin item fuel (e :: items)
      else return items
    else
      set before
      return items

/-- A list divided by commas, or its only item. -/
def commaList (inParens : Bool) (single : Scan Expression) : Scan Expression := do
  let first ← spaced inParens single
  let before ← get
  blanks
  if ← isNext "," then
    let items ← commaItemsWithin (spaced inParens single) ((← get).length + 1) [first]
    return .list items.reverse .comma false
  else
    set before
    return first

/-! ## Arguments -/

/-- An argument, which may be a text with an equals sign in it. -/
def assigned (item : Scan Expression) : Scan Expression := do
  let l ← item
  let before ← get
  blanks
  match ← get with
  | '=' :: _ =>
    skip 1
    blanks
    let r ← item
    return .word [.value l, .chars ['='], .value r]
  | _ =>
    set before
    return l

/-- Further arguments of a call, the ones read last first, up to the closing parenthesis. -/
def argumentsWithin (item : Scan Expression) : (fuel : Nat) → List Expression →
    List (String × Expression) → List Expression → Scan Arguments
  | 0, _, _, _ => throw "expected )"
  | fuel + 1, positional, named, spread => do
    blanks
    if ← accept ")" then return .mk positional.reverse named.reverse spread.reverse
    else
      let e ← assigned item
      blanks
      let isNamed ← match e with
        | .named none _ => isNext ":"
        | _ => pure false
      let (positional, named, spread) ← if isNamed then do
          skip 1
          blanks
          let v ← item
          let key := match e with
            | .named _ name => name
            | _ => ""
          pure (positional, (key, v) :: named, spread)
        else if ← accept "..." then pure (positional, named, e :: spread)
        else if named.isEmpty && spread.isEmpty then pure (e :: positional, named, spread)
        else throw "expected a name"
      blanks
      if ← accept "," then argumentsWithin item fuel positional named spread
      else
        expect ")"
        return .mk positional.reverse named.reverse spread.reverse

/-- The arguments of a call in parentheses. -/
def argumentList (inParens : Bool) (single : Scan Expression) : Scan Arguments := do
  expect "("
  argumentsWithin (spaced inParens single) ((← get).length + 1) [] [] []

/-! ## Single operands -/

/-- Further entries of a map, last first, up to the closing parenthesis. -/
def entriesWithin (item : Scan Expression) :
    (fuel : Nat) → List (Expression × Expression) → Scan Expression
  | 0, _ => throw "expected )"
  | fuel + 1, entries => do
    blanks
    if ← accept ")" then return .map entries.reverse
    else
      let k ← item
      blanks
      expect ":"
      blanks
      let v ← item
      blanks
      if ← accept "," then entriesWithin item fuel ((k, v) :: entries)
      else
        expect ")"
        return .map ((k, v) :: entries).reverse

/-- What stands in parentheses: a map, a list or an expression. -/
def parenthesized (single : Scan Expression) : Scan Expression := do
  expect "("
  blanks
  if ← accept ")" then return .list [] .undecided false
  let item := spaced true single
  let first ← item
  blanks
  if ← accept ":" then
    blanks
    let v ← item
    blanks
    if ← accept "," then entriesWithin item ((← get).length + 1) [(first, v)]
    else
      expect ")"
      return .map [(first, v)]
  else if ← isNext "," then
    let items ← commaItemsWithin item ((← get).length + 1) [first]
    blanks
    expect ")"
    return .list items.reverse .comma false
  else
    expect ")"
    return .parens first

/-- A list in brackets. -/
def bracketed (inParens : Bool) (single : Scan Expression) : Scan Expression := do
  expect "["
  blanks
  if ← accept "]" then return .list [] .undecided true
  let e ← commaList inParens single
  blanks
  expect "]"
  match e with
  | .list items separator false => return .list items separator true
  | e => return .list [e] .undecided true

/-- Whether the digits of a color are as many as there can be. -/
def isHexColor (digits : List Char) : Bool :=
  digits.all isHex && [3, 4, 6, 8].contains digits.length

/-- What stands behind a hash: the digits of a color, or a name. -/
def hash (expression : Scan Expression) : Scan Expression := do
  skip 1
  if (← peek).any Char.isDigit then
    let digits ← takeWhile isHex
    if isHexColor digits then return .hexColor digits else throw "expected a color"
  else
    let pieces ← composedName expression
    match plain? pieces with
    | some digits =>
      if isHexColor digits then return .hexColor digits
      else return .word (.chars ('#' :: digits) :: [])
    | none => return .word (.chars ['#'] :: pieces)

/-- The address in parentheses, if it is written without quotes. -/
def addressWithin (expression : Scan Expression) : (fuel : Nat) → Composed → Scan Composed
  | 0, _ => throw "expected )"
  | fuel + 1, pieces => do
    match ← get with
    | [] => throw "expected )"
    | ')' :: _ =>
      skip 1
      return (addChars [')'] pieces).reverse
    | '\\' :: c :: _ =>
      skip 2
      addressWithin expression fuel (addChars ['\\', c] pieces)
    | '#' :: '{' :: _ =>
      addressWithin expression fuel ((← interpolation expression) :: pieces)
    | c :: _ =>
      if isBlank c then
        let _ ← takeWhile isBlank
        expect ")"
        return (addChars [')'] pieces).reverse
      else if c = '!' ∨ c = '%' ∨ c = '&' ∨ c = '#' ∨ ('*' ≤ c ∧ c ≤ '~') ∨ c.toNat ≥ 0x80 then
        skip 1
        addressWithin expression fuel (addChars [c] pieces)
      else throw "no address"

/-- Raw text in parentheses behind a name. -/
def rawCall (expression : Scan Expression) (word : String) : Scan Expression := do
  expect "("
  let inside ← rawText expression { stops := [')'], nests := true, keepsComments := true }
  expect ")"
  return .word ((addChars [')'] (inside.reverse ++ [.chars (word.toList ++ ['('])])).reverse)

/-- Whether something is composed into what stands up to the parenthesis that closes here. -/
def composesWithin : (depth : Nat) → List Char → Bool
  | _, [] => false
  | _, '#' :: '{' :: _ => true
  | depth, '(' :: rest => composesWithin (depth + 1) rest
  | 0, ')' :: _ => false
  | depth + 1, ')' :: rest => composesWithin depth rest
  | depth, _ :: rest => composesWithin depth rest

/-- Operators in a calculation, where those of sums stand between blanks. -/
def calculationOperator? (ofSums : Bool) (cs : List Char) (afterBlank : Bool) :
    Option (BinaryOperator × Nat) :=
  match cs with
  | '+' :: c :: _ => if ofSums ∧ afterBlank ∧ isBlank c then some (.plus, 1) else none
  | '-' :: c :: _ => if ofSums ∧ afterBlank ∧ isBlank c then some (.minus, 1) else none
  | '*' :: _ => if ofSums then none else some (.times, 1)
  | '/' :: _ => if ofSums then none else some (.divide, 1)
  | _ => none

/-- A sum in a calculation. -/
def calculationSum (operand : Scan Expression) : Scan Expression :=
  level true (level true operand (calculationOperator? false)) (calculationOperator? true)

/-- An operand of a calculation, nested in at most `fuel` parentheses. -/
def calculationOperand (single : Scan Expression) : (fuel : Nat) → Scan Expression
  | 0 => throw "expected )"
  | fuel + 1 => do
    if ← accept "(" then
      blanks
      let e ← calculationSum (calculationOperand single fuel)
      blanks
      expect ")"
      return .parens e
    else single

/-- Further operands of a calculation, last first, up to the closing parenthesis. -/
def calculationOperandsWithin (operand : Scan Expression) :
    (fuel : Nat) → List Expression → Scan (List Expression)
  | 0, _ => throw "expected )"
  | fuel + 1, operands => do
    blanks
    let e ← operand
    blanks
    if ← accept "," then calculationOperandsWithin operand fuel (e :: operands)
    else
      expect ")"
      return (e :: operands).reverse

/-- A calculation by its name. -/
def calculation (single : Scan Expression) (word : String) : Scan Expression := do
  expect "("
  let length := (← get).length + 1
  let operand := calculationSum (calculationOperand single length)
  return .calculation word (← calculationOperandsWithin operand length [])

/-- What a name that is no keyword and stands before a parenthesis calls. -/
def called (inParens : Bool) (single : Scan Expression) (word : String) : Scan Expression := do
  let expression := commaList inParens single
  let lower := word.map Char.toLower
  let plainCall : Scan Expression := do
    return .call none word (← argumentList inParens single)
  if lower = "calc" ∨ lower = "clamp" then
    if composesWithin 0 ((← get).drop 1) then rawCall expression word
    else calculation single lower
  else if lower = "min" ∨ lower = "max" then
    if composesWithin 0 ((← get).drop 1) then plainCall
    else
      match ← attempt (calculation single lower) with
      | some e => return e
      | none => plainCall
  else if lower.endsWith "-calc" ∨ lower = "element" ∨ lower = "expression" then
    rawCall expression word
  else if lower = "url" then
    let address : Scan Composed := do
      expect "("
      let _ ← takeWhile isBlank
      addressWithin expression ((← get).length + 1) [.chars (word.toList ++ ['('])]
    match ← attempt address with
    | some pieces => return .word pieces
    | none => plainCall
  else plainCall

/-- What begins with a name. -/
def nameLike (inParens : Bool) (single : Scan Expression) : Scan Expression := do
  let pieces ← composedName (commaList inParens single)
  match plain? pieces with
  | none =>
    if ← isNext "(" then return .composedCall pieces (← argumentList inParens single)
    else return .word pieces
  | some word =>
    let word := String.ofList word
    if word = "not" then
      blanks
      return .unary .not (← single)
    else
      match ← get with
      | '(' :: _ => called inParens single word
      | '.' :: '$' :: _ =>
        skip 1
        return .named (some (normalName word)) (← variableName)
      | '.' :: c :: _ =>
        if startsName c ∨ c = '-' then
          skip 1
          let function ← name
          return .call (some (normalName word)) function (← argumentList inParens single)
        else return .word pieces
      | _ => return .word pieces

/-- A single operand, nested in at most `fuel` others. -/
def single : (fuel : Nat) → (inParens : Bool) → Scan Expression
  | 0, _ => throw "expected an expression"
  | fuel + 1, inParens => do
    let inner := single fuel inParens
    match ← get with
    | '(' :: _ => parenthesized (single fuel true)
    | '[' :: _ => bracketed inParens inner
    | '"' :: _ | '\'' :: _ => return .quoted (← quotedText (commaList inParens inner))
    | '$' :: _ => return .named none (← variableName)
    | '&' :: _ =>
      skip 1
      return .parent
    | '#' :: '{' :: _ => nameLike inParens inner
    | '#' :: _ => hash (commaList inParens inner)
    | '!' :: _ =>
      skip 1
      let _ ← takeWhile isBlank
      if ← acceptWord "important" then return .word [.chars "!important".toList]
      else throw "expected !important"
    | '/' :: _ =>
      skip 1
      blanks
      return .unary .divide (← inner)
    | '+' :: c :: _ =>
      skip 1
      if c.isDigit ∨ c = '.' then unsignedNumber false
      else
        blanks
        return .unary .plus (← inner)
    | '-' :: c :: _ =>
      if c.isDigit ∨ c = '.' then
        skip 1
        unsignedNumber true
      else if startsIdentifier (← get) then nameLike inParens inner
      else
        skip 1
        blanks
        return .unary .minus (← inner)
    | u :: '+' :: c :: _ =>
      if (u = 'u' ∨ u = 'U') ∧ (isHex c ∨ c = '?') then
        skip 2
        let range ← takeWhile fun c => isHex c || c == '?' || c == '-'
        return .word [.chars (u :: '+' :: range)]
      else if u.isDigit then unsignedNumber false
      else nameLike inParens inner
    | c :: _ =>
      if c.isDigit ∨ c = '.' then unsignedNumber false else nameLike inParens inner
    | [] => throw "expected an expression"

/-- An operand anywhere in a sheet. -/
def operand : Scan Expression := do single ((← get).length + 1) false

/-- An expression anywhere in a sheet. -/
def expression : Scan Expression := commaList false operand

end Scan

end Folio.Style
