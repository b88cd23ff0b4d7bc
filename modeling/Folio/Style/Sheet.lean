import Folio.Style.Expression

/-!
# Statements of style sheets

Statements are read one by one. Inside a rule a line such as `a:hover` could be a declaration or the
selector of a rule: it is taken for a declaration if it can be read as one to its end, and for a
selector otherwise.

* `Style.Scan.statement`: a statement;
* `Style.parse`: the statements of a whole sheet.
-/

namespace Folio.Style

namespace Scan

/-- Passes over the end of a statement: a semicolon, or the end of the block or sheet. -/
def endStatement : Scan Unit := do
  let _ ← takeWhile isBlank
  match ← get with
  | [] | '}' :: _ => return
  | ';' :: _ => skip 1
  | _ => throw "expected a semicolon"

/-- The same where comments may stand before it. -/
def endLine : Scan Unit := do
  blanks
  endStatement

/-- Statements up to a closing brace, of which there are at most `fuel`. -/
def bodyWithin (statement : Scan (Option Statement)) :
    (fuel : Nat) → List Statement → Scan (List Statement)
  | 0, _ => throw "expected a brace"
  | fuel + 1, statements => do
    let _ ← takeWhile fun c => isBlank c || c == ';'
    match ← get with
    | [] => throw "expected a brace"
    | '}' :: _ =>
      skip 1
      return statements.reverse
    | _ =>
      match ← statement with
      | some s => bodyWithin statement fuel (s :: statements)
      | none => bodyWithin statement fuel statements

/-- A block of statements. -/
def body (statement : Scan (Option Statement)) : Scan (List Statement) := do
  blanks
  expect "\x7b"
  bodyWithin statement ((← get).length + 1) []

/-- The end of a text of a statement that has no block. -/
def statementRaw : RawStyle := { stops := [';', '{', '}', '!'] }

/-! ## Variables and parameters -/

/-- The flags behind the value of a variable: whether it is a default, and whether it is global. -/
def flags : (fuel : Nat) → (isDefault isGlobal : Bool) → Scan (Bool × Bool)
  | 0, isDefault, isGlobal => return (isDefault, isGlobal)
  | fuel + 1, isDefault, isGlobal => do
    blanks
    if ← accept "!" then
      if ← acceptWord "default" then flags fuel true isGlobal
      else if ← acceptWord "global" then flags fuel isDefault true
      else throw "invalid flag"
    else return (isDefault, isGlobal)

/-- A value given to a variable. -/
def assignment : Scan Statement := do
  let name ← variableName
  blanks
  expect ":"
  blanks
  let value ← expression
  let (isDefault, isGlobal) ← flags 10 false false
  endLine
  return .assign name value isDefault isGlobal

/-- Further parameters, the ones read last first, up to the closing parenthesis. -/
def parametersWithin : (fuel : Nat) → List (String × Option Expression) → Scan Parameters
  | 0, _ => throw "expected )"
  | fuel + 1, named => do
    blanks
    if ← accept ")" then return { named := named.reverse }
    else
      let name ← variableName
      blanks
      if ← accept "..." then
        blanks
        let _ ← accept ","
        blanks
        expect ")"
        return { named := named.reverse, rest := some name }
      else
        let default ← if ← accept ":" then do
            blanks
            pure (some (← spaced false operand))
          else pure none
        blanks
        if ← accept "," then parametersWithin fuel ((name, default) :: named)
        else
          expect ")"
          return { named := ((name, default) :: named).reverse }

/-- The parameters of a mixin or function; none if there are no parentheses. -/
def parameters : Scan Parameters := do
  blanks
  if ← accept "(" then parametersWithin ((← get).length + 1) [] else return {}

/-- Arguments, if there are parentheses. -/
def optionalArguments : Scan Arguments := do
  if ← isNext "(" then argumentList false operand else return .mk [] [] []

/-! ## Media and conditions -/

/-- A comparison of a feature, if one comes next: how it is written. -/
def comparison : Scan (Option (List Char)) := do
  match ← get with
  | '<' :: '=' :: _ => skip 2; return some "<=".toList
  | '>' :: '=' :: _ => skip 2; return some ">=".toList
  | '<' :: _ => skip 1; return some ['<']
  | '>' :: _ => skip 1; return some ['>']
  | '=' :: _ => skip 1; return some ['=']
  | _ => return none

/-- A feature in parentheses: a name, maybe with a value or bounds. -/
def feature : Scan Composed := do
  expect "("
  blanks
  let first ← sum false operand
  blanks
  if ← accept ":" then
    blanks
    let value ← expression
    blanks
    expect ")"
    return [.chars ['('], .value first, .chars [':', ' '], .value value, .chars [')']]
  else
    match ← comparison with
    | none =>
      expect ")"
      return [.chars ['('], .value first, .chars [')']]
    | some op =>
      blanks
      let second ← sum false operand
      blanks
      let pieces := [.chars ['('], .value first, .chars ([' '] ++ op ++ [' ']), .value second]
      match ← comparison with
      | none =>
        expect ")"
        return pieces ++ [.chars [')']]
      | some op =>
        blanks
        let third ← sum false operand
        blanks
        expect ")"
        return pieces ++ [.chars ([' '] ++ op ++ [' ']), .value third, .chars [')']]

/-- Features in at most `fuel` parts, combined by words and maybe nested in parentheses, up to a
    character that ends them. Blanks in a row count as one. -/
def featuresWithin (stops : List Char) : (fuel : Nat) → Composed → Scan Composed
  | 0, pieces => return pieces.reverse
  | fuel + 1, pieces => do
    let before ← get
    blanks
    let cs ← get
    let gap := if cs.length < before.length ∧ !pieces.isEmpty then [' '] else []
    match cs with
    | [] => return pieces.reverse
    | '(' :: inner =>
      let inner := inner.dropWhile isBlank
      let isNested := inner.head? == some '(' ||
        (inner.takeWhile isNamePart).map Char.toLower == "not".toList
      match ← if isNested then pure none else attempt feature with
      | some more => featuresWithin stops fuel (more.reverse ++ addChars gap pieces)
      | none =>
        skip 1
        let inside ← featuresWithin [')'] fuel []
        expect ")"
        featuresWithin stops fuel
          (addChars [')'] (inside.reverse ++ addChars (gap ++ ['(']) pieces))
    | '#' :: '{' :: _ =>
      let piece ← interpolation expression
      featuresWithin stops fuel (piece :: addChars gap pieces)
    | c :: _ =>
      if stops.contains c then return pieces.reverse
      else
        skip 1
        if c = ',' then featuresWithin stops fuel (addChars [',', ' '] pieces)
        else featuresWithin stops fuel (addChars (gap ++ [c]) pieces)

/-- The queries of a statement for some media, or the condition of one for some readers. -/
def features : Scan Composed := do
  featuresWithin ['{', ';', '}'] ((← get).length + 1) []

/-! ## Loops -/

/-- The names of the variables of a loop over a list. -/
def loopNames : (fuel : Nat) → Scan (List String)
  | 0 => throw "expected a variable"
  | fuel + 1 => do
    blanks
    let name ← variableName
    blanks
    if ← accept "," then return name :: (← loopNames fuel) else return [name]

/-- Whether the word comes next that ends the first bound of a loop. -/
def endsBound : Scan Bool := do
  let word := ((← get).takeWhile isNamePart).map Char.toLower
  return word = "to".toList ∨ word = "through".toList

/-- A loop over numbers. -/
def forLoop (statement : Scan (Option Statement)) : Scan Statement := do
  blanks
  let name ← variableName
  blanks
  if !(← acceptWord "from") then throw "expected from"
  blanks
  let first ← spacedUntil false operand endsBound
  blanks
  let includesLast ← if ← acceptWord "through" then pure true
    else if ← acceptWord "to" then pure false
    else throw "expected to"
  blanks
  let last ← expression
  return .forLoop name first last includesLast (← body statement)

/-- A loop over a list. -/
def eachLoop (statement : Scan (Option Statement)) : Scan Statement := do
  let names ← loopNames 100
  if !(← acceptWord "in") then throw "expected in"
  blanks
  let list ← expression
  return .eachLoop names list (← body statement)

/-- Further cases behind the first one, of which there are at most `fuel`. -/
def casesWithin (statement : Scan (Option Statement)) :
    (fuel : Nat) → Scan (List (Option Expression × List Statement))
  | 0 => return []
  | fuel + 1 => do
    let before ← get
    blanks
    let isElse ← accept "@else"
    if !isElse then
      set before
      return []
    let isElseIf ← acceptWord "if"
    blanks
    if isElseIf || (← acceptWord "if") then
      blanks
      let condition ← expression
      let statements ← body statement
      return (some condition, statements) :: (← casesWithin statement fuel)
    else return [(none, ← body statement)]

/-- Statements under conditions. -/
def branch (statement : Scan (Option Statement)) : Scan Statement := do
  blanks
  let condition ← expression
  let statements ← body statement
  return .branch ((some condition, statements) :: (← casesWithin statement (← get).length))

/-! ## Statements with an at sign -/

/-- A mixin that is included, maybe with content. -/
def includes (statement : Scan (Option Statement)) : Scan Statement := do
  blanks
  let name := normalName (← name)
  blanks
  let arguments ← optionalArguments
  blanks
  let parameters ← if ← acceptWord "using" then parameters else pure {}
  blanks
  if ← isNext "\x7b" then return .includes name arguments (some (parameters, ← body statement))
  else
    endStatement
    return .includes name arguments none

/-- The module that a sheet uses and its name: its last part unless another one is given. -/
def uses : Scan Statement := do
  blanks
  let target ← quotedText expression
  let target := String.ofList ((plain? target).getD [])
  blanks
  let name ← if ← acceptWord "as" then do
      blanks
      if ← accept "*" then pure none else pure (some (normalName (← name)))
    else pure (some (String.ofList (target.toList.reverse.takeWhile (· != ':')).reverse))
  endLine
  match Text.after? "sass:".toList target.toList with
  | some module => return .uses (String.ofList module) name
  | none => throw "no such module"

/-- The address of another sheet that is not read, if a text is one. -/
def isAddress (cs : List Char) : Bool :=
  Text.ends ".css".toList cs || Text.begins "http://".toList cs ||
    Text.begins "https://".toList cs || Text.begins "//".toList cs

/-- A reference to another sheet, which is left to the reader of the result. -/
def imports : Scan Statement := do
  blanks
  let target ← rawText expression { stops := [';', '}'], nests := true }
  let target := trimComposed target
  endStatement
  let isLeft := match target with
    | .chars s :: _ =>
      Text.begins "url(".toList (s.map Char.toLower) ||
        (match s with
        | q :: inner =>
          let address := inner.takeWhile (· != q)
          (q == '"' || q == '\'') &&
            (isAddress address || inner.length > address.length + 1 || target.length > 1)
        | [] => false)
    | _ => false
  if isLeft then return .imports target else throw "no such sheet"

/-- A statement outside the rules around it. -/
def atRoot (statement : Scan (Option Statement)) : Scan Statement := do
  blanks
  if ← isNext "(" then
    let query ← features
    return .atRoot (some query) (← body statement)
  else if ← isNext "\x7b" then return .atRoot none (← body statement)
  else
    let selector ← rawText expression statementRaw
    return .atRoot none [.rule (trimComposed selector) (← body statement)]

/-- Any other statement that begins with an at sign. -/
def otherStatement (statement : Scan (Option Statement)) (name : Composed) : Scan Statement := do
  let _ ← takeWhile isBlank
  let text ← rawText expression { stops := [';', '{', '}'] }
  let text := trimComposed text
  if ← isNext "\x7b" then return .other name text (some (← body statement))
  else
    endStatement
    return .other name text none

/-- A statement that begins with an at sign. `inner` reads the statements in its block where no
    property may be declared that is not inside a rule, and `anywhere` those where one may. -/
def atStatement (inner anywhere : Scan (Option Statement)) : Scan (Option Statement) := do
  skip 1
  let name' ← composedName expression
  match (plain? name').map String.ofList with
  | some "charset" =>
    blanks
    let _ ← quotedText expression
    endLine
    return none
  | some "if" => return some (← branch inner)
  | some "for" => return some (← forLoop inner)
  | some "each" => return some (← eachLoop inner)
  | some "while" =>
    blanks
    let condition ← expression
    return some (.whileLoop condition (← body inner))
  | some "mixin" =>
    blanks
    let name := normalName (← name)
    return some (.mixin name (← parameters) (← body anywhere))
  | some "function" =>
    blanks
    let name := normalName (← name)
    return some (.function name (← parameters) (← body anywhere))
  | some "include" => return some (← includes anywhere)
  | some "content" =>
    blanks
    let arguments ← optionalArguments
    endLine
    return some (.content arguments)
  | some "return" =>
    blanks
    let value ← expression
    endLine
    return some (.returns value)
  | some "extend" =>
    blanks
    let target ← rawText expression statementRaw
    let isOptional ← if ← accept "!" then do
        if !(← acceptWord "optional") then throw "expected !optional"
        pure true
      else pure false
    endLine
    return some (.extend (trimComposed target) isOptional)
  | some "media" =>
    blanks
    let queries ← features
    return some (.media queries (← body inner))
  | some "supports" =>
    blanks
    let condition ← features
    return some (.supports condition (← body inner))
  | some "at-root" => return some (← atRoot inner)
  | some "error" =>
    blanks
    let value ← expression
    endLine
    return some (.fail value)
  | some "warn" | some "debug" =>
    blanks
    let value ← expression
    endLine
    return some (.note value)
  | some "import" => return some (← imports)
  | some "use" => return some (← uses)
  | some "else" | some "forward" => throw "unexpected rule"
  | _ => return some (← otherStatement anywhere name')

/-! ## Declarations and rules -/

/-- The rest of a comment with at most `fuel` parts. -/
def commentWithin : (fuel : Nat) → Composed → Scan Composed
  | 0, _ => throw "unclosed comment"
  | fuel + 1, pieces => do
    match ← get with
    | [] => throw "unclosed comment"
    | '#' :: '{' :: _ => commentWithin fuel ((← interpolation expression) :: pieces)
    | '*' :: '/' :: _ =>
      skip 2
      return (addChars ['*', '/'] pieces).reverse
    | c :: _ =>
      skip 1
      commentWithin fuel (addChars [c] pieces)

/-- A comment that is kept. -/
def comment : Scan Statement := do
  let place := (← get).length
  skip 2
  return .comment (← commentWithin place [.chars ['/', '*']]) place

/-- A rule with the selector that comes next. -/
def rule (anywhere : Scan (Option Statement)) : Scan Statement := do
  let selector ← rawText expression statementRaw
  if selector.isEmpty then throw "expected a selector"
  return .rule (trimComposed selector) (← body anywhere)

/-- A group of declarations, or one with its value, behind its name and colon. It fails where the
    text is more likely to be a selector. -/
def declarationValue (anywhere : Scan (Option Statement)) (name : Composed) : Scan Statement := do
  let afterColon ← get
  blanks
  if ← isNext "\x7b" then return .declare name none (some (← body anywhere))
  else
    let couldBeSelector := (← get).length = afterColon.length && startsIdentifier afterColon
    let value ← expression
    blanks
    if ← isNext "\x7b" then
      if couldBeSelector then throw "expected a semicolon"
      return .declare name (some value) (some (← body anywhere))
    else
      endStatement
      return .declare name (some value) none

/-- A declaration or a rule. -/
def declarationOrRule (anywhere : Scan (Option Statement)) : Scan Statement := do
  let start ← get
  let isHack := match start with
    | '#' :: '{' :: _ => false
    | c :: _ => c == '*' || c == ':' || c == '#' || c == '.'
    | [] => false
  if isHack then skip 1
  if !startsIdentifier (← get) then
    set start
    rule anywhere
  else
    let hack := start.take (start.length - (← get).length)
    let name ← composedName expression
    let name := addChars hack [] ++ name
    let _ ← takeWhile isBlank
    match ← get with
    | ':' :: ':' :: _ =>
      set start
      rule anywhere
    | ':' :: afterColon =>
      skip 1
      match name with
      | .chars ('-' :: '-' :: _) :: _ =>
        let value ← rawText expression
          { stops := [';', '}'], nests := true, keepsComments := true }
        endStatement
        return .declareRaw name value
      | _ =>
        match (declarationValue anywhere name).run afterColon with
        | .ok (s, rest) =>
          set rest
          return s
        | .error reason =>
          if !startsIdentifier afterColon then throw reason
          else
            let _ ← rawText expression statementRaw
            if ← isNext ";" then throw reason
            set start
            rule anywhere
    | _ =>
      set start
      rule anywhere

/-- A statement, nested in at most `fuel` others, or nothing where it means nothing. Properties may
    be declared inside rules. -/
def statement : (fuel : Nat) → (inRule : Bool) → Scan (Option Statement)
  | 0, _ => throw "expected a statement"
  | fuel + 1, inRule => do
    match ← get with
    | '/' :: '/' :: _ =>
      let _ ← takeWhile (· != '\n')
      return none
    | '/' :: '*' :: _ => return some (← comment)
    | '@' :: _ => atStatement (statement fuel inRule) (statement fuel true)
    | '$' :: _ => return some (← assignment)
    | '}' :: _ => throw "unexpected brace"
    | _ =>
      if inRule then return some (← declarationOrRule (statement fuel true))
      else return some (← rule (statement fuel true))

/-- The statements of a sheet, of which there are at most `fuel`. -/
def statementsWithin (depth : Nat) : (fuel : Nat) → List Statement → Scan (List Statement)
  | 0, statements => return statements.reverse
  | fuel + 1, statements => do
    let _ ← takeWhile fun c => isBlank c || c == ';'
    match ← get with
    | [] => return statements.reverse
    | _ =>
      match ← statement depth false with
      | some s => statementsWithin depth fuel (s :: statements)
      | none => statementsWithin depth fuel statements

end Scan

/-- Whether all modules are named before other rules. -/
def usesFirst (mayUse : Bool) : List Statement → Bool
  | [] => true
  | .uses .. :: rest => mayUse && usesFirst mayUse rest
  | .assign .. :: rest | .comment .. :: rest => usesFirst mayUse rest
  | _ :: rest => usesFirst false rest

/-- The statements of a sheet. -/
def parse (text : List Char) : Except String (List Statement) :=
  match (Scan.statementsWithin (text.length + 1) (text.length + 1) []).run text with
  | .ok (statements, _) =>
    if usesFirst true statements then .ok statements
    else .error "@use rules must be written before any other rules."
  | .error reason => .error reason

end Folio.Style
