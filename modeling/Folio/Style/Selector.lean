import Folio.Style.Scan

/-!
# Selectors

A selector is a list of alternatives. Each is a row of compounds with combinators between some of
them, and a compound is a row of simple selectors that all have to fit. In a rule inside another one
`&` stands for the selector of the outer rule; without it the outer selector comes before the inner
one.

* `Style.Selector`: a selector;
* `Style.Selector.parse`: the selector that a text gives;
* `Style.Selector.text`: how it is written;
* `Style.Selector.within`: a selector inside a rule.
-/

namespace Folio.Style

mutual

/-- A simple selector. -/
inductive Simple where
  /-- Everything, maybe of a namespace. -/
  | universal (namespace_ : String)
  /-- Elements of a name. -/
  | element (name : String)
  /-- Elements of a class. -/
  | cls (name : String)
  /-- The element of an identifier. -/
  | identifier (name : String)
  /-- Nothing, until something extends it. -/
  | placeholder (name : String)
  /-- Elements with an attribute, as it is written. -/
  | attributed (text : String)
  /-- Elements in some state, or parts of elements; maybe with an argument or with selectors. -/
  | pseudo (isPart : Bool) (name argument : String) (inner : List Complex)
  /-- The selector of the outer rule, with something added to its last name. -/
  | parent (suffix : String)

/-- A part of a row: a compound or a combinator. -/
inductive Part where
  /-- Simple selectors that all have to fit. -/
  | compound (simples : List Simple)
  /-- How what follows is related to what comes before. -/
  | combinator (c : Char)

/-- A row of compounds and combinators; it may begin on a line of its own. -/
inductive Complex where
  /-- The row. -/
  | mk (parts : List Part) (onNewLine : Bool)

end

/-- A selector. -/
abbrev Selector := List Complex

/-- The parts of a row. -/
def Complex.parts : Complex → List Part
  | .mk parts _ => parts

/-- Whether a row begins on a line of its own. -/
def Complex.onNewLine : Complex → Bool
  | .mk _ b => b

/-! ## Selectors as text -/

mutual

/-- How a simple selector is written. -/
def Simple.text : Simple → String
  | .universal ns => ns ++ "*"
  | .element name => name
  | .cls name => "." ++ name
  | .identifier name => "#" ++ name
  | .placeholder name => "%" ++ name
  | .attributed text => text
  | .pseudo isPart name argument inner =>
    let colons := if isPart then "::" else ":"
    if argument.isEmpty && inner.isEmpty then colons ++ name
    else
      colons ++ name ++ "(" ++ argument ++
        (if argument.isEmpty || inner.isEmpty then "" else " ") ++
        ", ".intercalate (rowTexts inner) ++ ")"
  | .parent suffix => "&" ++ suffix

/-- How simple selectors are written in a compound. -/
def simpleTexts : List Simple → String
  | [] => ""
  | s :: rest => s.text ++ simpleTexts rest

/-- How a part is written. -/
def Part.text : Part → String
  | .compound simples => simpleTexts simples
  | .combinator c => c.toString

/-- How parts are written. -/
def partTexts : List Part → List String
  | [] => []
  | p :: rest => p.text :: partTexts rest

/-- How a row is written. -/
def Complex.text : Complex → String
  | .mk parts _ => " ".intercalate (partTexts parts)

/-- How rows are written. -/
def rowTexts : List Complex → List String
  | [] => []
  | c :: rest => c.text :: rowTexts rest

end

mutual

/-- Whether a simple selector fits nothing, as it is a placeholder or all its alternatives fit
    nothing. -/
def Simple.isInvisible : Simple → Bool
  | .placeholder _ => true
  | .pseudo _ name _ (c :: rest) => name != "not" && c.isInvisible && areInvisible rest
  | _ => false

/-- Whether any of some simple selectors fits nothing. -/
def anyInvisible : List Simple → Bool
  | [] => false
  | s :: rest => s.isInvisible || anyInvisible rest

/-- Whether a part fits nothing. -/
def Part.isInvisible : Part → Bool
  | .compound simples => anyInvisible simples
  | .combinator _ => false

/-- Whether any of some parts fits nothing. -/
def anyPartInvisible : List Part → Bool
  | [] => false
  | p :: rest => p.isInvisible || anyPartInvisible rest

/-- Whether a row fits nothing. -/
def Complex.isInvisible : Complex → Bool
  | .mk parts _ => anyPartInvisible parts

/-- Whether all rows fit nothing. -/
def areInvisible : List Complex → Bool
  | [] => true
  | c :: rest => c.isInvisible && areInvisible rest

end

namespace Selector

/-- How rows are written one after the other. -/
def textAfter (isFirst : Bool) : List Complex → String
  | [] => ""
  | c :: rest =>
    let gap := if isFirst then "" else if c.onNewLine then ",\n" else ", "
    gap ++ c.text ++ textAfter false rest

/-- How a selector is written, without the rows that fit nothing. -/
def text (s : Selector) : String := textAfter true (s.filter fun c => !c.isInvisible)

end Selector

/-! ## Reading -/

namespace Scan

/-- The names of states whose argument is a selector. -/
def selectorStates : List String :=
  ["not", "is", "matches", "where", "current", "any", "has", "host", "host-context", "slotted"]

/-- A name without the mark of a maker in front. -/
def unprefixed (name : String) : String :=
  match name.toList with
  | '-' :: c :: rest =>
    if c = '-' then name
    else
      match (c :: rest).dropWhile (· != '-') with
      | '-' :: rest => String.ofList rest
      | _ => name
  | _ => name

/-- An attribute in brackets. -/
def attributeTest : Scan Simple := do
  expect "["
  blanks
  let name ← takeWhile fun c => isNamePart c || c == '|' || c == '*'
  if name.isEmpty then throw "expected a name"
  blanks
  if ← accept "]" then return .attributed ("[" ++ String.ofList name ++ "]")
  else
    let op ← takeWhile fun c => "~|^$*=".toList.contains c
    if op.getLast? ≠ some '=' then throw "expected an operator"
    blanks
    let value ← match ← get with
      | '"' :: _ | '\'' :: _ => do
        match plain? (← quotedText (throw "unexpected expression")) with
        | some cs => pure cs
        | none => throw "expected a text"
      | _ => do pure (← Scan.name).toList
    blanks
    let modifier ← takeWhile Char.isAlpha
    blanks
    expect "]"
    let isName := startsIdentifier value && value.all isNamePart && !Text.begins ['-', '-'] value
    let value := if isName then value
      else '"' :: value.flatMap (fun c => if c = '"' ∨ c = '\\' then ['\\', c] else [c]) ++ ['"']
    let ending := if modifier.isEmpty then [] else ' ' :: modifier
    return .attributed (String.ofList ('[' :: name ++ op ++ value ++ ending ++ [']']))

/-- Raw text up to the parenthesis that closes here. -/
def enclosedText : Scan (List Char) := do
  let pieces ← rawText (throw "unexpected expression")
    { stops := [')'], nests := true, keepsComments := true }
  return (((plain? pieces).getD []).reverse.dropWhile isBlank).reverse

/-- A state or part of elements, given how selectors are read. -/
def pseudo (selector : Scan Selector) : Scan Simple := do
  expect ":"
  let isPart ← accept ":"
  let name ← name
  if !(← accept "(") then return .pseudo isPart name "" []
  else
    let _ ← takeWhile isBlank
    let plainName := (unprefixed name).map Char.toLower
    let (argument, inner) ← if selectorStates.contains plainName then do
        let s ← selector
        blanks
        pure ("", s)
      else do
        let cs ← enclosedText
        if plainName = "nth-child" ∨ plainName = "nth-last-child" then
          match Text.cut? " of ".toList cs with
          | none => pure (String.ofList (cs.filter fun c => !isBlank c), [])
          | some (place, rest) =>
            match selector.run rest with
            | .ok (s, _) => pure (String.ofList (place.filter fun c => !isBlank c) ++ " of", s)
            | .error reason => throw reason
        else pure (String.ofList cs, [])
    expect ")"
    return .pseudo isPart name argument inner

/-- The name of elements, or everything; either maybe of a namespace. -/
def elementName : Scan Simple := do
  let part : Scan (List Char) := do
    if ← accept "*" then return ['*']
    else if startsIdentifier (← get) then return (← name).toList
    else return []
  let first ← part
  match ← get with
  | '|' :: '=' :: _ => return .element (String.ofList first)
  | '|' :: _ =>
    skip 1
    let second ← part
    let whole := String.ofList (first ++ ['|'])
    if second = ['*'] then return .universal whole
    else if second.isEmpty then throw "expected a name"
    else return .element (whole ++ String.ofList second)
  | _ =>
    if first = ['*'] then return .universal "" else return .element (String.ofList first)

/-- A simple selector, if one comes next. -/
def simple? (selector : Scan Selector) (isFirst : Bool) : Scan (Option Simple) := do
  match ← get with
  | [] => return none
  | '[' :: _ => return some (← attributeTest)
  | '.' :: _ =>
    skip 1
    return some (.cls (← name))
  | '#' :: _ =>
    skip 1
    return some (.identifier (← name))
  | '%' :: _ =>
    skip 1
    return some (.placeholder (← name))
  | ':' :: _ => return some (← pseudo selector)
  | '&' :: rest =>
    if !isFirst then throw "\"&\" may only be used at the beginning of a compound selector."
    skip 1
    return some (.parent (String.ofList (← nameWithin (rest.length + 1))))
  | '*' :: _ | '|' :: _ =>
    if isFirst then return some (← elementName) else throw "expected selector"
  | c :: rest =>
    if isFirst && startsIdentifier (c :: rest) then return some (← elementName) else return none

/-- Further simple selectors of a compound, the ones read last first. -/
def simplesWithin (selector : Scan Selector) : (fuel : Nat) → List Simple → Scan (List Simple)
  | 0, simples => return simples.reverse
  | fuel + 1, simples => do
    match ← simple? selector simples.isEmpty with
    | some s => simplesWithin selector fuel (s :: simples)
    | none => return simples.reverse

/-- Further parts of a row, the ones read last first. -/
def partsWithin (selector : Scan Selector) : (fuel : Nat) → List Part → Scan (List Part)
  | 0, parts => return parts.reverse
  | fuel + 1, parts => do
    blanks
    match ← get with
    | '>' :: _ | '+' :: _ | '~' :: _ =>
      let c := ((← get).head?).getD '>'
      skip 1
      partsWithin selector fuel (.combinator c :: parts)
    | _ =>
      match ← simplesWithin selector ((← get).length + 1) [] with
      | [] => return parts.reverse
      | simples => partsWithin selector fuel (.compound simples :: parts)

/-- A row that may begin on a line of its own. -/
def row (selector : Scan Selector) (onNewLine : Bool) : Scan Complex := do
  match ← partsWithin selector ((← get).length + 1) [] with
  | [] => throw "expected selector"
  | parts => return .mk parts onNewLine

/-- Further rows of a selector. -/
def rowsWithin (selector : Scan Selector) : (fuel : Nat) → List Complex → Scan (List Complex)
  | 0, rows => return rows.reverse
  | fuel + 1, rows => do
    blanks
    if ← accept "," then
      let before ← get
      blanks
      let gap := before.take (before.length - (← get).length)
      match ← get with
      | [] => return rows.reverse
      | ',' :: _ => rowsWithin selector fuel rows
      | _ => rowsWithin selector fuel ((← row selector (gap.contains '\n')) :: rows)
    else return rows.reverse

/-- A selector, nested in at most `fuel` others. -/
def selectorWithin : (fuel : Nat) → Scan Selector
  | 0 => throw "expected selector"
  | fuel + 1 => do
    blanks
    let first ← row (selectorWithin fuel) false
    rowsWithin (selectorWithin fuel) ((← get).length + 1) [first]

end Scan

namespace Selector

/-- The selector that a text gives. -/
def parse (text : String) : Except String Selector :=
  match (Scan.selectorWithin (text.length + 1)).run text.toList with
  | .ok (s, rest) => if rest.isEmpty then .ok s else .error "expected selector"
  | .error reason => .error reason

/-! ## Rules inside rules -/

/-- The first items of lists, then the second ones, and so on, up to a length. -/
def vertical {α : Type} : (length : Nat) → List (List α) → List α
  | 0, _ => []
  | length + 1, lists => lists.filterMap List.head? ++ vertical length (lists.map (List.drop 1))

/-- Something added to the name of a simple selector. -/
def addSuffix (suffix : String) : Simple → Except String Simple
  | .element name => .ok (.element (name ++ suffix))
  | .cls name => .ok (.cls (name ++ suffix))
  | .identifier name => .ok (.identifier (name ++ suffix))
  | .placeholder name => .ok (.placeholder (name ++ suffix))
  | .pseudo isPart name "" [] => .ok (.pseudo isPart (name ++ suffix) "" [])
  | s => .error s!"Invalid parent selector for {s.text}{suffix}"

/-- A row of an outer selector with something added to its last compound. -/
def extendLast (outer : Complex) (suffix : String) (more : List Simple) : Except String Complex :=
  match outer.parts.getLast? with
  | some (.compound simples) => do
    let simples ←
      if suffix.isEmpty then pure simples
      else
        match simples.getLast? with
        | some s => do pure (simples.dropLast ++ [← addSuffix suffix s])
        | none => pure simples
    return .mk (outer.parts.dropLast ++ [.compound (simples ++ more)]) outer.onNewLine
  | _ => .error s!"Parent {outer.text} is incompatible"

mutual

/-- Whether the outer selector is referred to. -/
def refers : Simple → Bool
  | .parent _ => true
  | .pseudo _ _ _ inner => rowsRefer inner
  | _ => false

/-- Whether any of some simple selectors refers to the outer one. -/
def simplesRefer : List Simple → Bool
  | [] => false
  | s :: rest => refers s || simplesRefer rest

/-- Whether a part refers to the outer selector. -/
def partRefers : Part → Bool
  | .compound simples => simplesRefer simples
  | .combinator _ => false

/-- Whether any of some parts refers to the outer selector. -/
def partsRefer : List Part → Bool
  | [] => false
  | p :: rest => partRefers p || partsRefer rest

/-- Whether a row refers to the outer selector. -/
def rowRefers : Complex → Bool
  | .mk parts _ => partsRefer parts

/-- Whether any of some rows refers to the outer selector. -/
def rowsRefer : List Complex → Bool
  | [] => false
  | c :: rest => rowRefers c || rowsRefer rest

end

/-- The rows that a compound stands for inside a rule with selector `outer`. -/
def compoundWithin (outer : Selector) (simples : List Simple) : Except String (List Complex) :=
  match simples with
  | [.parent ""] => .ok outer
  | .parent suffix :: more => outer.mapM fun c => extendLast c suffix more
  | simples => .ok [.mk [.compound simples] false]

/-- The rows that some parts stand for, added to each of the rows before them. -/
def partsWithin (outer : Selector) : List Complex → List Part → Except String (List Complex)
  | rows, [] => .ok rows
  | rows, .combinator c :: rest =>
    partsWithin outer (rows.map fun r => .mk (r.parts ++ [.combinator c]) r.onNewLine) rest
  | rows, .compound simples :: rest => do
    let inner ← compoundWithin outer simples
    let rows := rows.flatMap fun r => inner.map fun i =>
      .mk (r.parts ++ i.parts) (r.onNewLine || i.onNewLine)
    partsWithin outer rows rest

/-- The rows that a row stands for inside a rule with selector `outer`. -/
def rowWithin (outer : Selector) (isImplicit : Bool) (row : Complex) :
    Except String (List Complex) :=
  if rowRefers row then partsWithin outer [.mk [] row.onNewLine] row.parts
  else if isImplicit then
    .ok (outer.map fun o => .mk (o.parts ++ row.parts) (row.onNewLine || o.onNewLine))
  else .ok [row]

mutual

/-- A simple selector with the references in its argument resolved. -/
def resolveSimple (outer : Selector) : Simple → Except String Simple
  | .pseudo isPart name argument inner => do
    return .pseudo isPart name argument (← resolveRows outer inner)
  | s => .ok s

/-- Simple selectors with the references in their arguments resolved. -/
def resolveSimples (outer : Selector) : List Simple → Except String (List Simple)
  | [] => .ok []
  | s :: rest => do return (← resolveSimple outer s) :: (← resolveSimples outer rest)

/-- A part with the references in its arguments resolved. -/
def resolvePart (outer : Selector) : Part → Except String Part
  | .compound simples => do return .compound (← resolveSimples outer simples)
  | p => .ok p

/-- Parts with the references in their arguments resolved. -/
def resolveParts (outer : Selector) : List Part → Except String (List Part)
  | [] => .ok []
  | p :: rest => do return (← resolvePart outer p) :: (← resolveParts outer rest)

/-- Rows of an argument with all references resolved. -/
def resolveRows (outer : Selector) : List Complex → Except String (List Complex)
  | [] => .ok []
  | .mk parts onNewLine :: rest => do
    let parts ← resolveParts outer parts
    return (← rowWithin outer false (.mk parts onNewLine)) ++ (← resolveRows outer rest)

end

/-- A selector inside a rule with selector `outer`, or outside of all rules. If `isImplicit`, the
    outer selector comes before the rows that do not refer to it. -/
def within (outer : Option Selector) (isImplicit : Bool) (s : Selector) : Except String Selector :=
  match outer with
  | none =>
    if rowsRefer s then
      .error "Top-level selectors may not contain the parent selector \"&\"."
    else .ok s
  | some outer => do
    let rows ← s.mapM fun (c : Complex) => do
      let parts ← resolveParts outer c.parts
      let resolved ← rowWithin outer isImplicit
        (if rowRefers c then .mk c.parts c.onNewLine else .mk parts c.onNewLine)
      resolved.mapM fun r => do return .mk (← resolveParts outer r.parts) r.onNewLine
    return vertical (rows.foldl (fun n r => max n r.length) 0) rows

end Selector

end Folio.Style
