import Folio.Style.Selector

/-!
# Extensions

A rule can ask that its own selector stands wherever some simple selector stands. Each row of the
rule is then an *extender* of that *target*: a row with the target in it is followed by the rows
that have the extender in its place. Where the rest of the row and the extender both say what stands
around the element, their ancestors are woven into each other in both orders.

* `Style.Extension`: a target with an extender;
* `Style.Extension.add`: further extensions, which also extend the extenders known before;
* `Style.Extension.apply`: a selector with all its extended rows.
-/

namespace Folio.Style

/-- One pick of each list of options, where the picks of the first list vary fastest. -/
def choices {α : Type} (options : List (List α)) : List (List α) :=
  options.foldl (fun paths picks => picks.flatMap fun p => paths.map (· ++ [p])) [[]]

/-! ## Compounds in one -/

namespace Simple

/-- Whether a simple selector is the one for all elements or for those of a name. -/
def isElement : Simple → Bool
  | .universal _ | .element _ => true
  | _ => false

/-- Whether a simple selector is a state or part of elements. -/
def isPseudo : Simple → Bool
  | .pseudo .. => true
  | _ => false

/-- Whether a simple selector is a part of elements. -/
def isPart : Simple → Bool
  | .pseudo isPart .. => isPart
  | _ => false

/-- The one simple selector that stands for two that say what elements there are. -/
def unifyElements (s t : Simple) : Option Simple :=
  match s, t with
  | .universal _, t => some t
  | s, .universal _ => some s
  | .element a, .element b => if a = b then some s else none
  | _, _ => none

/-- A compound that also asks for `s`. There is none if `s` says that elements are of another name,
    have another identifier or are another part. -/
def unify (s : Simple) (compound : List Simple) : Option (List Simple) :=
  if compound.any fun t => t.text == s.text then some compound
  else
    match s, compound with
    | .universal _, [] => some [s]
    | .universal _, t :: rest =>
      if t.isElement then (unifyElements s t).map (· :: rest) else some compound
    | .element _, t :: rest =>
      if t.isElement then (unifyElements s t).map (· :: rest) else some (s :: compound)
    | .element _, [] => some [s]
    | .identifier _, compound =>
      if compound.any fun | .identifier _ => true | _ => false then none
      else some (compound.takeWhile (!·.isPseudo) ++ s :: compound.dropWhile (!·.isPseudo))
    | .pseudo true .., compound =>
      if compound.any isPart then none else some (compound ++ [s])
    | .pseudo false .., compound =>
      some (compound.takeWhile (!·.isPart) ++ s :: compound.dropWhile (!·.isPart))
    | _, compound =>
      some (compound.takeWhile (!·.isPseudo) ++ s :: compound.dropWhile (!·.isPseudo))

/-- How much a simple selector counts where declarations contradict each other. -/
def weight : Simple → Nat
  | .universal _ => 0
  | .element _ => 1
  | .identifier _ => 1000000
  | .pseudo true .. => 1
  | _ => 1000

end Simple

/-- A compound that also asks for all of `simples`. -/
def unifyAll (simples compound : List Simple) : Option (List Simple) :=
  simples.foldlM (fun compound s => s.unify compound) compound

/-! ## Weaving ancestors -/

/-- Parts in groups: compounds with combinators between them belong together. -/
def groups : List Part → List (List Part)
  | [] => []
  | .combinator c :: rest =>
    match groups rest with
    | [] => [[.combinator c]]
    | g :: more => (.combinator c :: g) :: more
  | .compound s :: rest =>
    match rest, groups rest with
    | .combinator _ :: _, g :: more => (.compound s :: g) :: more
    | _, more => [.compound s] :: more

/-- Whether parts are written alike. -/
def sameParts (a b : List Part) : Bool := partTexts a == partTexts b

/-- The longest common part of two lists of groups. -/
def commonGroups : List (List Part) → List (List Part) → List (List Part)
  | [], _ => []
  | _ :: _, [] => []
  | x :: xs, y :: ys =>
    if sameParts x y then x :: commonGroups xs ys
    else
      let a := commonGroups (x :: xs) ys
      let b := commonGroups xs (y :: ys)
      if b.length > a.length then b else a
termination_by xs ys => xs.length + ys.length

/-- Parts in both orders. -/
def bothOrders (x y : List Part) : List (List Part) :=
  if x.isEmpty then [y] else if y.isEmpty then [x] else [x ++ y, y ++ x]

/-- The options for what stands before, between and after common groups. -/
def interleavings : (common a b : List (List Part)) → List (List (List Part))
  | [], a, b => [bothOrders a.flatten b.flatten]
  | c :: common, a, b =>
    let isOther (g : List Part) : Bool := !sameParts c g
    bothOrders (a.takeWhile isOther).flatten (b.takeWhile isOther).flatten :: [c] ::
      interleavings common ((a.dropWhile isOther).drop 1) ((b.dropWhile isOther).drop 1)

/-- Groups without the last one if that ends with a combinator, and that one. -/
def splitEnd (gs : List (List Part)) : List (List Part) × List Part :=
  match gs.getLast? with
  | some g =>
    match g.getLast? with
    | some (.combinator _) => (gs.dropLast, g)
    | _ => (gs, [])
  | none => (gs, [])

/-- What stands in the end of two rows that both may end with a combinator. -/
def unifyEnds : List Part → List Part → Option (List Part)
  | [], y => some y
  | x, [] => some x
  | [.compound s, .combinator c], [.compound t, .combinator d] =>
    if c = d then (unifyAll t s).map fun u => [.compound u, .combinator c] else none
  | x, y => if sameParts x y then some x else none

/-- The ways to weave the ancestors of two rows into each other. -/
def weave (a b : List Part) : List (List Part) :=
  let (a, endOfA) := splitEnd (groups a)
  let (b, endOfB) := splitEnd (groups b)
  match unifyEnds endOfA endOfB with
  | none => []
  | some last =>
    (choices (interleavings (commonGroups a b) a b)).map fun parts => parts.flatten ++ last

/-! ## Extensions -/

/-- An extension: where the target stands, the extender may stand as well. -/
structure Extension where
  /-- The simple selector, as it is written. -/
  target : String
  /-- The row that may stand for it. -/
  extender : Complex
  /-- The media that it holds for, as they are written, if there are any. -/
  media : Option String

namespace Extension

/-- The rows that a compound stands for apart from itself. -/
def compoundRows (extensions : List Extension) (simples : List Simple) : List (List Part) :=
  let options : List (List (Simple ⊕ List Part)) := simples.map fun s =>
    .inl s :: (extensions.filter (·.target == s.text)).map fun e => .inr e.extender.parts
  (choices options).tail.flatMap fun path =>
    let own := path.filterMap fun | .inl s => some s | .inr _ => none
    let extenders := path.filterMap fun | .inl _ => none | .inr parts => some parts
    let last := extenders.foldlM (fun compound parts =>
      match parts.getLast? with
      | some (.compound simples) => unifyAll simples compound
      | _ => none) own
    match last with
    | none => []
    | some last =>
      let before := extenders.foldl
        (fun rows parts => rows.flatMap fun r => weave r parts.dropLast) [[]]
      before.map (· ++ [.compound last])

/-- A row after parts of others. -/
def append (rows : List (List Part)) (parts : List Part) : List (List Part) :=
  match parts.getLast? with
  | none => rows
  | some last =>
    if parts.length = 1 then rows.map (· ++ parts)
    else (rows.flatMap fun r => weave r parts.dropLast).map (· ++ [last])

/-- A row and those that extend it. -/
def rowsOf (extensions : List Extension) (row : Complex) : List Complex :=
  let options : List (List (List Part)) := row.parts.map fun
    | .compound simples => [.compound simples] :: compoundRows extensions simples
    | p => [[p]]
  let more := (choices options).tail.flatMap fun path => path.foldl append [[]]
  row :: more.map fun parts => .mk parts row.onNewLine

/-- The simple selectors of a row. -/
def simplesOf (row : Complex) : List Simple :=
  row.parts.flatMap fun | .compound simples => simples | .combinator _ => []

/-- How much a row counts. -/
def weight (row : Complex) : Nat := (simplesOf row).foldl (fun n s => n + s.weight) 0

/-- How much the extenders count that a row can come from. -/
def sourceWeight (extensions : List Extension) (row : Complex) : Nat :=
  (simplesOf row).foldl (fun n s =>
    extensions.foldl (fun n e =>
      if (simplesOf e.extender).any (·.text == s.text) then max n (weight e.extender) else n) n) 0

/-- Whether compounds, the last one first, stand among others in this order. -/
def standsIn : List (List Simple) → List (List Simple) → Bool
  | [], _ => true
  | _ :: _, [] => false
  | x :: xs, y :: ys =>
    if x.all fun s => y.any (·.text == s.text) then standsIn xs ys else standsIn (x :: xs) ys

/-- Whether a row fits all that another one fits, as far as their names tell. -/
def covers (c d : Complex) : Bool :=
  let compounds (row : Complex) :=
    (row.parts.filterMap fun | .compound simples => some simples | .combinator _ => none).reverse
  let isPlain := c.parts.all (fun | .compound _ => true | .combinator _ => false) &&
    d.parts.all (fun | .compound _ => true | .combinator c => c == '>')
  c.text == d.text ||
    (isPlain &&
      match compounds c, compounds d with
      | x :: xs, y :: ys => (x.all fun s => y.any (·.text == s.text)) && standsIn xs ys
      | _, _ => false)

/-- Rows without those that others make needless. The rows come last first, each with whether it is
    one of the rule itself. -/
def trimmed (extensions : List Extension) : List (Complex × Bool) → List Complex → List Complex
  | [], kept => kept
  | (row, isOwn) :: before, kept =>
    if isOwn then trimmed extensions before (row :: kept.filter (·.text != row.text))
    else
      let least := sourceWeight extensions row
      let isNeedless (other : Complex) : Bool := weight other ≥ least && covers other row
      if kept.any isNeedless || before.any (fun e => isNeedless e.1) then
        trimmed extensions before kept
      else trimmed extensions before (row :: kept)

/-- A selector with all its extended rows, for a rule inside some media. -/
def apply (extensions : List Extension) (media : Option String) (s : Selector) :
    Except String Selector :=
  let applied := extensions.filter fun e =>
    s.any fun row => (simplesOf row).any (·.text == e.target)
  if applied.isEmpty then .ok s
  else if applied.any fun e => e.media.isSome && e.media != media then
    .error "You may not @extend selectors across media queries."
  else
    let rows := s.flatMap fun row =>
      match rowsOf extensions row with
      | own :: more => (own, true) :: more.map (·, false)
      | [] => []
    .ok (trimmed extensions rows.reverse [])

/-- Further extensions, by the rows of a rule inside some media. Extenders known before are extended
    by them, and the rows by those known before. -/
def add (extensions : List Extension) (target : String) (rows : Selector) (media : Option String) :
    List Extension :=
  let rows := rows.flatMap (rowsOf extensions)
  let new := rows.map fun row => { target, extender := row, media }
  let more := extensions.flatMap fun e =>
    (rowsOf new e.extender).tail.map fun row => { e with extender := row }
  (new ++ more).foldl (fun known e =>
    if known.any fun k => k.target == e.target && k.extender.text == e.extender.text then known
    else known ++ [e]) extensions

end Extension

end Folio.Style
