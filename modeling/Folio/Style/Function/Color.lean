import Folio.Style.Expression
import Folio.Style.Function.Basic

/-!
# Functions of colors

Colors are made of parts or of hue, saturation and lightness, and changed in either of them. A call
with an argument that only the reader of the result knows the value of is left as it is.

* `Style.Function.colors`: all of them.
-/

namespace Folio.Style.Function

/-! ## Making colors -/

/-- The value of a number without units, or of a percentage of some greatest number. -/
def portion (greatest : Float) (v : Value) : Except String Float := do
  let n ← v.toNumber
  if n.isPlain then return n.value
  else if n.hasUnit "%" then return n.value * greatest / 100
  else throw s!"Expected {v.inspect} to have no units or \"%\"."

/-- An opacity; all there is unless it is given. -/
def opacity : Value → Except String Float
  | .null => .ok 1
  | v => do return clamp 0 (← portion 1 v) 1

/-- An angle in degrees. -/
def degrees (v : Value) : Except String Float := do
  let n ← v.toNumber
  return (n.convert? { value := 0, above := ["deg"] }).getD n.value

/-- A number behind a quotient that stayed as it was written. -/
def operandOfSlash (text : List Char) : Except String Value :=
  match Scan.operand.run text with
  | .ok (.number x unit, []) =>
    .ok (.number { value := x, above := if unit.isEmpty then [] else [unit] })
  | _ => .error "Expected a number."

/-- The arguments that a list of parts stands for, where the last part may have an opacity behind a
    slash. -/
def partsOf (v : Value) : Except String (List Value) :=
  let split (items : List Value) : Except String (List Value) :=
    match items with
    | [a, b, .number n] =>
      match n.slash.bind fun s => Text.cut? ['/'] s.toList with
      | some (c, alpha) => do return [a, b, ← operandOfSlash c, ← operandOfSlash alpha]
      | none => .ok items
    | _ => .ok items
  match v with
  | .list [.list items .space false, alpha] .slash false => .ok (items ++ [alpha])
  | .list items .space false => split items
  | _ => .error "Expected parts of a color."

/-- A color of arguments that are all known. -/
def makeColor (make : Value → Value → Value → Float → Except String Color) :
    List Value → Except String Color
  | [a, b, c] => make a b c 1
  | [a, b, c, alpha] => do make a b c (← opacity alpha)
  | _ => .error "Expected three or four parts."

/-- The value of a call that makes a color. -/
def madeColor (name : String) (make : Value → Value → Value → Float → Except String Color)
    (arguments : List Value) : Except String Value :=
  match arguments.filter fun | .null => false | _ => true with
  | [v] =>
    if v.isLeftCall || v.asList.any Value.isLeftCall then callText name [v]
    else do return .color (← makeColor make (← partsOf v))
  | [.color c, alpha] =>
    if alpha.isLeftCall then
      callText name (([c.red, c.green, c.blue].map fun x => .number (.plain x)) ++ [alpha])
    else do return .color (c.withAlpha (← opacity alpha))
  | given =>
    if given.any Value.isLeftCall then callText name given
    else do return .color (← makeColor make given)

/-- A color by its parts. -/
def ofRgb (red green blue : Value) (alpha : Float) : Except String Color := do
  let part (v : Value) : Except String Float := do
    return clamp 0 (Float.round (← portion 255 v)) 255
  return { Color.ofParts (← part red) (← part green) (← part blue) alpha with form := .parts }

/-- A color by its hue. -/
def ofHue (hue saturation lightness : Value) (alpha : Float) : Except String Color := do
  let h ← degrees hue
  let s ← saturation.toNumber
  let l ← lightness.toNumber
  return { Color.ofHsl h (s.value / 100) (l.value / 100) alpha with form := .hue }

/-- A function that makes a color. -/
def making (name : String) (parameters : List String)
    (make : Value → Value → Value → Float → Except String Color) : Function where
  module := ""
  name
  plainNames := [name]
  parameters := (parameters ++ ["alpha"]).zipIdx.map fun (p, i) =>
    (p, if i = 0 then none else some .null)
  value := madeColor name make

/-! ## Changing colors -/

/-- A color with other hue, saturation and lightness. -/
def withHsl (c : Color) (hue saturation lightness : Float) : Color :=
  Color.ofHsl hue saturation lightness c.alpha

/-- A function of a color and an amount. -/
def changingBy (plainNames : List String) (high : Float) (f : Color → Float → Color) :
    Function where
  module := ""
  name := ""
  plainNames
  parameters := [("color", none), ("amount", none)]
  value
    | [v, amount] => do return .color (f (← v.toColor) (← amount.toBounded 0 high))
    | _ => noValue

/-- A function of a color alone. -/
def ofColor (name : String) (plainNames : List String) (f : Color → Value) : Function where
  module := "color"
  name
  plainNames
  parameters := [("color", none)]
  value
    | [v] => do return f (← v.toColor)
    | _ => noValue

/-- The function, where a number as the only argument leaves the call as it is. -/
def orFilter (name : String) (f : Function) : Function :=
  { f with
    parameters := f.parameters.zipIdx.map fun ((p, default), i) =>
      (p, if i = 0 then none else default <|> some .null)
    value := fun vs =>
      match vs with
      | v :: rest =>
        let isFilter := rest.all fun | .null => true | .number n => n.hasUnit "%" | _ => false
        if (match v with | .number _ => true | v => v.isLeftCall) && isFilter then
          callText name [v]
        else f.value vs
      | [] => f.value vs }

/-- The function, where a text with an equals sign leaves the call as it is. -/
def orAssignment (name : String) (f : Function) : Function :=
  { f with
    value := fun vs =>
      match vs with
      | [.text s false] => if s.toList.contains '=' then callText name vs else f.value vs
      | vs => f.value vs }

/-- A percentage as a value. -/
def percent (x : Float) : Value := .number { value := x * 100, above := ["%"] }

/-- The color with each part as far from the other end. -/
def inverse (c : Color) : Color :=
  Color.ofParts (255 - c.red) (255 - c.green) (255 - c.blue) c.alpha

/-- What is done to the parts of a color: adding, moving by a fraction of the way, or replacing. -/
inductive Change where
  /-- Adding. -/
  | adjust
  /-- Moving towards the least or greatest number. -/
  | scale
  /-- Replacing. -/
  | replace

/-- A part after a change by a number, where it may be up to `greatest`. -/
def Change.apply (change : Change) (greatest old by_ : Float) : Float :=
  match change with
  | .adjust => old + by_
  | .scale => old + (if by_ > 0 then greatest - old else old) * by_
  | .replace => by_

/-- The number that changes a part up to `greatest`, or 1 where it is a percentage. -/
def Change.amount (change : Change) (greatest : Float) (isPercentage : Bool) (v : Value) :
    Except String (Option Float) := do
  match v, change with
  | .null, _ => return none
  | v, .scale =>
    let n ← v.toNumber
    if !n.hasUnit "%" then throw s!"Expected {v.inspect} to have unit \"%\"."
    return some ((← v.toBounded (-100) 100) / 100)
  | v, .adjust =>
    let limit := if isPercentage then 100 else greatest
    let x ← v.toBounded (-limit) limit
    return some (if isPercentage then x / 100 else x)
  | v, .replace =>
    let limit := if isPercentage then 100 else greatest
    let x ← v.toBounded 0 limit
    return some (if isPercentage then x / 100 else x)

/-- A color with changes of its parts, or of hue, saturation and lightness. -/
def Change.color (change : Change) (c : Color)
    (red green blue hue saturation lightness alpha : Value) : Except String Color := do
  let r ← change.amount 255 false red
  let g ← change.amount 255 false green
  let b ← change.amount 255 false blue
  let h ← match hue with
    | .null => pure none
    | v => do pure (some (← degrees v))
  let s ← change.amount 1 true saturation
  let l ← change.amount 1 true lightness
  let a ← change.amount 1 false alpha
  let changed (greatest old : Float) (by_ : Option Float) : Float :=
    by_.elim old (change.apply greatest old)
  let alpha := changed 1 c.alpha a
  if r.isSome || g.isSome || b.isSome then
    if h.isSome || s.isSome || l.isSome then
      throw "RGB parameters may not be passed along with HSL parameters."
    return Color.ofParts (changed 255 c.red r) (changed 255 c.green g) (changed 255 c.blue b) alpha
  else if h.isSome || s.isSome || l.isSome then
    return Color.ofHsl (changed 360 c.hue h) (changed 1 c.saturation s)
      (changed 1 c.lightness l) alpha
  else return c.withAlpha alpha

/-- A function with a change of a color. -/
def changingParts (name plainName : String) (change : Change) : Function where
  module := "color"
  name
  plainNames := [plainName]
  parameters := ("color", none) ::
    ["red", "green", "blue", "hue", "saturation", "lightness", "alpha"].map (·, some .null)
  value
    | [v, r, g, b, h, s, l, a] => do return .color (← change.color (← v.toColor) r g b h s l a)
    | _ => noValue

/-- The functions of colors. -/
def colors : List Function := [
  making "rgb" ["red", "green", "blue"] ofRgb,
  making "rgba" ["red", "green", "blue"] ofRgb,
  making "hsl" ["hue", "saturation", "lightness"] ofHue,
  making "hsla" ["hue", "saturation", "lightness"] ofHue,
  ofColor "red" ["red"] fun c => .number (.plain c.red.round),
  ofColor "green" ["green"] fun c => .number (.plain c.green.round),
  ofColor "blue" ["blue"] fun c => .number (.plain c.blue.round),
  ofColor "hue" ["hue"] fun c => .number { value := c.hue, above := ["deg"] },
  ofColor "saturation" ["saturation"] fun c => percent c.saturation,
  ofColor "lightness" ["lightness"] fun c => percent c.lightness,
  orAssignment "alpha" (ofColor "alpha" ["alpha"] fun c => .number (.plain c.alpha)),
  orFilter "opacity" (ofColor "opacity" ["opacity"] fun c => .number (.plain c.alpha)),
  { module := "color"
    name := "mix"
    plainNames := ["mix"]
    parameters := [("color1", none), ("color2", none), ("weight", some (percent 0.5))]
    value
      | [v, w, weight] => do
        return .color (Color.mix (← v.toColor) (← w.toColor) ((← weight.toBounded 0 100) / 100))
      | _ => noValue },
  changingBy ["lighten"] 100 fun c x => withHsl c c.hue c.saturation (c.lightness + x / 100),
  changingBy ["darken"] 100 fun c x => withHsl c c.hue c.saturation (c.lightness - x / 100),
  orFilter "saturate" (changingBy ["saturate"] 100 fun c x =>
    withHsl c c.hue (c.saturation + x / 100) c.lightness),
  changingBy ["desaturate"] 100 fun c x => withHsl c c.hue (c.saturation - x / 100) c.lightness,
  changingBy ["opacify", "fade-in"] 1 fun c x => c.withAlpha (c.alpha + x),
  changingBy ["transparentize", "fade-out"] 1 fun c x => c.withAlpha (c.alpha - x),
  { module := ""
    name := ""
    plainNames := ["adjust-hue"]
    parameters := [("color", none), ("degrees", none)]
    value
      | [v, x] => do
        let c ← v.toColor
        return .color (withHsl c (c.hue + (← degrees x)) c.saturation c.lightness)
      | _ => noValue },
  orFilter "grayscale" (ofColor "grayscale" ["grayscale"] fun c =>
    .color (withHsl c c.hue 0 c.lightness)),
  ofColor "complement" ["complement"] fun c =>
    .color (withHsl c (c.hue + 180) c.saturation c.lightness),
  orFilter "invert" {
    module := "color"
    name := "invert"
    plainNames := ["invert"]
    parameters := [("color", none), ("weight", some (percent 1))]
    value
      | [v, weight] => do
        let c ← v.toColor
        return .color ((inverse c).mix c ((← weight.toBounded 0 100) / 100))
      | _ => noValue },
  changingParts "adjust" "adjust-color" .adjust,
  changingParts "scale" "scale-color" .scale,
  changingParts "change" "change-color" .replace,
  ofColor "ie-hex-str" ["ie-hex-str"] fun c =>
    .word (String.ofList ('#' :: (Color.hexDigits (c.alpha * 255) ++ c.digits).map Char.toUpper))]

end Folio.Style.Function
