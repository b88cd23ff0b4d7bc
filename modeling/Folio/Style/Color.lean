import Folio.Style.Number
import Folio.Text

/-!
# Colors of style sheets

A color has parts of red, green and blue from 0 to 255 and an opacity from 0 to 1. It can also be
given by hue, saturation and lightness, and then keeps these. A color of the sheet is written as it
was there; one that was computed by its name if it has one.

* `Style.Color`: a color, with `ofHsl`, `hue`, `saturation`, `lightness`;
* `Style.Color.ofName?`, `Color.ofHex?`: colors of the sheet;
* `Style.Color.text`: how a color is written.
-/

namespace Folio.Style

/-- How a color is written. -/
inductive ColorForm where
  /-- By its name if it has one. -/
  | derived
  /-- As it was written in the sheet. -/
  | literal (text : String)
  /-- By its parts. -/
  | parts
  /-- By its hue. -/
  | hue

/-- A color. -/
structure Color where
  /-- The part of red. -/
  red : Float
  /-- The part of green. -/
  green : Float
  /-- The part of blue. -/
  blue : Float
  /-- The opacity. -/
  alpha : Float := 1
  /-- Hue, saturation and lightness, if the color was given by them. -/
  hsl : Option (Float × Float × Float) := none
  /-- How it is written. -/
  form : ColorForm := .derived

/-- All names, each with its parts in hexadecimal. -/
def colorTable : String := String.join [
  "aliceblue f0f8ff,antiquewhite faebd7,aqua 00ffff,aquamarine 7fffd4,azure f0ffff,",
  "beige f5f5dc,bisque ffe4c4,black 000000,blanchedalmond ffebcd,blue 0000ff,",
  "blueviolet 8a2be2,brown a52a2a,burlywood deb887,cadetblue 5f9ea0,chartreuse 7fff00,",
  "chocolate d2691e,coral ff7f50,cornflowerblue 6495ed,cornsilk fff8dc,crimson dc143c,",
  "cyan 00ffff,darkblue 00008b,darkcyan 008b8b,darkgoldenrod b8860b,darkgray a9a9a9,",
  "darkgreen 006400,darkgrey a9a9a9,darkkhaki bdb76b,darkmagenta 8b008b,",
  "darkolivegreen 556b2f,darkorange ff8c00,darkorchid 9932cc,darkred 8b0000,",
  "darksalmon e9967a,darkseagreen 8fbc8f,darkslateblue 483d8b,darkslategray 2f4f4f,",
  "darkslategrey 2f4f4f,darkturquoise 00ced1,darkviolet 9400d3,deeppink ff1493,",
  "deepskyblue 00bfff,dimgray 696969,dimgrey 696969,dodgerblue 1e90ff,firebrick b22222,",
  "floralwhite fffaf0,forestgreen 228b22,fuchsia ff00ff,gainsboro dcdcdc,ghostwhite f8f8ff,",
  "gold ffd700,goldenrod daa520,gray 808080,green 008000,greenyellow adff2f,grey 808080,",
  "honeydew f0fff0,hotpink ff69b4,indianred cd5c5c,indigo 4b0082,ivory fffff0,khaki f0e68c,",
  "lavender e6e6fa,lavenderblush fff0f5,lawngreen 7cfc00,lemonchiffon fffacd,",
  "lightblue add8e6,lightcoral f08080,lightcyan e0ffff,lightgoldenrodyellow fafad2,",
  "lightgray d3d3d3,lightgreen 90ee90,lightgrey d3d3d3,lightpink ffb6c1,lightsalmon ffa07a,",
  "lightseagreen 20b2aa,lightskyblue 87cefa,lightslategray 778899,lightslategrey 778899,",
  "lightsteelblue b0c4de,lightyellow ffffe0,lime 00ff00,limegreen 32cd32,linen faf0e6,",
  "magenta ff00ff,maroon 800000,mediumaquamarine 66cdaa,mediumblue 0000cd,",
  "mediumorchid ba55d3,mediumpurple 9370db,mediumseagreen 3cb371,mediumslateblue 7b68ee,",
  "mediumspringgreen 00fa9a,mediumturquoise 48d1cc,mediumvioletred c71585,",
  "midnightblue 191970,mintcream f5fffa,mistyrose ffe4e1,moccasin ffe4b5,navajowhite ffdead,",
  "navy 000080,oldlace fdf5e6,olive 808000,olivedrab 6b8e23,orange ffa500,orangered ff4500,",
  "orchid da70d6,palegoldenrod eee8aa,palegreen 98fb98,paleturquoise afeeee,",
  "palevioletred db7093,papayawhip ffefd5,peachpuff ffdab9,peru cd853f,pink ffc0cb,",
  "plum dda0dd,powderblue b0e0e6,purple 800080,rebeccapurple 663399,red ff0000,",
  "rosybrown bc8f8f,royalblue 4169e1,saddlebrown 8b4513,salmon fa8072,sandybrown f4a460,",
  "seagreen 2e8b57,seashell fff5ee,sienna a0522d,silver c0c0c0,skyblue 87ceeb,",
  "slateblue 6a5acd,slategray 708090,slategrey 708090,snow fffafa,springgreen 00ff7f,",
  "steelblue 4682b4,tan d2b48c,teal 008080,thistle d8bfd8,tomato ff6347,turquoise 40e0d0,",
  "violet ee82ee,wheat f5deb3,white ffffff,whitesmoke f5f5f5,yellow ffff00,",
  "yellowgreen 9acd32"]

/-- A number within bounds. -/
def clamp (low x high : Float) : Float := if x < low then low else if x > high then high else x

namespace Color

/-- The value of hexadecimal digits. -/
def hexValue (digits : List Char) : Float :=
  Float.ofNat (digits.foldl (fun n c =>
    n * 16 + if c.isDigit then c.toNat - '0'.toNat else c.toLower.toNat - 'a'.toNat + 10) 0)

/-- The names with their digits. -/
def names : List (List Char × List Char) :=
  (Text.fields (· == ',') colorTable.toList).map fun entry =>
    (entry.takeWhile (· != ' '), (entry.dropWhile (· != ' ')).drop 1)

/-- A color by hexadecimal digits, of which there are three, four, six or eight. -/
def ofHex? : List Char → Option Color
  | [r, g, b] => some ⟨hexValue [r, r], hexValue [g, g], hexValue [b, b], 1, none, .derived⟩
  | [r, g, b, a] =>
    some ⟨hexValue [r, r], hexValue [g, g], hexValue [b, b], hexValue [a, a] / 255, none, .derived⟩
  | [r, s, g, h, b, c] =>
    some ⟨hexValue [r, s], hexValue [g, h], hexValue [b, c], 1, none, .derived⟩
  | [r, s, g, h, b, c, a, d] =>
    some ⟨hexValue [r, s], hexValue [g, h], hexValue [b, c], hexValue [a, d] / 255, none, .derived⟩
  | _ => none

/-- A color by its name, in capitals or not. It is written as the name is. -/
def ofName? (name : String) : Option Color :=
  let lower := name.toList.map Char.toLower
  if lower = "transparent".toList then some ⟨0, 0, 0, 0, none, .literal name⟩
  else do
    let (_, digits) ← names.find? fun e => e.1 == lower
    let c ← ofHex? digits
    return { c with form := .literal name }

/-- A color by parts that may be out of bounds. -/
def ofParts (red green blue alpha : Float) : Color :=
  ⟨clamp 0 red 255, clamp 0 green 255, clamp 0 blue 255, clamp 0 alpha 1, none, .derived⟩

/-- One part of a color by its hue, as a fraction of a turn. -/
def partOfHue (low high hue : Float) : Float :=
  let h := if hue < 0 then hue + 1 else if hue > 1 then hue - 1 else hue
  if h < 1 / 6 then low + (high - low) * h * 6
  else if h < 1 / 2 then high
  else if h < 2 / 3 then low + (high - low) * (2 / 3 - h) * 6
  else low

/-- A color by its hue in degrees, its saturation and lightness from 0 to 1, and its opacity. -/
def ofHsl (hue saturation lightness alpha : Float) : Color :=
  let h := Number.remainder hue 360
  let s := clamp 0 saturation 1
  let l := clamp 0 lightness 1
  let high := if l ≤ 0.5 then l * (s + 1) else l + s - l * s
  let low := l * 2 - high
  let part (shift : Float) := (partOfHue low high (h / 360 + shift) * 255).round
  ⟨part (1 / 3), part 0, part (-1 / 3), clamp 0 alpha 1, some (h, s, l), .derived⟩

/-- The least and the greatest part, as fractions. -/
def extremes (c : Color) : Float × Float :=
  let r := c.red / 255
  let g := c.green / 255
  let b := c.blue / 255
  let least (x y : Float) := if x ≤ y then x else y
  let greatest (x y : Float) := if x ≤ y then y else x
  (least r (least g b), greatest r (greatest g b))

/-- The lightness, from 0 to 1. -/
def lightness (c : Color) : Float :=
  match c.hsl with
  | some (_, _, l) => l
  | none =>
    let (low, high) := c.extremes
    (low + high) / 2

/-- The saturation, from 0 to 1. -/
def saturation (c : Color) : Float :=
  match c.hsl with
  | some (_, s, _) => s
  | none =>
    let (low, high) := c.extremes
    if nearly low high then 0
    else if (low + high) / 2 < 0.5 then (high - low) / (high + low)
    else (high - low) / (2 - high - low)

/-- The hue in degrees. -/
def hue (c : Color) : Float :=
  match c.hsl with
  | some (h, _, _) => h
  | none =>
    let (low, high) := c.extremes
    let r := c.red / 255
    let g := c.green / 255
    let b := c.blue / 255
    if nearly low high then 0
    else
      let h := if high == r then 60 * (g - b) / (high - low)
        else if high == g then 120 + 60 * (b - r) / (high - low)
        else 240 + 60 * (r - g) / (high - low)
      Number.remainder h 360

/-- A mixture of colors, the first with some weight from 0 to 1. The more opaque one counts for
    more. -/
def mix (c d : Color) (weight : Float) : Color :=
  let w := weight * 2 - 1
  let a := c.alpha - d.alpha
  let combined := if nearly (w * a) (-1) then w else (w + a) / (1 + w * a)
  let x := (combined + 1) / 2
  let y := 1 - x
  ofParts (c.red.round * x + d.red.round * y) (c.green.round * x + d.green.round * y)
    (c.blue.round * x + d.blue.round * y) (c.alpha * weight + d.alpha * (1 - weight))

/-- The color with another opacity. -/
def withAlpha (c : Color) (alpha : Float) : Color :=
  { c with alpha := clamp 0 alpha 1, form := .derived }

/-- A part as two hexadecimal digits. -/
def hexDigits (x : Float) : List Char :=
  let n := x.round.toUInt8.toNat
  [Nat.digitChar (n / 16), Nat.digitChar (n % 16)]

/-- The hexadecimal digits of a color without its opacity. -/
def digits (c : Color) : List Char := hexDigits c.red ++ hexDigits c.green ++ hexDigits c.blue

/-- How a color is written by a function of its parts. -/
def callText (name : String) (parts : List String) (alpha : Float) : String :=
  let isOpaque := nearly alpha 1
  name ++ (if isOpaque then "" else "a") ++ "(" ++
    ", ".intercalate (parts ++ if isOpaque then [] else [fixedText alpha]) ++ ")"

/-- How a color is written by its parts. -/
def partsText (c : Color) : String :=
  callText "rgb" [fixedText c.red.round, fixedText c.green.round, fixedText c.blue.round] c.alpha

/-- How a color is written. -/
def text (c : Color) : String :=
  match c.form with
  | .literal s => s
  | .parts => c.partsText
  | .hue =>
    callText "hsl" [fixedText c.hue ++ "deg", fixedText (c.saturation * 100) ++ "%",
      fixedText (c.lightness * 100) ++ "%"] c.alpha
  | .derived =>
    if nearly c.alpha 1 then
      match names.find? fun e => e.2 == c.digits with
      | some (name, _) => String.ofList name
      | none => String.ofList ('#' :: c.digits)
    else c.partsText

/-- Whether colors are the same. -/
def isEqual (c d : Color) : Bool :=
  nearly c.red.round d.red.round && nearly c.green.round d.green.round &&
    nearly c.blue.round d.blue.round && nearly c.alpha d.alpha

end Color

end Folio.Style
