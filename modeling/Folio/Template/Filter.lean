import Folio.Template.Value
import Folio.Text
import Folio.Unicode.Case
import Folio.Word

/-!
# Filters

A filter turns a value into another one, guided by named arguments. Each checks the kind of its
value and of its arguments, and says what it got where they are not what it works on.

* `Template.Filter`: what a filter is;
* `Template.Filter.find?`: the filters by name.
-/

namespace Folio.Template

/-- Arguments by name. -/
abbrev Arguments := Json.Fields

/-- What turns a value into another, or says why it cannot. -/
abbrev Filter := Json → Arguments → Except String Json

namespace Filter

/-! ## Values and arguments -/

/-- Says that a value is not what a filter works on. -/
def wrongValue {α : Type} (filter expected : String) (v : Json) : Except String α :=
  .error (s!"Filter `{filter}` was called on an incorrect value: " ++
    s!"got `{v.compact}` but expected a {expected}")

/-- Says that an argument is not what a filter asks for. -/
def wrongArgument {α : Type} (filter name expected : String) (v : Json) : Except String α :=
  .error (s!"Filter `{filter}` received an incorrect type for arg `{name}`: got `{v.compact}` " ++
    s!"but expected a {expected}")

/-- The text that a filter works on. -/
def textOf (filter : String) : Json → Except String (List Char)
  | .str s => .ok s.toList
  | v => wrongValue filter "String" v

/-- The list that a filter works on. -/
def itemsOf (filter : String) : Json → Except String (List Json)
  | .arr items => .ok items
  | v => wrongValue filter "Vec<Value>" v

/-- The number that a filter works on, as a double. -/
def doubleOf (filter : String) : Json → Except String Double
  | .num n => .ok n.toDouble
  | v => wrongValue filter "f64" v

/-- An argument that may be left out. -/
def argument {α : Type} (args : Arguments) (name : String) (absent : α)
    (read : String → Json → Except String α) : Except String α :=
  match Json.Fields.get? args name with
  | none => .ok absent
  | some v => read name v

/-- An argument that has to be there. -/
def needed {α : Type} (filter : String) (args : Arguments) (name : String)
    (read : String → Json → Except String α) : Except String α :=
  match Json.Fields.get? args name with
  | none => .error s!"Filter `{filter}` expected an arg called `{name}`"
  | some v => read name v

/-- A text as an argument. -/
def asText (filter name : String) : Json → Except String (List Char)
  | .str s => .ok s.toList
  | v => wrongArgument filter name "String" v

/-- A truth value as an argument. -/
def asBool (filter name : String) : Json → Except String Bool
  | .bool b => .ok b
  | v => wrongArgument filter name "bool" v

/-- A count as an argument. -/
def asNat (filter name : String) : Json → Except String Nat
  | v@(.num (.integer n _)) => if n < 0 then wrongArgument filter name "usize" v else .ok n.toNat
  | v => wrongArgument filter name "usize" v

/-- A whole number as an argument. -/
def asInt (filter name : String) : Json → Except String Int
  | v@(.num (.integer n _)) =>
    if Word.isSigned n then .ok n else wrongArgument filter name "i64" v
  | v => wrongArgument filter name "i64" v

/-- A number as an argument. -/
def asDouble (filter name : String) : Json → Except String Double
  | .num n => .ok n.toDouble
  | v => wrongArgument filter name "f64" v

/-- Characters as a value. -/
def ofChars (cs : List Char) : Json := .str (String.ofList cs)

/-- A filter on texts without arguments. -/
def onText (filter : String) (f : List Char → List Char) : Filter := fun v _ => do
  return ofChars (f (← textOf filter v))

/-! ## Texts -/

/-- The first letter in upper case and the others in lower case. -/
def capitalize : List Char → List Char
  | [] => []
  | c :: rest => Unicode.upperChar c ++ Unicode.toLower rest

/-- Every word with its first letter in upper case and the others in lower case. An apostrophe
    inside a word belongs to it. `fuel` bounds the number of characters. -/
def titleWithin : (fuel : Nat) → (afterWord : Bool) → List Char → List Char
  | 0, _, cs => cs
  | _, _, [] => []
  | fuel + 1, afterWord, c :: rest =>
    let inWord (c : Char) := Unicode.isWord c || c == '\''
    let word := (((c :: rest).takeWhile inWord).reverse.dropWhile (· == '\'')).reverse
    if afterWord == Unicode.isWord c || word.isEmpty then
      c :: titleWithin fuel (Unicode.isWord c) rest
    else capitalize word ++ titleWithin fuel true ((c :: rest).drop word.length)

/-- The characters of a text without tags and comments of markup. -/
def stripTags : (fuel : Nat) → List Char → List Char
  | 0, cs => cs
  | _, [] => []
  | fuel + 1, c :: rest =>
    if c ≠ '<' then c :: stripTags fuel rest
    else
      let comment := (Text.after? "!--".toList rest).bind fun inside =>
        (Text.cut? "-->".toList inside).filter fun (text, _) => !text.contains '\n'
      match comment with
      | some (_, rest) => stripTags fuel rest
      | none =>
        match Text.cut? ['>'] rest with
        | some (_, rest) => stripTags fuel rest
        | none => c :: stripTags fuel rest

/-- The characters of a text without blanks between two tags. -/
def dropBetweenTags : (fuel : Nat) → List Char → List Char
  | 0, cs => cs
  | _, [] => []
  | fuel + 1, c :: rest =>
    if c = '>' ∧ rest.head?.any Unicode.isSpace then
      match rest.dropWhile Unicode.isSpace with
      | '<' :: more => '>' :: '<' :: dropBetweenTags fuel more
      | _ => c :: dropBetweenTags fuel rest
    else c :: dropBetweenTags fuel rest

/-- A character as the bytes that stand for it in an address. -/
def percentEncoded (c : Char) : List Char :=
  c.toString.toUTF8.toList.flatMap fun b =>
    let digit (n : Nat) := (Json.hexDigit n).toUpper
    ['%', digit (b.toNat / 16), digit (b.toNat % 16)]

/-- A text with all characters but some encoded for an address. -/
def urlEncode (isKept : Char → Bool) (cs : List Char) : List Char :=
  cs.flatMap fun c => if c.isAlphanum || isKept c then [c] else percentEncoded c

/-- The lines of a text, without their ends. -/
def lines (cs : List Char) : List (List Char) :=
  let all := Text.fields (· == '\n') cs
  let all := if all.getLast? == some [] then all.dropLast else all
  all.map fun line => if line.getLast? == some '\r' then line.dropLast else line

/-- A text with something before its lines: before the first only if asked to, and before blank ones
    only if asked to. -/
def indent (mark : List Char) (first blank : Bool) (cs : List Char) : List Char :=
  match lines cs with
  | [] => []
  | line :: rest =>
    let indented (line : List Char) :=
      '\n' :: (if blank || !(Unicode.trimStart line).isEmpty then mark ++ line else line)
    (if first then mark else []) ++ line ++ rest.flatMap indented

/-- Letters of the Latin alphabet with marks, by the letters they are written with in an address. -/
def plainLetters : List (String × String) :=
  [("ÀÁÂÃÄÅ", "A"), ("Æ", "AE"), ("Ç", "C"), ("ÈÉÊË", "E"), ("ÌÍÎÏ", "I"), ("Ð", "D"), ("Ñ", "N"),
    ("ÒÓÔÕÖØ", "O"), ("ÙÚÛÜ", "U"), ("Ý", "Y"), ("Þ", "Th"), ("ß", "ss"), ("àáâãäå", "a"),
    ("æ", "ae"), ("ç", "c"), ("èéêë", "e"), ("ìíîï", "i"), ("ð", "d"), ("ñ", "n"),
    ("òóôõöø", "o"), ("ùúûü", "u"), ("ýÿ", "y"), ("þ", "th")]

/-- A letter without its marks. -/
def plainLetter (c : Char) : List Char :=
  if c.toNat < 0x80 then [c]
  else
    match plainLetters.find? fun entry => entry.1.toList.contains c with
    | some entry => entry.2.toList
    | none => ['-']

/-- The text as a part of an address: letters and digits, and single dashes between them. -/
def slug (cs : List Char) : List Char :=
  let isGap (c : Char) := !c.isAlphanum
  ['-'].intercalate (Text.words isGap (cs.flatMap plainLetter)) |>.map Char.toLower

/-- The value of a digit of a base up to 36. -/
def digitValue (base : Nat) (c : Char) : Option Nat :=
  let n :=
    if c.isDigit then some (c.toNat - '0'.toNat)
    else if c.isAlpha then some (c.toLower.toNat - 'a'.toNat + 10)
    else none
  n.filter (· < base)

/-- The natural number of some digits, of which there is at least one. -/
def naturalOf (base : Nat) : List Char → Option Nat
  | [] => none
  | cs => cs.foldl (fun n c => do return (← n) * base + (← digitValue base c)) (some 0)

/-- The whole number of 64 bits that digits with an optional sign stand for. -/
def integerOf (base : Nat) (cs : List Char) : Option Int :=
  let n : Option Int := match cs with
    | '-' :: rest => (naturalOf base rest).map fun n => -(n : Int)
    | '+' :: rest => (naturalOf base rest).map fun n => (n : Int)
    | _ => (naturalOf base cs).map fun n => (n : Int)
  n.filter Word.isSigned

/-- Digits with a point somewhere: all of them as one number, and how many stand after the point. -/
def pointed (cs : List Char) : Option (Nat × Nat) :=
  let whole := cs.takeWhile Char.isDigit
  match cs.dropWhile Char.isDigit with
  | [] => (naturalOf 10 whole).map (·, 0)
  | '.' :: places =>
    if places.all Char.isDigit then (naturalOf 10 (whole ++ places)).map (·, places.length)
    else none
  | _ => none

/-- The double that a text stands for: digits with an optional sign, point and exponent, or the name
    of an infinity or of no number. -/
def doubleText (cs : List Char) : Option Double :=
  let (negative, cs) := match cs with
    | '-' :: rest => (true, rest)
    | '+' :: rest => (false, rest)
    | _ => (false, cs)
  let signed (d : Double) := if negative then d.neg else d
  let word := String.ofList (cs.map Char.toLower)
  if word = "inf" ∨ word = "infinity" then some (signed ⟨0x7ff0000000000000⟩)
  else if word = "nan" then some ⟨0x7ff8000000000000⟩
  else
    let isMark (c : Char) := c == 'e' || c == 'E'
    let mantissa := cs.takeWhile (!isMark ·)
    let exponent : Option Int := match cs.dropWhile (!isMark ·) with
      | [] => some 0
      | _ :: '-' :: rest => (naturalOf 10 rest).map fun n => -(n : Int)
      | _ :: '+' :: rest => (naturalOf 10 rest).map fun n => (n : Int)
      | _ :: rest => (naturalOf 10 rest).map fun n => (n : Int)
    do
      let (coefficient, places) ← pointed mantissa
      return signed (Double.ofDecimal coefficient ((← exponent) - places))

/-- The whole number that a value stands for. -/
def toInteger : Filter := fun v args => do
  let absent ← argument args "default" 0 (asInt "int")
  let base ← argument args "base" 10 (asNat "int")
  match v with
  | .str s =>
    let cs := Unicode.trim s.toList
    let cs := match base with
      | 2 => Text.dropLeading "0b".toList cs.length cs
      | 8 => Text.dropLeading "0o".toList cs.length cs
      | 16 => Text.dropLeading "0x".toList cs.length cs
      | _ => cs
    match integerOf base cs with
    | some n => return .ofInt n
    | none =>
      if cs.contains '.' then
        return .ofInt (((doubleText cs).map Double.toInt64).getD absent)
      else return .ofInt absent
  | .num n => return .ofInt n.toDouble.toInt64
  | _ => throw "Filter `int` received an unexpected type"

/-- The double that a value stands for. -/
def toFloating : Filter := fun v args => do
  let absent ← argument args "default" ⟨0⟩ (asDouble "float")
  match v with
  | .str s => return .ofDouble ((doubleText (Unicode.trim s.toList)).getD absent)
  | .num n => return .ofDouble n.toDouble
  | _ => throw "Filter `float` received an unexpected type"

/-- The beginning of a text, and a mark where something was cut off. -/
def truncate : Filter := fun v args => do
  let cs ← textOf "truncate" v
  let length ← argument args "length" 255 (asNat "truncate")
  let mark ← argument args "end" ['…'] (asText "truncate")
  return if length ≥ cs.length then ofChars cs else ofChars (cs.take length ++ mark)

/-- A text without leading places of a pattern. -/
def trimStartMatches : Filter := fun v args => do
  let cs ← textOf "trim_start_matches" v
  let pat ← needed "trim_start_matches" args "pat" (asText "trim_start_matches")
  return ofChars (if pat.isEmpty then cs else Text.dropLeading pat cs.length cs)

/-- A text without trailing places of a pattern. -/
def trimEndMatches : Filter := fun v args => do
  let cs ← textOf "trim_end_matches" v
  let pat ← needed "trim_end_matches" args "pat" (asText "trim_end_matches")
  return ofChars (if pat.isEmpty then cs
    else (Text.dropLeading pat.reverse cs.length cs.reverse).reverse)

/-- A text with one pattern replaced. -/
def replaceText : Filter := fun v args => do
  let cs ← textOf "replace" v
  let old ← needed "replace" args "from" (asText "replace")
  let new ← needed "replace" args "to" (asText "replace")
  return ofChars (Text.replace old new cs)

/-- The pieces of a text between places of a pattern. -/
def split : Filter := fun v args => do
  let cs ← textOf "split" v
  let pat ← needed "split" args "pat" (asText "split")
  return .arr ((Text.pieces pat cs).map ofChars)

/-- A text with its lines indented. -/
def indentText : Filter := fun v args => do
  let cs ← textOf "indent" v
  let mark ← argument args "prefix" "    ".toList (asText "indent")
  let first ← argument args "first" false (asBool "indent")
  let blank ← argument args "blank" false (asBool "indent")
  return ofChars (indent mark first blank cs)

/-! ## Lists -/

/-- The item at a place, or the empty text. -/
def itemAt (items : List Json) (n : Nat) : Json := (items[n]?).getD (.str "")

/-- The printed items, with a text between them. -/
def join : Filter := fun v args => do
  let items ← itemsOf "join" v
  let sep ← argument args "sep" [] (asText "truncate")
  let sep := Text.replace "\\t".toList ['\t'] (Text.replace "\\n".toList ['\n'] sep)
  return .str ((String.ofList sep).intercalate (items.map Json.display))

/-- What lies below an item, or why the item has no place in an order. -/
def keyOf (path : String) (v : Json) : Except String Json :=
  match v.below? path with
  | some key => .ok key
  | none => .error s!"attribute '{path}' does not reference a field"

/-- Items in the order of their keys; a later one of equal keys stays later. -/
def sortedBy {α : Type} (isBefore : α → α → Bool) (kind : String) (key : Json → Option α)
    (pairs : List (Json × Json)) : Except String (List Json) := do
  let keyed ← pairs.mapM fun (k, v) =>
    match key k with
    | some k => .ok (k, v)
    | none => .error s!"expected {kind} got {k.compact}"
  return (keyed.mergeSort fun a b => !isBefore b.1 a.1).map Prod.snd

/-- The truth value that this is, as a number. -/
def boolKey : Json → Option Nat
  | .bool b => some b.toNat
  | _ => none

/-- The double nearest to the number that this is. -/
def doubleKey : Json → Option Float
  | .num n => some n.toDouble.toFloat
  | _ => none

/-- The length of the list that this is. -/
def lengthKey : Json → Option Nat
  | .arr items => some items.length
  | _ => none

/-- A list in the order of its items, or of what lies below them. -/
def sort : Filter := fun v args => do
  let items ← itemsOf "sort" v
  if items.isEmpty then return .arr []
  let path ← argument args "attribute" [] (asText "sort")
  let keys ← items.mapM (keyOf (String.ofList path))
  let pairs := keys.zip items
  match keys with
  | .null :: _ => throw "Null is not a sortable value"
  | .obj _ :: _ => throw "Object is not a sortable value"
  | .bool _ :: _ => return .arr (← sortedBy (fun a b => a < b) "bool" boolKey pairs)
  | .num _ :: _ => return .arr (← sortedBy (fun a b => a < b) "number" doubleKey pairs)
  | .str _ :: _ => return .arr (← sortedBy (fun a b => a < b) "string" Json.text? pairs)
  | .arr _ :: _ => return .arr (← sortedBy (fun a b => a < b) "array" lengthKey pairs)
  | [] => return .arr []

/-- The first of every run of items with one key. -/
def firstOfEach {α : Type} [BEq α] (seen : List α) : List (α × Json) → List Json
  | [] => []
  | (k, v) :: rest =>
    if seen.contains k then firstOfEach seen rest else v :: firstOfEach (k :: seen) rest

/-- The first of all items with one key. -/
def uniqueBy {α : Type} [BEq α] (kind : String) (key : Json → Option α)
    (pairs : List (Json × Json)) : Except String Json := do
  let keyed ← pairs.mapM fun (k, v) =>
    match key k with
    | some k => .ok (k, v)
    | none => .error s!"expected {kind} got {k.compact}"
  return .arr (firstOfEach [] keyed)

/-- The whole number that this is. -/
def integerKey : Json → Option Int
  | .num (.integer n _) => some n
  | _ => none

/-- A list without repeated items; texts that differ in case alone are repetitions unless case
    counts. -/
def unique : Filter := fun v args => do
  let items ← itemsOf "unique" v
  if items.isEmpty then return .arr []
  let caseCounts ← argument args "case_sensitive" false (asBool "unique")
  let path ← argument args "attribute" [] (asText "unique")
  let keys ← items.mapM (keyOf (String.ofList path))
  let pairs := keys.zip items
  let textKey (v : Json) := v.text?.map fun s =>
    if caseCounts then s.toList else Unicode.toLower s.toList
  match keys with
  | .null :: _ => throw "Null is not a unique value"
  | .num (.double _) :: _ => throw "Unique floats are not implemented"
  | .arr _ :: _ => throw "Unique arrays are not implemented"
  | .obj _ :: _ => throw "Unique objects are not implemented"
  | .bool _ :: _ => uniqueBy "bool" boolKey pairs
  | .num _ :: _ => uniqueBy "number" integerKey pairs
  | .str _ :: _ => uniqueBy "string" textKey pairs
  | [] => return .arr []

/-- A place in a list of this length; a negative one counts from the end. -/
def placeOf (length : Nat) (d : Double) : Nat :=
  let d := if d.toFloat ≥ 0 then d
    else Double.ofFloat ((Double.ofNat length).toFloat + d.toFloat)
  (max 0 d.toInt64).toNat

/-- A part of a list. -/
def slice : Filter := fun v args => do
  let items ← itemsOf "slice" v
  if items.isEmpty then return .arr []
  let start ← argument args "start" 0 fun name v => placeOf items.length <$> asDouble "slice" name v
  let stop ← argument args "end" items.length fun name v =>
    placeOf items.length <$> asDouble "slice" name v
  return .arr ((items.take stop).drop start)

/-- An argument without which a filter cannot do its work, called by its article. -/
def required (filter article name : String) (args : Arguments) : Except String Json :=
  match Json.Fields.get? args name with
  | none => .error s!"The `{filter}` filter has to have {article} `{name}` argument"
  | some v => .ok v

/-- The path of the attribute that a filter looks at. -/
def attributePath (filter : String) (args : Arguments) : Except String String := do
  String.ofList <$> asText filter "attribute" (← required filter "an" "attribute" args)

/-- The text that a value is grouped under. -/
def groupName : Json → String
  | .str s => s
  | v => v.compact

/-- The items by what lies below them. -/
def groupBy : Filter := fun v args => do
  let items ← itemsOf "group_by" v
  if items.isEmpty then return .obj []
  let path ← attributePath "group_by" args
  let add (groups : Json.Fields) (item : Json) : Json.Fields :=
    match (item.below? path).bind Json.present? with
    | none => groups
    | some key =>
      let members := match Json.Fields.get? groups (groupName key) with
        | some (.arr members) => members
        | _ => []
      Json.Fields.insert (groupName key) (.arr (members ++ [item])) groups
  return .obj (items.foldl add [])

/-- The items below which there is something, or something equal to a value. -/
def select : Filter := fun v args => do
  let items ← itemsOf "filter" v
  if items.isEmpty then return .arr []
  let path ← attributePath "filter" args
  let wanted := (Json.Fields.get? args "value").getD .null
  return .arr (items.filter fun item =>
    let found := (item.below? path).getD .null
    if wanted.isNull then !found.isNull else found.equals wanted)

/-- What lies below the items. -/
def mapItems : Filter := fun v args => do
  let items ← itemsOf "map" v
  if items.isEmpty then return .arr []
  let path ← attributePath "map" args
  return .arr (items.filterMap fun item => (item.below? path).bind Json.present?)

/-- A list with more items at its end. -/
def concat : Filter := fun v args => do
  let items ← itemsOf "concat" v
  match ← required "concat" "a" "with" args with
  | .arr more => return .arr (items ++ more)
  | one => return .arr (items ++ [one])

/-- The item at a place that is counted from zero. -/
def nth : Filter := fun v args => do
  let items ← itemsOf "nth" v
  if items.isEmpty then return .str ""
  return itemAt items (← needed "nth" args "n" (asNat "nth"))

/-- The number of items, fields or characters. -/
def length : Filter := fun v _ =>
  match v with
  | .arr items => .ok (.ofNat items.length)
  | .obj fields => .ok (.ofNat fields.length)
  | .str s => .ok (.ofNat s.length)
  | _ => .error "Filter `length` was used on a value that isn't an array, an object, or a string."

/-- The items or characters, last first. -/
def reverse : Filter := fun v _ =>
  match v with
  | .arr items => .ok (.arr items.reverse)
  | .str s => .ok (ofChars s.toList.reverse)
  | v => .error (s!"Filter `reverse` received an incorrect type for arg `value`: " ++
      s!"got `{v.compact}` but expected Array|String")

/-- A field of an object. -/
def getField : Filter := fun v args => do
  let key ← asText "get" "key" (← required "get" "an" "key" args)
  let key := String.ofList key
  match v with
  | .obj fields =>
    match (Json.Fields.get? fields key).or (Json.Fields.get? args "default") with
    | some w => return w
    | none => throw s!"Filter `get` tried to get key `{key}` but it wasn't found"
  | _ => throw "Filter `get` was used on a value that isn't an object"

/-! ## Numbers -/

/-- The number without its sign. -/
def magnitude : Filter := fun v _ =>
  match v with
  | .num (.integer n _) => .ok (.ofInt n.natAbs)
  | .num (.double d) => .ok (.ofDouble (if d.isNegative then d.neg else d))
  | _ => .error "Filter `abs` was used on a value that isn't a valid number."

/-- The ending of a word for this many things. -/
def pluralize : Filter := fun v args => do
  let d ← doubleOf "pluralize" v
  let plural ← argument args "plural" ['s'] (asText "pluralize")
  let singular ← argument args "singular" [] (asText "pluralize")
  let x := Float.abs (Float.abs d.toFloat - 1)
  return ofChars (if x > Float.ofScientific 2220446049250313 true 31 then plural else singular)

/-- The number rounded to some places. -/
def round : Filter := fun v args => do
  let d ← doubleOf "round" v
  let method ← argument args "method" "common".toList (asText "round")
  let precision ← argument args "precision" 0 (asInt "round")
  let scale := if precision = 0 then 1.0
    else if precision > 0 then Float.ofScientific 1 false precision.natAbs
    else 1.0 / Float.ofScientific 1 false precision.natAbs
  let scaled (f : Float → Float) := Json.ofDouble (Double.ofFloat (f (scale * d.toFloat) / scale))
  match String.ofList method with
  | "common" => return scaled Float.round
  | "ceil" => return scaled Float.ceil
  | "floor" => return scaled Float.floor
  | method =>
    throw (s!"Filter `round` received an incorrect value for arg `method`: got `{method}`, " ++
      "only common, ceil and floor are allowed")

/-- A number of bytes in the largest unit that it reaches, with two places. -/
def fileSize : Filter := fun v args => do
  let bytes ← match v with
    | .num (.integer n _) => if n < 0 then wrongValue "filesizeformat" "usize" v else pure n.toNat
    | v => wrongValue "filesizeformat" "usize" v
  let binary ← argument args "binary" false (asBool "filesizeformat")
  let units := if binary then ["B", "KiB", "MiB", "GiB", "TiB", "PiB", "EiB"]
    else ["B", "kB", "MB", "GB", "TB", "PB", "EB"]
  let reached := (List.range 7).filter fun k => k = 0 ∨ bytes ≥ Nat.pow 1024 k
  let k := reached.getLast?.getD 0
  let unit := units[k]?.getD "B"
  let size := Nat.pow 1024 k
  let hundredths := (bytes * 200 + size) / (2 * size)
  if bytes % size = 0 then return .str s!"{bytes / size} {unit}"
  else
    let places := if hundredths % 100 < 10 then s!"0{hundredths % 100}" else s!"{hundredths % 100}"
    return .str s!"{hundredths / 100}.{places} {unit}"

/-! ## All filters -/

/-- The filters by name. -/
def find? (name : String) : Option Filter :=
  match name with
  | "upper" => some (onText name Unicode.toUpper)
  | "lower" => some (onText name Unicode.toLower)
  | "trim" => some (onText name Unicode.trim)
  | "trim_start" => some (onText name Unicode.trimStart)
  | "trim_end" => some (onText name Unicode.trimEnd)
  | "trim_start_matches" => some trimStartMatches
  | "trim_end_matches" => some trimEndMatches
  | "truncate" => some truncate
  | "wordcount" => some fun v _ => do
      return .ofNat (Text.words Unicode.isSpace (← textOf "wordcount" v)).length
  | "replace" => some replaceText
  | "capitalize" => some (onText name capitalize)
  | "addslashes" => some (onText name fun cs => cs.flatMap fun c =>
      if c = '\\' ∨ c = '"' ∨ c = '\'' then ['\\', c] else [c])
  | "slugify" => some (onText name slug)
  | "title" => some (onText name fun cs => titleWithin cs.length false cs)
  | "linebreaksbr" => some (onText name fun cs =>
      Text.replace ['\n'] "<br>".toList (Text.replace ['\r', '\n'] "<br>".toList cs))
  | "indent" => some indentText
  | "striptags" => some (onText name fun cs => stripTags cs.length cs)
  | "spaceless" => some (onText name fun cs => dropBetweenTags cs.length cs)
  | "urlencode" => some (onText name (urlEncode fun c => "_-.~/".toList.contains c))
  | "urlencode_strict" => some (onText name (urlEncode fun _ => false))
  | "escape" => some (onText name fun cs => (escapeMarkup (String.ofList cs)).toList)
  | "escape_xml" => some (onText name fun cs => cs.flatMap fun c =>
      (match c with
        | '&' => "&amp;"
        | '<' => "&lt;"
        | '>' => "&gt;"
        | '"' => "&quot;"
        | '\'' => "&apos;"
        | c => c.toString).toList)
  | "split" => some split
  | "int" => some toInteger
  | "float" => some toFloating
  | "first" => some fun v _ => do return itemAt (← itemsOf "first" v) 0
  | "last" => some fun v _ => do return itemAt (← itemsOf "last" v).reverse 0
  | "nth" => some nth
  | "join" => some join
  | "sort" => some sort
  | "unique" => some unique
  | "slice" => some slice
  | "group_by" => some groupBy
  | "filter" => some select
  | "map" => some mapItems
  | "concat" => some concat
  | "length" => some length
  | "reverse" => some reverse
  | "get" => some getField
  | "abs" => some magnitude
  | "pluralize" => some pluralize
  | "round" => some round
  | "filesizeformat" => some fileSize
  | "json_encode" => some fun v args => do
      let pretty ← argument args "pretty" false (asBool "json_encode")
      return .str (if pretty then v.pretty else v.compact)
  | "as_str" => some fun v _ => .ok (.str v.display)
  | _ => none

end Filter

end Folio.Template
