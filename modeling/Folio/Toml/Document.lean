import Folio.Toml.Text

/-!
# TOML

A text of settings is a list of tables, each with keys and values. A table is opened by its header,
by the header of a table inside it, or by a key with dots, and it is opened only once in each of
these ways: what has been given in full is not added to.

* `Toml.Value`: the values of a text;
* `Toml.parse`: the table that a whole text gives.
-/

namespace Folio.Toml

/-- A value. -/
inductive Value where
  /-- A text. -/
  | string (s : String)
  /-- A truth value. -/
  | boolean (b : Bool)
  /-- A number, as it is written. -/
  | number (text : String)
  /-- A day, a time or both, as it is written. -/
  | date (text : String)
  /-- A list of values. -/
  | array (items : List Value)
  /-- Values by key. -/
  | table (fields : List (String × Value))

/-! ## Tables while they grow -/

/-- How a table came to be. -/
inductive Origin where
  /-- By its own header. -/
  | header
  /-- By the header of a table inside it. -/
  | inner
  /-- By a key with dots. -/
  | dotted
deriving DecidableEq

/-- What a key of a table stands for while the text is read. -/
inductive Item where
  /-- A value, to which nothing can be added. -/
  | value (v : Value)
  /-- A table. -/
  | table (origin : Origin) (fields : List (String × Item))
  /-- A list of tables; the last one grows. -/
  | tables (all : List (List (String × Item)))

/-- The fields of a table. -/
abbrev Fields := List (String × Item)

mutual

/-- The value of an item. -/
def Item.toValue : Item → Value
  | .value v => v
  | .table _ fields => .table (fieldValues fields)
  | .tables all => .array (tableValues all)

/-- The values of fields. -/
def fieldValues : List (String × Item) → List (String × Value)
  | [] => []
  | (k, i) :: rest => (k, i.toValue) :: fieldValues rest

/-- The values of tables. -/
def tableValues : List (List (String × Item)) → List Value
  | [] => []
  | fields :: rest => .table (fieldValues fields) :: tableValues rest

end

/-- The item of a key. -/
def find? (fields : Fields) (k : String) : Option Item :=
  (fields.find? fun f => f.1 == k).map Prod.snd

/-- The fields with another item for a key that is there. -/
def replace (fields : Fields) (k : String) (item : Item) : Fields :=
  fields.map fun f => if f.1 = k then (k, item) else f

/-- Why a key cannot be given. -/
def taken (k : String) : String := s!"duplicate key {k}"

/-- Changes the table at a path, and opens tables on the way. A key with dots does not reach into a
    table that has a header. -/
def change (viaDots : Bool) (f : Origin → Fields → Except String Fields) :
    Origin → List String → Fields → Except String Fields
  | origin, [], fields => f origin fields
  | _, k :: ks, fields =>
    match find? fields k with
    | none => do
      let origin := if viaDots then .dotted else .inner
      return fields ++ [(k, .table origin (← change viaDots f origin ks []))]
    | some (.table origin inner) => do
      if viaDots ∧ origin = .header then .error (taken k)
      return replace fields k (.table origin (← change viaDots f origin ks inner))
    | some (.tables all) => do
      let last ← change viaDots f .header ks (all.getLast?.getD [])
      return replace fields k (.tables (all.dropLast ++ [last]))
    | some (.value _) => .error s!"key {k} is no table"

/-- Gives a value to a key with dots. -/
def assign (ks : List String) (v : Value) (fields : Fields) : Except String Fields :=
  let last := ks.getLast?.getD ""
  change true (fun origin fields =>
    if (origin = .dotted ↔ ks.length ≤ 1) ∨ (find? fields last).isSome then
      .error (taken last)
    else .ok (fields ++ [(last, .value v)])) .header ks.dropLast fields

/-- Opens a table by its header. -/
def openTable (ks : List String) (fields : Fields) : Except String Fields :=
  let last := ks.getLast?.getD ""
  change false (fun _ fields =>
    match find? fields last with
    | none => .ok (fields ++ [(last, .table .header [])])
    | some (.table .inner inner) => .ok (replace fields last (.table .header inner))
    | some _ => .error (taken last)) .header ks.dropLast fields

/-- Opens one more of a list of tables by its header. -/
def openNext (ks : List String) (fields : Fields) : Except String Fields :=
  let last := ks.getLast?.getD ""
  change false (fun _ fields =>
    match find? fields last with
    | none => .ok (fields ++ [(last, .tables [[]])])
    | some (.tables all) => .ok (replace fields last (.tables (all ++ [[]])))
    | some _ => .error (taken last)) .header ks.dropLast fields

/-! ## Values -/

/-- A value that is written as one word. -/
def wordValue (w : List Char) : Except String Value :=
  if w = "true".toList then .ok (.boolean true)
  else if w = "false".toList then .ok (.boolean false)
  else if isNumber w then .ok (.number (String.ofList w))
  else if isDate w then .ok (.date (String.ofList w))
  else .error "expected a value"

mutual

/-- A value, nested and counted in at most `fuel` steps. -/
def value : (fuel : Nat) → List Char → Except String (Value × List Char)
  | 0, _ => .error "expected a value"
  | fuel + 1, cs =>
    match string? cs with
    | some found => found.map fun (s, rest) => (.string (String.ofList s), rest)
    | none =>
      match cs with
      | '[' :: rest => elements fuel [] rest
      | '{' :: rest =>
        match skipBlanks rest with
        | '}' :: rest => .ok (.table [], rest)
        | rest => entries fuel [] rest
      | cs => do
        let (w, rest) := word cs
        return (← wordValue w, rest)

/-- The rest of a list after some items, last first. -/
def elements : (fuel : Nat) → List Value → List Char → Except String (Value × List Char)
  | 0, _, _ => .error "unclosed list"
  | fuel + 1, items, cs => do
    match ← skipLines cs.length cs with
    | ']' :: rest => return (.array items.reverse, rest)
    | cs =>
      let (v, rest) ← value fuel cs
      match ← skipLines rest.length rest with
      | ',' :: rest => elements fuel (v :: items) rest
      | ']' :: rest => return (.array (v :: items).reverse, rest)
      | _ => .error "unclosed list"

/-- The rest of a table on one line after some fields. -/
def entries : (fuel : Nat) → Fields → List Char → Except String (Value × List Char)
  | 0, _, _ => .error "unclosed table"
  | fuel + 1, fields, cs => do
    let (ks, rest) ← path cs
    match rest with
    | '=' :: rest =>
      let (v, rest) ← value fuel (skipBlanks rest)
      let fields ← assign ks v fields
      match skipBlanks rest with
      | ',' :: rest => entries fuel fields rest
      | '}' :: rest => return (.table (fieldValues fields), rest)
      | _ => .error "unclosed table"
    | _ => .error "expected a value for the key"

end

/-! ## Lines -/

/-- The header of a table behind its first bracket: the fields with the table open, its path, and
    what follows. -/
def header (fields : Fields) (cs : List Char) :
    Except String (Fields × List String × List Char) := do
  match cs with
  | '[' :: rest =>
    let (ks, rest) ← path rest
    match rest with
    | ']' :: ']' :: rest => return (← openNext ks fields, ks, rest)
    | _ => .error "unclosed header"
  | cs =>
    let (ks, rest) ← path cs
    match rest with
    | ']' :: rest => return (← openTable ks fields, ks, rest)
    | _ => .error "unclosed header"

/-- Reads at most `fuel` lines into the table at a path. -/
def readLines : (fuel : Nat) → Fields → List String → List Char → Except String Fields
  | 0, fields, _, _ => .ok fields
  | fuel + 1, fields, here, cs => do
    match ← skipLines cs.length cs with
    | [] => return fields
    | '[' :: rest =>
      let (fields, ks, rest) ← header fields rest
      readLines fuel fields ks (← endLine rest)
    | cs =>
      let (ks, rest) ← path cs
      match rest with
      | '=' :: rest =>
        let (v, rest) ← value (rest.length + 1) (skipBlanks rest)
        let fields ← change false (fun _ inner => assign ks v inner) .header here fields
        readLines fuel fields here (← endLine rest)
      | _ => .error "expected a value for the key"

/-- The table that a text gives. -/
def parse (text : String) : Except String Value := do
  let cs := match text.toList with
    | '\ufeff' :: cs => cs
    | cs => cs
  return .table (fieldValues (← readLines (cs.length + 1) [] [] cs))

end Folio.Toml
