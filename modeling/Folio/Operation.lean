import Folio.Directive
import Folio.EngineError
import Folio.Json.Mismatch
import Folio.Path

/-!
# Operations

An operation maps directives to arguments and has three computed fields: the `data` its primary
directive produced, the result of its nested resource and the key it captured. Written as an object
the fields stand beside the directives under the names `data`, `_with` and `_as`.

* `Operation.ofJson`, `Operation.toJson`: an operation as an object;
* `Operation.parseList`: the list of operations that the argument of `with` stands for;
* `FileRef`: the argument of `file`, `njk` and `custom`;
* `Operation.nesting`: how deep the lists in `with` arguments can be nested, which bounds
  evaluation.
-/

namespace Folio

/-- One step of a resource. -/
structure Operation where
  /-- Arguments by the name of their directive. -/
  directives : Json.Fields := []
  /-- What the primary directive produced. -/
  data : Option Json := none
  /-- The output of the nested resource. -/
  withValue : Option Json := none
  /-- The key of a property, captured from the input. -/
  asValue : Option Json := none
  /-- Whether the primary directive has been run. -/
  executed : Bool := false
deriving DecidableEq

namespace Operation

/-- The argument of a directive, if the operation has it. -/
def argument (op : Operation) (directive : String) : Option Json :=
  Json.Fields.get? op.directives directive

/-- The same operation with one more directive. -/
def withDirective (op : Operation) (name : String) (argument : Json) : Operation :=
  { op with directives := Json.Fields.insert name argument op.directives }

/-- What a resource without an input directive starts with. -/
def defaultInput : Operation := { directives := [("in", .str "raw")] }

/-- What a resource without an output directive ends with. -/
def defaultOutput : Operation := { directives := [("out", .str "raw")] }

/-- The operation that the fields of an object describe: three names fill computed fields, where
    `null` counts as absent, and every other name is a directive. -/
def ofFields (fields : Json.Fields) : Operation :=
  { directives := fields.filter fun f => f.1 ≠ "data" ∧ f.1 ≠ "_with" ∧ f.1 ≠ "_as"
    data := (Json.Fields.get? fields "data").bind Json.present?
    withValue := (Json.Fields.get? fields "_with").bind Json.present?
    asValue := (Json.Fields.get? fields "_as").bind Json.present? }

/-- The operation that an object describes, or what is wrong with the value. -/
def ofJson : Json → Except String Operation
  | .obj fields => .ok (ofFields fields)
  | v => .error (v.mismatch "struct Operation")

/-- An operation as an object; whether it has run is left out. -/
def toJson (op : Operation) : Json :=
  let put (name : String) (v : Option Json) (fields : Json.Fields) : Json.Fields :=
    match v with
    | some v => Json.Fields.insert name v fields
    | none => fields
  .obj (put "_as" op.asValue (put "_with" op.withValue (put "data" op.data op.directives)))

/-- The operations that the items of an array describe; the first malformed one counts. -/
def ofItems : List Json → Except String (List Operation)
  | [] => .ok []
  | v :: rest => do
    let op ← ofJson v
    let ops ← ofItems rest
    return op :: ops

/-- The operation list that an array describes. -/
def listOfJson : Json → Except String (List Operation)
  | .arr items => ofItems items
  | v => .error (v.mismatch "a sequence")

/-- The operation list that the argument of a directive stands for; a single object is a list of
    one. -/
def parseList (directive : String) : Json → Except EngineError (List Operation)
  | .arr items =>
    match ofItems items with
    | .ok ops => .ok ops
    | .error reason => .error (.invalidArgument directive reason)
  | .obj fields => .ok [ofFields fields]
  | v => .error (.invalidArgument directive s!"expected an operation list, found {v.kind}")

/-- How deep the argument of `with` can hold further operation lists; zero without one. -/
def nesting (op : Operation) : Nat :=
  match op.argument "with" with
  | some argument => argument.depth + 1
  | none => 0

/-- The deepest nesting in a list of operations. -/
def maxNesting : List Operation → Nat
  | [] => 0
  | op :: rest => max op.nesting (maxNesting rest)

end Operation

/-- The argument of `file`, `njk` and `custom`: a name and the path it stands under. -/
structure FileRef where
  /-- The directory, seen from the content folder. -/
  path : Path
  /-- The name of the file or handler. -/
  name : String
deriving DecidableEq

namespace FileRef

/-- A text, or what is wrong with the value. -/
def text (expected : String) : Json → Except String String
  | .str s => .ok s
  | v => .error (v.mismatch expected)

/-- Reads a path and a name. In an object the name is looked at first, as fields are visited in
    their order; a list holds first the path and then the name. -/
def ofJson : Json → Except String FileRef
  | .obj fields => do
    let name ← (Json.Fields.get? fields "name").mapM (text "a string")
    let path ← (Json.Fields.get? fields "path").mapM (text "path string")
    match name with
    | some name => return ⟨⟨path.getD ""⟩, name⟩
    | none => .error (Json.missingField "name")
  | .arr items =>
    match items with
    | [] => .error "invalid length 1, expected struct FileRef with 2 elements"
    | path :: rest => do
      let path ← text "path string" path
      match rest with
      | [] => .error "invalid length 1, expected struct FileRef with 2 elements"
      | name :: rest =>
        let name ← text "a string" name
        if rest.isEmpty then return ⟨⟨path⟩, name⟩
        else .error s!"invalid length {items.length}, expected fewer elements in array"
  | v => .error (v.mismatch "struct FileRef")

/-- The reference that an operation gives to one of its primary directives. -/
def ofOperation (directive : Primary) (op : Operation) : Except EngineError FileRef :=
  match op.argument directive.name with
  | none => .error (.invalidArgument directive.name "missing argument")
  | some argument =>
    match ofJson argument with
    | .ok ref => .ok ref
    | .error reason => .error (.invalidArgument directive.name reason)

/-- Characters without the slashes at both ends. -/
def trimSlashes (s : List Char) : List Char :=
  ((s.dropWhile (· == '/')).reverse.dropWhile (· == '/')).reverse

/-- A path with slashes for backslashes and none at either end. -/
def normalPath (p : Path) : List Char :=
  trimSlashes (p.text.toList.map fun c => if c = '\\' then '/' else c)

/-- The key under which a handler is registered: path and name with slashes between. -/
def key (ref : FileRef) : String :=
  match normalPath ref.path with
  | [] => ref.name
  | path => String.ofList (path ++ '/' :: ref.name.toList)

end FileRef

end Folio
