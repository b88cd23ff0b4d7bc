import Folio.Settings
import Folio.Toml.Document

/-!
# Settings in a file

The settings of a project are written in TOML, with a table for each of the two groups. Keys that
mean nothing here are passed over; a value that is not of the kind it should be is refused.

* `Settings.ofToml`: the settings that a table gives;
* `Settings.parse`: the settings that a text gives.
-/

namespace Folio.Settings

/-- The parts of a group: those that a table gives by name, or those that a list gives in their
    order. A date is a group that gives nothing. -/
def partsOf (names : List String) : Toml.Value → Except String (List (String × Toml.Value))
  | .table fields => .ok (fields.filter fun f => names.contains f.1)
  | .array items => .ok (names.zip items)
  | .date _ => .ok []
  | _ => .error "expected a table"

/-- A folder. -/
def folderOf : Toml.Value → Except String Path
  | .string s => .ok ⟨s⟩
  | _ => .error "expected a string"

/-- Whether something is turned on. -/
def switchOf : Toml.Value → Except String Bool
  | .boolean b => .ok b
  | _ => .error "expected a boolean"

/-- The folders that a group gives. -/
def foldersOf (v : Toml.Value) : Except String Folders := do
  (← partsOf ["file", "rc"] v).foldlM (fun (f : Folders) (name, v) => do
    let p ← folderOf v
    return if name = "file" then { f with file := p } else { f with rc := p }) {}

/-- The extensions of markdown that a group gives. -/
def markdownOf (v : Toml.Value) : Except String MarkdownSettings := do
  let parts ← partsOf ["tables", "strikethrough", "tasklists"] v
  parts.foldlM (fun (m : MarkdownSettings) (name, v) => do
    let b ← switchOf v
    return if name = "tables" then { m with tables := b }
      else if name = "strikethrough" then { m with strikethrough := b }
      else { m with tasklists := b }) {}

/-- The settings that a table gives. -/
def ofToml (v : Toml.Value) : Except String Settings := do
  (← partsOf ["folders", "markdown"] v).foldlM (fun (s : Settings) (name, v) => do
    if name = "folders" then return { s with folders := ← foldersOf v }
    else return { s with markdown := ← markdownOf v }) {}

/-- The settings that a text gives. -/
def parse (text : String) : Except String Settings := do ofToml (← Toml.parse text)

end Folio.Settings
