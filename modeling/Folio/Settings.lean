import Folio.Json.Mismatch
import Folio.Path

/-!
# Settings

A project has two groups of settings: the folders for content and for resources, and the extensions
of markdown that are switched on. Everything has a default, so any part may be left out. Settings
are read from a value: the fields of an object are visited in the order of their names, unknown ones
are passed over, and the first that has the wrong shape is reported; a list holds the parts in their
order.
-/

namespace Folio

/-- The folders of a project, seen from its root. -/
structure Folders where
  /-- Where files, templates and handlers are named. -/
  file : Path := ⟨"files"⟩
  /-- Where resources are defined. -/
  rc : Path := ⟨"resources"⟩
deriving DecidableEq

/-- The extensions of markdown. -/
structure MarkdownSettings where
  /-- Tables. -/
  tables : Bool := true
  /-- Struck out text. -/
  strikethrough : Bool := true
  /-- Lists of tasks. -/
  tasklists : Bool := true
deriving DecidableEq

/-- The settings of a project. -/
structure Settings where
  /-- The folders. -/
  folders : Folders := {}
  /-- The extensions of markdown. -/
  markdown : MarkdownSettings := {}
deriving DecidableEq

namespace Settings

/-- A path, or what is wrong with the value. -/
def readPath : Json → Except String Path
  | .str s => .ok ⟨s⟩
  | v => .error (v.mismatch "path string")

/-- A truth value, or what is wrong with the value. -/
def readBool : Json → Except String Bool
  | .bool b => .ok b
  | v => .error (v.mismatch "a boolean")

/-- Reads the parts of a structure from an object or a list. `names` are the parts in the order of a
    list; `set` writes one of them. -/
def readParts {α : Type} (expected : String) (names : List String)
    (set : α → String → Json → Except String α) (initial : α) : Json → Except String α
  | .obj fields => fields.foldlM (fun a f => if names.contains f.1 then set a f.1 f.2 else .ok a)
      initial
  | .arr items => do
    let a ← (names.zip items).foldlM (fun a f => set a f.1 f.2) initial
    if items.length > names.length then
      .error s!"invalid length {items.length}, expected fewer elements in array"
    else return a
  | v => .error (v.mismatch expected)

/-- Reads the folders. -/
def readFolders (v : Json) : Except String Folders :=
  readParts "struct Folders" ["file", "rc"]
    (fun (f : Folders) name v => do
      let p ← readPath v
      return if name = "file" then { f with file := p } else { f with rc := p })
    {} v

/-- Reads the extensions of markdown. -/
def readMarkdown (v : Json) : Except String MarkdownSettings :=
  readParts "struct MarkdownSettings" ["tables", "strikethrough", "tasklists"]
    (fun (m : MarkdownSettings) name v => do
      let b ← readBool v
      return if name = "tables" then { m with tables := b }
        else if name = "strikethrough" then { m with strikethrough := b }
        else { m with tasklists := b })
    {} v

/-- Reads settings from a value. -/
def ofJson (v : Json) : Except String Settings :=
  readParts "struct Settings" ["folders", "markdown"]
    (fun (s : Settings) name v =>
      if name = "folders" then return { s with folders := ← readFolders v }
      else return { s with markdown := ← readMarkdown v })
    {} v

/-- Settings as a value. -/
def toJson (s : Settings) : Json :=
  .obj [
    ("folders", .obj [("file", .str s.folders.file.text), ("rc", .str s.folders.rc.text)]),
    ("markdown", .obj [("strikethrough", .bool s.markdown.strikethrough),
      ("tables", .bool s.markdown.tables), ("tasklists", .bool s.markdown.tasklists)])]

end Settings

end Folio
