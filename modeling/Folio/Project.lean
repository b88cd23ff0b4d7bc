import Folio.App
import Folio.FileTree
import Folio.Languages
import Folio.SettingsFile

/-!
# Projects on disk

A project is a directory. Its settings are in a file of their own, which may be missing, and each
resource is defined in a file `name.yml` or `name.yaml` of the resource folder, or in the file
`resource.yml` of a directory `name` there. Nothing else in the resource folder counts.

* `loadSettings`, `loadSettingsOrDefault`: the settings of a project;
* `loadResources`: its resources, from the entries of their folder (`loadEntries`);
* `App.load`: the application of a project.
-/

namespace Folio

/-- The name of the settings file in a project. -/
def settingsFile : Path := ⟨"rcengine.toml"⟩

/-- The name of the definition in the directory of a resource. -/
def definitionFile : Path := ⟨"resource.yml"⟩

/-- A reading with a failure that tells what was being done. -/
def within {α : Type} (context : String) (r : Except Failure α) : Except Failure α :=
  r.mapError fun f => f.inContext context

/-- The text of a file, with a failure that tells what it was read for. -/
def readFor (context : String) (t : FileTree) (p : Path) : Except Failure String :=
  within context ((t.read p).mapError FileFault.failure)

/-- The settings in a file. -/
def loadSettings (t : FileTree) (p : Path) : Except Failure Settings := do
  let text ← readFor s!"Failed to read settings from {p.text}" t p
  within s!"Failed to parse settings from {p.text}"
    ((Settings.parse text).mapError fun e => { cause := .toml e })

/-- The settings in a file, or the default ones if there is no such file. -/
def loadSettingsOrDefault (t : FileTree) (p : Path) : Except Failure Settings :=
  if t.has p then loadSettings t p else .ok {}

/-- The name of an entry up to its last dot, and what follows the dot. A dot in front does not
    count. -/
def splitExtension (name : String) : String × Option String :=
  let after := name.toList.reverse.takeWhile (· != '.')
  let before := name.toList.reverse.drop (after.length + 1)
  if before.isEmpty then (name, none)
  else (String.ofList before.reverse, some (String.ofList after.reverse))

/-- The name of the resource that an entry of the resource folder defines and the path of its
    definition. -/
def definitionOf? (t : FileTree) (directory : Path) (name : String) (n : FileNode) :
    Option (String × Path) :=
  let path := directory.join ⟨name⟩
  let (stem, extension) := splitExtension name
  if n.isDirectory then
    if t.has (path.join definitionFile) then some (stem, path.join definitionFile) else none
  else if extension = some "yml" ∨ extension = some "yaml" then some (stem, path)
  else none

/-- The definition in a file. -/
def loadDefinition (t : FileTree) (p : Path) : Except Failure Definition := do
  let text ← readFor s!"Failed to read resource definition {p.text}" t p
  within s!"Failed to parse resource definition {p.text}" (readDefinition text)

/-- The resources that entries of a folder define, by their names, with the paths of the
    definitions. -/
def definitionsIn (t : FileTree) (directory : Path) (entries : List (String × FileNode)) :
    List (String × Path) :=
  entries.filterMap fun (name, n) => definitionOf? t directory name n

/-- The resources that entries of a folder define, read one after the other. Of two definitions of
    one resource the later one stays. -/
def loadEntries (t : FileTree) (directory : Path) (entries : List (String × FileNode)) :
    Except Failure Store :=
  (definitionsIn t directory entries).foldlM (fun (s : Store) (name, path) => do
    return s.insert name (← loadDefinition t path)) {}

/-- The resources that a folder defines; none if there is no such folder. -/
def loadResources (t : FileTree) (directory : Path) : Except Failure Store := do
  if !t.has directory then return {}
  let entries ← within s!"Failed to read resource directory {directory.text}"
    ((t.entries directory).mapError FileFault.failure)
  loadEntries t directory entries

/-- The text of a file in a directory of a project. -/
def projectFile (t : FileTree) (root directory : Path) (name : String) : Except Failure String :=
  let p := (root.join directory).join ⟨name⟩
  readFor s!"Failed to read file {p.text}" t p

/-- The application of the project in a directory, with its settings in some file or in the usual
    one. Its templates escape nothing. -/
def App.load (t : FileTree) (root : Path) (config : Option Path) : Except Failure App := do
  let settings ← loadSettingsOrDefault t (config.getD (root.join settingsFile))
  let resources ← loadResources t (root.join settings.folders.rc)
  return {
    root, settings, resources
    fileText := projectFile t root
    renderers := .standard false }

end Folio
