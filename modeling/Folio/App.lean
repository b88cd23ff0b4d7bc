import Folio.Host
import Folio.Settings
import Folio.Store

/-!
# Applications

An application bundles everything that resources are evaluated with: settings, files, renderers, the
store of resources and the handlers of the host. Seen from the engine it is a host.
-/

namespace Folio

/-- Handlers by their key, in the order of the keys. -/
structure Registry where
  /-- Pairs of key and handler, in the order of the keys. -/
  entries : List (String × Handler) := []

namespace Registry

/-- Writes an entry: in its place by key, or over the handler there. -/
def put (key : String) (h : Handler) : List (String × Handler) → List (String × Handler)
  | [] => [(key, h)]
  | (k, g) :: rest =>
    if key < k then (key, h) :: (k, g) :: rest
    else if key = k then (key, h) :: rest
    else (k, g) :: put key h rest

/-- Registers a handler, replacing one of the same key. -/
def register (r : Registry) (key : String) (h : Handler) : Registry := ⟨put key h r.entries⟩

/-- The handler of a key. -/
def get? (r : Registry) (key : String) : Option Handler :=
  (r.entries.find? fun e => e.1 == key).map Prod.snd

/-- Whether there is a handler of a key. -/
def contains (r : Registry) (key : String) : Bool := r.entries.any fun e => e.1 == key

/-- The keys, in order. -/
def keys (r : Registry) : List String := r.entries.map Prod.fst

end Registry

/-- Files held in memory: pairs of path and text. -/
structure MemoryFiles where
  /-- Paths and texts; of two that name the same place the later one counts. -/
  files : List (Path × String) := []

/-- The text of a file in a directory. -/
def MemoryFiles.read (m : MemoryFiles) (directory : Path) (name : String) :
    Except Failure String :=
  let path := directory.join ⟨name⟩
  match m.files.reverse.find? fun f => f.1.components == path.components with
  | some f => .ok f.2
  | none => .error { cause := .message s!"Failed to read file {path.text}" }

/-- The languages that texts are rendered from. -/
structure Renderers where
  /-- Renders the source of a template, known by a name, with a value as context. -/
  template : (name source : String) → Option Json → Except Failure String
  /-- Renders markdown with the given extensions. -/
  markdown : MarkdownSettings → String → String
  /-- Compiles a style sheet. -/
  style : String → Except Failure String
  /-- Reads structured data. -/
  data : String → Except Failure Json

/-- What resources are evaluated with. -/
structure App where
  /-- The directory of the project. -/
  root : Path
  /-- The settings of the project. -/
  settings : Settings := {}
  /-- The text of a file in a directory. -/
  fileText : (directory : Path) → (name : String) → Except Failure String
  /-- The languages of the project. -/
  renderers : Renderers
  /-- The resources. -/
  resources : Store := {}
  /-- The handlers. -/
  handlers : Registry := {}

namespace App

/-- The place of a path below the content folder. -/
def contentPath (app : App) (p : Path) : Path := app.settings.folders.file.join p

/-- What the engine sees of an application. -/
def host (app : App) : Host where
  contentFolder := app.settings.folders.file
  fileText := app.fileText
  renderTemplate := app.renderers.template
  renderMarkdown := app.renderers.markdown app.settings.markdown
  compileStyle := app.renderers.style
  readData := app.renderers.data
  handler? := app.handlers.get?

/-- Reads a template in a directory and renders it with a value as context. -/
def renderTemplate (app : App) (directory : Path) (name : String) (value : Option Json) :
    Except Failure String := do
  let source ← app.fileText directory name
  app.renderers.template name source value

end App

end Folio
