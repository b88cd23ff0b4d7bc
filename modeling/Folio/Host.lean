import Folio.ContextTree
import Folio.Failure
import Folio.Operation

/-!
# The host of an evaluation

The engine reads no file and renders nothing itself: a *host* gives it files, renderers and
handlers, all of them functions. So during one evaluation a host answers at once, and answers alike
what it is asked twice. How it answers at another time is left open: files come and go, and handlers
may remember what they have been asked. Each evaluation is given the host as it is then.

What an evaluation leaves behind, whether it succeeds or fails, is kept in a journal: the tree of
contexts, the paths read and the handlers called.
-/

namespace Folio

/-- What a handler is told about its call. -/
structure Call where
  /-- The name of the resource. -/
  resource : String
  /-- The depth of the calling context. -/
  depth : Nat
  /-- The effective input of the calling context. -/
  input : Json
  /-- The operation that carries the directive. -/
  operation : Operation
  /-- The argument of the directive. -/
  target : FileRef

/-- What a handler answers: a result, and the files it has read on the way. -/
structure Answer where
  /-- The data of the operation, or why there is none. -/
  result : Except Failure Json
  /-- The paths read, in order. -/
  reads : List Path := []

/-- A handler of the directive `custom`. -/
abbrev Handler := Call → Answer

/-- What surrounds an evaluation. -/
structure Host where
  /-- The folder below which files, templates and handlers are named. -/
  contentFolder : Path
  /-- The text of a file in a directory. -/
  fileText : (directory : Path) → (name : String) → Except Failure String
  /-- Renders the source of a template, known by a name, with a value as context. -/
  renderTemplate : (name source : String) → Option Json → Except Failure String
  /-- Renders markdown. -/
  renderMarkdown : String → String
  /-- Compiles a style sheet. -/
  compileStyle : String → Except Failure String
  /-- Reads structured data. -/
  readData : String → Except Failure Json
  /-- The handler registered under a key. -/
  handler? : (key : String) → Option Handler

/-- The place of a path below the content folder. -/
def Host.contentPath (host : Host) (p : Path) : Path := host.contentFolder.join p

/-- What an evaluation leaves behind. -/
structure Journal where
  /-- The contexts of the evaluation. -/
  tree : ContextTree
  /-- The paths read, in order. -/
  reads : List Path := []
  /-- The keys of the handlers called, in order. -/
  calls : List String := []
deriving DecidableEq

namespace Journal

/-- Notes that a path has been read. -/
def addRead (j : Journal) (p : Path) : Journal := { j with reads := j.reads ++ [p] }

/-- Notes that a handler has been called and what it has read. -/
def addCall (j : Journal) (key : String) (reads : List Path) : Journal :=
  { j with calls := j.calls ++ [key], reads := j.reads ++ reads }

end Journal

end Folio
