import Folio.EngineError
import Folio.Json.Reader

/-!
# Failures

Whatever goes wrong has one cause at its root: the engine refuses the resource, a file cannot be
read, a text is not what its language asks for, a handler fails. On its way up a failure gathers
contexts, each outside the one before. A report for the user classifies a failure by its cause
alone, under whatever contexts, and keeps the words of the whole chain.

* `Failure`: a cause under contexts;
* `Failure.chain`: all its words, outermost first;
* `Failure.report`: what the user is told, with a suggestion and details.
-/

namespace Folio

/-- Why a file cannot be read. -/
inductive FileFault where
  /-- There is no such file. -/
  | notFound
  /-- The file may not be read. -/
  | permissionDenied
  /-- A file was expected and a directory is there. -/
  | isADirectory
  /-- A directory was expected and a file is there. -/
  | notADirectory
  /-- The file is not UTF-8 text. -/
  | invalidData
  /-- Anything else. -/
  | other
deriving DecidableEq

/-- Why a template was not rendered. -/
inductive TemplateError where
  /-- The template is malformed or failed while rendering; the line is known in some cases. -/
  | rendering (template message : String) (line : Option Nat)
  /-- The value given to the template cannot be its context. -/
  | invalidContext (template message : String)
deriving DecidableEq

/-- The words for an error of a template. -/
def TemplateError.message : TemplateError → String
  | .rendering template message (some line) =>
    s!"Template error in '{template}' at line {line}: {message}"
  | .rendering template message none => s!"Template error in '{template}': {message}"
  | .invalidContext template message => s!"Invalid context for template '{template}': {message}"

/-- What lies at the root of a failure. -/
inductive Cause where
  /-- The engine refuses the resource. -/
  | engine (e : EngineError)
  /-- A file cannot be read. -/
  | file (fault : FileFault) (text : String)
  /-- A text is not the structured data it should be. -/
  | yaml (text : String)
  /-- A text is not the settings it should be. -/
  | toml (text : String)
  /-- A style sheet does not compile. -/
  | style (text : String)
  /-- A template was not rendered. -/
  | template (e : TemplateError)
  /-- A text is not JSON. -/
  | json (text : String)
  /-- Anything else, in its own words. -/
  | message (text : String)
deriving DecidableEq

/-- The words for a cause. -/
def Cause.text : Cause → String
  | .engine e => e.message
  | .template e => e.message
  | .file _ text | .yaml text | .toml text | .style text | .json text | .message text => text

/-- A cause and the contexts it arose in. -/
structure Failure where
  /-- The contexts, outermost first. -/
  contexts : List String := []
  /-- The root of the failure. -/
  cause : Cause
deriving DecidableEq

namespace Failure

/-- A failure that is an error of the engine. -/
def ofEngine (e : EngineError) : Failure := { cause := .engine e }

/-- The same failure inside one more context. -/
def inContext (f : Failure) (context : String) : Failure :=
  { f with contexts := context :: f.contexts }

/-- All words, outermost first, ending with the cause. -/
def chain (f : Failure) : List String := f.contexts ++ [f.cause.text]

/-- All words on one line. -/
def chainText (f : Failure) : String := ": ".intercalate f.chain

/-- The lines for the causes after the outermost words, numbered from `n` on. -/
def numberedLines : (n : Nat) → List String → String
  | _, [] => ""
  | n, text :: rest => s!"\n  {n}: {text}" ++ numberedLines (n + 1) rest

/-- The outermost words, and below them the remaining ones as a numbered list. -/
def chainMessage (f : Failure) : String :=
  match f.chain with
  | [] => ""
  | [text] => text
  | text :: rest => text ++ "\n\nCaused by:" ++ numberedLines 1 rest

end Failure

/-- What the user is told about a failure. -/
structure Report where
  /-- The error, in the engine's terms. -/
  error : EngineError
  /-- What the user can do. -/
  suggestion : Option String := none
  /-- More explanation. -/
  details : Option String := none
deriving DecidableEq

namespace Report

/-- Suggestion and details for an error of the engine. -/
def ofEngine (e : EngineError) : Report :=
  match e with
  | .duplicatePrimary .. =>
    { error := e
      suggestion := "Split the operation so that each one has a single primary directive"
      details := "Primary directives are: file, scss, md, njk, raw, yml, custom" }
  | .unknownDirective .. =>
    { error := e
      suggestion := "Check the directive name for typos"
      details := "Known directives: file, scss, md, njk, raw, yml, custom, with, as, in, out" }
  | .unsupportedOutputMode .. =>
    { error := e
      suggestion :=
        "Use one of: raw, string, first_serve, object, property (or leave it empty)" }
  | .malformedObjectOutput .. =>
    { error := e
      suggestion := "Make sure the concatenated operation results form one JSON document"
      details := "Mode 'object' joins every operation's data as text and parses the result" }
  | .resourceNotFound .. =>
    { error := e
      suggestion := "Run 'rcengine list' to see the available resources, or check 'folders.rc' " ++
        "in rcengine.toml" }
  | .invalidArgument .. =>
    { error := e
      details := "'file', 'njk' and 'custom' expect a mapping with 'path' and 'name'" }
  | .missingInput .. =>
    { error := e
      suggestion := "Add a 'with' directive to the same operation to supply the text" }
  | .customHandlerNotFound .. =>
    { error := e
      suggestion := "Register the handler on the application with AppBuilder::custom" }
  | .other .. => { error := e }

/-- The text of a report: the error, and below it details and suggestion. -/
def text (r : Report) : String :=
  r.error.message ++ (r.details.map ("\nDetails: " ++ ·)).getD "" ++
    (r.suggestion.map ("\nSuggestion: " ++ ·)).getD ""

end Report

/-- What the user is told about a failure. An error of the engine is told as it is; any other
    failure with all its words, and with a suggestion where its cause has one. -/
def Failure.report (f : Failure) : Report :=
  match f.cause with
  | .engine e => .ofEngine e
  | .file .notFound _ =>
    { error := .other f.chainMessage
      suggestion :=
        "Check that the file exists under the configured 'folders.file' directory"
      details := "A 'file' or 'njk' directive points at a path that could not be read" }
  | .yaml _ =>
    { error := .other f.chainMessage
      suggestion := "Check the YAML syntax: indentation, quoting and list markers"
      details :=
        "Either a resource definition or the input of a 'yml' directive is not valid YAML" }
  | .toml _ =>
    { error := .other f.chainMessage
      suggestion := "Check the TOML syntax in rcengine.toml" }
  | .style _ =>
    { error := .other f.chainMessage
      suggestion :=
        "Check the SCSS produced by the 'with' directive of the 'scss' operation" }
  | .template _ =>
    { error := .other f.chainMessage
      suggestion := "Check template syntax: variables use \x7b\x7b var \x7d\x7d, control flow " ++
        "uses \x7b% %\x7d. The 'with' result of the operation is the template context" }
  | .file _ _ | .json _ | .message _ => { error := .other f.chainMessage }

end Folio
