/-!
# Errors of the engine

The engine itself refuses a resource for nine causes; each carries what its words need, and
`EngineError.message` is the only place where the words stand.
-/

namespace Folio

/-- Why the engine refuses a resource. -/
inductive EngineError where
  /-- An operation has two primary directives, or its primary directive is run a second time. -/
  | duplicatePrimary (resource : String) (operation : Nat) (directive : String)
  /-- A key of an operation is no directive. -/
  | unknownDirective (resource : String) (operation : Nat) (directive : String)
  /-- The argument of `out` names no output mode. -/
  | unsupportedOutputMode (mode : String)
  /-- The results joined by mode `object` are no JSON text. -/
  | malformedObjectOutput (reason : String)
  /-- There is no resource of this name. -/
  | resourceNotFound (name : String)
  /-- The argument of a directive has the wrong shape. -/
  | invalidArgument (directive reason : String)
  /-- A directive that works on the result of `with` has none. -/
  | missingInput (directive : String)
  /-- No handler is registered under this key. -/
  | customHandlerNotFound (key : String)
  /-- Anything else. -/
  | other (message : String)
deriving DecidableEq

/-- The words for an error of the engine. -/
def EngineError.message : EngineError → String
  | .duplicatePrimary resource operation directive =>
    s!"Operation {operation} of resource '{resource}' has more than one primary directive " ++
      s!"(second: '{directive}')"
  | .unknownDirective resource operation directive =>
    s!"Unknown directive '{directive}' in operation {operation} of resource '{resource}'"
  | .unsupportedOutputMode mode => s!"Unsupported output mode '{mode}'"
  | .malformedObjectOutput reason =>
    s!"Output of mode 'object' is not valid structured data: {reason}"
  | .resourceNotFound name => s!"Resource '{name}' not found"
  | .invalidArgument directive reason =>
    s!"Invalid argument for directive '{directive}': {reason}"
  | .missingInput directive => s!"Directive '{directive}' requires input from a 'with' directive"
  | .customHandlerNotFound key => s!"No custom handler registered for '{key}'"
  | .other message => message

end Folio
