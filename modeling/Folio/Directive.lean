/-!
# Directives

Every key of an operation is the name of a directive, and the table of directives is closed. A
*primary* directive produces the operation's data, a *secondary* one prepares input for it, `in` and
`out` stand for the input and the output of the whole resource. A few names are *auxiliary*: they
are computed fields of an operation and never run. Everything else is unknown.

* `Directive.Kind.classify`: what a key is;
* `Directive.name`, `Directive.classify_name`: every directive is classified as itself.
-/

namespace Folio

/-- Directives that produce an operation's data. -/
inductive Primary where
  /-- Reads a file. -/
  | file
  /-- Compiles the text of `with` as a style sheet. -/
  | scss
  /-- Renders the text of `with` as markdown. -/
  | md
  /-- Renders a template with the value of `with` as its context. -/
  | njk
  /-- Answers its argument. -/
  | raw
  /-- Reads the text of `with` as structured data. -/
  | yml
  /-- Calls a handler of the host. -/
  | custom
deriving DecidableEq

/-- Directives that prepare input for the primary directive of the same operation. -/
inductive Secondary where
  /-- Evaluates its argument as a resource of its own. -/
  | nested
  /-- Takes the resource's input as the key of a property. -/
  | key
deriving DecidableEq

/-- A directive that can run. -/
inductive Directive where
  /-- Produces data. -/
  | primary (p : Primary)
  /-- Prepares input. -/
  | secondary (s : Secondary)
  /-- Takes the input of the resource. -/
  | input
  /-- Reduces all data to the output of the resource. -/
  | output
deriving DecidableEq

namespace Primary

/-- The key a primary directive is written as. -/
def name : Primary → String
  | .file => "file"
  | .scss => "scss"
  | .md => "md"
  | .njk => "njk"
  | .raw => "raw"
  | .yml => "yml"
  | .custom => "custom"

/-- Whether the directive works on the text of `with`. -/
def readsWith : Primary → Bool
  | .scss | .md | .yml => true
  | .file | .njk | .raw | .custom => false

/-- Whether the argument names a file or a handler by path and name. -/
def takesFileRef : Primary → Bool
  | .file | .njk | .custom => true
  | .scss | .md | .raw | .yml => false

/-- Every primary directive. -/
def all : List Primary := [.file, .scss, .md, .njk, .raw, .yml, .custom]

end Primary

namespace Secondary

/-- The key a secondary directive is written as. -/
def name : Secondary → String
  | .nested => "with"
  | .key => "as"

end Secondary

namespace Directive

/-- The key a directive is written as. -/
def name : Directive → String
  | .primary p => p.name
  | .secondary s => s.name
  | .input => "in"
  | .output => "out"

/-- The names of computed fields, which are never directives. -/
def auxiliary : List String := ["data", "primaryCounter", "_with", "_as"]

/-- Every directive. -/
def all : List Directive :=
  Primary.all.map .primary ++ [.secondary .nested, .secondary .key, .input, .output]

/-- What a key of an operation is. -/
inductive Kind where
  /-- A directive. -/
  | runs (d : Directive)
  /-- The name of a computed field. -/
  | auxiliary
  /-- Nothing known: the resource is malformed. -/
  | unknown
deriving DecidableEq

/-- Looks a key up in the table of directives. -/
def Kind.classify (key : String) : Kind :=
  match all.find? fun d => d.name == key with
  | some d => .runs d
  | none => if Directive.auxiliary.contains key then .auxiliary else .unknown

/-- The directive that a key names, if it names one. -/
def Kind.directive? : Kind → Option Directive
  | .runs d => some d
  | .auxiliary | .unknown => none

/-- The directive written as a key, if there is one. -/
def ofName? (key : String) : Option Directive := (Kind.classify key).directive?

/-- Every directive is read back from its name. -/
theorem classify_name (d : Directive) : Kind.classify d.name = .runs d := by
  cases d with
  | primary p => cases p <;> decide
  | secondary s => cases s <;> decide
  | input => decide
  | output => decide

end Directive

end Folio
