import Folio.Double

/-!
# Templates as trees

A template is text with tags in it: some print the value of an expression, some decide what is
printed, some bind names. This module holds the tree that a template is read into.

* `Template.Expr`: expressions, each with the filters that its value goes through;
* `Template.Node`: texts and tags.
-/

namespace Folio.Template

/-- Operations on numbers. -/
inductive Arithmetic where
  /-- The sum. -/
  | add
  /-- The difference. -/
  | sub
  /-- The product. -/
  | mul
  /-- The quotient. -/
  | div
  /-- The remainder. -/
  | rem
deriving DecidableEq

/-- Operations that say whether something holds. -/
inductive Relation where
  /-- One of both. -/
  | or
  /-- Both. -/
  | and
  /-- Less than. -/
  | lt
  /-- At most. -/
  | le
  /-- Greater than. -/
  | gt
  /-- At least. -/
  | ge
  /-- Equal. -/
  | eq
  /-- Different. -/
  | ne
deriving DecidableEq

mutual

/-- What an expression computes before its filters. -/
inductive Operand where
  /-- A quoted text. -/
  | text (s : String)
  /-- A whole number of 64 bits. -/
  | integer (n : Int)
  /-- A number with a point. -/
  | real (d : Double)
  /-- A truth value. -/
  | truth (b : Bool)
  /-- A variable, and what lies below it. -/
  | path (name : String)
  /-- A computation with numbers. -/
  | arithmetic (op : Arithmetic) (lhs rhs : Expr)
  /-- A comparison, or a connection of truth values. -/
  | relation (op : Relation) (lhs rhs : Expr)
  /-- Whether a list, text or object holds something, or does not. -/
  | membership (isNegated : Bool) (lhs rhs : Expr)
  /-- Whether a variable passes a check, or does not. -/
  | check (isNegated : Bool) (path name : String) (args : List Expr)
  /-- The answer of a function. -/
  | call (c : Call)
  /-- The text that a definition of the template renders. -/
  | invoke (space name : String) (args : List (String × Expr))
  /-- A list. -/
  | array (items : List Expr)
  /-- Texts and numbers, one after the other. -/
  | joined (parts : List Operand)

/-- An operand, the filters it goes through, and whether its truth is turned around. -/
inductive Expr where
  /-- The expression of these parts. -/
  | mk (operand : Operand) (isNegated : Bool) (filters : List Call)

/-- A name with named arguments. -/
inductive Call where
  /-- The call of these parts. -/
  | mk (name : String) (args : List (String × Expr))

end

namespace Call

/-- What is called. -/
def name : Call → String
  | .mk name _ => name

/-- The arguments by name. -/
def args : Call → List (String × Expr)
  | .mk _ args => args

end Call

namespace Expr

/-- An operand without filters. -/
def plain (operand : Operand) : Expr := .mk operand false []

/-- What is computed before the filters. -/
def operand : Expr → Operand
  | .mk operand _ _ => operand

/-- The filters, in the order they are gone through. -/
def filters : Expr → List Call
  | .mk _ _ filters => filters

/-- The same expression with its truth turned around. -/
def negate : Expr → Expr
  | .mk operand _ filters => .mk operand true filters

end Expr

/-- On which sides of a tag blanks are dropped. -/
structure Trim where
  /-- Before the tag. -/
  before : Bool
  /-- After the tag. -/
  after : Bool
deriving DecidableEq

/-- The parameters of a definition: names, some with a default. -/
abbrev Parameters := List (String × Option Operand)

/-- A piece of a template. A tag carries how the blanks around it are treated; one with a body does
    so for its first and its last tag. -/
inductive Node where
  /-- Text as it is printed. -/
  | text (s : String)
  /-- Text between tags that keep it from being read. -/
  | verbatim (first : Trim) (s : String) (last : Trim)
  /-- A comment. -/
  | comment (trim : Trim)
  /-- The value of an expression. -/
  | print (trim : Trim) (e : Expr)
  /-- Binds a name, for the loop round at hand or outside of all loops. -/
  | bind (trim : Trim) (isGlobal : Bool) (name : String) (e : Expr)
  /-- Renders the first of some templates that there is. -/
  | inclusion (trim : Trim) (names : List String) (optional : Bool)
  /-- Takes over the definitions of another template under a name. -/
  | definitionsOf (trim : Trim) (template space : String)
  /-- Takes over the frame of another template. -/
  | extension (trim : Trim) (template : String)
  /-- Ends a loop, or only the round at hand. -/
  | leave (trim : Trim) (wholeLoop : Bool)
  /-- The block of this name in the template that is extended. -/
  | parentBlock
  /-- The first branch whose condition holds, or else the last part. -/
  | branches (all : List (Trim × Expr × List Node)) (otherwise : Option (Trim × List Node))
      (last : Trim)
  /-- The body once for every item. -/
  | loop (first : Trim) (key : Option String) (item : String) (container : Expr)
      (body : List Node) (ifEmpty : Option (List Node)) (last : Trim)
  /-- The body, put through a filter. -/
  | filtered (first : Trim) (filter : Call) (body : List Node) (last : Trim)
  /-- A part that another template may replace. -/
  | block (first : Trim) (name : String) (body : List Node) (last : Trim)
  /-- A definition: a part with parameters. -/
  | definition (first : Trim) (name : String) (parameters : Parameters) (body : List Node)
      (last : Trim)

end Folio.Template
