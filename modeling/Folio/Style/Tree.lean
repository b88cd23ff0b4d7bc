/-!
# Style sheets

A style sheet is a list of statements: rules with selectors, declarations of properties, and
statements that compute something, such as loops and mixins. Most texts in it are *composed*:
characters with expressions in between, whose values are put in their place.

* `Style.Expression`, `Style.Piece`: expressions and composed texts;
* `Style.Statement`: statements.
-/

namespace Folio.Style

/-- What stands between the items of a list. -/
inductive Separator where
  /-- Blanks. -/
  | space
  /-- Commas. -/
  | comma
  /-- Slashes. -/
  | slash
  /-- Nothing yet, as there are too few items. -/
  | undecided
deriving DecidableEq

/-- An operator between two operands. -/
inductive BinaryOperator where
  /-- Disjunction. -/
  | or
  /-- Conjunction. -/
  | and
  /-- Equality. -/
  | eq
  /-- Its negation. -/
  | ne
  /-- The order of numbers. -/
  | lt
  /-- The same, or equality. -/
  | le
  /-- The reverse order. -/
  | gt
  /-- The same, or equality. -/
  | ge
  /-- Sums, and texts in a row. -/
  | plus
  /-- Differences. -/
  | minus
  /-- Products. -/
  | times
  /-- Quotients. -/
  | divide
  /-- Remainders. -/
  | modulo
deriving DecidableEq

/-- An operator before its operand. -/
inductive UnaryOperator where
  /-- The operand itself. -/
  | plus
  /-- Its opposite. -/
  | minus
  /-- The operand behind a slash. -/
  | divide
  /-- Its negation. -/
  | not
deriving DecidableEq

mutual

/-- An expression. -/
inductive Expression where
  /-- A number with its unit. -/
  | number (value : Float) (unit : String)
  /-- A color by its hexadecimal digits. -/
  | hexColor (digits : List Char)
  /-- A text in quotes. -/
  | quoted (content : List Piece)
  /-- A text without quotes. -/
  | word (content : List Piece)
  /-- A variable, maybe of a module. -/
  | named (module : Option String) (name : String)
  /-- The selector of the rule at hand. -/
  | parent
  /-- A list. -/
  | list (items : List Expression) (separator : Separator) (inBrackets : Bool)
  /-- A map. -/
  | map (entries : List (Expression × Expression))
  /-- An expression in parentheses. -/
  | parens (e : Expression)
  /-- An operator and its operand. -/
  | unary (op : UnaryOperator) (e : Expression)
  /-- An operator and its operands. A quotient of plain numbers may stay as it is written. -/
  | binary (op : BinaryOperator) (l r : Expression) (staysSlash : Bool)
  /-- A call of a function, maybe of a module. -/
  | call (module : Option String) (name : String) (arguments : Arguments)
  /-- A call of a function whose name is composed. -/
  | composedCall (name : List Piece) (arguments : Arguments)
  /-- A calculation that may be left to the reader of the sheet. -/
  | calculation (name : String) (operands : List Expression)

/-- A piece of a composed text. -/
inductive Piece where
  /-- Characters as they are. -/
  | chars (s : List Char)
  /-- The value of an expression. -/
  | value (e : Expression)

/-- The arguments of a call. -/
inductive Arguments where
  /-- Arguments by place and by name, and lists and maps of further ones. -/
  | mk (positional : List Expression) (named : List (String × Expression))
      (spread : List Expression)

end

/-- A text in which nothing is left to compute may be composed of several pieces, or of none. -/
abbrev Composed := List Piece

/-- The parameters of a mixin or function. -/
structure Parameters where
  /-- The names, each with its default, if there is one. -/
  named : List (String × Option Expression) := []
  /-- The name for all further arguments. -/
  rest : Option String := none

/-- A statement. -/
inductive Statement where
  /-- Gives a value to a variable. -/
  | assign (name : String) (value : Expression) (isDefault isGlobal : Bool)
  /-- Declares a property, or a group of properties with a common beginning. -/
  | declare (name : Composed) (value : Option Expression) (body : Option (List Statement))
  /-- Declares a property whose value is kept as it is. -/
  | declareRaw (name value : Composed)
  /-- A rule. -/
  | rule (selector : Composed) (body : List Statement)
  /-- A comment that is kept; `place` counts the characters of the sheet from there on. -/
  | comment (text : Composed) (place : Nat)
  /-- Statements for some media. -/
  | media (queries : Composed) (body : List Statement)
  /-- Statements for readers that support something. -/
  | supports (condition : Composed) (body : List Statement)
  /-- Statements outside the rules around them. -/
  | atRoot (query : Option Composed) (body : List Statement)
  /-- Any other statement that begins with an at sign. -/
  | other (name : Composed) (text : Composed) (body : Option (List Statement))
  /-- Adds the selector at hand wherever another one stands. -/
  | extend (target : Composed) (isOptional : Bool)
  /-- Defines a mixin. -/
  | mixin (name : String) (parameters : Parameters) (body : List Statement)
  /-- Defines a function. -/
  | function (name : String) (parameters : Parameters) (body : List Statement)
  /-- Includes a mixin, maybe with content for it. -/
  | includes (name : String) (arguments : Arguments)
      (content : Option (Parameters × List Statement))
  /-- The content that a mixin is included with. -/
  | content (arguments : Arguments)
  /-- The value of a function. -/
  | returns (value : Expression)
  /-- Statements under conditions, the first that holds. -/
  | branch (cases : List (Option Expression × List Statement))
  /-- Statements for each number from one to another. -/
  | forLoop (name : String) (first last : Expression) (includesLast : Bool)
      (body : List Statement)
  /-- Statements for each item of a list. -/
  | eachLoop (names : List String) (list : Expression) (body : List Statement)
  /-- Statements as long as a condition holds. -/
  | whileLoop (condition : Expression) (body : List Statement)
  /-- Ends everything with an error. -/
  | fail (value : Expression)
  /-- Computes something that is only reported. -/
  | note (value : Expression)
  /-- Refers to another sheet. -/
  | imports (target : Composed)
  /-- Gives a name to a module of functions, or none if its functions need none. -/
  | uses (module : String) (name : Option String)

end Folio.Style
