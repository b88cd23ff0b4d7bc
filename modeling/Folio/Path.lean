/-!
# Paths

A path is a text whose parts are divided by slashes. Joining keeps the text as it was given; two
texts name the same place when their components agree, where empty parts do not count and neither
does a single dot, unless it comes first.

* `Path.join`: a path below another one; an absolute path stands for itself;
* `Path.components`: the parts that count, and whether they start at the root.
-/

namespace Folio

/-- A path, as it is written. -/
structure Path where
  /-- The text of the path. -/
  text : String
deriving DecidableEq

namespace Path

/-- Splits characters at every slash. -/
def splitSlash : List Char → List (List Char)
  | [] => [[]]
  | c :: rest =>
    if c = '/' then [] :: splitSlash rest
    else
      match splitSlash rest with
      | part :: parts => (c :: part) :: parts
      | [] => [[c]]

/-- Whether a path starts at the root of the file system. -/
def isAbsolute (p : Path) : Bool := p.text.toList.head? == some '/'

/-- The path `relative` seen from `base`. -/
def join (base relative : Path) : Path :=
  if relative.isAbsolute then relative
  else if base.text.toList.getLast?.all (· == '/') then ⟨base.text ++ relative.text⟩
  else ⟨base.text ++ "/" ++ relative.text⟩

/-- The parts of a path that count. -/
def parts (p : Path) : List String :=
  let all := splitSlash p.text.toList
  let counted := all.tail.filter fun part => part ≠ [] ∧ part ≠ ['.']
  let counted := match all.head? with
    | some part => if part = [] then counted else part :: counted
    | none => counted
  counted.map String.ofList

/-- What a path names: whether it starts at the root, and its parts. -/
def components (p : Path) : Bool × List String := (p.isAbsolute, p.parts)

end Path

end Folio
