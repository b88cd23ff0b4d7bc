import Folio.Operation

/-!
# The store of resources

Definitions of resources by their name, in the order of the names.
-/

namespace Folio

/-- The definition of a resource. -/
structure Definition where
  /-- The operations, in order. -/
  main : List Operation := []
deriving DecidableEq

/-- Definitions by name. -/
structure Store where
  /-- Pairs of name and definition, in the order of the names. -/
  entries : List (String × Definition) := []
deriving DecidableEq

namespace Store

/-- Writes an entry: in its place by name, or over the definition there. -/
def put (name : String) (d : Definition) : List (String × Definition) → List (String × Definition)
  | [] => [(name, d)]
  | (n, e) :: rest =>
    if name < n then (name, d) :: (n, e) :: rest
    else if name = n then (name, d) :: rest
    else (n, e) :: put name d rest

/-- Stores a definition, replacing one of the same name. -/
def insert (s : Store) (name : String) (d : Definition) : Store := ⟨put name d s.entries⟩

/-- The definition of a name. -/
def get (s : Store) (name : String) : Except EngineError Definition :=
  match s.entries.find? fun e => e.1 == name with
  | some e => .ok e.2
  | none => .error (.resourceNotFound name)

/-- The names, in order. -/
def names (s : Store) : List String := s.entries.map Prod.fst

/-- The number of definitions. -/
def size (s : Store) : Nat := s.entries.length

/-- The number of operations of each definition. -/
def counts (s : Store) : List (String × Nat) := s.entries.map fun e => (e.1, e.2.main.length)

end Store

end Folio
