import Folio.Failure
import Folio.Path

/-!
# Trees of files

A picture of a file system: files and directories below one top directory, one of which is the
current one. A path is followed part by part from the top, or from the current directory unless it
starts at the root; `..` leads back to the directory above, as it is in the tree.

* `FileTree.find`: what stands at a path, or why nothing does;
* `FileTree.read`, `FileTree.entries`: the text of a file, the entries of a directory;
* `FileTree.put`: the tree with one more file or directory.
-/

namespace Folio

/-- The system's words for a fault. -/
def FileFault.text : FileFault → String
  | .notFound => "No such file or directory (os error 2)"
  | .permissionDenied => "Permission denied (os error 13)"
  | .isADirectory => "Is a directory (os error 21)"
  | .notADirectory => "Not a directory (os error 20)"
  | .invalidData => "stream did not contain valid UTF-8"
  | .other => "other error"

/-- The failure that a fault gives rise to. -/
def FileFault.failure (fault : FileFault) : Failure := { cause := .file fault fault.text }

/-- What stands at one place of a tree. -/
inductive FileNode where
  /-- A file with its bytes. -/
  | file (bytes : List UInt8)
  /-- A directory with its entries, in the order of their names. -/
  | directory (entries : List (String × FileNode))

namespace FileNode

/-- Whether this is a directory. -/
def isDirectory : FileNode → Bool
  | .file _ => false
  | .directory _ => true

/-- The entries, if there are any. -/
def entries : FileNode → List (String × FileNode)
  | .file _ => []
  | .directory entries => entries

/-- Entries with one more, in its place by name, or instead of the one there. -/
def insert (name : String) (n : FileNode) : List (String × FileNode) → List (String × FileNode)
  | [] => [(name, n)]
  | (m, e) :: rest =>
    if name < m then (name, n) :: (m, e) :: rest
    else if name = m then (name, n) :: rest
    else (m, e) :: insert name n rest

/-- The node with another one at a place below it, and directories on the way. What is a directory
    in both keeps its entries. -/
def put (new : FileNode) : List String → FileNode → FileNode
  | [], old => if new.isDirectory && old.isDirectory && new.entries.isEmpty then old else new
  | name :: names, old =>
    let child := ((old.entries.find? fun e => e.1 == name).map Prod.snd).getD (.directory [])
    .directory (insert name (put new names child) old.entries)

end FileNode

/-- A tree of files. -/
structure FileTree where
  /-- What is at the top. -/
  top : FileNode := .directory []
  /-- The names that lead from the top to the current directory. -/
  current : List String := []

namespace FileTree

/-- Follows names from a node; the directories above it are given innermost first. -/
def follow : (above : List FileNode) → FileNode → List String → Except FileFault FileNode
  | _, n, [] => .ok n
  | above, n, name :: names =>
    match n with
    | .file _ => .error .notADirectory
    | .directory entries =>
      if name = "" ∨ name = "." then follow above n names
      else if name = ".." then
        match above with
        | [] => follow [] n names
        | up :: above => follow above up names
      else
        match entries.find? fun e => e.1 == name with
        | none => .error .notFound
        | some (_, child) => follow (n :: above) child names

/-- The names that a path is followed by from the top. -/
def names (t : FileTree) (p : Path) : List String :=
  let own := (Path.splitSlash p.text.toList).map String.ofList
  if p.isAbsolute then own else t.current ++ own

/-- What stands at a path. -/
def find (t : FileTree) (p : Path) : Except FileFault FileNode :=
  if p.text.isEmpty then .error .notFound else follow [] t.top (t.names p)

/-- Whether something stands at a path. -/
def has (t : FileTree) (p : Path) : Bool := (t.find p).toBool

/-- The text of a file. -/
def read (t : FileTree) (p : Path) : Except FileFault String := do
  match ← t.find p with
  | .directory _ => .error .isADirectory
  | .file bytes =>
    match String.fromUTF8? ⟨bytes.toArray⟩ with
    | some s => return s
    | none => .error .invalidData

/-- The entries of a directory. -/
def entries (t : FileTree) (p : Path) : Except FileFault (List (String × FileNode)) := do
  match ← t.find p with
  | .directory entries => return entries
  | .file _ => .error .notADirectory

/-- The tree with a node at a path, whose names are taken as they are. -/
def put (t : FileTree) (p : Path) (n : FileNode) : FileTree :=
  { t with top := n.put ((t.names p).filter fun name => name ≠ "" ∧ name ≠ ".") t.top }

end FileTree

end Folio
