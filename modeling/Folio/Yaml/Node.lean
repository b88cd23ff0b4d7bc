import Folio.Yaml.Token

/-!
# Nodes of YAML

A document is a node: a scalar, a list or a mapping, with an anchor and a tag if it has them, or the
name of a node met before. Nodes are read from tokens; a collection that lacks a value holds an
empty plain scalar in its place.

* `Yaml.Node`: the nodes;
* `Yaml.document`: the one document of a text.
-/

namespace Folio.Yaml

/-- What stands before a node. -/
structure Properties where
  /-- The name of the node. -/
  anchor : Option String := none
  /-- The type of the node. -/
  tag : Option String := none
deriving DecidableEq

/-- A node of a document, where `α` is how the target of an alias is given: by its name as it is
    read, by a number once the names have been looked up. -/
inductive Node (α : Type) where
  /-- A node met before. -/
  | alias (target : α)
  /-- A text; a plain one stands without quotes or indicator. -/
  | scalar (props : Properties) (plain : Bool) (text : String)
  /-- A list of nodes. -/
  | sequence (props : Properties) (items : List (Node α))
  /-- Pairs of key and value, in the order they are written. -/
  | mapping (props : Properties) (pairs : List (Node α × Node α))

namespace Node

/-- What stands where a node is missing. -/
def empty : Node String := .scalar {} true ""

/-- Abbreviations for tags: pairs of handle and expansion. -/
abbrev Handles := List (String × String)

/-- The abbreviations that every document knows. -/
def standardHandles : Handles := [("!", "!"), ("!!", "tag:yaml.org,2002:")]

/-- The tag written with a handle and a suffix. -/
def resolveTag (handles : Handles) (handle suffix : String) : Except Fault String :=
  if handle.isEmpty then .ok suffix
  else
    match handles.find? fun h => h.1 == handle with
    | some h => .ok (h.2 ++ suffix)
    | none => .error "found undefined tag handle"

/-- Reads anchor and tag, in either order. -/
def properties (handles : Handles) : List Token → Except Fault (Properties × List Token)
  | .anchor name :: .tag handle suffix :: rest | .tag handle suffix :: .anchor name :: rest => do
    let tag ← resolveTag handles handle suffix
    return ({ anchor := some name, tag := some tag }, rest)
  | .anchor name :: rest => .ok ({ anchor := some name }, rest)
  | .tag handle suffix :: rest => do
    let tag ← resolveTag handles handle suffix
    return ({ tag := some tag }, rest)
  | ts => .ok ({}, ts)

/-- Whether the next token is one of some. -/
def nextIs (ts : List Token) (any : List Token) : Bool := ts.head?.any any.contains

mutual

/-- Reads a node. In block context block collections may begin, and where a mapping allows it a list
    that is not indented. Every step takes a token or opens a node, so a multiple of the number of
    tokens is enough `fuel`. -/
def read (handles : Handles) (block flat : Bool) : (fuel : Nat) → List Token →
    Except Fault (Node String × List Token)
  | 0, _ => .error "did not find expected node content"
  | fuel + 1, ts => do
    match ts with
    | .alias name :: rest => return (.alias name, rest)
    | _ =>
      let (props, ts) ← properties handles ts
      match ts with
      | .blockEntry :: _ =>
        if flat then
          let (items, ts) ← flatItems handles fuel ts
          return (.sequence props items, ts)
        else missing props ts
      | .scalar plain text :: rest =>
        /- The tag `!` alone says only that the node has its default type. -/
        if props.tag = some "!" then return (.scalar { props with tag := none } plain text, rest)
        else return (.scalar props plain text, rest)
      | .flowSequence :: rest =>
        let (items, ts) ← flowItems handles true fuel rest
        return (.sequence props items, ts)
      | .flowMapping :: rest =>
        let (pairs, ts) ← flowPairs handles true fuel rest
        return (.mapping props pairs, ts)
      | .blockSequence :: rest =>
        if block then
          let (items, ts) ← blockItems handles fuel rest
          return (.sequence props items, ts)
        else missing props ts
      | .blockMapping :: rest =>
        if block then
          let (pairs, ts) ← blockPairs handles fuel rest
          return (.mapping props pairs, ts)
        else missing props ts
      | _ => missing props ts

/-- An empty node, which needs an anchor or a tag to be there. -/
def missing (props : Properties) (ts : List Token) : Except Fault (Node String × List Token) :=
  if props = {} then .error "did not find expected node content"
  else .ok (.scalar props true "", ts)

/-- Reads a node, or an empty one where one of some tokens follows. -/
def readUnless (handles : Handles) (block flat : Bool) (stop : List Token) : (fuel : Nat) →
    List Token → Except Fault (Node String × List Token)
  | 0, _ => .error "did not find expected node content"
  | fuel + 1, ts =>
    if nextIs ts stop then .ok (empty, ts) else read handles block flat fuel ts

/-- Reads the items of a list in block context. -/
def blockItems (handles : Handles) : (fuel : Nat) → List Token →
    Except Fault (List (Node String) × List Token)
  | 0, _ => .error "did not find expected '-' indicator"
  | fuel + 1, ts => do
    match ts with
    | .blockEntry :: rest =>
      let (v, ts) ← readUnless handles true false [.blockEntry, .blockEnd] fuel rest
      let (vs, ts) ← blockItems handles fuel ts
      return (v :: vs, ts)
    | .blockEnd :: rest => return ([], rest)
    | _ => .error "did not find expected '-' indicator"

/-- Reads the items of a list that stands at the column of its mapping. -/
def flatItems (handles : Handles) : (fuel : Nat) → List Token →
    Except Fault (List (Node String) × List Token)
  | 0, _ => .error "did not find expected '-' indicator"
  | fuel + 1, ts => do
    match ts with
    | .blockEntry :: rest =>
      let (v, ts) ← readUnless handles true false [.blockEntry, .key, .value, .blockEnd] fuel rest
      let (vs, ts) ← flatItems handles fuel ts
      return (v :: vs, ts)
    | _ => return ([], ts)

/-- Reads the pairs of a mapping in block context. -/
def blockPairs (handles : Handles) : (fuel : Nat) → List Token →
    Except Fault (List (Node String × Node String) × List Token)
  | 0, _ => .error "did not find expected key"
  | fuel + 1, ts => do
    match ts with
    | .key :: rest =>
      let (k, ts) ← readUnless handles true true [.key, .value, .blockEnd] fuel rest
      let (v, ts) ← blockValue handles fuel ts
      let (ps, ts) ← blockPairs handles fuel ts
      return ((k, v) :: ps, ts)
    | .blockEnd :: rest => return ([], rest)
    | _ => .error "did not find expected key"

/-- Reads the value of a pair in block context. -/
def blockValue (handles : Handles) : (fuel : Nat) → List Token →
    Except Fault (Node String × List Token)
  | 0, _ => .error "did not find expected key"
  | fuel + 1, ts =>
    match ts with
    | .value :: rest => readUnless handles true true [.key, .value, .blockEnd] fuel rest
    | _ => .ok (empty, ts)

/-- Reads the items of a list in brackets. An item may be a single pair. -/
def flowItems (handles : Handles) (first : Bool) : (fuel : Nat) → List Token →
    Except Fault (List (Node String) × List Token)
  | 0, _ => .error "did not find expected ',' or ']'"
  | fuel + 1, ts => do
    if nextIs ts [.flowSequenceEnd] then return ([], ts.tail)
    else
      let ts ← if first then .ok ts
        else if nextIs ts [.flowEntry] then .ok ts.tail
        else .error "did not find expected ',' or ']'"
      match ts with
      | .flowSequenceEnd :: rest => return ([], rest)
      | .key :: rest =>
        let (k, ts) ←
          if nextIs rest [.value, .flowEntry, .flowSequenceEnd] then .ok (empty, rest.tail)
          else read handles false false fuel rest
        let (v, ts) ←
          if nextIs ts [.value] then
            readUnless handles false false [.flowEntry, .flowSequenceEnd] fuel ts.tail
          else .ok (empty, ts)
        let (vs, ts) ← flowItems handles false fuel ts
        return (.mapping {} [(k, v)] :: vs, ts)
      | _ =>
        let (v, ts) ← read handles false false fuel ts
        let (vs, ts) ← flowItems handles false fuel ts
        return (v :: vs, ts)

/-- Reads the pairs of a mapping in braces. -/
def flowPairs (handles : Handles) (first : Bool) : (fuel : Nat) → List Token →
    Except Fault (List (Node String × Node String) × List Token)
  | 0, _ => .error "did not find expected ',' or '\x7d'"
  | fuel + 1, ts => do
    if nextIs ts [.flowMappingEnd] then return ([], ts.tail)
    else
      let ts ← if first then .ok ts
        else if nextIs ts [.flowEntry] then .ok ts.tail
        else .error "did not find expected ',' or '\x7d'"
      match ts with
      | .flowMappingEnd :: rest => return ([], rest)
      | .key :: rest =>
        let (k, ts) ← readUnless handles false false [.value, .flowEntry, .flowMappingEnd] fuel rest
        let (v, ts) ←
          if nextIs ts [.value] then
            readUnless handles false false [.flowEntry, .flowMappingEnd] fuel ts.tail
          else .ok (empty, ts)
        let (ps, ts) ← flowPairs handles false fuel ts
        return ((k, v) :: ps, ts)
      | _ =>
        let (k, ts) ← read handles false false fuel ts
        let (ps, ts) ← flowPairs handles false fuel ts
        return ((k, empty) :: ps, ts)

end

end Node

/-- Reads the directives before a document: at most one version, which must be known, and no handle
    twice. -/
def directives : (versionSeen : Bool) → Node.Handles → List Token →
    Except Fault (Node.Handles × List Token)
  | versionSeen, handles, .version major minor :: rest =>
    if versionSeen then .error "found duplicate %YAML directive"
    else if major ≠ 1 || (minor ≠ 1 && minor ≠ 2) then .error "found incompatible YAML document"
    else directives true handles rest
  | versionSeen, handles, .tagHandle handle expansion :: rest =>
    if handles.any fun h => h.1 == handle then .error "found duplicate %TAG directive"
    else directives versionSeen ((handle, expansion) :: handles) rest
  | _, handles, ts => .ok (handles, ts)

/-- Fails unless nothing but the end of the text follows a document. -/
def expectEnd (ts : List Token) : Except Fault Unit :=
  match ts.dropWhile (· == .documentEnd) with
  | [.streamEnd] => .ok ()
  | .documentStart :: _ | .version .. :: _ | .tagHandle .. :: _ =>
    .error "deserializing from YAML containing more than one document is not supported"
  | _ => .error "did not find expected <document start>"

/-- The document of a text, or nothing if the text holds none. More than one document is refused. -/
def document (text : String) : Except Fault (Option (Node String)) := do
  let ts ← tokens text
  let fuel := 4 * ts.length + 8
  match ts with
  | [.streamEnd] => return none
  | _ =>
    let (own, rest) ← directives false [] ts
    let handles := own ++ Node.standardHandles
    match rest with
    | .documentStart :: rest =>
      let (node, rest) ←
        if Node.nextIs rest [.documentStart, .documentEnd, .streamEnd] ||
            rest.head?.any (fun t => t matches .version .. | .tagHandle ..) then
          .ok (Node.empty, rest)
        else Node.read handles true false fuel rest
      expectEnd rest
      return some node
    | _ =>
      if own.isEmpty && rest.length = ts.length then
        let (node, rest) ← Node.read handles true false fuel rest
        expectEnd rest
        return some node
      else .error "did not find expected <document start>"

end Folio.Yaml
