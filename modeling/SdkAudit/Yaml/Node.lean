import SdkAudit.Yaml.Layout

/-!
# The nodes of a YAML document

A document is a node: a scalar, a list of nodes, or a map of entries.  An alias stands for the node
that its name was given to last, which may be one that the alias is itself a part of.

* `Node`: a node with its tag and its position;
* `Document.resolve`: a node, or the one that an alias stands for;
* `Document.ofText?`: the document in a text, which has to hold one or none at all.
-/

namespace SdkAudit.Yaml

/-- A node of a document.  A node that has properties in front of it is positioned where they start.
-/
inductive Node where
  | scalar (text : String) (style : Style) (tag : Option String) (position : Position)
  | list (items : List Node) (tag : Option String) (position : Position)
  | map (entries : List (Node × Node)) (tag : Option String) (position : Position)
  /-- An alias of one of the nodes that have a name, which are numbered in the order of their
  starts. -/
  | alias (target : Nat) (position : Position)
deriving Repr

namespace Node

/-- A scalar that is not written at all. -/
def empty (p : Position) : Node := .scalar "" .plain none p

def tag? : Node → Option String
  | .scalar _ _ tag _ => tag
  | .list _ tag _ => tag
  | .map _ tag _ => tag
  | .alias .. => none

end Node

/-- The tokens that are still to be read, and the nodes that names have been given to. -/
structure Reading where
  ahead : List PlacedToken
  /-- For each name the number of the node that it was given to last. -/
  anchors : List (String × Nat) := []
  /-- The nodes that have a name, with an empty one for each that is still being read. -/
  anchored : Array Node := #[]
deriving Repr

namespace Reading

/-- The next token; there is always one. -/
def next (r : Reading) : PlacedToken := r.ahead.headD ⟨.finish, .origin, .origin⟩

def skip (r : Reading) : Reading := { r with ahead := r.ahead.tail }

/-- Gives a name to the node that starts here. -/
def anchor (r : Reading) (name : String) : Reading :=
  { r with
    anchors := (name, r.anchored.size) :: r.anchors
    anchored := r.anchored.push (.empty r.next.start) }

/-- Sets a node that has a name, now that it has been read. -/
def settle (r : Reading) (number : Nat) (node : Node) : Reading :=
  { r with anchored := r.anchored.setIfInBounds number node }

def fail {α : Type} (r : Reading) : Except Malformed α := .error ⟨r.next.start⟩

end Reading

/-! ### Properties -/

/-- The properties in front of a node. -/
structure Properties where
  anchor : Option String := none
  tag : Option String := none

/-- What handles stand for. -/
abbrev Handles := List (String × String)

/-- The handles that need no directive. -/
def usualHandles : Handles := [("!", "!"), ("!!", "tag:yaml.org,2002:")]

def fullTag? (handles : Handles) (handle rest : String) : Option String :=
  if handle = "" then some rest else (handles.lookup handle).map (· ++ rest)

/-- Reads a tag in front of a node, if there is one. -/
def readTagOf (handles : Handles) (r : Reading) : Except Malformed (Option String × Reading) :=
  match r.next.token with
  | .tag handle rest =>
    match fullTag? handles handle rest with
    | some tag => .ok (some tag, r.skip)
    | none => r.fail
  | _ => .ok (none, r)

/-- Reads an anchor in front of a node, if there is one. -/
def readAnchorOf (r : Reading) : Option String × Reading :=
  match r.next.token with
  | .anchor name => (some name, r.skip)
  | _ => (none, r)

/-- Reads the properties of a node, in either order. -/
def readProperties (handles : Handles) (r : Reading) : Except Malformed (Properties × Reading) := do
  match readAnchorOf r with
  | (some name, r) =>
    let (tag, r) ← readTagOf handles r
    return ({ anchor := some name, tag }, r)
  | (none, r) =>
    match ← readTagOf handles r with
    | (some tag, r) =>
      let (anchor, r) := readAnchorOf r
      return ({ anchor, tag := some tag }, r)
    | (none, r) => return ({}, r)

/-! ### Nodes -/

mutual

/-- Reads a node.  Inside brackets there are no blocks; the value of a block map may be a list whose
items are not indented. -/
def readNode (handles : Handles) (block bare : Bool) :
    Nat → Reading → Except Malformed (Node × Reading)
  | 0, r => r.fail
  | fuel + 1, r =>
    let p := r.next.start
    match r.next.token with
    | .alias name =>
      match r.anchors.lookup name with
      | some target => .ok (.alias target p, r.skip)
      | none => r.fail
    | _ => do
      let (properties, r) ← readProperties handles r
      let tag := properties.tag
      let number := r.anchored.size
      let r := properties.anchor.elim r r.anchor
      let (node, r) ← match r.next.token with
        | .scalar text style => pure (.scalar text style tag p, r.skip)
        | .openList => do
          let (items, r) ← readItems handles fuel true r.skip
          pure (.list items tag p, r)
        | .openMap => do
          let (entries, r) ← readEntries handles fuel true r.skip
          pure (.map entries tag p, r)
        | token =>
          if token = .dash ∧ bare then do
            let (items, r) ← readBareItems handles fuel r
            pure (.list items tag p, r)
          else if token = .openBlockList ∧ block then do
            let (items, r) ← readBlockItems handles fuel r.skip
            pure (.list items tag p, r)
          else if token = .openBlockMap ∧ block then do
            let (entries, r) ← readBlockEntries handles fuel r.skip
            pure (.map entries tag p, r)
          else if properties.anchor.isSome ∨ tag.isSome then
            pure (.scalar "" .plain tag p, r)
          else r.fail
      return (node, if properties.anchor.isSome then r.settle number node else r)

/-- Reads a node of a block, unless one of some tokens comes in its place. -/
def readUnless (handles : Handles) (bare : Bool) (others : List Token) :
    Nat → Position → Reading → Except Malformed (Node × Reading)
  | 0, _, r => r.fail
  | fuel + 1, p, r =>
    if others.contains r.next.token then .ok (.empty p, r) else readNode handles true bare fuel r

def readBlockItems (handles : Handles) : Nat → Reading → Except Malformed (List Node × Reading)
  | 0, r => r.fail
  | fuel + 1, r => do
    match r.next.token with
    | .dash =>
      let (item, r) ← readUnless handles false [.dash, .closeBlock] fuel r.next.stop r.skip
      let (items, r) ← readBlockItems handles fuel r
      return (item :: items, r)
    | .closeBlock => return ([], r.skip)
    | _ => r.fail

/-- Reads the items of a list that is not indented. -/
def readBareItems (handles : Handles) : Nat → Reading → Except Malformed (List Node × Reading)
  | 0, r => r.fail
  | fuel + 1, r => do
    match r.next.token with
    | .dash =>
      let (item, r) ←
        readUnless handles false [.dash, .key, .colon, .closeBlock] fuel r.next.stop r.skip
      let (items, r) ← readBareItems handles fuel r
      return (item :: items, r)
    | _ => return ([], r)

def readBlockEntries (handles : Handles) :
    Nat → Reading → Except Malformed (List (Node × Node) × Reading)
  | 0, r => r.fail
  | fuel + 1, r => do
    match r.next.token with
    | .key =>
      let (key, r) ← readUnless handles true [.key, .colon, .closeBlock] fuel r.next.stop r.skip
      let (value, r) ←
        if r.next.token = .colon then
          readUnless handles true [.key, .colon, .closeBlock] fuel r.next.stop r.skip
        else pure (.empty r.next.start, r)
      let (entries, r) ← readBlockEntries handles fuel r
      return ((key, value) :: entries, r)
    | .closeBlock => return ([], r.skip)
    | _ => r.fail

/-- Reads the value of a pair between brackets, if there is one, before a comma or `close`. -/
def readValue (handles : Handles) (close : Token) :
    Nat → Reading → Except Malformed (Node × Reading)
  | 0, r => r.fail
  | fuel + 1, r =>
    if r.next.token = .colon then
      let r := r.skip
      if [.comma, close].contains r.next.token then .ok (.empty r.next.start, r)
      else readNode handles false false fuel r
    else .ok (.empty r.next.start, r)

/-- Reads the items of a list between brackets; all but the first follow a comma.  An item may be a
single entry, which is a map of its own. -/
def readItems (handles : Handles) :
    Nat → Bool → Reading → Except Malformed (List Node × Reading)
  | 0, _, r => r.fail
  | fuel + 1, first, r => do
    if r.next.token = .closeList then return ([], r.skip)
    else if !first ∧ r.next.token ≠ .comma then r.fail
    else
      let r := if first then r else r.skip
      match r.next.token with
      | .closeList => return ([], r.skip)
      | .key =>
        let p := r.next.start
        let r := r.skip
        let (key, r) ←
          -- a token that ends the key before it has begun is used up by it
          if [.colon, .comma, .closeList].contains r.next.token then
            pure (.empty r.next.stop, r.skip)
          else readNode handles false false fuel r
        let (value, r) ← readValue handles .closeList fuel r
        let (items, r) ← readItems handles fuel false r
        return (.map [(key, value)] none p :: items, r)
      | _ =>
        let (item, r) ← readNode handles false false fuel r
        let (items, r) ← readItems handles fuel false r
        return (item :: items, r)

/-- Reads the entries of a map between brackets; all but the first follow a comma. -/
def readEntries (handles : Handles) :
    Nat → Bool → Reading → Except Malformed (List (Node × Node) × Reading)
  | 0, _, r => r.fail
  | fuel + 1, first, r => do
    if r.next.token = .closeMap then return ([], r.skip)
    else if !first ∧ r.next.token ≠ .comma then r.fail
    else
      let r := if first then r else r.skip
      match r.next.token with
      | .closeMap => return ([], r.skip)
      | .key =>
        let r := r.skip
        let (key, r) ←
          if [.colon, .comma, .closeMap].contains r.next.token then pure (.empty r.next.start, r)
          else readNode handles false false fuel r
        let (value, r) ← readValue handles .closeMap fuel r
        let (entries, r) ← readEntries handles fuel false r
        return ((key, value) :: entries, r)
      | _ =>
        let (key, r) ← readNode handles false false fuel r
        let value := Node.empty r.next.start
        let (entries, r) ← readEntries handles fuel false r
        return ((key, value) :: entries, r)

end

/-! ### Documents -/

/-- What the directives in front of a document say. -/
structure Directives where
  versioned : Bool := false
  handles : Handles := []

/-- Reads the directives in front of a document.  A version may be said once, and so may each
handle. -/
def readDirectives (d : Directives) : List PlacedToken → Except Malformed (Directives × Reading)
  | [] => .ok (d, { ahead := [] })
  | next :: rest =>
    match next.token with
    | .version major minor =>
      if d.versioned ∨ major ≠ 1 ∨ minor ≠ 1 ∧ minor ≠ 2 then .error ⟨next.start⟩
      else readDirectives { d with versioned := true } rest
    | .handle name meaning =>
      if (d.handles.lookup name).isSome then .error ⟨next.start⟩
      else readDirectives { d with handles := (name, meaning) :: d.handles } rest
    | _ => .ok (d, { ahead := next :: rest })

/-- A document: its node, and the nodes in it that have a name. -/
structure Document where
  root : Node
  anchored : Array Node
deriving Repr

namespace Document

/-- A node, or the one that an alias stands for. -/
def resolve (d : Document) : Node → Node
  | .alias target p => d.anchored[target]?.getD (.empty p)
  | node => node

/-- Reads the content of a document that has been started. -/
def ofContent (handles : Handles) (r : Reading) : Except Malformed (Node × Reading) :=
  match r.next.token with
  | .version .. | .handle .. | .documentStart | .documentEnd | .finish =>
    .ok (.empty r.next.start, r)
  | _ => readNode handles true false (4 * r.ahead.length + 4) r

/-- Checks that nothing follows a document. -/
def checkEnd (r : Reading) : Except Malformed Unit :=
  match r.ahead.dropWhile (·.token = .documentEnd) with
  | [] => .ok ()
  | next :: _ => if next.token = .finish then .ok () else .error ⟨next.start⟩

def ofTokens? (tokens : List PlacedToken) : Except Malformed (Option Document) := do
  let (directives, r) ← readDirectives {} tokens
  let handles := directives.handles ++ usualHandles
  let isDirected := directives.versioned || !directives.handles.isEmpty
  match r.next.token with
  | .documentStart =>
    let (node, r) ← ofContent handles r.skip
    checkEnd r
    return some ⟨node, r.anchored⟩
  | .finish => if isDirected then r.fail else return none
  | _ =>
    if isDirected then r.fail
    else
      let (node, r) ← readNode handles true false (4 * tokens.length + 4) r
      checkEnd r
      return some ⟨node, r.anchored⟩

/-- The document in a text, if it holds one. -/
def ofText? (text : String) : Except Malformed (Option Document) := do ofTokens? (← tokens text)

end Document

end SdkAudit.Yaml
