import SdkAudit.Grammar.Tree

/-!
# Stacks of readings

A text may be read in several ways at once.  The stacks of the readings share what they have in
common: they are paths in one graph, whose vertices are states and whose links are trees.  Readings
that come to the same state at the same place go on as one.

* `Vertices.attach`: one more link below a vertex;
* `Stack.merge?`: two readings that go on as one;
* `Stack.pop`: what lies below the top of a reading, on every path.
-/

namespace SdkAudit.Grammar

/-- A link of a vertex to the one below it, over a tree. -/
structure Link where
  below : Nat
  tree : Tree

/-- A state in the stack of some readings. -/
structure Vertex where
  state : Nat
  place : Place
  links : Array Link := #[]
  /-- What the readings below gain. -/
  weight : Int := 0

/-- The vertices of a stack. -/
abbrev Vertices := Array Vertex

namespace Vertices

def vertex (vs : Vertices) (v : Nat) : Vertex := vs[v]?.getD ⟨0, .origin, #[], 0⟩

def maxLinks : Nat := 8

/-- A link of a vertex that a new one to another vertex can be joined with. -/
def joinable (vs : Vertices) (below : Nat) (tree : Tree) (link : Link) : Bool :=
  link.tree.isLike tree &&
    (link.below = below ||
      ((vs.vertex link.below).state = (vs.vertex below).state &&
        (vs.vertex link.below).place.offset = (vs.vertex below).place.offset))

/-- One more link below a vertex.  Where it leads to the same vertex as one of the links, or to one
like it, the two are joined. -/
def attach : Nat → Nat → Nat → Tree → Vertices → Vertices
  | 0, _, _, _, vs => vs
  | fuel + 1, v, below, tree, vs =>
    if v = below then vs
    else
      let vertex := vs.vertex v
      let gain := (vs.vertex below).weight + tree.weight
      match vertex.links.findIdx? (vs.joinable below tree) with
      | some i =>
        let link := vertex.links[i]?.getD ⟨below, tree⟩
        if link.below = below then
          if tree.weight > link.tree.weight then
            vs.set! v { vertex with links := vertex.links.set! i ⟨below, tree⟩, weight := gain }
          else vs
        else
          let joined := (vs.vertex below).links.foldl
            (fun vs other => attach fuel link.below other.below other.tree vs) vs
          joined.modify v fun vertex => { vertex with weight := max vertex.weight gain }
      | none =>
        if vertex.links.size ≥ maxLinks then vs
        else
          let weight := if vertex.links.isEmpty then gain else max vertex.weight gain
          vs.set! v { vertex with links := vertex.links.push ⟨below, tree⟩, weight }

end Vertices

/-- How a reading stands. -/
inductive Standing where
  | going
  /-- It cannot go on. -/
  | stuck
  /-- It has come to the end of the text. -/
  | over
deriving DecidableEq, Repr

/-- The top of a reading. -/
structure Head where
  vertex : Nat
  place : Place
  rest : List Char
  /-- What is kept for reading lexemes without a shape. -/
  memory : Nat
  standing : Standing := .going

/-- The readings of a text, from the most promising. -/
structure Stack where
  vertices : Vertices := #[]
  heads : Array Head := #[]

/-- A path from the top of a reading, with the trees on it. -/
structure Path where
  vertex : Nat
  trees : List Tree := []
  /-- How many of the trees are no extras. -/
  count : Nat := 0

def Path.over (path : Path) (link : Link) : Path where
  vertex := link.below
  trees := link.tree :: path.trees
  count := if link.tree.isExtra then path.count else path.count + 1

/-- What was popped on one path, and the reading that goes on below it. -/
structure Slice where
  trees : List Tree
  head : Nat

namespace Stack

def head (s : Stack) (h : Nat) : Head := s.heads[h]?.getD ⟨0, .origin, [], 0, .over⟩

def top (s : Stack) (h : Nat) : Vertex := s.vertices.vertex (s.head h).vertex

def drop (s : Stack) (h : Nat) : Stack := { s with heads := s.heads.eraseIdxIfInBounds h }

def modify (s : Stack) (h : Nat) (f : Head → Head) : Stack :=
  { s with heads := s.heads.modify h f }

def attach (s : Stack) (v below : Nat) (tree : Tree) : Stack :=
  let n := s.vertices.size
  { s with vertices := s.vertices.attach n v below tree }

/-- A new vertex over another one, and its number. -/
def push (s : Stack) (below : Nat) (tree : Tree) (state : Nat) (place : Place) : Stack × Nat :=
  let v := s.vertices.size
  let s := { s with vertices := s.vertices.push { state, place } }
  (s.attach v below tree, v)

def canMerge (s : Stack) (g h : Nat) : Bool :=
  let a := s.head g
  let b := s.head h
  a.standing = .going && b.standing = .going && (s.top g).state = (s.top h).state &&
    (s.top g).place.offset = (s.top h).place.offset && a.memory = b.memory

/-- The second reading as part of the first, if they can go on as one. -/
def merge? (s : Stack) (g h : Nat) : Option Stack :=
  if s.canMerge g h then
    let merged := (s.top h).links.foldl
      (fun (s : Stack) link => s.attach (s.head g).vertex link.below link.tree) s
    some (merged.drop h)
  else none

def maxPaths : Nat := 64

/-- A slice for a path that has come to its end; it belongs to the reading of an earlier one that
ended at the same vertex, or to a new one. -/
def addSlice (origin : Head) (path : Path) (sofar : Stack × List Slice) : Stack × List Slice :=
  let (s, slices) := sofar
  let sameEnd (slice : Slice) : Bool := (s.head slice.head).vertex = path.vertex
  match slices.reverse.find? sameEnd with
  | some other =>
    let after := (slices.reverse.takeWhile (!sameEnd ·)).reverse
    let before := slices.take (slices.length - after.length)
    (s, before ++ [⟨path.trees, other.head⟩] ++ after)
  | none =>
    let h := s.heads.size
    ({ s with heads := s.heads.push { origin with vertex := path.vertex, standing := .going } },
      slices ++ [⟨path.trees, h⟩])

/-- The paths one link farther, and the slices of those that have come to their end. -/
def stepPaths (origin : Head) (count : Nat) (paths : List Path) (sofar : Stack × List Slice) :
    List Path × (Stack × List Slice) :=
  let step (acc : List Path × List Path × (Stack × List Slice)) (path : Path) :
      List Path × List Path × (Stack × List Slice) :=
    let (stay, more, sofar) := acc
    if path.count = count then (stay, more, addSlice origin path sofar)
    else
      match (sofar.1.vertices.vertex path.vertex).links.toList with
      | [] => (stay, more, sofar)
      | first :: others =>
        let room := maxPaths - (stay.length + more.length + 1)
        (path.over first :: stay, more ++ (others.take room).map path.over, sofar)
  let (stay, more, sofar) := paths.foldl step ([], [], sofar)
  (stay.reverse ++ more, sofar)

/-- Follows the paths until all have come to their ends. -/
def followPaths (origin : Head) (count : Nat) :
    Nat → List Path → Stack × List Slice → Stack × List Slice
  | 0, _, sofar => sofar
  | _, [], sofar => sofar
  | fuel + 1, paths, sofar =>
    let (paths, sofar) := stepPaths origin count paths sofar
    followPaths origin count fuel paths sofar

/-- What lies below so many trees of a reading, on every path.  Slices of one new reading stand
together. -/
def pop (s : Stack) (h count : Nat) : Stack × List Slice :=
  let origin := s.head h
  followPaths origin count (s.vertices.size + 2) [{ vertex := origin.vertex }] (s, [])

/-- The trees on every path from a vertex to the bottom. -/
def pathsDown (vs : Vertices) : Nat → Nat → List Tree → List (List Tree)
  | 0, _, _ => []
  | fuel + 1, v, above =>
    match (vs.vertex v).links.toList with
    | [] => [above]
    | links => links.flatMap fun link => pathsDown vs fuel link.below (link.tree :: above)

end Stack

end SdkAudit.Grammar
