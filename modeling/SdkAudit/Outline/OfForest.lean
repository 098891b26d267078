import SdkAudit.Grammar.Forest
import SdkAudit.Outline.Lowering
import SdkAudit.Text.Character

/-!
# Outlines of forests

The outline of a forest has the calls in it, ordered by where they start, and the regions around
them as scopes.

* `Spot`, `spots`: the nodes of forests, as a syntax tree;
* `sites`: the calls of a forest, in the order in which their argument lists open;
* `ofForest`: the outline.
-/

namespace SdkAudit.Outline

/-- A step to a node: the number of nodes before it on its level, and what it stands for. -/
structure Step where
  before : Nat
  kind : NodeKind
deriving DecidableEq, Repr

/-- A node of a forest: the steps that lead to it, the last one first. -/
abbrev Spot := List Step

namespace Spot

/-- The kind of scope that a node forms: regions form scopes. -/
def scope? : Spot → Option ScopeKind
  | ⟨_, .region kind⟩ :: _ => some kind
  | _ => none

def parent? : Spot → Option Spot
  | _ :: step :: around => some (step :: around)
  | _ => none

/-- The nodes around a node, the innermost first. -/
def ancestors : Spot → List Spot
  | _ :: step :: around => (step :: around) :: ancestors (step :: around)
  | _ => []

theorem ancestors_eq (spot : Spot) :
    ancestors spot = (parent? spot).elim [] fun parent => parent :: ancestors parent := by
  match spot with
  | [] | [_] => rfl
  | _ :: _ :: _ => rfl

end Spot

def spots : SyntaxTree Spot where
  scope? := Spot.scope?
  parent? := Spot.parent?
  ancestors := Spot.ancestors
  ancestors_eq := Spot.ancestors_eq

def between (source : List Char) (start stop : Place) : List Char :=
  (source.drop start.offset).take (stop.offset - start.offset)

/-- A character that is left out of callees: white space, and the marks for values that may be
missing. -/
def isLeftOut (c : Char) : Bool := Text.isBlank c || c == '?' || c == '!'

def isKeyQuote (c : Char) : Bool := c == '"' || c == '\'' || c == '\x60'

def unquotedKey (key : List Char) : List Char :=
  ((key.dropWhile isKeyQuote).reverse.dropWhile isKeyQuote).reverse

/-- The keys of an object literal, in order. -/
def keys (source : List Char) (literal : Forest) : List String :=
  literal.roots.filterMap fun root =>
    match root.kind with
    | .key => some (String.ofList (unquotedKey (between source root.start root.stop)))
    | .member => some (String.ofList (between source root.start root.stop))
    | _ => none

def labelText? (source : List Char) (argument : Forest) : Option String :=
  (argument.roots.find? (·.kind = .label)).map fun root =>
    String.ofList (between source root.start root.stop)

/-- What the nodes of an argument list stand for. -/
def argumentsOf (source : List Char) (list : Forest) : List Argument :=
  list.roots.filterMap fun root =>
    match root.kind with
    | .positional => some .positional
    | .literal => some (.literal (keys source root.inner))
    | .labelled => (labelText? source root.inner).map .named
    | _ => none

/-- The call that this node is, which starts and has its argument list at these places, unless
nothing is called. -/
def site? (source : List Char) (node : Spot) (start opening : Place) (list : Forest) :
    Option (Site Spot) :=
  match (between source start opening).filter (!isLeftOut ·) with
  | [] => none
  | callee => some {
      callee := String.ofList callee
      arguments := argumentsOf source list
      position := start.position
      node }

/-- The calls of a forest inside a node, in the order in which their argument lists open. -/
def sites (source : List Char) (around : Spot) : Forest → List (Site Spot)
  | .empty => []
  | .node before .call start _ (.node callee .arguments opening _ list) =>
    let call := ⟨before.width, .call⟩ :: around
    sites source around before ++ sites source call callee ++
      (site? source call start opening list).toList ++
      sites source (⟨callee.width, .arguments⟩ :: call) list
  | .node before kind _ _ inner =>
    sites source around before ++ sites source (⟨before.width, kind⟩ :: around) inner

/-- The outline with its calls ordered by where they start; calls that start at one place keep
their order. -/
def sorted (o : Outline) : Outline :=
  { o with calls := (o.calls.toList.mergeSort (·.position.notAfter ·.position)).toArray }

def ofForest (source : List Char) (forest : Forest) : Outline :=
  ((sites source [] forest).foldl (Lowering.addSite spots) {}).outline.sorted

end SdkAudit.Outline
