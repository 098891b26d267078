import SdkAudit.Grammar.Item
import SdkAudit.Source.Place

/-!
# Trees

Reading a text with a grammar yields a tree.  While it is read the tree has every production that
was used; afterwards it is reduced to the parts that are nodes or text.

* `Tree.isPreferredTo`: which of two trees of one text is kept;
* `Tree.branches`: the nodes and texts of a tree.
-/

namespace SdkAudit.Grammar

/-- A tree while a text is being read. -/
inductive Tree where
  /-- A lexeme, after so many characters of layout; extra ones are no part of a production. -/
  | leaf (symbol : Symbol) (isExtra : Bool) (layout : Nat) (start stop : Place)
  /-- A completed item. -/
  | node (item : Nat) (symbol : Symbol) (weight : Int) (layout : Nat) (start stop : Place)
    (children : List Tree)

namespace Tree

def symbol : Tree → Symbol
  | .leaf symbol .. => symbol
  | .node _ symbol .. => symbol

/-- What the reading gains. -/
def weight : Tree → Int
  | .leaf .. => 0
  | .node _ _ weight .. => weight

/-- Whether the tree is no part of a production. -/
def isExtra : Tree → Bool
  | .leaf _ isExtra .. => isExtra
  | .node .. => false

/-- How many characters of layout come before the tree. -/
def layout : Tree → Nat
  | .leaf _ _ layout .. => layout
  | .node _ _ _ layout .. => layout

def start : Tree → Place
  | .leaf _ _ _ start _ => start
  | .node _ _ _ _ start .. => start

def stop : Tree → Place
  | .leaf _ _ _ _ stop => stop
  | .node _ _ _ _ _ stop _ => stop

def children : Tree → List Tree
  | .leaf .. => []
  | .node _ _ _ _ _ _ children => children

/-- How many characters the tree covers. -/
def size (t : Tree) : Nat := t.stop.offset - t.start.offset

/-- Whether two trees look the same from outside. -/
def isLike (a b : Tree) : Bool :=
  a.symbol = b.symbol && a.layout = b.layout && a.size = b.size &&
    a.children.length = b.children.length && a.isExtra = b.isExtra

mutual

/-- The order of trees by the symbols at their first difference. -/
def order : Tree → Tree → Ordering
  | .leaf symbol .., b => (compare symbol b.symbol).then (compare 0 b.children.length)
  | .node _ symbol _ _ _ _ children, b =>
    (compare symbol b.symbol).then <|
      (compare children.length b.children.length).then (orderAll children b.children)

/-- The order of lists of trees by their first difference. -/
def orderAll : List Tree → List Tree → Ordering
  | [], _ => .eq
  | _, [] => .eq
  | a :: as, b :: bs => (order a b).then (orderAll as bs)

end

/-- Whether a tree is kept instead of another of the same text: it gains more, or as much and comes
first in the order of trees. -/
def isPreferredTo (a b : Tree) : Bool :=
  a.weight > b.weight || (a.weight = b.weight && order a b = .lt)

/-- A completed item over some trees; where there are none it lies at a place. -/
def ofItem (item : Nat) (symbol : Symbol) (children : List Tree) (place : Place) : Tree :=
  let weight := children.foldl (fun sum t => sum + t.weight) 0
  match children.head?, children.getLast? with
  | some first, some last => .node item symbol weight first.layout first.start last.stop children
  | _, _ => .node item symbol weight 0 place place []

/-- The tree with something added to what the reading gains. -/
def gaining (gain : Int) : Tree → Tree
  | .node item symbol weight layout start stop children =>
    .node item symbol (weight + gain) layout start stop children
  | .leaf symbol isExtra layout start stop => .leaf symbol isExtra layout start stop

end Tree

/-- A node or text of a finished tree. -/
inductive Branch where
  | mk (name : String) (isNode : Bool) (start stop : Place) (inner : List Branch)

/-- What a symbol is called, and what becomes of it. -/
def Numbering.appearance (g : Numbering) (symbol : Symbol) : String × Presence :=
  if symbol = 0 then ("", .helper)
  else if symbol < 1 + g.tokens.size then
    (g.tokens[symbol - 1]?).elim ("", .helper) fun use => (use.name, use.presence)
  else if symbol < g.terminals then
    (g.externals[symbol - 1 - g.tokens.size]?).elim ("", .helper) fun e => (e.name, e.presence)
  else
    (g.nonterminals[symbol - g.terminals]?).elim ("", .helper) fun n => (n.name, n.presence)

/-- A symbol with some branches in it, which are all that is left of it if it is hidden. -/
def Numbering.branch (g : Numbering) (guise : Option Guise) (symbol : Symbol) (start stop : Place)
    (inner : List Branch) : List Branch :=
  match guise, g.appearance symbol with
  | some guise, _ => [.mk guise.name guise.isNode start stop inner]
  | none, (name, .node) => [.mk name true start stop inner]
  | none, (name, .text) => [.mk name false start stop inner]
  | none, _ => inner

namespace Tree

mutual

/-- The nodes and texts of a tree, where the root may have another name. -/
def branches (c : Chart) (guise : Option Guise) : Tree → List Branch
  | .leaf symbol _ _ start stop => c.grammar.branch guise symbol start stop []
  | .node item symbol _ _ start stop children =>
    let guises := ((c.items[item]?).elim #[] (·.steps)).toList.map (·.guise)
    c.grammar.branch guise symbol start stop (branchesOfAll c guises children)

/-- The nodes and texts of some trees, where those that are no extras may have other names. -/
def branchesOfAll (c : Chart) : List (Option Guise) → List Tree → List Branch
  | _, [] => []
  | guises, t :: rest =>
    if t.isExtra then branches c none t ++ branchesOfAll c guises rest
    else branches c (guises.head?.join) t ++ branchesOfAll c guises.tail rest

end

end Tree

end SdkAudit.Grammar
