import SdkAudit.Outline.Basic
import SdkAudit.Source.Place

/-!
# Forests

Reading a text with a grammar yields a forest.  Its nodes are the stretches of the text that the
grammar names: the regions that can be scopes, and the calls with their arguments.  All else that
the grammar recognizes leaves no trace.  A forest is built from the left, as the text is read.

* `Forest.append`: two forests one after the other;
* `Forest.width`: the number of outermost nodes;
* `Forest.roots`: the outermost nodes.
-/

namespace SdkAudit

/-- What a node stands for. -/
inductive NodeKind where
  /-- A region that is a scope for the calls in it. -/
  | region (kind : ScopeKind)
  /-- A call; its last child is the argument list. -/
  | call
  /-- The argument list of a call; its children are the arguments. -/
  | arguments
  | positional
  /-- An argument that is an object literal and nothing else. -/
  | literal
  /-- An argument with a label, which is a child of it. -/
  | labelled
  | label
  /-- An object literal that is no argument by itself. -/
  | object
  /-- What stands before the colon in an object literal. -/
  | key
  /-- A name in an object literal that stands for itself or is that of a method. -/
  | member
deriving DecidableEq, Repr

/-- The nodes of a text, from left to right. -/
inductive Forest where
  | empty
  /-- A node that covers the text between two places, after the nodes before it. -/
  | node (before : Forest) (kind : NodeKind) (start stop : Place) (inner : Forest)
deriving DecidableEq, Repr

namespace Forest

def append (first : Forest) : Forest → Forest
  | .empty => first
  | .node before kind start stop inner => .node (first.append before) kind start stop inner

def width : Forest → Nat
  | .empty => 0
  | .node before _ _ _ _ => before.width + 1

/-- A node by itself. -/
structure Root where
  kind : NodeKind
  start : Place
  stop : Place
  inner : Forest
deriving DecidableEq, Repr

/-- The outermost nodes of a forest, followed by `more`. -/
def rootsBefore (more : List Root) : Forest → List Root
  | .empty => more
  | .node before kind start stop inner => rootsBefore (⟨kind, start, stop, inner⟩ :: more) before

/-- The outermost nodes of a forest, from left to right. -/
def roots (f : Forest) : List Root := f.rootsBefore []

end Forest

end SdkAudit
