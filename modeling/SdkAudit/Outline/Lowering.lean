import SdkAudit.Outline.Basic

/-!
# Scopes of syntax trees

The outline of a text that has a syntax tree has the calls in it, and the nodes around them that
form scopes.  A node becomes a scope when a call in it is first met, after the nodes around it;
nodes without calls are left out.

* `SyntaxTree`: nodes, and what is around each of them;
* `Lowering.enclosingScope`: the scope that a node is in, with the nodes around it made scopes where
  they are none yet;
* `Lowering.addSite`: the outline with one more call.
-/

namespace SdkAudit.Outline

/-- Nodes that can be told apart, and what is around each of them. -/
structure SyntaxTree (ν : Type) where
  /-- The kind of scope that a node forms, if it forms one. -/
  scope? : ν → Option ScopeKind
  /-- The node right around a node, unless it is a root. -/
  parent? : ν → Option ν
  /-- The nodes around a node, the innermost first. -/
  ancestors : ν → List ν
  ancestors_eq : ∀ node,
    ancestors node = (parent? node).elim [] fun parent => parent :: ancestors parent

/-- The nodes around a node that form scopes, with the kinds of these, the outermost first. -/
def SyntaxTree.chain {ν : Type} (tree : SyntaxTree ν) (node : ν) : List (ν × ScopeKind) :=
  ((tree.ancestors node).filterMap fun n => (tree.scope? n).map (n, ·)).reverse

/-- A call in a text, and the node that it is. -/
structure Site (ν : Type) where
  callee : String
  arguments : List Argument
  position : Position
  node : ν
deriving DecidableEq, Repr

/-- An outline in the making, with the scopes of the nodes that have been met. -/
structure Lowering (ν : Type) where
  outline : Outline := {}
  scopes : List (ν × ScopeId) := []
deriving DecidableEq, Repr

namespace Lowering

variable {ν : Type} [DecidableEq ν]

/-- The scope of a node inside a scope; a node that has not been met is made a scope. -/
def enter (l : Lowering ν) (parent : ScopeId) (node : ν) (kind : ScopeKind) :
    Lowering ν × ScopeId :=
  match l.scopes.lookup node with
  | some scope => (l, scope)
  | none =>
    let scope := l.outline.nextScope
    (⟨l.outline.addScope kind parent, (node, scope) :: l.scopes⟩, scope)

/-- The scope that a node is in: that of the innermost node around it that forms one. -/
def enclosingScope (tree : SyntaxTree ν) (l : Lowering ν) (node : ν) : Lowering ν × ScopeId :=
  (tree.chain node).foldl (fun (l, parent) (n, kind) => l.enter parent n kind) (l, fileScope)

/-- The outline with one more call. -/
def addSite (tree : SyntaxTree ν) (l : Lowering ν) (site : Site ν) : Lowering ν :=
  let (l, scope) := l.enclosingScope tree site.node
  let call : Call := {
    callee := site.callee
    arguments := site.arguments
    position := site.position
    scope }
  { l with outline := l.outline.addCall call }

end Lowering

end SdkAudit.Outline
