import SdkAudit.Grammar.Forest
import SdkAudit.Grammar.Reader

/-!
# Roles of nodes

What the nodes of a tree stand for is told by their names.  A tree becomes a forest by keeping the
nodes that stand for something: a call goes from its start to the end of its argument list, and what
follows the list comes after the call.

* `Role`: what a node of a tree stands for;
* `Role.grow`: the nodes of a tree, after those before it;
* `Lexicon.forest?`: the forest of a text.
-/

namespace SdkAudit.Grammar

/-- What a node of a tree stands for. -/
inductive Role where
  | region (kind : ScopeKind)
  | call
  /-- What follows the callee, with the argument list in it. -/
  | suffix
  | arguments
  /-- An argument that may have a label. -/
  | argument
  | label
  | object
  /-- A key and its value in an object. -/
  | pair
  /-- A name in an object that stands for itself. -/
  | shorthand
  /-- A method in an object. -/
  | method
  /-- A name of methods. -/
  | methodName
  | comment
deriving DecidableEq, Repr

/-- What the nodes of each name stand for. -/
abbrev Roles := String → Option Role

/-- What is right around a node. -/
inductive Around where
  | anything
  | arguments
  | argument
  | object
  | pair
  | method
deriving DecidableEq, Repr

/-- A forest that grows from the left. -/
structure Growth where
  forest : Forest := .empty
  /-- A call whose argument list is still to come: what is before it, and its start. -/
  opened : Option (Forest × Place) := none
  /-- Whether the label, key or name that was looked for has been found. -/
  isNamed : Bool := false

namespace Growth

/-- The forest, where a call without an argument list leaves no trace. -/
def close (g : Growth) : Forest :=
  match g.opened with
  | none => g.forest
  | some (before, _) => before.append g.forest

end Growth

namespace Role

mutual

/-- What has grown, with the nodes of a branch after it. -/
def grow (roles : Roles) (around : Around) (g : Growth) : Branch → Growth
  | .mk name isNode start stop inner =>
    let role := if isNode then roles name else none
    let within (around : Around) : Forest := (growAll roles around {} inner).forest
    let after (before : Forest) : Forest :=
      match role with
      | some (.region kind) => .node before (.region kind) start stop (within .anything)
      | some .call =>
        (growAll roles .anything { opened := some (before, start) } inner).close
      | some .object => .node before .object start stop (within .object)
      | _ => (growAll roles .anything { forest := before } inner).forest
    let follow (g : Growth) : Growth := { g with forest := after g.forest }
    let put (kind : NodeKind) (forest : Forest) : Growth :=
      { g with forest := .node g.forest kind start stop forest, isNamed := true }
    match around, role with
    | .arguments, some .object => put .literal (within .object)
    | .arguments, some .argument =>
      let argument := growAll roles .argument {} inner
      put (if argument.isNamed then .labelled else .positional) argument.forest
    | .arguments, some .comment => follow g
    | .arguments, _ => if isNode then put .positional (after .empty) else follow g
    | .argument, some .label => if g.isNamed then follow g else put .label (after .empty)
    | .object, some .pair =>
      { g with forest := (growAll roles .pair { forest := g.forest } inner).forest }
    | .object, some .method =>
      { g with forest := (growAll roles .method { forest := g.forest } inner).forest }
    | .object, some .shorthand => put .member (after .empty)
    | .pair, _ => if g.isNamed then follow g else put .key (after .empty)
    | .method, some .methodName => if g.isNamed then follow g else put .member (after .empty)
    | .anything, some .arguments =>
      match g.opened with
      | none => follow g
      | some (before, callStart) =>
        let list : Forest := .node g.forest .arguments start stop (within .arguments)
        { forest := .node before .call callStart stop list }
    | .anything, some .suffix =>
      if g.opened.isSome then growAll roles .anything g inner else follow g
    | _, _ => follow g

/-- What has grown, with the nodes of some branches after it. -/
def growAll (roles : Roles) (around : Around) (g : Growth) : List Branch → Growth
  | [] => g
  | branch :: rest => growAll roles around (grow roles around g branch) rest

end

end Role

def Lexicon.forest? (lx : Lexicon) (roles : Roles) (text : List Char) : Option Forest :=
  (lx.read? text).map fun branches => (Role.growAll roles .anything {} branches).forest

end SdkAudit.Grammar
