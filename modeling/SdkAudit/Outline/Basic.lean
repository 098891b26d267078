import SdkAudit.Rules.Basic
import SdkAudit.Source.Place

/-!
# Call outlines

The outline of a source text holds what the checks need to know of it: the scopes that can enclose a
call, each with its parent, and the calls in file order.  Scopes are numbered in the order in which
they are added; scope 0 is the file.

* `Outline.addScope`, `Outline.addCall`: how an outline is built;
* `Outline.isGuarded`: whether a scope or one of its ancestors handles errors;
* `Outline.classify`: what each call is, relative to the SDK;
* `Outline.facadeCalls`, `Outline.initializerCall?`: the calls the checks are about.
-/

namespace SdkAudit

/-- The number of a scope in its outline. -/
abbrev ScopeId := Nat

/-- A kind of scope. -/
inductive ScopeKind where
  /-- The whole file. -/
  | file
  /-- A region that handles the errors raised in it. -/
  | guarded
  /-- Any other region. -/
  | block
deriving DecidableEq, Repr

/-- A region of a file. -/
structure Scope where
  kind : ScopeKind
  parent : Option ScopeId
deriving DecidableEq, Repr

/-- An argument of a call, as far as the checks care. -/
inductive Argument where
  | positional
  | named (label : String)
  /-- An object literal with these keys. -/
  | literal (keys : List String)
deriving DecidableEq, Repr

/-- What a call is, relative to the SDK. -/
inductive CallKind where
  /-- A bare call of the initializer. -/
  | initializer
  /-- A call of a method through the facade. -/
  | facade (method : String)
  | unrecognized
deriving DecidableEq, Repr

/-- A call in a source text. -/
structure Call where
  /-- The callee, with its receiver and without white space. -/
  callee : String
  kind : CallKind := .unrecognized
  arguments : List Argument
  position : Position
  scope : ScopeId
deriving DecidableEq, Repr

namespace Call

/-- The receiver of the callee: what stands before its last dot. -/
def receiver? (call : Call) : Option String :=
  (Text.splitLast? '.' call.callee.toList).map fun (receiver, _) => String.ofList receiver

/-- The member that is called: what follows the last dot, or the whole callee. -/
def member (call : Call) : String :=
  match Text.splitLast? '.' call.callee.toList with
  | some (_, member) => String.ofList member
  | none => call.callee

/-- The keys of the object literal that is the only argument. -/
def literalKeys? (call : Call) : Option (List String) :=
  match call.arguments with
  | [.literal keys] => some keys
  | _ => none

/-- What the call is under a rule set. -/
def kindUnder (rules : RuleSet) (call : Call) : CallKind :=
  match call.receiver? with
  | none => if call.callee = rules.initialization.method then .initializer else .unrecognized
  | some receiver => if receiver = rules.facade then .facade call.member else .unrecognized

def facadeMethod? (call : Call) : Option String :=
  match call.kind with
  | .facade method => some method
  | _ => none

end Call

/-- The scopes and calls of a source text. -/
structure Outline where
  scopes : Array Scope := #[⟨.file, none⟩]
  calls : Array Call := #[]
deriving DecidableEq, Repr

namespace Outline

def fileScope : ScopeId := 0

def nextScope (o : Outline) : ScopeId := o.scopes.size

/-- Adds a scope inside another. -/
def addScope (o : Outline) (kind : ScopeKind) (parent : ScopeId) : Outline :=
  { o with scopes := o.scopes.push ⟨kind, some parent⟩ }

def addCall (o : Outline) (call : Call) : Outline := { o with calls := o.calls.push call }

/-- Looks for a guarded scope among a scope and its ancestors, one after the other.  The search ends
at a guarded scope, at one without a parent and at a number that no scope has.  Where it finds none
of these, because parents go round in a circle, it goes on for ever, and has no answer. -/
def guardSearch (o : Outline) (id : ScopeId) : Option Bool :=
  match o.scopes[id]? with
  | none => some false
  | some scope =>
    if scope.kind = .guarded then some true
    else
      match scope.parent with
      | some parent => o |>.guardSearch parent
      | none => some false
partial_fixpoint

/-- The answer of the search from a scope.  Its first `steps` steps are taken by recursion on their
number, so that closed outlines can be evaluated; a search that has not ended by then goes on. -/
def guardedWithin (o : Outline) : Nat → ScopeId → Bool
  | steps, id =>
    match o.scopes[id]? with
    | none => false
    | some scope =>
      if scope.kind = .guarded then true
      else
        match steps, scope.parent with
        | steps + 1, some parent => guardedWithin o steps parent
        | 0, some parent => o.guardSearch parent == some true
        | _, none => false

/-- Whether the scope or one of its ancestors is guarded.  A path of ancestors that meets no scope
twice is no longer than the list of scopes, so only a search that goes round in a circle takes more
steps. -/
def isGuarded (o : Outline) (id : ScopeId) : Bool := o.guardedWithin o.scopes.size id

/-- The outline with every call classified under a rule set. -/
def classify (o : Outline) (rules : RuleSet) : Outline :=
  { o with calls := o.calls.map fun call => { call with kind := call.kindUnder rules } }

/-- The calls through the facade, in file order. -/
def facadeCalls (o : Outline) : List Call :=
  o.calls.toList.filter (·.facadeMethod?.isSome)

/-- The call that initializes the SDK: the first bare call of the initializer, or else the first
one through the facade. -/
def initializerCall? (o : Outline) (initializer : String) : Option Call :=
  (o.calls.toList.find? (·.kind = .initializer)) <|>
    (o.calls.toList.find? (·.kind = .facade initializer))

end Outline

end SdkAudit
