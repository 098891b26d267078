import SdkAudit.Outline.Basic
import SdkAudit.Source.Nesting

/-!
# Outlines of nested tokens

In Dart and Kotlin every pair of braces is a scope, and a call is a chain of names that is directly
followed by round brackets.  Both are told from the tokens around them:

* `guards`: whether a pair of braces after these tokens is the body of a `try`, a `catch`, a
  `finally`, or of Dart's `on`;
* `chainEnding?`: the chain of names that ends a token sequence;
* `isDeclaration`: whether a chain of names followed by round brackets declares something;
* `callAt?`: the call that a pair of round brackets makes;
* `ofNesting`: the outline.
-/

namespace SdkAudit.Outline

/-- Words that look like a call when round brackets follow them, and are none. -/
def controlWords : List String := [
  "if", "for", "while", "switch", "catch", "when", "return", "throw", "await", "assert", "on",
  "try", "do", "else", "sync", "async", "super", "this", "is", "as", "in"]

/-- Words that may stand right before a call in Dart. -/
def expressionWords : List String := [
  "return", "await", "throw", "yield", "new", "const", "else", "in", "is", "as", "case", "do",
  "try", "async", "sync"]

/-- Words that introduce a declaration in Kotlin. -/
def declarationWords : List String := ["fun", "class", "interface", "object", "constructor"]

/-- Whether the braces that follow `before` hold a body whose errors are handled. -/
def guards (flavor : Flavor) (before : Nesting) : Bool :=
  match before with
  | .token rest t =>
    t.isName "try" || t.isName "finally" ||
      (flavor == .dart && t.name?.isSome && (rest.last?.any (·.isName "on")))
  | .group rest .round _ _ _ => rest.last?.any (·.isName "catch")
  | _ => false

/-- The chain of names at the end of a token sequence. -/
structure Chain where
  /-- The names from first to last. -/
  names : List String
  /-- Where the first name stands. -/
  position : Position
  /-- What stands before the first name. -/
  before : Nesting
  /-- Whether the chain hangs on an expression that is no name. -/
  onExpression : Bool
deriving DecidableEq, Repr

/-- Follows a chain to the left.  Its names are joined by dots, and a question mark or an
exclamation mark may stand before a dot. -/
def chainFrom (names : List String) (position : Position) : Nesting → Chain
  | .token (.token (.token before u) t) dot =>
    if dot.isSign '.' then
      match t.name? with
      | some name => chainFrom (name :: names) t.position (.token before u)
      | none =>
        if t.isSign '?' || t.isSign '!' then
          match u.name? with
          | some name => chainFrom (name :: names) u.position before
          | none => ⟨names, position, .token (.token (.token before u) t) dot, true⟩
        else ⟨names, position, .token (.token (.token before u) t) dot, true⟩
    else ⟨names, position, .token (.token (.token before u) t) dot, false⟩
  | .token (.token before t) dot =>
    if dot.isSign '.' then
      match t.name? with
      | some name => chainFrom (name :: names) t.position before
      | none => ⟨names, position, .token (.token before t) dot, true⟩
    else ⟨names, position, .token (.token before t) dot, false⟩
  | .token before dot => ⟨names, position, .token before dot, dot.isSign '.'⟩
  | before => ⟨names, position, before, false⟩

/-- The chain of names that ends a token sequence, unless its last token is no name or a word that
is never called. -/
def chainEnding? : Nesting → Option Chain
  | .token before t =>
    match t.name? with
    | some name =>
      if controlWords.contains name then none else some (chainFrom [name] t.position before)
    | none => none
  | _ => none

/-- Whether the tokens open the body of a function. -/
def opensBody : List Token → Bool
  | [] => false
  | t :: rest =>
    t.isSign '\x7b' || t.isName "async" || t.isName "sync" ||
      (t.isSign '=' && (rest.head?.any (·.isSign '>')))

/-- Whether a chain of names whose round brackets are followed by `after` declares something. -/
def isDeclaration (flavor : Flavor) (chain : Chain) (after : List Token) : Bool :=
  match chain.before.last? with
  | none => false
  | some previous =>
    match flavor with
    | .kotlin => previous.name?.any (declarationWords.contains ·)
    | .dart =>
      chain.names.length == 1 &&
        match previous.name? with
        | some word => !expressionWords.contains word
        | none => previous.isSign '>' && opensBody after

/-- The pieces between the commas on the outermost level of a nesting, without the empty ones. -/
def pieces (n : Nesting) : List (List Nesting.Item) :=
  (Text.cutAt isComma n.items).filter (!·.isEmpty)
where
  /-- Whether an item is a comma. -/
  isComma : Nesting.Item → Bool
    | .token t => t.isSign ','
    | .group .. => false

/-- The key that a piece of an object literal sets, if it sets one by name or by text. -/
def literalKey? : List Nesting.Item → Option String
  | .token head :: .token colon :: _ =>
    if colon.isSign ':' then
      match head.lexeme with
      | .name key | .text key => some key
      | _ => none
    else none
  | _ => none

def literalKeys (inner : Nesting) : List String := (pieces inner).filterMap literalKey?

def label? (flavor : Flavor) : List Nesting.Item → Option String
  | .token head :: .token mark :: rest =>
    match flavor with
    | .dart => if mark.isSign ':' then head.name? else none
    | .kotlin => if mark.isSign '=' && !startsWithEquals rest then head.name? else none
  | _ => none
where
  /-- Whether the items start with an equals sign. -/
  startsWithEquals : List Nesting.Item → Bool
    | .token t :: _ => t.isSign '='
    | _ => false

def argument (flavor : Flavor) (piece : List Nesting.Item) : Argument :=
  match label? flavor piece with
  | some label => .named label
  | none =>
    match flavor, piece with
    | .dart, [.group .curly inner] => .literal (literalKeys inner)
    | _, _ => .positional

/-- The arguments between the brackets of a call. -/
def arguments (flavor : Flavor) (inner : Nesting) : List Argument :=
  (pieces inner).map (argument flavor)

/-- The callee that a chain of names writes. -/
def Chain.callee (chain : Chain) : String :=
  let path := ".".intercalate chain.names
  if chain.onExpression then "<expr>." ++ path else path

/-- The call that a pair of round brackets makes, if it makes one: `before` stands before the
brackets, `inner` between them and `after` behind them. -/
def callAt? (flavor : Flavor) (before inner : Nesting) (after : List Token) (scope : ScopeId) :
    Option Call :=
  match chainEnding? before with
  | none => none
  | some chain =>
    if !chain.onExpression && isDeclaration flavor chain after then none
    else some
      { callee := chain.callee
        arguments := arguments flavor inner
        position := chain.position
        scope }

/-- Adds the scopes and calls of a nesting that stands in a scope and is followed by `after`. -/
def addNesting (flavor : Flavor) (scope : ScopeId) (o : Outline) (after : List Token) :
    Nesting → Outline
  | .empty => o
  | .token before t => addNesting flavor scope o (t :: after) before
  | .group before kind opener inner _ =>
    let o := addNesting flavor scope o [opener] before
    match kind with
    | .square => addNesting flavor scope o [] inner
    | .curly =>
      let kind := if guards flavor before then .guarded else .block
      addNesting flavor o.nextScope (o.addScope kind scope) [] inner
    | .round =>
      match callAt? flavor before inner after scope with
      | some call => addNesting flavor scope (o.addCall call) [] inner
      | none => addNesting flavor scope o [] inner

def ofNesting (flavor : Flavor) (n : Nesting) : Outline := addNesting flavor fileScope {} [] n

end SdkAudit.Outline
