import SdkAudit.Proofs.Nesting.Matching
import SdkAudit.Outline.OfNesting

/-!
# Outlines by number

The outline of nested tokens is told from the nesting.  It can also be told from the token sequence
alone, with the tokens and the partners of brackets asked for by their numbers.  Then every token
that is looked at has to be there, and a number that is lowered must not be zero: here these steps
are checked.

* `ByNumber.tokenBefore?`, `ByNumber.nameBefore?` — what stands before a token;
* `ByNumber.guards`, `ByNumber.chain`, `ByNumber.isDeclaration` — the tests of headers and callees;
* `ByNumber.segments`, `ByNumber.argument`, `ByNumber.literalKeys` — the arguments of a call;
* `ByNumber.callAt`, `ByNumber.build` — the outline.
-/

namespace SdkAudit.ByNumber

open Outline

variable (flavor : Flavor) (ts : List Token) (partners : List (Option Nat))

/-! ### What stands before a token -/

def tokenBefore? : Nat → Checked (Option Token)
  | 0 => return none
  | p + 1 => do
    let t ← Checked.look ts p
    return some t

def nameBefore? (i : Nat) : Checked (Option String) := do
  let t? ← tokenBefore? ts i
  return t?.bind Token.name?

/-- Whether this token, with so many tokens before it, is a type behind Dart's `on`. -/
def isCaughtType (t : Token) (i : Nat) : Checked Bool :=
  if flavor = .dart ∧ t.name?.isSome then do
    let word? ← nameBefore? ts i
    return word? = some "on"
  else return false

/-- Whether the braces that open with this token hold a body whose errors are handled. -/
def guards : Nat → Checked Bool
  | 0 => return false
  | p + 1 => do
    let previous ← Checked.look ts p
    if previous.isName "try" ∨ previous.isName "finally" then return true
    else if previous.isSign ')' then do
      match ← Checked.look partners p with
      | some opening => do
        let word? ← nameBefore? ts opening
        return word? = some "catch"
      | none => isCaughtType flavor ts previous p
    else isCaughtType flavor ts previous p

/-! ### Chains of names -/

/-- The dot that stands here, or the mark before it. -/
def markOf : (dot : Nat) → Checked Nat
  | 0 => return 0
  | q + 1 => do
    let mark ← Checked.look ts q
    if mark.isSign '?' ∨ mark.isSign '!' then Checked.lower (q + 1) else return q + 1

/-- Follows a chain to the left from the first of these names: the number of its first token, its
names, and whether it hangs on an expression that is no name. -/
def chain : (calls start : Nat) → (names : List String) → Checked (Nat × List String × Bool)
  | 0, _, _ => .error .exhausted
  | _ + 1, 0, names => return (0, names, false)
  | calls + 1, start + 1, names => do
    let dot ← Checked.look ts start
    if dot.isSign '.' then do
      let mark ← markOf ts start
      match ← nameBefore? ts mark with
      | some name => do
        let before ← Checked.lower mark
        chain calls before (name :: names)
      | none => return (start + 1, names, true)
    else return (start + 1, names, false)

/-- Whether a chain of so many names from this token on, whose round brackets close with that token,
declares something. -/
def isDeclaration (start length close : Nat) : Checked Bool := do
  match ← tokenBefore? ts start with
  | none => return false
  | some previous =>
    match flavor with
    | .kotlin => return previous.name?.any (declarationWords.contains ·)
    | .dart =>
      if length ≠ 1 then return false
      else
        match previous.name? with
        | some word => return !expressionWords.contains word
        | none => return previous.isSign '>' && opensBody (ts.drop (close + 1))

/-- The test of a declaration, for a chain that hangs on no expression. -/
def declares (onExpression : Bool) (start length close : Nat) : Checked Bool :=
  if onExpression then return false else isDeclaration flavor ts start length close

/-- The callee that the names of a chain write. -/
def callee (names : List String) (onExpression : Bool) : String :=
  let path := ".".intercalate names
  if onExpression then "<expr>." ++ path else path

/-! ### Arguments -/

def opens (t : Token) : Bool := t.isSign '(' || t.isSign '[' || t.isSign '\x7b'

/-- The segments before the token `close` that end at token `k` or later, where the first of them
starts at `start`. -/
def segmentsFrom (close : Nat) : (calls start k : Nat) → Checked (List (Nat × Nat))
  | 0, _, _ => .error .exhausted
  | calls + 1, start, k =>
    if k < close then do
      let t ← Checked.look ts k
      if opens t then do
        let partner? ← Checked.look partners k
        segmentsFrom close calls start (partner?.getD k + 1)
      else if t.isSign ',' then do
        let more ← segmentsFrom close calls (k + 1) (k + 1)
        return if start < k then (start, k) :: more else more
      else segmentsFrom close calls start (k + 1)
    else return if start < close then [(start, close)] else []

/-- The segments between the commas between two brackets, without the empty ones: each with the
number of its first token and the number behind its last. -/
def segments (opening close : Nat) : Checked (List (Nat × Nat)) :=
  segmentsFrom ts partners close (close + 1) (opening + 1) (opening + 1)

/-- The key that a segment of an object literal sets, if it sets one by name or by text. -/
def literalKey? : Nat × Nat → Checked (Option String)
  | (start, stop) =>
    if start + 1 < stop then do
      let colon ← Checked.look ts (start + 1)
      if colon.isSign ':' then do
        let head ← Checked.look ts start
        match head.lexeme with
        | .name key | .text key => return some key
        | _ => return none
      else return none
    else return none

/-- The keys of the object literal between two braces. -/
def literalKeys (opening close : Nat) : Checked (List String) := do
  let found ← segments ts partners opening close
  let keys ← found.mapM (literalKey? ts)
  return keys.filterMap id

/-- The label of the argument in a segment that starts with this token, if it has one. -/
def label? (head : Token) : Nat × Nat → Checked (Option String)
  | (start, stop) => do
    let mark ← Checked.look ts (start + 1)
    if start + 1 < stop ∧ head.name?.isSome then
      match flavor with
      | .dart => return if mark.isSign ':' then head.name? else none
      | .kotlin =>
        if mark.isSign '=' then do
          let next ← Checked.look ts (start + 2)
          return if next.isSign '=' then none else head.name?
        else return none
    else return none

def argument : Nat × Nat → Checked Argument
  | (start, stop) => do
    let head ← Checked.look ts start
    match ← label? flavor ts head (start, stop) with
    | some label => return .named label
    | none =>
      if flavor = .dart ∧ head.isSign '\x7b' then do
        let partner? ← Checked.look partners start
        let last ← Checked.lower stop
        if partner? = some last then do
          let keys ← literalKeys ts partners start last
          return .literal keys
        else return .positional
      else return .positional

/-- The arguments between two brackets. -/
def arguments (opening close : Nat) : Checked (List Argument) := do
  let found ← segments ts partners opening close
  found.mapM (argument flavor ts partners)

/-! ### The outline -/

/-- The call whose round brackets open with this token, if it is one. -/
def callAt (scope : ScopeId) : Nat → Checked (Option Call)
  | 0 => return none
  | member + 1 => do
    let head ← Checked.look ts member
    match head.name? with
    | none => return none
    | some name =>
      if controlWords.contains name then return none
      else do
        let (start, names, onExpression) ← chain ts (member + 1) member [name]
        match ← Checked.look partners (member + 1) with
        | none => return none
        | some close =>
          if ← declares flavor ts onExpression start names.length close then return none
          else do
            let args ← arguments flavor ts partners (member + 1) close
            let first ← Checked.look ts start
            return some
              { callee := callee names onExpression
                arguments := args
                position := first.position
                scope }

/-- Goes on at the token with this number, inside these scopes, innermost first. -/
def buildFrom (i : Nat) (opened : List ScopeId) (o : Outline) : List Token → Checked Outline
  | [] => return o
  | t :: rest => do
    let current := opened.headD fileScope
    if t.isSign '\x7b' then do
      let guarded ← guards flavor ts partners i
      let kind := if guarded then ScopeKind.guarded else .block
      buildFrom (i + 1) (o.nextScope :: opened) (o.addScope kind current) rest
    else if t.isSign '\x7d' then
      buildFrom (i + 1) (if 1 < opened.length then opened.tail else opened) o rest
    else if t.isSign '(' then do
      let call? ← callAt flavor ts partners current i
      buildFrom (i + 1) opened (call?.elim o o.addCall) rest
    else buildFrom (i + 1) opened o rest

def build : Checked Outline := buildFrom flavor ts partners 0 [fileScope] {} ts

end SdkAudit.ByNumber
