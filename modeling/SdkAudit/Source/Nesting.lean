import SdkAudit.Source.Token

/-!
# Nested tokens

A token sequence whose brackets match is a `Nesting`: tokens one after the other, and groups of
tokens between an opening bracket and the closing bracket of the same kind.  A nesting is built from
the left, so what stands before a token or a group is part of it and what precedes it directly is at
hand.

* `Nesting.ofTokens`: the nesting of a token sequence, or the bracket that has no partner;
* `Nesting.tokens`: the token sequence of a nesting;
* `Nesting.items`: its tokens and groups on the outermost level.
-/

namespace SdkAudit

/-- A kind of brackets. -/
inductive Bracket where
  | round
  | square
  | curly
deriving DecidableEq, Repr

/-- A bracket opens or closes a group. -/
inductive BracketSign where
  | opening (kind : Bracket)
  | closing (kind : Bracket)
deriving DecidableEq, Repr

/-- The bracket that a token is, if it is one. -/
def Token.bracket? (t : Token) : Option BracketSign :=
  match t.lexeme with
  | .sign '(' => some (.opening .round)
  | .sign '[' => some (.opening .square)
  | .sign '\x7b' => some (.opening .curly)
  | .sign ')' => some (.closing .round)
  | .sign ']' => some (.closing .square)
  | .sign '\x7d' => some (.closing .curly)
  | _ => none

/-- Tokens and groups of tokens, built from the left. -/
inductive Nesting where
  | empty
  /-- A token that is no bracket, after `before`. -/
  | token (before : Nesting) (t : Token)
  /-- A group, after `before`. -/
  | group (before : Nesting) (kind : Bracket) (opener : Token) (inner : Nesting) (closer : Token)
deriving DecidableEq, Repr

namespace Nesting

def tokens : Nesting → List Token
  | .empty => []
  | .token before t => before.tokens ++ [t]
  | .group before _ opener inner closer =>
    before.tokens ++ opener :: (inner.tokens ++ [closer])

/-- A group that has been opened and not closed: what stands before it, and its bracket. -/
structure Opened where
  before : Nesting
  kind : Bracket
  opener : Token
deriving DecidableEq, Repr

/-- Reads on, with the groups that are open, innermost first, and what stands in the innermost. -/
def readFrom (opened : List Opened) (inner : Nesting) :
    List Token → Except SourceError Nesting
  | [] =>
    match opened with
    | [] => .ok inner
    | o :: _ => .error (.unbalanced o.opener.position)
  | t :: rest =>
    match t.bracket? with
    | none => readFrom opened (.token inner t) rest
    | some (.opening kind) => readFrom (⟨inner, kind, t⟩ :: opened) .empty rest
    | some (.closing kind) =>
      match opened with
      | [] => .error (.unbalanced t.position)
      | o :: opened =>
        if o.kind = kind then readFrom opened (.group o.before kind o.opener inner t) rest
        else .error (.unbalanced t.position)

/-- The nesting of a token sequence, or the bracket that has no partner. -/
def ofTokens (tokens : List Token) : Except SourceError Nesting := readFrom [] .empty tokens

def last? : Nesting → Option Token
  | .empty => none
  | .token _ t => some t
  | .group _ _ _ _ closer => some closer

/-- A token, or a group with what stands between its brackets. -/
inductive Item where
  | token (t : Token)
  | group (kind : Bracket) (inner : Nesting)
deriving DecidableEq, Repr

/-- The tokens and groups on the outermost level of a nesting, followed by `more`. -/
def itemsBefore (more : List Item) : Nesting → List Item
  | .empty => more
  | .token before t => itemsBefore (.token t :: more) before
  | .group before kind _ inner _ => itemsBefore (.group kind inner :: more) before

/-- The tokens and groups on the outermost level of a nesting. -/
def items (n : Nesting) : List Item := n.itemsBefore []

end Nesting

end SdkAudit
