import SdkAudit.Source.Place

/-!
# Tokens of Dart and Kotlin

The two languages that are read from their tokens, and what a token is: a name, a text, a number or
a single sign, with the place where it stands.
-/

namespace SdkAudit

/-- A language that is read from its tokens. -/
inductive Flavor where
  | dart
  | kotlin
deriving DecidableEq, Repr

/-- What a token says. -/
inductive Lexeme where
  /-- A name, without the back quotes around it. -/
  | name (text : String)
  /-- A string literal, as the text it stands for and without its interpolations. -/
  | text (content : String)
  | number
  | sign (c : Char)
deriving DecidableEq, Repr

/-- A token of a source text. -/
structure Token where
  lexeme : Lexeme
  /-- The position of its first character. -/
  position : Position
  /-- The number of characters before it. -/
  start : Nat
  /-- The number of characters up to its end. -/
  stop : Nat
deriving DecidableEq, Repr

namespace Token

def name? (t : Token) : Option String :=
  match t.lexeme with
  | .name text => some text
  | _ => none

def isSign (t : Token) (c : Char) : Bool := t.lexeme == .sign c

def isName (t : Token) (text : String) : Bool := t.lexeme == .name text

end Token

/-- Why a source text has no call outline. -/
inductive SourceError where
  | unterminatedString (start : Position)
  | unterminatedComment (start : Position)
  | unbalanced (bracket : Position)
deriving DecidableEq, Repr

def SourceError.message : SourceError → String
  | .unterminatedString start => "unterminated string starting at " ++ start.label
  | .unterminatedComment start => "unterminated comment starting at " ++ start.label
  | .unbalanced bracket => "unbalanced bracket at " ++ bracket.label

end SdkAudit
