import SdkAudit.Grammar.Basic

/-!
# Cursors

A lexeme that has no shape of its own is read with a cursor, which moves over the text from where
the last lexeme ended.  What it skips at first is no part of the lexeme; the lexeme ends where the
cursor was last marked, or where it stands.

* `Cursor.peek`: the character ahead;
* `Cursor.advance`, `Cursor.skip`, `Cursor.mark`: how a cursor moves;
* `Scanner`: how a grammar reads the lexemes that have no shape.
-/

namespace SdkAudit.Grammar

/-- A place in a text where a lexeme is being read. -/
structure Cursor where
  /-- What is ahead. -/
  rest : List Char
  /-- How many characters have been passed. -/
  passed : Nat := 0
  /-- How many of them come before the lexeme. -/
  start : Nat := 0
  /-- How many of them come before the end of the lexeme, if that has been marked. -/
  stop : Option Nat := none
deriving DecidableEq, Repr

namespace Cursor

/-- The character that stands for the end of a text. -/
def endMark : Char := '\x00'

def peek (c : Cursor) : Char := c.rest.headD endMark

def isAtEnd (c : Cursor) : Bool := c.rest.isEmpty

def advance (c : Cursor) : Cursor :=
  match c.rest with
  | [] => c
  | _ :: rest => { c with rest, passed := c.passed + 1 }

/-- The cursor after the next character, where the lexeme starts only then. -/
def skip (c : Cursor) : Cursor :=
  let next := c.advance
  { next with start := next.passed }

/-- The cursor with the lexeme ending here, for now. -/
def mark (c : Cursor) : Cursor := { c with stop := some c.passed }

def advanceMany (count : Nat) (c : Cursor) : Cursor :=
  { c with rest := c.rest.drop count, passed := c.passed + min count c.rest.length }

/-- The cursor after the next so many characters, where the lexeme starts only then. -/
def skipMany (count : Nat) (c : Cursor) : Cursor :=
  let next := c.advanceMany count
  { next with start := next.passed }

def advanceWhile (p : Char → Bool) (c : Cursor) : Cursor :=
  c.advanceMany (c.rest.takeWhile p).length

/-- The cursor after the characters with some property, where the lexeme starts only then. -/
def skipWhile (p : Char → Bool) (c : Cursor) : Cursor :=
  c.skipMany (c.rest.takeWhile p).length

/-- Where the lexeme ends. -/
def finish (c : Cursor) : Nat := c.stop.getD c.passed

end Cursor

/-- How the lexemes without a shape are read: given which of them are expected and what has been
kept from before, the number of the one that is read and what to keep. -/
structure Scanner where
  read : (Nat → Bool) → Nat → Cursor → Option (Nat × Nat × Cursor)

/-- The scanner of a grammar whose lexemes all have shapes. -/
def Scanner.none : Scanner := ⟨fun _ _ _ => .none⟩

end SdkAudit.Grammar
