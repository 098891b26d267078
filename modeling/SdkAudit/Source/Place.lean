/-!
# Positions and places

A position is a line and a column, both counted from zero.  Positions are ordered as they come in a
text and are shown to people counted from one.

A place lies between two characters of a source text.  It knows how many characters come before it
and on which line and column it is; columns count characters in some languages and the bytes of
UTF-8 in others.
-/

namespace SdkAudit

/-- A position in a source text, counted from zero. -/
structure Position where
  line : Nat
  column : Nat
deriving DecidableEq, Repr

namespace Position

def origin : Position := ⟨0, 0⟩

/-- The position after a character: a line feed starts a new line. -/
def after (p : Position) (c : Char) : Position :=
  if c = '\n' then ⟨p.line + 1, 0⟩ else ⟨p.line, p.column + 1⟩

/-- The position after a character, where columns count the bytes of UTF-8. -/
def afterBytes (p : Position) (c : Char) : Position :=
  if c = '\n' then ⟨p.line + 1, 0⟩ else ⟨p.line, p.column + c.utf8Size⟩

def notAfter (p q : Position) : Bool :=
  p.line < q.line || (p.line == q.line && p.column ≤ q.column)

/-- The position as people read it, counted from one. -/
def label (p : Position) : String := toString (p.line + 1) ++ ":" ++ toString (p.column + 1)

end Position

/-- A place between two characters of a source text. -/
structure Place where
  position : Position
  /-- The number of characters before it. -/
  offset : Nat
deriving DecidableEq, Repr

namespace Place

def origin : Place := ⟨.origin, 0⟩

def after (p : Place) (c : Char) : Place := ⟨p.position.after c, p.offset + 1⟩

/-- The place after a character, where columns count bytes. -/
def afterBytes (p : Place) (c : Char) : Place := ⟨p.position.afterBytes c, p.offset + 1⟩

end Place

end SdkAudit
