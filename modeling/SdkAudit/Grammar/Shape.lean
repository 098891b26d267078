import SdkAudit.Text.Identifier

/-!
# Shapes of lexemes

A shape says which texts a lexeme can be.  It is read one character at a time: what may follow a
character is a shape again, so a lexer needs no machine beside the shapes themselves.

* `CharClass.holds`: whether a character is in a class;
* `Shape.mayEnd`: whether nothing more is needed;
* `Shape.after`: what may follow a character, and how strongly reading on is preferred;
* `oneOf`, `inRanges`, `Shape.all`, `Shape.any`: how shapes are written down.
-/

namespace SdkAudit.Grammar

/-- A property of characters that a class may ask for. -/
inductive CharProperty where
  | space
  | identifierStart
  | identifierPart
  | emoji
  | emojiModifier
deriving DecidableEq, Repr

def CharProperty.holds : CharProperty → Char → Bool
  | .space, c => Text.spaceRanges.covers c.toNat
  | .identifierStart, c => Text.startsIdentifier c
  | .identifierPart, c => Text.continuesIdentifier c
  | .emoji, c => Text.emojiRanges.covers c.toNat
  | .emojiModifier, c => Text.emojiModifierRanges.covers c.toNat

/-- A set of characters. -/
structure CharClass where
  /-- Ranges of characters, ends included. -/
  ranges : List (Char × Char) := []
  properties : List CharProperty := []
  /-- Ranges of characters that are taken out again. -/
  without : List (Char × Char) := []
  /-- Whether the class holds the characters that are not described. -/
  negated : Bool := false
deriving DecidableEq, Repr

namespace CharClass

def within (ranges : List (Char × Char)) (c : Char) : Bool :=
  ranges.any fun range => range.1.val ≤ c.val && c.val ≤ range.2.val

def holds (k : CharClass) (c : Char) : Bool :=
  ((within k.ranges c || k.properties.any (·.holds c)) && !within k.without c) != k.negated

end CharClass

/-- A set of texts. -/
inductive Shape where
  /-- Only the empty text. -/
  | done
  /-- One character of a class. -/
  | one (kind : CharClass)
  /-- These characters, and no others. -/
  | text (chars : List Char)
  | seq (first second : Shape)
  | either (first second : Shape)
  /-- The shape any number of times. -/
  | many (item : Shape)
  /-- The shape, where reading on has this preference. -/
  | preferred (level : Int) (shape : Shape)
deriving DecidableEq, Repr

namespace Shape

/-- Whether the empty text has the shape. -/
def mayEnd : Shape → Bool
  | .done => true
  | .one _ => false
  | .text chars => chars.isEmpty
  | .seq first second => first.mayEnd && second.mayEnd
  | .either first second => first.mayEnd || second.mayEnd
  | .many _ => true
  | .preferred _ shape => shape.mayEnd

def followedBy : Shape → Shape → Shape
  | .done, second => second
  | first, second => .seq first second

/-- What may follow a character, with the preference for having read it if one is stated. -/
def after (c : Char) : Shape → List (Option Int × Shape)
  | .done => []
  | .one kind => if kind.holds c then [(none, .done)] else []
  | .text [] => []
  | .text [d] => if c = d then [(none, .done)] else []
  | .text (d :: ds) => if c = d then [(none, .text ds)] else []
  | .seq first second =>
    let here := (first.after c).map fun (level, rest) => (level, rest.followedBy second)
    if first.mayEnd then here ++ second.after c else here
  | .either first second => first.after c ++ second.after c
  | .many item => (item.after c).map fun (level, rest) => (level, rest.followedBy (.many item))
  | .preferred level shape =>
    (shape.after c).map fun (inner, rest) =>
      (some (inner.getD level), if rest = .done then rest else .preferred level rest)

instance : Coe String Shape := ⟨fun chars => .text chars.toList⟩

def all : List Shape → Shape
  | [] => .done
  | [shape] => shape
  | shape :: rest => .seq shape (all rest)

/-- One of some shapes; there is at least one. -/
def any : List Shape → Shape
  | [] => .one {}
  | [shape] => shape
  | shape :: rest => .either shape (any rest)

def optional (shape : Shape) : Shape := .either shape .done

def oneOrMore (shape : Shape) : Shape := .seq shape (.many shape)

def times : Nat → Shape → Shape
  | 0, _ => .done
  | 1, shape => shape
  | n + 1, shape => .seq shape (times n shape)

def atMost : Nat → Shape → Shape
  | 0, _ => .done
  | n + 1, shape => optional (.seq shape (atMost n shape))

def between (least most : Nat) (shape : Shape) : Shape :=
  .seq (times least shape) (atMost (most - least) shape)

def admits (shape : Shape) : List Char → Bool
  | [] => shape.mayEnd
  | c :: rest => (shape.after c).any fun step => step.2.admits rest

end Shape

def oneOf (chars : String) : Shape := .one { ranges := chars.toList.map fun c => (c, c) }

def noneOf (chars : String) : Shape :=
  .one { ranges := chars.toList.map (fun c => (c, c)), negated := true }

/-- A character of some ranges, ends included. -/
def inRanges (ranges : List (Char × Char)) : Shape := .one { ranges }

def notInRanges (ranges : List (Char × Char)) : Shape := .one { ranges, negated := true }

def withProperty (property : CharProperty) : Shape := .one { properties := [property] }

def digit : Shape := inRanges [('0', '9')]

def hexDigit : Shape := inRanges [('0', '9'), ('a', 'f'), ('A', 'F')]

def octalDigit : Shape := inRanges [('0', '7')]

def binaryDigit : Shape := oneOf "01"

end SdkAudit.Grammar
