import SdkAudit.Source.Place

/-!
# The characters of a YAML document

A document is laid out as characters with their positions.  Its line breaks, of whatever kind, are
told apart here and nowhere else: all of them read as a line feed, but for the two separators of
Unicode, which stay what they are.

* `Placed`: a character with its position;
* `Input.ofText`: the characters of a document, unless one of them is not allowed;
* `Malformed`: where a text ceases to be a document.
-/

namespace SdkAudit.Yaml

/-- The position at which a text ceases to be a document. -/
structure Malformed where
  position : Position
deriving DecidableEq, Repr

/-- A character with its position. -/
structure Placed where
  char : Char
  position : Position
deriving DecidableEq, Repr

/-- Characters that are still to be read. -/
abbrev Input := List Placed

/-! ### Classes of characters -/

/-- Whether a character may stand in a document at all. -/
def isAllowed (c : Char) : Bool :=
  let n := c.toNat
  c = '\t' || c = '\n' || c = '\r' || (0x20 ≤ n && n ≤ 0x7E) || n = 0x85 ||
    (0xA0 ≤ n && n ≤ 0xFFFD) || 0x10000 ≤ n

def isBreak (c : Char) : Bool :=
  c = '\n' || c = '\r' || c = '\u0085' || c = '\u2028' || c = '\u2029'

/-- A mark of the byte order, which means nothing at the start of a line. -/
def isOrderMark (c : Char) : Bool := c = '\uFEFF'

/-- A space or a tab. -/
def isBlank (c : Char) : Bool := c = ' ' || c = '\t'

/-- A character of a name. -/
def isWord (c : Char) : Bool := c.isAlphanum || c = '_' || c = '-'

/-- A line break as it stands in the value of a scalar. -/
def breakValue (c : Char) : Char := if c = '\u2028' ∨ c = '\u2029' then c else '\n'

/-! ### Laying out -/

namespace Input

/-- The characters of a text from a position on, and the position after the last of them. -/
def layOut (p : Position) : List Char → Input × Position
  | [] => ([], p)
  | '\r' :: '\n' :: rest =>
    let (input, stop) := layOut ⟨p.line + 1, 0⟩ rest
    (⟨'\n', p⟩ :: input, stop)
  | c :: rest =>
    if isBreak c then
      let (input, stop) := layOut ⟨p.line + 1, 0⟩ rest
      (⟨breakValue c, p⟩ :: input, stop)
    else
      let (input, stop) := layOut ⟨p.line, p.column + 1⟩ rest
      (⟨c, p⟩ :: input, stop)

/-- The characters of a text, and the position after the last of them. -/
def ofText (text : String) : Except Malformed (Input × Position) :=
  if text.toList.all isAllowed then .ok (layOut .origin text.toList) else .error ⟨.origin⟩

/-- The position of the next character, or that of the end. -/
def position (stop : Position) : Input → Position
  | [] => stop
  | next :: _ => next.position

/-- Whether the next character satisfies a test, if there is one. -/
def next (test : Char → Bool) : Input → Bool
  | [] => false
  | next :: _ => test next.char

/-- Whether the next character is a space, a tab or a line break, or there is none. -/
def gapNext (input : Input) : Bool := input.isEmpty || input.next fun c => isBlank c || isBreak c

/-- Whether the next character breaks the line, or there is none. -/
def lineEndNext (input : Input) : Bool := input.isEmpty || input.next isBreak

/-- Whether three of a character come next, and a gap. -/
def marks (c : Char) : Input → Bool
  | x :: y :: z :: rest => x.char = c && y.char = c && z.char = c && gapNext rest
  | _ => false

/-- Whether a line that starts or ends a document comes next. -/
def boundaryNext (input : Input) : Bool :=
  match input with
  | next :: _ => next.position.column = 0 && (input.marks '-' || input.marks '.')
  | [] => false

def text (input : Input) : String := String.ofList (input.map (·.char))

/-- The characters up to the first that fails a test, and the rest. -/
def splitWhile (test : Char → Bool) (input : Input) : Input × Input :=
  input.span fun placed => test placed.char

def skipWhile (test : Char → Bool) (input : Input) : Input :=
  input.dropWhile fun placed => test placed.char

end Input

end SdkAudit.Yaml
