import SdkAudit.Yaml.Text

/-!
# Scalars

A scalar may go on over several lines.  In plain and quoted scalars a single line break reads as a
space and further ones stay, and the blanks around them vanish.  In a block the indentation
vanishes; its line breaks stay or are joined, and those at its end are kept as the header of the
block asks for.

* `readPlain`, `readSingleQuoted`, `readDoubleQuoted`, `readBlock`: each reads the rest of a scalar
  and gives its value together with what follows it.
-/

namespace SdkAudit.Yaml

/-- What lies between two words of a scalar, latest first. -/
inductive Gap where
  /-- Blanks on one line, if any. -/
  | blanks (chars : List Char)
  /-- A line break and those after it.  The first one is missing if it was escaped. -/
  | breaks (first : Option Char) (others : List Char)
deriving Repr

namespace Gap

def none : Gap := .blanks []

def isPresent : Gap → Bool
  | .blanks chars => !chars.isEmpty
  | .breaks .. => true

def endsLine : Gap → Bool
  | .blanks _ => false
  | .breaks .. => true

/-- Adds a blank; blanks around line breaks vanish. -/
def addBlank (c : Char) : Gap → Gap
  | .blanks chars => .blanks (c :: chars)
  | gap => gap

def addBreak (c : Char) : Gap → Gap
  | .blanks _ => .breaks (some c) []
  | .breaks first others => .breaks first (c :: others)

/-- What the gap reads as, latest first.  A single line break reads as a space. -/
def value : Gap → List Char
  | .blanks chars => chars
  | .breaks (some '\n') [] => [' ']
  | .breaks (some '\n') others => others
  | .breaks (some c) others => others ++ [c]
  | .breaks .none others => others

end Gap

/-- The string of characters that were gathered latest first. -/
def gathered (chars : List Char) : String := String.ofList chars.reverse

/-! ### Plain scalars -/

/-- A plain scalar: its text, whether a line ended right after it, and what follows. -/
structure PlainScalar where
  text : String
  endsLine : Bool
  rest : Input
deriving Repr

/-- Reads a plain scalar, of which `text` has been read.  Inside brackets (`flow`) it ends at a
bracket or comma, outside of them at a line that is not indented enough; a colon with a gap after it
and a hash with a gap before it end it everywhere. -/
def readPlain (flow : Bool) (indent : Int) (text : List Char) (gap : Gap) :
    Input → Except Malformed PlainScalar
  | [] => .ok ⟨gathered text, gap.endsLine, []⟩
  | p :: rest =>
    let c := p.char
    let ended := .ok ⟨gathered text, gap.endsLine, p :: rest⟩
    if isBlank c then
      if c = '\t' ∧ gap.endsLine ∧ (p.position.column : Int) < indent then .error ⟨p.position⟩
      else readPlain flow indent text (gap.addBlank c) rest
    else if isBreak c then readPlain flow indent text (gap.addBreak c) rest
    else if gap.isPresent ∧ !flow ∧ (p.position.column : Int) < indent then ended
    else if Input.boundaryNext (p :: rest) then ended
    else if c = '#' ∧ gap.isPresent then ended
    else if flow ∧ c = ':' ∧ Input.next (",?[]\x7b\x7d".toList.contains ·) rest then
      .error ⟨p.position⟩
    else if c = ':' ∧ Input.gapNext rest then ended
    else if flow ∧ ",[]\x7b\x7d".toList.contains c then ended
    else readPlain flow indent (c :: (gap.value ++ text)) .none rest

/-! ### Quoted scalars -/

/-- Reads a scalar between single quotes; a quote in it is written twice. -/
def readSingleQuoted (text : List Char) (gap : Gap) : Input → Except Malformed (String × Input)
  | [] => .error ⟨.origin⟩
  | p :: rest =>
    let c := p.char
    if isBlank c then readSingleQuoted text (gap.addBlank c) rest
    else if isBreak c then readSingleQuoted text (gap.addBreak c) rest
    else if Input.boundaryNext (p :: rest) then .error ⟨p.position⟩
    else if c = '\'' then
      match rest with
      | q :: rest =>
        if q.char = '\'' then readSingleQuoted ('\'' :: (gap.value ++ text)) .none rest
        else .ok (gathered (gap.value ++ text), q :: rest)
      | [] => .ok (gathered (gap.value ++ text), [])
    else readSingleQuoted (c :: (gap.value ++ text)) .none rest

/-- The character that a letter after a backslash stands for. -/
def escaped? : Char → Option Char
  | '0' => some '\x00'
  | 'a' => some '\x07'
  | 'b' => some '\x08'
  | 't' => some '\t'
  | '\t' => some '\t'
  | 'n' => some '\n'
  | 'v' => some '\x0b'
  | 'f' => some '\x0c'
  | 'r' => some '\r'
  | 'e' => some '\x1b'
  | ' ' => some ' '
  | '"' => some '"'
  | '/' => some '/'
  | '\\' => some '\\'
  | 'N' => some '\u0085'
  | '_' => some '\u00a0'
  | 'L' => some '\u2028'
  | 'P' => some '\u2029'
  | _ => none

/-- How many hexadecimal digits follow a letter after a backslash. -/
def codeLength? : Char → Option Nat
  | 'x' => some 2
  | 'u' => some 4
  | 'U' => some 8
  | _ => none

def hexValue? (c : Char) : Option Nat :=
  if c.isDigit then some (c.toNat - '0'.toNat)
  else if 'a' ≤ c ∧ c ≤ 'f' then some (c.toNat - 'a'.toNat + 10)
  else if 'A' ≤ c ∧ c ≤ 'F' then some (c.toNat - 'A'.toNat + 10)
  else none

/-- How much of an escape has been read. -/
inductive Escape where
  | outside
  /-- A backslash. -/
  | started
  /-- Some digits of a code point: how many are still to come, and their value so far. -/
  | code (missing value : Nat)
deriving Repr

def readDoubleQuoted (text : List Char) (gap : Gap) (escape : Escape) :
    Input → Except Malformed (String × Input)
  | [] => .error ⟨.origin⟩
  | p :: rest =>
    let c := p.char
    match escape with
    | .code missing value =>
      match hexValue? c with
      | none => .error ⟨p.position⟩
      | some digit =>
        let value := value * 16 + digit
        if missing ≤ 1 then
          if value.isValidChar then
            readDoubleQuoted (Char.ofNat value :: text) .none .outside rest
          else .error ⟨p.position⟩
        else readDoubleQuoted text .none (.code (missing - 1) value) rest
    | .started =>
      if isBreak c then readDoubleQuoted text (.breaks none []) .outside rest
      else
        match escaped? c, codeLength? c with
        | some value, _ => readDoubleQuoted (value :: text) .none .outside rest
        | none, some length => readDoubleQuoted text .none (.code length 0) rest
        | none, none => .error ⟨p.position⟩
    | .outside =>
      if isBlank c then readDoubleQuoted text (gap.addBlank c) .outside rest
      else if isBreak c then readDoubleQuoted text (gap.addBreak c) .outside rest
      else if Input.boundaryNext (p :: rest) then .error ⟨p.position⟩
      else if c = '"' then .ok (gathered (gap.value ++ text), rest)
      else if c = '\\' then readDoubleQuoted (gap.value ++ text) .none .started rest
      else readDoubleQuoted (c :: (gap.value ++ text)) .none .outside rest

/-! ### Blocks -/

/-- What becomes of the line breaks at the end of a block. -/
inductive Chomping where
  /-- All of them go. -/
  | strip
  /-- One of them stays. -/
  | clip
  /-- All of them stay. -/
  | keep
deriving DecidableEq, Repr

/-- The header of a block: what becomes of its last line breaks, and by how much it is indented, if
that is said. -/
structure BlockHeader where
  chomping : Chomping := .clip
  increment : Option Nat := none
deriving Repr

namespace BlockHeader

/-- Reads a sign. -/
def chomping? : Char → Option Chomping
  | '+' => some .keep
  | '-' => some .strip
  | _ => none

/-- Reads a digit, which must not be zero. -/
def increment? (p : Placed) : Except Malformed (Option Nat) :=
  if p.char = '0' then .error ⟨p.position⟩
  else .ok (if p.char.isDigit then some (p.char.toNat - '0'.toNat) else none)

/-- Reads a header: a sign, a digit, or both in either order. -/
def read : Input → Except Malformed (BlockHeader × Input)
  | [] => .ok ({}, [])
  | p :: rest =>
    match chomping? p.char with
    | some chomping =>
      match rest with
      | [] => .ok ({ chomping }, [])
      | q :: rest' => do
        match ← increment? q with
        | some n => return ({ chomping, increment := some n }, rest')
        | none => return ({ chomping }, rest)
    | none => do
      match ← increment? p with
      | none => return ({}, p :: rest)
      | some n =>
        match rest with
        | [] => return ({ increment := some n }, [])
        | q :: rest' =>
          match chomping? q.char with
          | some chomping => return ({ chomping, increment := some n }, rest')
          | none => return ({ increment := some n }, rest)

end BlockHeader

/-- Reads the empty lines at the start of a block whose indentation is not said: their line breaks,
latest first, and how far the block is indented, at least by `least`. -/
def readIndentation (least deepest : Nat) (breaks : List Char) :
    Input → Except Malformed (List Char × Nat × Input)
  | [] => .ok (breaks, max least deepest, [])
  | p :: rest =>
    if p.char = ' ' then readIndentation least deepest breaks rest
    else if p.char = '\t' then .error ⟨p.position⟩
    else
      let deepest := max deepest p.position.column
      if isBreak p.char then readIndentation least deepest (breaks ++ [p.char]) rest
      else .ok (breaks, max least deepest, p :: rest)

/-- What has been read of a block. -/
structure BlockText where
  /-- The text, latest first, without the line breaks at its end. -/
  text : List Char := []
  /-- The line break after the last line. -/
  lastBreak : Option Char := none
  /-- The line breaks after that one, in order. -/
  others : List Char := []
  /-- Whether the last line starts with a blank. -/
  indented : Bool := false

namespace BlockText

/-- Starts a line with a character.  In a folded block two lines are joined unless one of them
starts with a blank. -/
def startLine (literal : Bool) (block : BlockText) (c : Char) : BlockText :=
  let folds := !literal && block.lastBreak == some '\n' && !block.indented && !isBlank c
  let between :=
    if folds then (if block.others.isEmpty then [' '] else [])
    else block.lastBreak.toList
  { text := c :: (block.others.reverse ++ (between ++ block.text)), indented := isBlank c }

def value (block : BlockText) (chomping : Chomping) : String :=
  match chomping with
  | .strip => gathered block.text
  | .clip => gathered (block.lastBreak.toList ++ block.text)
  | .keep => gathered (block.others.reverse ++ (block.lastBreak.toList ++ block.text))

/-- Reads the lines of a block that is indented by `indent`; `inLine` says whether a line has been
started. -/
def readLines (literal : Bool) (indent : Nat) (inLine : Bool) (block : BlockText) :
    Input → Except Malformed (BlockText × Input)
  | [] => .ok (block, [])
  | p :: rest =>
    let c := p.char
    if inLine then
      if isBreak c then readLines literal indent false { block with lastBreak := some c } rest
      else readLines literal indent true { block with text := c :: block.text } rest
    else if p.position.column < indent ∧ c = ' ' then readLines literal indent false block rest
    else if p.position.column < indent ∧ c = '\t' then .error ⟨p.position⟩
    else if isBreak c then
      readLines literal indent false { block with others := block.others ++ [c] } rest
    else if p.position.column = indent then
      readLines literal indent true (block.startLine literal c) rest
    else .ok (block, p :: rest)

end BlockText

/-- Reads a block after its indicator, inside a block that is indented by `outer`. -/
def readBlock (literal : Bool) (outer : Int) (input : Input) :
    Except Malformed (String × Input) := do
  let (header, rest) ← BlockHeader.read input
  let rest := rest.skipWhile isBlank
  let rest := if rest.next (· = '#') then rest.skipWhile (!isBreak ·) else rest
  match rest with
  | [] => return ("", [])
  | p :: rest =>
    if isBreak p.char then
      let (breaks, indent, rest) ← match header.increment with
        | some n => pure ([], (max outer 0).toNat + n, rest)
        | none => readIndentation (max (outer + 1) 1).toNat 0 [] rest
      let (block, rest) ← BlockText.readLines literal indent false { others := breaks } rest
      return (block.value header.chomping, rest)
    else .error ⟨p.position⟩

end SdkAudit.Yaml
