import SdkAudit.Yaml.Property

/-!
# From characters to tokens

Blocks are set off by their indentation.  While the tokens of a document are gathered, the columns
of the open blocks are kept in mind: a token further to the right than the innermost block may open
a new one, and a token further to the left closes those that it is not part of.  A key of a map is
mostly known only by the colon after it, so the place where one may have started is kept in mind as
well, one for each level of brackets.  Such a key stays on one line and is not too long.

* `Layout`: the tokens so far, the open blocks, and the keys that may have been started;
* `tokens`: the tokens of a document.
-/

namespace SdkAudit.Yaml

/-- A place where a key may have started. -/
structure PossibleKey where
  /-- Whether nothing but a key may stand there. -/
  required : Bool
  /-- How many tokens come before it. -/
  number : Nat
  position : Position
deriving Repr

/-- What has been gathered of a document. -/
structure Layout where
  /-- The tokens, latest first. -/
  tokens : List PlacedToken := []
  /-- The column of the innermost open block; outside of every block it is `-1`. -/
  indent : Int := -1
  /-- The columns of the blocks around it. -/
  outer : List Int := []
  /-- Whether a key without an indicator may start here. -/
  keyAllowed : Bool := true
  /-- The key that may have been started inside the innermost brackets. -/
  key : Option PossibleKey := none
  /-- Those around each open bracket. -/
  outerKeys : List (Option PossibleKey) := []
deriving Repr

namespace Layout

def inBrackets (l : Layout) : Bool := !l.outerKeys.isEmpty

def add (l : Layout) (token : Token) (start stop : Position) : Layout :=
  { l with tokens := ⟨token, start, stop⟩ :: l.tokens }

/-- Adds a token in front of those from a number on. -/
def addBefore (l : Layout) (number : Nat) (token : Token) (p : Position) : Layout :=
  { l with tokens := l.tokens.insertIdx (l.tokens.length - number) ⟨token, p, p⟩ }

/-! ### Blocks -/

/-- Opens a block at a column right of the innermost one, in front of the tokens from a number on.
-/
def openBlock (l : Layout) (number : Nat) (token : Token) (p : Position) : Layout :=
  if !l.inBrackets ∧ l.indent < p.column then
    { l.addBefore number token p with indent := p.column, outer := l.indent :: l.outer }
  else l

/-- The tokens, column and outer columns that are left when all blocks right of `column` close. -/
def closeTo (column : Int) (p : Position) (indent : Int) (tokens : List PlacedToken) :
    List Int → List PlacedToken × Int × List Int
  | [] => (tokens, indent, [])
  | next :: outer =>
    if column < indent then closeTo column p next (⟨.closeBlock, p, p⟩ :: tokens) outer
    else (tokens, indent, next :: outer)

/-- Closes the blocks right of a column.  Inside brackets there are none. -/
def closeBlocks (l : Layout) (column : Int) (p : Position) : Layout :=
  if l.inBrackets then l
  else
    let (tokens, indent, outer) := closeTo column p l.indent l.tokens l.outer
    { l with tokens, indent, outer }

/-! ### Keys -/

/-- Forgets the key that may have been started, which is an error if there had to be one. -/
def dropKey (l : Layout) : Except Malformed Layout :=
  match l.key with
  | some key => if key.required then .error ⟨key.position⟩ else .ok { l with key := none }
  | none => .ok l

/-- Keeps in mind that a key may start here. -/
def markKey (l : Layout) (p : Position) : Except Malformed Layout :=
  if l.keyAllowed then do
    let required := !l.inBrackets && l.indent == (p.column : Int)
    return { ← l.dropKey with key := some ⟨required, l.tokens.length, p⟩ }
  else .ok l

/-- How many characters a key without an indicator may have at most. -/
def longestKey : Nat := 1024

/-- A key that is still possible at a position: it stays on one line and is not too long. -/
def stillPossible (p : Position) : Option PossibleKey → Except Malformed (Option PossibleKey)
  | some key =>
    if key.position.line < p.line ∨ key.position.column + longestKey < p.column then
      if key.required then .error ⟨key.position⟩ else .ok none
    else .ok (some key)
  | none => .ok none

/-- Forgets the keys that are no longer possible. -/
def dropStaleKeys (l : Layout) (p : Position) : Except Malformed Layout := do
  let outerKeys ← l.outerKeys.mapM (stillPossible p)
  return { l with key := ← stillPossible p l.key, outerKeys }

/-! ### Indicators -/

/-- The position after some characters on one line. -/
def along (p : Position) (n : Nat) : Position := ⟨p.line, p.column + n⟩

def addIndicator (l : Layout) (token : Token) (p : Position) : Layout := l.add token p (along p 1)

/-- Leaves all blocks, in front of a directive or a line that starts or ends a document. -/
def leaveBlocks (l : Layout) (p : Position) : Except Malformed Layout := do
  return { ← (l.closeBlocks (-1) p).dropKey with keyAllowed := false }

def openBracket (l : Layout) (token : Token) (p : Position) : Except Malformed Layout := do
  let l ← l.markKey p
  return { l with key := none, outerKeys := l.key :: l.outerKeys, keyAllowed := true }.addIndicator
    token p

def closeBracket (l : Layout) (token : Token) (p : Position) : Except Malformed Layout := do
  let l ← l.dropKey
  let l := match l.outerKeys with
    | key :: outerKeys => { l with key, outerKeys }
    | [] => l
  return { l with keyAllowed := false }.addIndicator token p

def comma (l : Layout) (p : Position) : Except Malformed Layout := do
  return { ← l.dropKey with keyAllowed := true }.addIndicator .comma p

def dash (l : Layout) (p : Position) : Except Malformed Layout := do
  if !l.inBrackets ∧ !l.keyAllowed then .error ⟨p⟩
  else
    let l ← (l.openBlock l.tokens.length .openBlockList p).dropKey
    return { l with keyAllowed := true }.addIndicator .dash p

/-- Adds the question mark of a key. -/
def keyMark (l : Layout) (p : Position) : Except Malformed Layout := do
  if !l.inBrackets ∧ !l.keyAllowed then .error ⟨p⟩
  else
    let l ← (l.openBlock l.tokens.length .openBlockMap p).dropKey
    return { l with keyAllowed := !l.inBrackets }.addIndicator .key p

/-- Adds the colon of a value.  It settles that a key has started where one was possible. -/
def colon (l : Layout) (p : Position) : Except Malformed Layout :=
  match l.key with
  | some key =>
    let l := l.addBefore key.number .key key.position
    let l := l.openBlock key.number .openBlockMap key.position
    .ok ({ l with key := none, keyAllowed := false }.addIndicator .colon p)
  | none =>
    if !l.inBrackets ∧ !l.keyAllowed then .error ⟨p⟩
    else
      let l := l.openBlock l.tokens.length .openBlockMap p
      .ok ({ l with keyAllowed := !l.inBrackets }.addIndicator .colon p)

/-- Adds a token that a key may start with, and whose own end is of no account. -/
def addContent (l : Layout) (token : Token) (p : Position) : Except Malformed Layout := do
  return { ← l.markKey p with keyAllowed := false }.add token p p

/-- Ends the document.  The end of a text is the start of a line. -/
def finish (l : Layout) (stop : Position) : Except Malformed Layout := do
  let stop := if stop.column = 0 then stop else ⟨stop.line + 1, 0⟩
  return (← l.leaveBlocks stop).add .finish stop stop

/-! ### Gathering tokens -/

/-- Skips blanks, comments and line breaks: whether a key may start then, and what follows.  Outside
of brackets no key may start after a tab on its line.  A byte order mark at the start of a line is
skipped as well. -/
def skipToToken (brackets keyAllowed inComment : Bool) : Input → Bool × Input
  | [] => (keyAllowed, [])
  | p :: rest =>
    let c := p.char
    if isBreak c then skipToToken brackets (keyAllowed || !brackets) false rest
    else if inComment ∨ c = ' ' ∨ c = '\t' ∧ (brackets ∨ !keyAllowed) ∨
        isOrderMark c ∧ p.position.column = 0 then
      skipToToken brackets keyAllowed inComment rest
    else if c = '#' then skipToToken brackets keyAllowed true rest
    else (keyAllowed, p :: rest)

/-- The characters that no plain scalar starts with. -/
def indicators : List Char := "-?:,[]\x7b\x7d#&*!|>'\"%@\x60".toList

def startsPlain (brackets : Bool) (c : Char) (rest : Input) : Bool :=
  !isBlank c && !isBreak c && !indicators.contains c || c = '-' && !Input.next isBlank rest ||
    !brackets && (c = '?' || c = ':') && !rest.gapNext

def readToken (l : Layout) (first : Placed) (rest : Input) : Except Malformed (Layout × Input) := do
  let c := first.char
  let p := first.position
  let brackets := l.inBrackets
  let input := first :: rest
  if p.column = 0 ∧ c = '%' then
    let l ← l.leaveBlocks p
    let (token, rest) ← readDirective rest
    return (l.add token p p, rest)
  else if p.column = 0 ∧ Input.marks '-' input then
    return ((← l.leaveBlocks p).add .documentStart p (along p 3), rest.drop 2)
  else if p.column = 0 ∧ Input.marks '.' input then
    return ((← l.leaveBlocks p).add .documentEnd p (along p 3), rest.drop 2)
  else if c = '[' then return (← l.openBracket .openList p, rest)
  else if c = '\x7b' then return (← l.openBracket .openMap p, rest)
  else if c = ']' then return (← l.closeBracket .closeList p, rest)
  else if c = '\x7d' then return (← l.closeBracket .closeMap p, rest)
  else if c = ',' then return (← l.comma p, rest)
  else if c = '-' ∧ rest.gapNext then return (← l.dash p, rest)
  else if c = '?' ∧ (brackets ∨ rest.gapNext) then return (← l.keyMark p, rest)
  else if c = ':' ∧ (brackets ∨ rest.gapNext) then return (← l.colon p, rest)
  else if c = '*' then
    let (name, rest) ← readName rest
    return (← l.addContent (.alias name) p, rest)
  else if c = '&' then
    let (name, rest) ← readName rest
    return (← l.addContent (.anchor name) p, rest)
  else if c = '!' then
    let (tag, rest) ← readTag brackets input
    return (← l.addContent tag p, rest)
  else if (c = '|' ∨ c = '>') ∧ !brackets then
    let l ← l.dropKey
    let literal := c == '|'
    let (text, rest) ← readBlock literal l.indent rest
    return ({ l with keyAllowed := true }.add
      (.scalar text (if literal then .literal else .folded)) p p, rest)
  else if c = '\'' then
    let (text, rest) ← readSingleQuoted [] .none rest
    return (← l.addContent (.scalar text .quoted) p, rest)
  else if c = '"' then
    let (text, rest) ← readDoubleQuoted [] .none .outside rest
    return (← l.addContent (.scalar text .quoted) p, rest)
  else if startsPlain brackets c rest then
    let l ← l.markKey p
    let scalar ← readPlain brackets (l.indent + 1) [] .none input
    let l := { l with keyAllowed := scalar.endsLine }
    return (l.add (.scalar scalar.text .plain) p p, scalar.rest)
  else .error ⟨p⟩

/-- Gathers the tokens of what is still to be read, of which there are fewer than `fuel`. -/
def gather (stop : Position) : Nat → Layout → Input → Except Malformed Layout
  | 0, _, input => .error ⟨input.position stop⟩
  | fuel + 1, l, input => do
    let (keyAllowed, input) := skipToToken l.inBrackets l.keyAllowed false input
    let p := input.position stop
    let l := (← { l with keyAllowed }.dropStaleKeys p).closeBlocks p.column p
    match input with
    | [] => l.finish stop
    | first :: rest =>
      let (l, rest) ← l.readToken first rest
      gather stop fuel l rest

end Layout

/-- The tokens of a document.  Each has a character of its own, but for those that are added on the
way, so the number of characters is a bound for the search. -/
def tokens (text : String) : Except Malformed (List PlacedToken) := do
  let (input, stop) ← Input.ofText text
  return (← Layout.gather stop (input.length + 1) {} input).tokens.reverse

end SdkAudit.Yaml
