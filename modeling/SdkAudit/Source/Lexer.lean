import SdkAudit.Source.Place
import SdkAudit.Source.Token
import SdkAudit.Text.Character
import SdkAudit.Text.Letter

/-!
# Reading tokens

The lexer is a machine that is fed a source text one character after the other.  What it is in the
middle of is its `Mode`; a character takes it to a next mode and completes up to three tokens.  No
mode looks ahead: where a sign means different things depending on what follows, there is a mode for
having read the sign.

* `Mode.step`: one character;
* `Mode.finish`: the end of the text;
* `Lexer.tokens`: the tokens of a text, or why it has none.

A string literal may hold interpolations, and these may hold string literals again.  What has been
entered and not left is a stack, `Literal.outer`, so that strings and interpolations nest without
recursion.  Inside an interpolation only string literals and braces matter.
-/

namespace SdkAudit

def Place.token (start : Place) (lexeme : Lexeme) (stop : Nat) : Token :=
  ⟨lexeme, start.position, start.offset, stop⟩

/-- How a string literal is to be read. -/
structure Quoting where
  /-- The character that opens and closes it. -/
  quote : Char
  /-- Whether three quotes open and close it. -/
  triple : Bool
  /-- Whether a backslash takes away the meaning of the character after it. -/
  escapes : Bool
  /-- Whether a dollar sign and a brace open an interpolation. -/
  interpolates : Bool
deriving DecidableEq, Repr

namespace Quoting

/-- A literal that one quote opens and closes. -/
def single (quote : Char) (raw : Bool) : Quoting := ⟨quote, false, !raw, !raw⟩

/-- A literal that three quotes open and close.  In Kotlin, a backslash means nothing in it. -/
def tripled (flavor : Flavor) (quote : Char) (raw : Bool) : Quoting :=
  ⟨quote, true, !raw && flavor != .kotlin, !raw⟩

end Quoting

/-- Where in a string literal the lexer is. -/
inductive LiteralPhase where
  /-- Right after the opening quote, or after two quotes. -/
  | opening (quote : Char) (raw : Bool) (two : Bool)
  | body (style : Quoting)
  /-- After a backslash. -/
  | escape (style : Quoting)
  /-- After a dollar sign. -/
  | dollar (style : Quoting)
  /-- After one quote, or two, that may close a triple literal. -/
  | closing (style : Quoting) (two : Bool)
  /-- In an interpolation, outside the literals in it. -/
  | hole
deriving DecidableEq, Repr

/-- A string literal that is being read. -/
structure Literal where
  start : Place
  /-- The text so far, last character first. -/
  content : List Char
  phase : LiteralPhase
  /-- The literals whose interpolations are open, innermost first, each with the number of braces
  that are open in its interpolation. -/
  outer : List (Quoting × Nat)
deriving DecidableEq, Repr

/-- What comes of feeding a character to a literal. -/
inductive LiteralStep where
  /-- The literal goes on. -/
  | more (literal : Literal)
  /-- The character closes the literal. -/
  | closed (literal : Literal)
  /-- The literal was closed before the character. -/
  | closedBefore (literal : Literal)
  /-- The line ends in a literal that must end in its line. -/
  | broken
deriving DecidableEq, Repr

namespace Literal

def enter (l : Literal) (phase : LiteralPhase) : Literal := { l with phase }

/-- The literal after one more character of text, back in its body.  What stands inside an
interpolation is not part of the text. -/
def push (l : Literal) (style : Quoting) (c : Char) : Literal :=
  { l with content := if l.outer.isEmpty then c :: l.content else l.content, phase := .body style }

def bodyStep (l : Literal) (style : Quoting) (c : Char) : LiteralStep :=
  if style.escapes ∧ c = '\\' then .more (l.enter (.escape style))
  else if c = style.quote then
    if style.triple then .more (l.enter (.closing style false)) else .closed l
  else if c = '\n' ∧ !style.triple then .broken
  else if style.interpolates ∧ c = '$' then .more (l.enter (.dollar style))
  else .more (l.push style c)

/-- A character in an interpolation, outside the literals in it. -/
def holeStep (l : Literal) (c : Char) : LiteralStep :=
  if c = '"' ∨ c = '\'' then .more (l.enter (.opening c false false))
  else
    match l.outer with
    | [] => .more l
    | (style, depth) :: outer =>
      if c = '\x7b' then .more { l with outer := (style, depth + 1) :: outer }
      else if c = '\x7d' then
        if depth = 0 then .more { l with outer, phase := .body style }
        else .more { l with outer := (style, depth - 1) :: outer }
      else .more l

/-- A character after the opening quotes of a literal, or anywhere in it. -/
def step (flavor : Flavor) (l : Literal) (c : Char) : LiteralStep :=
  match l.phase with
  | .opening quote raw false =>
    if c = quote then .more (l.enter (.opening quote raw true))
    else l.bodyStep (.single quote raw) c
  | .opening quote raw true =>
    if c = quote then .more (l.enter (.body (.tripled flavor quote raw)))
    else .closedBefore l
  | .body style => l.bodyStep style c
  | .escape style => .more (l.push style c)
  | .dollar style =>
    if c = '\x7b' then .more { l with outer := (style, 0) :: l.outer, phase := .hole }
    else (l.push style '$').bodyStep style c
  | .closing style false =>
    if c = style.quote then .more (l.enter (.closing style true))
    else (l.push style style.quote).bodyStep style c
  | .closing style true =>
    if c = style.quote then .closed l
    else ((l.push style style.quote).push style style.quote).bodyStep style c
  | .hole => l.holeStep c

def text (l : Literal) : String := String.ofList l.content.reverse

end Literal

/-- What the last character of a comment may be the first half of. -/
inductive CommentSign where
  | slash
  | star
  | neither
deriving DecidableEq, Repr

/-- What a character of a comment may be the first half of. -/
def CommentSign.of (c : Char) : CommentSign :=
  if c = '/' then .slash else if c = '*' then .star else .neither

/-- What the lexer is in the middle of. -/
inductive Mode where
  /-- Between tokens. -/
  | blank
  /-- After a slash, which may open a comment. -/
  | slash (start : Place)
  | lineComment
  /-- In comments nested this deep, the outermost not counted. -/
  | blockComment (start : Place) (depth : Nat) (last : CommentSign)
  /-- In a name, last character first. -/
  | name (start : Place) (text : List Char)
  /-- In a name between back quotes, last character first. -/
  | backQuoted (start : Place) (text : List Char)
  | number (start : Place)
  /-- After a point that may continue a number. -/
  | numberPoint (start point : Place)
  | literal (l : Literal)
  /-- The text has been refused. -/
  | refused (e : SourceError)
deriving DecidableEq, Repr

def isNameStart (c : Char) : Bool := Text.isLetter c || c == '_' || c == '$'

def isNamePart (c : Char) : Bool := Text.isLetterOrDigit c || c == '_' || c == '$'

/-- A character that a number may hold, apart from a point. -/
def isNumberPart (c : Char) : Bool := Text.isLetterOrDigit c || c == '_'

namespace Mode

/-- The mode in which a string literal has just been opened. -/
def openLiteral (start : Place) (quote : Char) (raw : Bool) : Mode :=
  .literal ⟨start, [], .opening quote raw false, []⟩

/-- A character between tokens. -/
def fresh (flavor : Flavor) (here : Place) (c : Char) : Mode × List Token :=
  if Text.isBlank c then (.blank, [])
  else if c = '/' then (.slash here, [])
  else if c = '"' ∨ c = '\'' then (openLiteral here c false, [])
  else if flavor = .kotlin ∧ c = '\x60' then (.backQuoted here [], [])
  else if isNameStart c then (.name here [c], [])
  else if c.isDigit then (.number here, [])
  else (.blank, [here.token (.sign c) (here.offset + 1)])

/-- A token is complete before this character, which is then read between tokens. -/
def completedBefore (flavor : Flavor) (here : Place) (c : Char) (done : List Token) :
    Mode × List Token :=
  let (mode, more) := fresh flavor here c
  (mode, done ++ more)

def nameToken (start : Place) (text : List Char) (stop : Nat) : Token :=
  start.token (.name (String.ofList text.reverse)) stop

def literalToken (l : Literal) (stop : Nat) : Token := l.start.token (.text l.text) stop

/-- A literal has been closed: the one being read is complete, or an interpolation goes on. -/
def leaveLiteral (l : Literal) (stop : Nat) : Mode × List Token :=
  match l.outer with
  | [] => (.blank, [literalToken l stop])
  | _ :: _ => (.literal (l.enter .hole), [])

def literalStep (flavor : Flavor) (here : Place) (c : Char) (l : Literal) : Mode × List Token :=
  match l.step flavor c with
  | .more l => (.literal l, [])
  | .closed l => leaveLiteral l (here.offset + 1)
  | .broken => (.refused (.unterminatedString l.start.position), [])
  | .closedBefore l =>
    match l.outer with
    | [] => completedBefore flavor here c [literalToken l here.offset]
    | _ :: _ =>
      match (l.enter .hole).holeStep c with
      | .more l => (.literal l, [])
      | _ => (.refused (.unterminatedString l.start.position), [])

/-- A character: the next mode and the tokens that are now complete. -/
def step (flavor : Flavor) (here : Place) (c : Char) : Mode → Mode × List Token
  | .blank => fresh flavor here c
  | .slash start =>
    if c = '/' then (.lineComment, [])
    else if c = '*' then (.blockComment start 0 .neither, [])
    else completedBefore flavor here c [start.token (.sign '/') here.offset]
  | .lineComment => if c = '\n' then (.blank, []) else (.lineComment, [])
  | .blockComment start depth last =>
    if last = .slash ∧ c = '*' then (.blockComment start (depth + 1) .neither, [])
    else if last = .star ∧ c = '/' then
      match depth with
      | 0 => (.blank, [])
      | depth + 1 => (.blockComment start depth .neither, [])
    else (.blockComment start depth (.of c), [])
  | .name start text =>
    if isNamePart c then (.name start (c :: text), [])
    else if flavor = .dart ∧ text = ['r'] ∧ (c = '"' ∨ c = '\'') then (openLiteral start c true, [])
    else completedBefore flavor here c [nameToken start text here.offset]
  | .backQuoted start text =>
    if c = '\x60' then (.blank, [nameToken start text (here.offset + 1)])
    else if c = '\n' then (.refused (.unterminatedString start.position), [])
    else (.backQuoted start (c :: text), [])
  | .number start =>
    if isNumberPart c then (.number start, [])
    else if c = '.' then (.numberPoint start here, [])
    else completedBefore flavor here c [start.token .number here.offset]
  | .numberPoint start point =>
    if c.isDigit then (.number start, [])
    else completedBefore flavor here c
      [start.token .number point.offset, point.token (.sign '.') here.offset]
  | .literal l => literalStep flavor here c l
  | .refused e => (.refused e, [])

/-- The end of the text: the tokens that are now complete, or why there are none. -/
def finish (here : Place) : Mode → Except SourceError (List Token)
  | .blank | .lineComment => .ok []
  | .slash start => .ok [start.token (.sign '/') here.offset]
  | .blockComment start _ _ => .error (.unterminatedComment start.position)
  | .name start text => .ok [nameToken start text here.offset]
  | .backQuoted start _ => .error (.unterminatedString start.position)
  | .number start => .ok [start.token .number here.offset]
  | .numberPoint start point =>
    .ok [start.token .number point.offset, point.token (.sign '.') here.offset]
  | .literal l =>
    match l.phase, l.outer with
    | .opening _ _ true, [] => .ok [literalToken l here.offset]
    | _, _ => .error (.unterminatedString l.start.position)
  | .refused e => .error e

end Mode

/-- The lexer in the middle of a text. -/
structure Lexer where
  mode : Mode := .blank
  here : Place := .origin
  /-- The tokens so far, last one first. -/
  done : List Token := []
deriving DecidableEq, Repr

namespace Lexer

def feed (flavor : Flavor) (s : Lexer) (c : Char) : Lexer :=
  let (mode, out) := s.mode.step flavor s.here c
  { mode, here := s.here.after c, done := out.reverse ++ s.done }

def feedAll (flavor : Flavor) (s : Lexer) (text : List Char) : Lexer := text.foldl (feed flavor) s

/-- Ends the text: all its tokens, or why it has none. -/
def finish (s : Lexer) : Except SourceError (List Token) :=
  match s.mode.finish s.here with
  | .ok last => .ok (s.done.reverse ++ last)
  | .error e => .error e

/-- The tokens of a text, or why it has none. -/
def tokens (flavor : Flavor) (text : List Char) : Except SourceError (List Token) :=
  (feedAll flavor {} text).finish

end Lexer

end SdkAudit
