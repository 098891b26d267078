import SdkAudit.Grammar.Cursor

/-!
# Scanning scripts

Some lexemes of scripts have no shape of their own: the end of a statement that no semicolon marks,
the texts of templates and of markup, and a question mark that is no part of an operator.  What they
are depends on what is around them.

* `Script.Unshaped`: these lexemes;
* `Script.endOfStatement`: whether a statement ends where nothing is written;
* `Script.scanner`: how they are read, in scripts with or without types.
-/

namespace SdkAudit.Script

open Grammar

/-- A lexeme of scripts that has no shape, or may be read without regard to it. -/
inductive Unshaped where
  | semicolon
  | templateText
  | questionMark
  | pageComment
  | logicalOr
  | escape
  | expressionPattern
  | markupText
  /-- The end of a function of which only the signature is there. -/
  | signatureEnd
  /-- Never expected. -/
  | unexpected
deriving DecidableEq, Repr

namespace Unshaped

def plain : List Unshaped :=
  [.semicolon, .templateText, .questionMark, .pageComment, .logicalOr, .escape, .expressionPattern,
    .markupText]

def typed : List Unshaped := plain ++ [.signatureEnd, .unexpected]

/-- The rule that stands for the lexeme. -/
def phrase : Unshaped → Phrase
  | .semicolon => r "implied semicolon"
  | .templateText => r "template text"
  | .questionMark => r "question mark"
  | .pageComment => r "page comment"
  | .logicalOr => "||"
  | .escape => r "escape sequence"
  | .expressionPattern => r "regex pattern"
  | .markupText => r "jsx text"
  | .signatureEnd => r "signature end"
  | .unexpected => r "unexpected"

/-- What becomes of the lexeme in a tree. -/
def presence : Unshaped → Presence
  | .logicalOr => .text
  | .semicolon | .templateText | .questionMark | .signatureEnd | .unexpected => .group
  | .pageComment | .escape | .expressionPattern | .markupText => .node

end Unshaped

def isSpace (c : Char) : Bool := ('\t' ≤ c && c ≤ '\r') || c = ' '

def isLineBreak (c : Char) : Bool := c = '\n' || c = '\u2028' || c = '\u2029'

/-- What layout and comments lead to. -/
inductive Gap where
  /-- A lexeme that starts with a slash. -/
  | slash
  /-- What follows a comment within a line. -/
  | sameLine
  /-- The next lexeme. -/
  | passed
deriving DecidableEq, Repr

/-- How many characters come before the end of a comment that its own mark closes, with the mark. -/
def commentLength : List Char → Option Nat
  | [] => none
  | '*' :: '/' :: _ => some 2
  | _ :: rest => (commentLength rest).map (· + 1)

/-- Skips layout and comments, also whether any comment has been skipped and whether the line has
ended in one.  A closed comment ends it unless `through` says to go on or another slash follows. -/
def skipComments (through : Bool) : Nat → Bool → Bool → Cursor → Gap × Bool × Cursor
  | 0, _, seen, cursor => (.passed, seen, cursor)
  | fuel + 1, broken, seen, cursor =>
    let cursor := cursor.skipWhile isSpace
    if cursor.peek ≠ '/' then (.passed, seen, cursor)
    else
      let cursor := cursor.skip
      if cursor.peek = '/' then
        skipComments through fuel broken true (cursor.skip.skipWhile (!isLineBreak ·))
      else if cursor.peek = '*' then
        let inside := cursor.skip
        match commentLength inside.rest with
        | none => (.passed, seen, inside.skipWhile fun _ => true)
        | some length =>
          let broken := broken || (inside.rest.take length).any isLineBreak
          let cursor := inside.skipMany length
          if cursor.peek ≠ '/' && !through then
            (if broken then .passed else .sameLine, true, cursor)
          else skipComments through fuel broken true cursor
      else (.slash, seen, cursor)

def startsWithOperator (text : List Char) : Bool :=
  let word := text.takeWhile Char.isAlpha
  word = "in".toList || word = "instanceof".toList

/-- Which lexemes are expected. -/
abbrev Expected := Unshaped → Bool

/-- Whether a statement ends before the line that starts at the cursor, and how far it was looked
at. -/
def endsBefore (typed : Bool) (expected : Expected) (cursor : Cursor) : Bool × Cursor :=
  match cursor.peek with
  | '\x60' | ',' | ';' | '*' | '%' | '>' | '<' | '=' | '?' | '^' | '|' | '&' | '/' | ':' =>
    (false, cursor)
  | '.' => if typed then (false, cursor) else (cursor.skip.peek.isDigit, cursor.skip)
  | '{' => (!(typed && expected .signatureEnd), cursor)
  | '(' | '[' => (typed && !expected .logicalOr, cursor)
  | '+' => (cursor.skip.peek = '+', cursor.skip)
  | '-' => (cursor.skip.peek = '-', cursor.skip)
  | '!' => (cursor.skip.peek ≠ '=', cursor.skip)
  | 'i' =>
    if startsWithOperator cursor.rest then (false, cursor.skipWhile Char.isAlpha)
    else (true, cursor)
  | _ => (true, cursor)

def endsLine (typed : Bool) (c : Char) : Bool := if typed then c = '\n' else isLineBreak c

/-- Whether a statement ends at the cursor; also whether comments have been skipped, and how far
it was looked. -/
def endOfStatement (typed : Bool) (expected : Expected) :
    Nat → Bool → Cursor → Bool × Bool × Cursor
  | 0, seen, cursor => (false, seen, cursor)
  | fuel + 1, seen, cursor =>
    if cursor.isAtEnd then (true, seen, cursor)
    else
      let (gap, seen, cursor) :=
        if cursor.peek = '/' then skipComments false (cursor.rest.length + 1) false seen cursor
        else (.sameLine, seen, cursor)
      match gap with
      | .slash => (false, seen, cursor)
      | .passed =>
        if !expected .logicalOr && cursor.peek ≠ ',' && cursor.peek ≠ '=' then (true, seen, cursor)
        else beyond fuel seen cursor
      | .sameLine => beyond fuel seen cursor
where
  /-- What follows comments, if they do not decide. -/
  beyond (fuel : Nat) (seen : Bool) (cursor : Cursor) : Bool × Bool × Cursor :=
    if cursor.peek = '}' then
      if !typed then (true, seen, cursor)
      else
        let cursor := cursor.skip.skipWhile isSpace
        (if cursor.peek = ':' then expected .logicalOr else true, seen, cursor)
    else if endsLine typed cursor.peek then
      let cursor := cursor.skip
      let (gap, seen, cursor) := skipComments true (cursor.rest.length + 1) false seen cursor
      if gap = .slash then (false, seen, cursor)
      else
        let (ends, cursor) := endsBefore typed expected cursor
        (ends, seen, cursor)
    else if !isSpace cursor.peek then (false, seen, cursor)
    else endOfStatement typed expected fuel seen cursor.skip

/-- A question mark that is no part of an operator. -/
def questionMark? (typed : Bool) (cursor : Cursor) : Option Cursor :=
  let cursor := cursor.skipWhile isSpace
  if cursor.peek ≠ '?' then none
  else
    let cursor := cursor.advance
    if cursor.peek = '?' then none
    else
      let marked := cursor.mark
      let startsNumber (cursor : Cursor) : Bool := cursor.advance.peek.isDigit
      if marked.peek = '.' then if startsNumber marked then some marked else none
      else if !typed then some marked
      else
        let ahead := marked.advanceWhile isSpace
        if ahead.peek = ':' || ahead.peek = ')' || ahead.peek = ',' then none
        else if ahead.peek = '.' then if startsNumber ahead then some ahead else none
        else some ahead

/-- A comment as pages have them, which ends with the line. -/
def pageComment? (cursor : Cursor) : Option Cursor :=
  let cursor := cursor.skipWhile fun c => isSpace c || c = '\u2028' || c = '\u2029'
  let opening := if cursor.peek = '<' then "<!--".toList else "-->".toList
  if opening.isPrefixOf cursor.rest then
    some ((cursor.advanceMany opening.length).advanceWhile (!isLineBreak ·)).mark
  else none

/-- How many characters of a template come before anything else in it, if anything does. -/
def templateLength : List Char → Option Nat
  | [] => none
  | '\x60' :: _ => some 0
  | '$' :: '\x7b' :: _ => some 0
  | '\\' :: _ => some 0
  | _ :: rest => (templateLength rest).map (· + 1)

def templateText? (cursor : Cursor) : Option Cursor :=
  match templateLength cursor.rest with
  | some (n + 1) => some (cursor.advanceMany (n + 1)).mark
  | _ => none

def endsMarkup (c : Char) : Bool :=
  c = '<' || c = '>' || c = '\x7b' || c = '\x7d' || c = '&'

/-- Whether text of markup is more than white space between lines. -/
def hasText (text : List Char) : Bool :=
  (text.foldl (fun (state : Bool × Bool) c =>
    if c = '\n' then (state.1, true)
    else
      let isIndent := state.2 && isSpace c
      (state.1 || !isIndent, isIndent)) (false, false)).1

/-- The end of a statement, or a question mark after it. -/
def statementEnd? (typed : Bool) (expected : Expected) (cursor : Cursor) :
    Option (Unshaped × Cursor) :=
  let (ends, seen, cursor) :=
    endOfStatement typed expected (cursor.rest.length + 1) false cursor.mark
  if ends then
    some (if typed && !expected .semicolon then .signatureEnd else .semicolon, cursor)
  else if !seen && expected .questionMark && cursor.peek = '?' then
    (questionMark? typed cursor).map (.questionMark, ·)
  else none

/-- The lexeme without a shape that is read at the cursor. -/
def unshaped? (typed : Bool) (expected : Expected) (cursor : Cursor) : Option (Unshaped × Cursor) :=
  if expected .templateText then
    if expected .semicolon then none else (templateText? cursor).map (.templateText, ·)
  else
    let markup := cursor.rest.takeWhile (!endsMarkup ·)
    let past := if expected .markupText then cursor.advanceMany markup.length else cursor
    if expected .markupText && hasText markup then some (.markupText, past)
    else if expected .semicolon || (typed && expected .signatureEnd) then
      statementEnd? typed expected past
    else if expected .questionMark then (questionMark? typed past).map (.questionMark, ·)
    else if expected .pageComment && !expected .logicalOr && !expected .escape &&
        !expected .expressionPattern then
      (pageComment? past).map (.pageComment, ·)
    else none

/-- How the lexemes without a shape are read, in scripts with or without types. -/
def scanner (typed : Bool) : Scanner where
  read expected memory cursor :=
    let all := if typed then Unshaped.typed else Unshaped.plain
    let isExpected (u : Unshaped) : Bool := all.contains u && expected (all.idxOf u)
    (unshaped? typed isExpected cursor).map fun (u, cursor) => (all.idxOf u, memory, cursor)

end SdkAudit.Script
