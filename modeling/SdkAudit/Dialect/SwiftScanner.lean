import SdkAudit.Dialect.SwiftOperator

/-!
# Scanning Swift

The ends of statements, comments that can be nested, operators, raw strings and directives have no
shape of their own.  A statement ends at a semicolon or with its line, unless the next line starts
with an operator.

* `Swift.statementEnd`: what layout and comments lead to;
* `Swift.rawString?`: a piece of a raw string, or a directive;
* `Swift.scanner`: how these lexemes are read.
-/

namespace SdkAudit.Swift

open Grammar

namespace Unshaped

def all : List Unshaped :=
  [.blockComment, .rawText, .rawContinuation, .rawEnd, .impliedSemicolon, .semicolon, .arrow, .dot,
    .conjunction, .disjunction, .defaulting, .assign, .equal, .plus, .minus, .bang, .throws,
    .rethrows, .default, .whereWord, .elseWord, .catchWord, .asWord, .asMaybe, .asForced, .async,
    .customOperator, .hash, .hashIf, .hashElseif, .hashElse, .hashEndif, .attachedBang]

/-- Whether the operator may stand on the line after what it belongs to. -/
def continuesLine : Unshaped → Bool
  | .arrow | .dot | .conjunction | .disjunction | .defaulting | .assign | .equal | .plus | .minus
  | .throws | .rethrows | .default | .whereWord | .elseWord | .catchWord | .asWord | .asMaybe
  | .asForced | .async | .customOperator => true
  | _ => false

/-- The name of the rule that stands for the lexeme. -/
def name : Unshaped → String
  | .blockComment => "multiline comment"
  | .rawText => "raw str part"
  | .rawContinuation => "raw str continuing indicator"
  | .rawEnd => "raw str end part"
  | .impliedSemicolon => "implicit semi"
  | .semicolon => "explicit semi"
  | .arrow => "arrow operator custom"
  | .dot => "dot custom"
  | .conjunction => "conjunction operator custom"
  | .disjunction => "disjunction operator custom"
  | .defaulting => "nil coalescing operator custom"
  | .assign => "eq custom"
  | .equal => "eq eq custom"
  | .plus => "plus then ws"
  | .minus => "minus then ws"
  | .bang => "bang custom"
  | .throws => "throws keyword"
  | .rethrows => "rethrows keyword"
  | .default => "default keyword"
  | .whereWord => "where keyword"
  | .elseWord => "else"
  | .catchWord => "catch keyword"
  | .asWord => "as custom"
  | .asMaybe => "as quest custom"
  | .asForced => "as bang custom"
  | .async => "async keyword custom"
  | .customOperator => "source operator"
  | .hash => "hash symbol custom"
  | .hashIf => "directive if"
  | .hashElseif => "directive elseif"
  | .hashElse => "directive else"
  | .hashEndif => "directive endif"
  | .attachedBang => "attached bang"

/-- What becomes of the lexeme in a tree. -/
def presence : Unshaped → Presence
  | .blockComment | .rawText | .rawContinuation | .rawEnd | .default | .whereWord | .elseWord
  | .catchWord => .node
  | _ => .group

end Unshaped

/-- What stands at a slash. -/
inductive Slash where
  /-- There is no slash. -/
  | none
  /-- A slash, and no comment that has its own mark at the end. -/
  | alone
  | comment
  /-- A comment that is not closed. -/
  | unclosed
deriving DecidableEq, Repr

/-- How many characters come before the end of a comment at this depth, with the mark that closes
it; `star` says whether an asterisk comes right before. -/
def commentLength : Nat → Bool → List Char → Option Nat
  | _, _, [] => .none
  | _, _, '\x00' :: _ => .none
  | depth, _, '*' :: rest => (commentLength depth true rest).map (· + 1)
  | depth, true, '/' :: rest =>
    match depth with
    | 0 => some 1
    | depth + 1 => (commentLength depth false rest).map (· + 1)
  | depth, false, '/' :: '*' :: rest => (commentLength (depth + 1) false rest).map (· + 2)
  | depth, _, _ :: rest => (commentLength depth false rest).map (· + 1)

/-- Reads a comment that may have others in it. -/
def readComment (cursor : Cursor) : Slash × Cursor :=
  if cursor.peek ≠ '/' then (.none, cursor)
  else
    let cursor := cursor.advance
    if cursor.peek ≠ '*' then (.alone, cursor)
    else
      let inside := cursor.advance
      match commentLength 0 false inside.rest with
      | some length => (.comment, inside.advanceMany length)
      | none => (.unclosed, inside)

/-- What layout and comments lead to. -/
inductive Gap where
  /-- Nothing that ends a statement. -/
  | within
  /-- A new line, where a statement ends unless the next one goes on. -/
  | line
  /-- The end of a statement, or a comment. -/
  | lexeme (kind : Unshaped)
  /-- No lexeme of these. -/
  | refused
deriving DecidableEq, Repr

/-- Skips the comments between two lines; a closed comment that comes before any other is a lexeme
of its own. -/
def betweenLines (expected : Unshaped → Bool) : Nat → Bool → Cursor → Gap × Cursor
  | 0, _, cursor => (.refused, cursor)
  | fuel + 1, seen, cursor =>
    if cursor.peek ≠ '/' then
      let (found, cursor) := operator? expected false none cursor
      (if found.isSome then .refused else .lexeme .impliedSemicolon, cursor)
    else
      match readComment cursor with
      | (.unclosed, cursor) => (.refused, cursor)
      | (.comment, cursor) =>
        if seen then betweenLines expected fuel seen (cursor.skipWhile isSpace)
        else (.lexeme .blockComment, cursor.mark)
      | (_, cursor) =>
        if cursor.peek = '/' then
          let cursor := cursor.skipWhile fun c => c ≠ '\n' && c ≠ Cursor.endMark
          betweenLines expected fuel true (cursor.skipWhile isSpace)
        else if isSpace cursor.peek then (.refused, cursor)
        else betweenLines expected fuel seen cursor

/-- Whether a lexeme that ends a line is expected, and not only one that can stand there. -/
def endsExpected (expected : Unshaped → Bool) : Bool :=
  expected .impliedSemicolon && expected .semicolon

/-- What layout and comments at the cursor lead to. -/
def statementEnd (expected : Unshaped → Bool) (start : Cursor) : Gap × Cursor :=
  let space := start.rest.takeWhile isSpace
  let cursor := if space.isEmpty then start else (start.skipMany space.length).mark
  let isLine := space.any fun c => c = '\n' || c = '\r'
  if cursor.peek = ';' then
    if endsExpected expected then (.lexeme .semicolon, cursor.advance) else (.within, cursor)
  else if !isLine then (.within, cursor)
  else if cursor.peek = '/' then
    match betweenLines expected (cursor.rest.length + 1) false cursor with
    | (.lexeme .impliedSemicolon, cursor) =>
      (if endsExpected expected then .lexeme .impliedSemicolon else .within, cursor)
    | result => result
  else if cursor.peek = '?' || cursor.peek = ':' || cursor.peek = '\x7b' then (.within, cursor)
  else (if endsExpected expected then .line else .within, cursor)

def directives : List (String × Unshaped) :=
  [("elseif", .hashElseif), ("endif", .hashEndif), ("else", .hashElse), ("if", .hashIf)]

/-- The directive at the cursor, after its number sign. -/
def directive (cursor : Cursor) : Unshaped × Cursor :=
  match directives.find? fun (word, _) => word.toList.isPrefixOf cursor.rest with
  | some (word, kind) => (kind, (cursor.advanceMany word.length).mark)
  | none => (.hash, cursor.mark)

/-- The cursor at the next number sign, marked after the last character that is no backslash or that
a backslash follows; also the character before the sign. -/
def toNumberSign : List Char → Option Char → Cursor → Option Char × Cursor
  | [], last, cursor => (last, cursor)
  | c :: rest, last, cursor =>
    if c = '#' || c = Cursor.endMark then (last, cursor)
    else
      let cursor := cursor.advance
      toNumberSign rest (some c) (if c ≠ '\\' || cursor.peek = '\\' then cursor.mark else cursor)

/-- The rest of a raw string that so many number signs close, up to its end or to what is inserted
in it. -/
def rawText? (signs : Nat) : Nat → Cursor → Option (Unshaped × Nat × Cursor)
  | 0, _ => none
  | fuel + 1, cursor =>
    if cursor.peek = Cursor.endMark then none
    else
      let (last, cursor) := toNumberSign cursor.rest none cursor.mark
      let count := ((cursor.rest.take signs).takeWhile (· = '#')).length
      let cursor := cursor.advanceMany count
      if count = signs && last = some '\\' && cursor.peek = '(' then some (.rawText, signs, cursor)
      else if count = signs && last = some '"' then some (.rawEnd, 0, cursor.mark)
      else rawText? signs fuel cursor

/-- A piece of a raw string, or a directive.  Between the pieces of a string it is kept in mind how
many number signs close it. -/
def rawString? (expected : Unshaped → Bool) (signs : Nat) (cursor : Cursor) :
    Option (Unshaped × Nat × Cursor) :=
  let text? (signs : Nat) (cursor : Cursor) := rawText? signs (cursor.rest.length + 1) cursor
  if !expected .rawText then none
  else if signs ≠ 0 then if expected .rawContinuation then text? signs cursor else none
  else
    let count := (cursor.rest.takeWhile (· = '#')).length
    let inside := cursor.advanceMany count
    if count = 0 then none
    else if inside.peek = '"' then text? count inside.advance
    else if count = 1 then
      let (kind, cursor) := directive inside.mark
      some (kind, signs, cursor)
    else none

/-- The lexeme without a shape that is read at the cursor. -/
def unshaped? (expected : Unshaped → Bool) (signs : Nat) (cursor : Cursor) :
    Option (Unshaped × Nat × Cursor) :=
  match statementEnd expected cursor with
  | (.lexeme kind, cursor) => some (kind, signs, cursor)
  | (.refused, _) => none
  | (gap, cursor) =>
    let isLine := gap = .line
    match readComment cursor with
    | (.unclosed, _) => none
    | (.comment, cursor) => some (.blockComment, signs, cursor.mark)
    | (slash, cursor) =>
      let prior := if slash = .alone then some '/' else none
      match operator? expected (!isLine) prior cursor with
      | (some kind, cursor) =>
        if !isLine then some (kind, signs, cursor)
        else if kind.continuesLine then some (kind, signs, cursor.mark)
        else some (.impliedSemicolon, signs, cursor)
      | (none, cursor) =>
        if isLine then some (.impliedSemicolon, signs, cursor)
        else rawString? expected signs cursor

def scanner : Scanner where
  read expected signs cursor :=
    let isExpected (u : Unshaped) : Bool := expected (Unshaped.all.idxOf u)
    (unshaped? isExpected signs cursor).map fun (u, signs, cursor) =>
      (Unshaped.all.idxOf u, signs, cursor)

end SdkAudit.Swift
