import SdkAudit.Grammar.Cursor

/-!
# Operators of Swift

What an operator is depends on the characters around it, and a source may have operators of its own.
The characters are read one by one, while the operators that begin with them are kept in mind; what
stands after an operator can rule it out.

* `Swift.Unshaped`: the lexemes of Swift that have no shape;
* `Swift.Limit`: what may not follow an operator;
* `Swift.operator?`: the operator at a place in a text.
-/

namespace SdkAudit.Swift

open Grammar

/-- A lexeme of Swift that has no shape. -/
inductive Unshaped where
  | blockComment
  | rawText
  | rawContinuation
  | rawEnd
  | impliedSemicolon
  | semicolon
  | arrow
  | dot
  | conjunction
  | disjunction
  | defaulting
  | assign
  | equal
  | plus
  | minus
  | bang
  | throws
  | rethrows
  | default
  | whereWord
  | elseWord
  | catchWord
  | asWord
  | asMaybe
  | asForced
  | async
  | customOperator
  | hash
  | hashIf
  | hashElseif
  | hashElse
  | hashEndif
  /-- Never read; where it is expected, an exclamation mark belongs to the word before it. -/
  | attachedBang
deriving DecidableEq, Repr

/-- What may not stand after an operator. -/
inductive Limit where
  | letters
  | operators
  | operatorsAndDots
  | allButSpace
deriving DecidableEq, Repr

def isSpace (c : Char) : Bool := ('\t' ≤ c && c ≤ '\r') || c = ' '

/-- An ASCII character of operators other than the dot. -/
def isOperatorChar (c : Char) : Bool := "/=-+!*%<>&|^?~".toList.contains c

/-- Whether the character may stand after an operator with this limit. -/
def Limit.admits (limit : Limit) (c : Char) : Bool :=
  match limit with
  | .letters => !c.isAlphanum
  | .operators => !isOperatorChar c
  | .operatorsAndDots => !isOperatorChar c && c ≠ '.'
  | .allButSpace => isSpace c

/-- An operator that is known to the language. -/
structure Known where
  kind : Unshaped
  text : List Char
  limit : Limit

def knownOperators : List Known := [
  ⟨.arrow, "->".toList, .operators⟩,
  ⟨.dot, ".".toList, .operatorsAndDots⟩,
  ⟨.conjunction, "&&".toList, .operators⟩,
  ⟨.disjunction, "||".toList, .operators⟩,
  ⟨.defaulting, "??".toList, .operators⟩,
  ⟨.assign, "=".toList, .operators⟩,
  ⟨.equal, "==".toList, .operators⟩,
  ⟨.plus, "+".toList, .allButSpace⟩,
  ⟨.minus, "-".toList, .allButSpace⟩,
  ⟨.bang, "!".toList, .operators⟩,
  ⟨.throws, "throws".toList, .letters⟩,
  ⟨.rethrows, "rethrows".toList, .letters⟩,
  ⟨.default, "default".toList, .letters⟩,
  ⟨.whereWord, "where".toList, .letters⟩,
  ⟨.elseWord, "else".toList, .letters⟩,
  ⟨.catchWord, "catch".toList, .letters⟩,
  ⟨.asWord, "as".toList, .letters⟩,
  ⟨.asMaybe, "as?".toList, .operators⟩,
  ⟨.asForced, "as!".toList, .operators⟩,
  ⟨.async, "async".toList, .letters⟩]

/-- The operators that no source can define. -/
def reservedOperators : List (List Char) :=
  ["/", "=", "-", "+", "!", "*", "%", "<", ">", "&", "|", "^", "?", "~", ".", "..", "->", "/*",
    "*/", "+=", "-=", "*=", "/=", "%=", ">>", "<<", "++", "--", "===", "...", "..<"].map (·.toList)

/-- The characters outside ASCII that an operator may consist of. -/
def operatorRanges : List (Char × Char) := [
  ('\u00a1', '\u00a7'), ('\u00a9', '\u00a9'), ('\u00ab', '\u00ac'), ('\u00ae', '\u00ae'),
  ('\u00b0', '\u00b1'), ('\u00b6', '\u00b6'), ('\u00bb', '\u00bb'), ('\u00bf', '\u00bf'),
  ('\u00d7', '\u00d7'), ('\u00f7', '\u00f7'), ('\u2016', '\u2017'), ('\u2020', '\u2027'),
  ('\u2030', '\u203e'), ('\u2041', '\u2053'), ('\u2055', '\u205e'), ('\u2190', '\u23ff'),
  ('\u2500', '\u2775'), ('\u2794', '\u2bff'), ('\u2e00', '\u2e7f'), ('\u3001', '\u3003'),
  ('\u3008', '\u3020'), ('\u3030', '\u3030')]

/-- The characters that may only follow others in an operator. -/
def operatorPartRanges : List (Char × Char) := [
  ('\u0300', '\u036f'), ('\u1dc0', '\u1dff'), ('\u20d0', '\u20ff'), ('\ufe00', '\ufe0f'),
  ('\ufe20', '\ufe2f'), (Char.ofNat 0xE0100, Char.ofNat 0xE01EF)]

/-- Whether an operator of a source that starts with `first` may have this character after so many
others. -/
def mayContain (count : Nat) (first c : Char) : Bool :=
  if c = '.' then count = 0 || first = '.'
  else if c = '*' || c = '/' then count ≠ 1 || first ≠ '/'
  else if isOperatorChar c then true
  else if CharClass.within operatorRanges c then true
  else count ≠ 0 && CharClass.within operatorPartRanges c

/-- How far an operator has been read. -/
structure Reading where
  /-- The known operators that it may be, each with what is still missing. -/
  known : List Known
  /-- What is missing of the reserved operators that it may be. -/
  reserved : List (List Char)
  /-- Whether it may be an operator that the source defines. -/
  isCustom : Bool
  count : Nat
  first : Char
  last : Char
  found : Option Unshaped := none

/-- What follows a character in those texts that start with it. -/
def following (c : Char) : List (List Char) → List (List Char) :=
  List.filterMap fun
    | [] => none
    | d :: rest => if c = d then some rest else none

/-- Reads characters as long as they can be part of an operator; with `marks` the cursor is marked
where an operator is complete. -/
def readOperator (marks : Bool) : Nat → Reading → Cursor → Reading × Cursor
  | 0, reading, cursor => (reading, cursor)
  | fuel + 1, reading, cursor =>
    let c := cursor.peek
    let complete := reading.known.filter fun op => op.text.isEmpty && op.limit.admits c
    let cursor := if marks && !complete.isEmpty then cursor.mark else cursor
    let found := ((complete.getLast?).map (·.kind)).or reading.found
    let known := reading.known.filterMap fun op =>
      match op.text with
      | [] => none
      | d :: rest => if c = d then some { op with text := rest } else none
    let isCustom := reading.isCustom && mayContain reading.count reading.first c
    if known.isEmpty && !isCustom then ({ reading with known, isCustom, found }, cursor)
    else
      let cursor := if known.isEmpty && marks && found.isNone then cursor.mark else cursor
      let cursor := cursor.advance
      let reading : Reading := { reading with
        known, isCustom, found
        reserved := following c reading.reserved
        count := reading.count + 1
        last := c }
      if known.isEmpty && !mayContain reading.count reading.first cursor.peek then (reading, cursor)
      else readOperator marks fuel reading cursor

/-- The operator at the cursor, of those that are expected, and how far was looked; a slash may have
been read already. -/
def operator? (expected : Unshaped → Bool) (marks : Bool) (prior : Option Char) (cursor : Cursor) :
    Option Unshaped × Cursor :=
  let known := knownOperators.filter fun op => expected op.kind
  let known :=
    match prior with
    | none => known
    | some c => known.filterMap fun op =>
      match following c [op.text] with
      | [rest] => some { op with text := rest }
      | _ => none
  let reserved :=
    match prior with
    | none => reservedOperators
    | some c => following c reservedOperators
  let first := prior.getD cursor.peek
  let (reading, cursor) := readOperator marks (cursor.rest.length + 2)
    { known, reserved, isCustom := expected .customOperator, count := prior.toList.length, first
      last := first } cursor
  match reading.found with
  | some kind =>
    if kind = .bang && expected .attachedBang then (none, cursor) else (some kind, cursor)
  | none =>
    if reading.isCustom && !reading.reserved.contains [] then
      let ends := reading.last ≠ '<' || isSpace cursor.peek
      (some .customOperator, if ends && marks then cursor.mark else cursor)
    else (none, cursor)

end SdkAudit.Swift
