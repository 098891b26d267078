import SdkAudit.Text.Character
import SdkAudit.Text.Letter

/-!
# Patterns

A pattern is looked for anywhere in a text.  It is one or more alternatives, each a sequence of
steps: a word boundary, an end of the text, or a class of characters taken once, optionally, or
repeatedly.  Patterns are written in the usual way: a backslash makes a sign literal, `\s`, `\w` and
`\d` stand for white space, word characters and decimal digits, `\b` for a word boundary, `.` for
any character but a line feed, `[...]` for a class, and `*`, `+` and `?` repeat the class before
them.

* `Pattern.read?`: the pattern that a text writes;
* `Pattern.foundIn`: whether the pattern occurs in a text.
-/

namespace SdkAudit

/-- A class of characters. -/
inductive CharClass where
  /-- One character. -/
  | only (c : Char)
  /-- Every character but a line feed. -/
  | anyInLine
  | blank
  | wordChar
  | digit
  /-- The characters from one to another. -/
  | span (first last : Char)
  | union (classes : List CharClass)
  | outside (excluded : CharClass)
deriving Repr

def CharClass.has : CharClass → Char → Bool
  | .only d, c => c == d
  | .anyInLine, c => c != '\n'
  | .blank, c => Text.isBlank c
  | .wordChar, c => Text.isWordChar c
  | .digit, c => if c.toNat < 0x80 then c.isDigit else Text.decimalRanges.covers c.toNat
  | .span first last, c => first.toNat ≤ c.toNat && c.toNat ≤ last.toNat
  | .union classes, c => hasAny classes c
  | .outside excluded, c => !excluded.has c
where
  /-- Whether a character belongs to one of the classes. -/
  hasAny : List CharClass → Char → Bool
    | [], _ => false
    | cls :: rest, c => cls.has c || hasAny rest c

/-- How often a class is taken. -/
inductive Count where
  | once
  | optional
  | anyNumber
  | atLeastOnce
deriving DecidableEq, Repr

/-- One step of a pattern. -/
inductive PatternStep where
  /-- Between a word character and another character or an end of the text. -/
  | boundary (present : Bool)
  /-- The start of the text. -/
  | textStart
  /-- The end of the text. -/
  | textEnd
  /-- Characters of a class. -/
  | take (cls : CharClass) (count : Count)
deriving Repr

/-- A pattern: alternatives, each a sequence of steps. -/
structure Pattern where
  alternatives : List (List PatternStep)
deriving Repr

namespace Pattern

/-! ### Searching -/

/-- Whether a character, or an end of the text, is a word character. -/
def isWord : Option Char → Bool
  | some c => Text.isWordChar c
  | none => false

/-- Whether `step` can be taken repeatedly from here and `continuation` holds where it stops. -/
def afterRepeat (cls : CharClass) (continuation : Option Char → List Char → Bool)
    (before : Option Char) : List Char → Bool
  | [] => continuation before []
  | c :: rest =>
    continuation before (c :: rest) ||
      (cls.has c && afterRepeat cls continuation (some c) rest)

/-- Whether the steps can be taken from here.  `before` is the character before the text. -/
def matchesHere : List PatternStep → Option Char → List Char → Bool
  | [], _, _ => true
  | .boundary present :: steps, before, text =>
    ((isWord before != isWord text.head?) == present) && matchesHere steps before text
  | .textStart :: steps, before, text => before.isNone && matchesHere steps before text
  | .textEnd :: steps, before, text => text.isEmpty && matchesHere steps before text
  | .take cls count :: steps, before, text =>
    match count, text with
    | .once, [] => false
    | .once, c :: rest => cls.has c && matchesHere steps (some c) rest
    | .optional, [] => matchesHere steps before []
    | .optional, c :: rest =>
      (cls.has c && matchesHere steps (some c) rest) || matchesHere steps before (c :: rest)
    | .anyNumber, text => afterRepeat cls (matchesHere steps) before text
    | .atLeastOnce, [] => false
    | .atLeastOnce, c :: rest => cls.has c && afterRepeat cls (matchesHere steps) (some c) rest

/-- Whether the pattern occurs at the start of the text or later. -/
def foundFrom (p : Pattern) (before : Option Char) : List Char → Bool
  | [] => p.alternatives.any (matchesHere · before [])
  | c :: rest =>
    p.alternatives.any (matchesHere · before (c :: rest)) || foundFrom p (some c) rest

/-- Whether the pattern occurs anywhere in the text. -/
def foundIn (p : Pattern) (text : List Char) : Bool := foundFrom p none text

/-! ### Reading -/

/-- The class of an escaped letter or sign outside brackets, if it stands for one. -/
def escaped? (c : Char) : Option CharClass :=
  match c with
  | 's' => some .blank
  | 'S' => some (.outside .blank)
  | 'w' => some .wordChar
  | 'W' => some (.outside .wordChar)
  | 'd' => some .digit
  | 'D' => some (.outside .digit)
  | 'n' => some (.only '\n')
  | 't' => some (.only '\t')
  | 'r' => some (.only '\r')
  | c => if c.isAlphanum || c.toNat ≥ 0x80 then none else some (.only c)

/-- The members of a bracketed class up to its closing bracket, and what follows it. -/
def readMembers (first : Bool) : List Char → Option (List CharClass × List Char)
  | [] => none
  | ']' :: rest =>
    if first then (readMembers false rest).map fun (members, more) => (.only ']' :: members, more)
    else some ([], rest)
  | '\\' :: c :: rest => do
    let cls ← escaped? c
    let (members, more) ← readMembers false rest
    return (cls :: members, more)
  | low :: '-' :: high :: rest =>
    if high = ']' then
      some ([.only low, .only '-'], rest)
    else if low.toNat ≤ high.toNat then
      (readMembers false rest).map fun (members, more) => (.span low high :: members, more)
    else none
  | c :: rest =>
    (readMembers false rest).map fun (members, more) => (.only c :: members, more)

/-- The repetition that stands at the start of the text, and what follows it. -/
def readCount : List Char → Count × List Char
  | '*' :: rest => (.anyNumber, rest)
  | '+' :: rest => (.atLeastOnce, rest)
  | '?' :: rest => (.optional, rest)
  | rest => (.once, rest)

/-- The first step that a text writes, or `none` in the place of a step for a bar between
alternatives, and what follows it. -/
def readStep? : List Char → Option (Option PatternStep × List Char)
  | '\\' :: 'b' :: rest => some (some (.boundary true), rest)
  | '\\' :: 'B' :: rest => some (some (.boundary false), rest)
  | '^' :: rest => some (some .textStart, rest)
  | '$' :: rest => some (some .textEnd, rest)
  | '|' :: rest => some (none, rest)
  | '\\' :: c :: rest => (escaped? c).map fun cls => taking cls rest
  | '[' :: '^' :: rest =>
    (readMembers true rest).map fun (members, more) => taking (.outside (.union members)) more
  | '[' :: rest => (readMembers true rest).map fun (members, more) => taking (.union members) more
  | '.' :: rest => some (taking .anyInLine rest)
  | c :: rest =>
    if ['*', '+', '?', '(', ')', '\x7b', '\\'].contains c then none
    else some (taking (.only c) rest)
  | [] => none
where
  /-- The step that takes a class as often as the text says. -/
  taking (cls : CharClass) (rest : List Char) : Option PatternStep × List Char :=
    let (count, more) := readCount rest
    (some (.take cls count), more)

/-- The alternatives that a text writes; `fuel` bounds the number of steps. -/
def readAlternatives : Nat → List Char → Option (List (List PatternStep))
  | _, [] => some [[]]
  | 0, _ :: _ => none
  | fuel + 1, text => do
    let (step?, rest) ← readStep? text
    let more ← readAlternatives fuel rest
    match step?, more with
    | some step, steps :: others => return (step :: steps) :: others
    | some step, [] => return [[step]]
    | none, others => return [] :: others

/-- The pattern that a text writes, if it writes one. -/
def read? (text : String) : Option Pattern :=
  (readAlternatives text.length text.toList).map Pattern.mk

end Pattern

end SdkAudit
