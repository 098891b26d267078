import SdkAudit.Text.Character
import SdkAudit.Text.Letter

/-!
# The notation of patterns

Whether a text is a pattern at all is told by reading it from the left.  A pattern is made of
characters, escapes and bracketed classes, of groups, and of signs that repeat what is before them;
bars part its alternatives.  A group can have a name, and flags can be set for the rest of a group;
one of them lets blanks and comments stand anywhere.

* `Notation.readClass`: the rest after a bracketed class;
* `Notation.step`: what one more element of a pattern leads to;
* `Pattern.isWellFormed`: whether a text is a pattern;
* `Pattern.refusal?`: why it is none.
-/

namespace SdkAudit

namespace Notation

/-! ### Escapes -/

def hexValue? (c : Char) : Option Nat :=
  if c.isDigit then some (c.toNat - '0'.toNat)
  else if 'a' ≤ c ∧ c ≤ 'f' then some (c.toNat - 'a'.toNat + 10)
  else if 'A' ≤ c ∧ c ≤ 'F' then some (c.toNat - 'A'.toNat + 10)
  else none

/-- The character with a code in hexadecimal. -/
def coded? (digits : List Char) : Option Char := do
  let values ← digits.mapM hexValue?
  let code := values.foldl (fun n d => n * 16 + d) 0
  if values.isEmpty ∨ ¬code.isValidChar then none else some (Char.ofNat code)

/-- The characters up to a closing brace, and what follows it. -/
def braced? (text : List Char) : Option (List Char × List Char) :=
  match text.span (· ≠ '\x7d') with
  | (inside, _ :: rest) => some (inside, rest)
  | (_, []) => none

/-- What an escape stands for. -/
inductive Escaped where
  | char (c : Char)
  /-- A class of characters. -/
  | kind
  /-- A place in a text. -/
  | place
deriving DecidableEq, Repr

/-- The character that is escaped by a code of so many digits, or of any number in braces. -/
def readCode (count : Nat) : List Char → Option (Escaped × List Char)
  | '\x7b' :: rest => do
    let (digits, rest) ← braced? rest
    return (.char (← coded? digits), rest)
  | text =>
    if text.length < count then none
    else (coded? (text.take count)).map fun c => (.char c, text.drop count)

/-- The words in braces that can follow the sign of a word boundary. -/
def boundaries : List String := ["start", "end", "start-half", "end-half"]

/-- What follows a backslash stands for, and the rest. -/
def readEscape : List Char → Option (Escaped × List Char)
  | [] => none
  | 'x' :: rest => readCode 2 rest
  | 'u' :: rest => readCode 4 rest
  | 'U' :: rest => readCode 8 rest
  | 'a' :: rest => some (.char '\x07', rest)
  | 'f' :: rest => some (.char '\x0c', rest)
  | 't' :: rest => some (.char '\t', rest)
  | 'n' :: rest => some (.char '\n', rest)
  | 'r' :: rest => some (.char '\r', rest)
  | 'v' :: rest => some (.char '\x0b', rest)
  | 'b' :: '\x7b' :: rest =>
    match braced? rest with
    | some (inside, more) =>
      if boundaries.contains (String.ofList inside) then some (.place, more)
      else if inside.all fun c => c.isAlpha || c = '-' then none
      else some (.place, '\x7b' :: rest)
    | none => some (.place, '\x7b' :: rest)
  | c :: rest =>
    if "pP".toList.contains c then
      match rest with
      | '\x7b' :: inside => do
        let (name, more) ← braced? inside
        if name.isEmpty then none else return (.kind, more)
      | letter :: more => if letter.isAlpha then some (.kind, more) else none
      | [] => none
    else if "dDsSwW".toList.contains c then some (.kind, rest)
    else if "AzbB<>".toList.contains c then some (.place, rest)
    else if c.isAlphanum || c.toNat ≥ 0x80 then none
    else some (.char c, rest)

/-! ### Blanks -/

def afterLine (text : List Char) : List Char := (text.dropWhile (· ≠ '\n')).tail

/-- A text without the blanks and comments at its start, where they may stand; `fuel` bounds the
number of comments. -/
def skipBlanks (verbose : Bool) : Nat → List Char → List Char
  | 0, text => text
  | fuel + 1, text =>
    if !verbose then text
    else
      match Text.trimStart text with
      | '#' :: rest => skipBlanks verbose fuel (afterLine rest)
      | rest => rest

/-- A text without the blanks and comments at its start, where they may stand. -/
def trimmed (verbose : Bool) (text : List Char) : List Char :=
  skipBlanks verbose (text.length + 1) text

/-! ### Classes -/

def asciiClasses : List String :=
  ["alnum", "alpha", "ascii", "blank", "cntrl", "digit", "graph", "lower", "print", "punct",
    "space", "upper", "word", "xdigit"]

/-- The rest after a class of ASCII characters that stands in colons, if one does. -/
def afterAsciiClass? (text : List Char) : Option (List Char) :=
  let (name, rest) := (if text.head? = some '^' then text.tail else text).span Char.isAlpha
  match rest with
  | ':' :: ']' :: rest => if asciiClasses.contains (String.ofList name) then some rest else none
  | _ => none

/-- An element of a class: its character, if it is one, and the rest. -/
def readElement : List Char → Option (Option Char × List Char)
  | [] => none
  | '\\' :: rest =>
    match readEscape rest with
    | some (.char c, rest) => some (some c, rest)
    | some (.kind, rest) => some (none, rest)
    | some (.place, _) => none
    | none => none
  | c :: rest => some (some c, rest)

/-- The rest after an element of a class, or after a range of characters. -/
def readRange (verbose : Bool) (text : List Char) : Option (List Char) := do
  let (first, rest) ← readElement text
  match trimmed verbose rest with
  | '-' :: more =>
    match trimmed verbose more with
    | ']' :: _ => return trimmed verbose rest
    | '-' :: _ => return trimmed verbose rest
    | more =>
      let (last, more) ← readElement more
      match first, last with
      | some first, some last => if first ≤ last then return more else none
      | _, _ => none
  | rest => return rest

/-- The rest after what can stand only at the start of a class: a sign that negates it, hyphens, and
a closing bracket that closes nothing. -/
def afterOpening (verbose : Bool) (text : List Char) : List Char :=
  let text := trimmed verbose text
  let text := if text.head? = some '^' then trimmed verbose text.tail else text
  let rest := text.dropWhile (· = '-')
  if rest.length = text.length ∧ rest.head? = some ']' then rest.tail else rest

/-- The rest after some open classes; `fuel` bounds the number of elements. -/
def readClasses (verbose : Bool) : Nat → Nat → List Char → Option (List Char)
  | _, 0, text => some text
  | 0, _, _ => none
  | fuel + 1, depth + 1, text =>
    match trimmed verbose text with
    | [] => none
    | ']' :: rest => readClasses verbose fuel depth rest
    | '[' :: ':' :: rest =>
      match afterAsciiClass? rest with
      | some rest => readClasses verbose fuel (depth + 1) rest
      | none => readClasses verbose fuel (depth + 2) (afterOpening verbose (':' :: rest))
    | '[' :: rest => readClasses verbose fuel (depth + 2) (afterOpening verbose rest)
    | '&' :: '&' :: rest => readClasses verbose fuel (depth + 1) rest
    | '-' :: '-' :: rest => readClasses verbose fuel (depth + 1) rest
    | '~' :: '~' :: rest => readClasses verbose fuel (depth + 1) rest
    | text => (readRange verbose text).bind (readClasses verbose fuel (depth + 1))

/-- The rest after a class whose opening bracket has been read. -/
def readClass (verbose : Bool) (text : List Char) : Option (List Char) :=
  readClasses verbose (2 * text.length + 2) 1 (afterOpening verbose text)

/-! ### Repetitions -/

/-- A number of at most 32 bits, with the blanks around it, and the rest. -/
def readNumber (text : List Char) : Option (Nat × List Char) :=
  let (digits, rest) := (Text.trimStart text).span Char.isDigit
  let value := digits.foldl (fun n d => n * 10 + (d.toNat - '0'.toNat)) 0
  if digits.isEmpty ∨ Nat.pow 2 32 ≤ value then none else some (value, Text.trimStart rest)

/-- The rest after the number of times that something is taken, in braces. -/
def readTimes (text : List Char) : Option (List Char) := do
  let (least, rest) ← readNumber text
  match rest with
  | '\x7d' :: rest => return rest
  | ',' :: rest =>
    match Text.trimStart rest with
    | '\x7d' :: rest => return rest
    | rest =>
      let (most, rest) ← readNumber rest
      match rest with
      | '\x7d' :: rest => if least ≤ most then return rest else none
      | _ => none
  | _ => none

/-- The rest after a sign that asks for as few repetitions as possible, if there is one. -/
def afterLazy : List Char → List Char
  | '?' :: rest => rest
  | rest => rest

/-! ### Groups -/

/-- How far a pattern has been read. -/
structure State where
  /-- Whether there is something that can be repeated. -/
  repeatable : Bool := false
  /-- Whether blanks and comments may stand anywhere. -/
  verbose : Bool := false
  /-- The same for the groups that are open, from the inside. -/
  outer : List Bool := []
  /-- The names of groups. -/
  names : List (List Char) := []
deriving DecidableEq, Repr

/-- Whether flags are told once each and at most one sign turns those after it off. -/
def areFlags (flags : List Char) : Bool :=
  flags.all ("imsUuRx-".toList.contains ·) && decide flags.Nodup && flags.getLast? ≠ some '-'

/-- Whether flags let blanks stand anywhere, if they did or did not before. -/
def verboseAfter (flags : List Char) (verbose : Bool) : Bool :=
  let (on, off) := flags.span (· ≠ '-')
  if on.contains 'x' then true else if off.contains 'x' then false else verbose

def isGroupName : List Char → Bool
  | [] => false
  | first :: rest =>
    (first = '_' || Text.isLetter first) &&
      rest.all fun c => c = '_' || c = '.' || c = '[' || c = ']' || Text.isLetterOrDigit c

/-- What a group whose name comes next leads to. -/
def openNamed (s : State) (text : List Char) : Option (State × List Char) :=
  match text.span (· ≠ '>') with
  | (name, _ :: rest) =>
    if isGroupName name ∧ !s.names.contains name then
      some ({ s with repeatable := false, outer := s.verbose :: s.outer
                     names := name :: s.names }, rest)
    else none
  | (_, []) => none

/-- What a group or a change of flags leads to, after its opening bracket. -/
def openGroup (s : State) (text : List Char) : Option (State × List Char) :=
  match text with
  | '?' :: 'P' :: '<' :: rest => openNamed s rest
  | '?' :: '<' :: rest => openNamed s rest
  | '?' :: rest =>
    let (flags, rest) := rest.span fun c => c ≠ ')' && c ≠ ':'
    if !areFlags flags then none
    else
      let verbose := verboseAfter flags s.verbose
      match rest with
      | ':' :: rest =>
        some ({ s with repeatable := false, verbose, outer := s.verbose :: s.outer }, rest)
      | ')' :: rest =>
        if flags.isEmpty then none else some ({ s with repeatable := false, verbose }, rest)
      | _ => none
  | rest => some ({ s with repeatable := false, outer := s.verbose :: s.outer }, rest)

/-- What the next element of a pattern leads to. -/
def step (s : State) : List Char → Option (State × List Char)
  | [] => none
  | '(' :: rest => openGroup s (trimmed s.verbose rest)
  | ')' :: rest =>
    match s.outer with
    | verbose :: outer => some ({ s with repeatable := true, verbose, outer }, rest)
    | [] => none
  | '|' :: rest => some ({ s with repeatable := false }, rest)
  | '[' :: rest => (readClass s.verbose rest).map ({ s with repeatable := true }, ·)
  | '\\' :: rest => (readEscape rest).map fun (_, rest) => ({ s with repeatable := true }, rest)
  | '\x7b' :: rest =>
    if s.repeatable then (readTimes rest).map fun rest => (s, afterLazy rest) else none
  | c :: rest =>
    if c = '*' || c = '+' || c = '?' then if s.repeatable then some (s, afterLazy rest) else none
    else some ({ s with repeatable := true }, rest)

/-- Whether the rest of a text completes a pattern; `fuel` bounds the number of elements. -/
def completes : Nat → State → List Char → Bool
  | 0, _, _ => false
  | fuel + 1, s, text =>
    match trimmed s.verbose text with
    | [] => s.outer.isEmpty
    | text =>
      match step s text with
      | some (s, rest) => completes fuel s rest
      | none => false

end Notation

/-- Whether a text is a pattern. -/
def Pattern.isWellFormed (text : String) : Bool :=
  Notation.completes (text.length + 1) {} text.toList

/-- Why a text is refused as a pattern, if it is none. -/
def Pattern.refusal? (text : String) : Option String :=
  if isWellFormed text then none else some "not a pattern"

end SdkAudit
