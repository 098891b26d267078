import SdkAudit.Json.Number
import SdkAudit.Text.Quoted
import SdkAudit.Yaml.Scalar

/-!
# Reading JSON texts

A text is read from the left straight into the values that are wanted.  What is not wanted is passed
over, and whichever comes first, a break of the rules of JSON or a value of the wrong kind, is the
error.  Lines count from one, columns count the bytes of a line, and a character that is only looked
at counts as well.

* `JsonCursor`: what is still to be read, and where it is;
* `JsonReader`: what reads a value;
* `readRecord`, `readList`, `readOptional`, `readText`: readers;
* `JsonReader.readAll`: reads a whole text.
-/

namespace SdkAudit

/-- Why a text could not be read, and where. -/
structure JsonError where
  reason : String
  line : Nat
  column : Nat
deriving DecidableEq, Repr

def JsonError.message (e : JsonError) : String :=
  e.reason ++ " at line " ++ toString e.line ++ " column " ++ toString e.column

/-- What is still to be read of a text, and where it is. -/
structure JsonCursor where
  rest : List Char
  line : Nat := 1
  column : Nat := 0
deriving DecidableEq, Repr

/-- What reads a value. -/
abbrev JsonReader (α : Type) := JsonCursor → Except JsonError (α × JsonCursor)

namespace JsonCursor

/-- The cursor after a character, with what follows it. -/
def after (cursor : JsonCursor) (c : Char) (rest : List Char) : JsonCursor :=
  if c = '\n' then ⟨rest, cursor.line + 1, 0⟩ else ⟨rest, cursor.line, cursor.column + c.utf8Size⟩

def skip (cursor : JsonCursor) : JsonCursor :=
  match cursor.rest with
  | [] => cursor
  | c :: rest => cursor.after c rest

def skipWhileFrom (test : Char → Bool) (cursor : JsonCursor) : List Char → JsonCursor
  | [] => { cursor with rest := [] }
  | c :: rest =>
    if test c then skipWhileFrom test (cursor.after c rest) rest
    else { cursor with rest := c :: rest }

def skipBlanks (cursor : JsonCursor) : JsonCursor :=
  cursor.skipWhileFrom (fun c => c = ' ' || c = '\n' || c = '\t' || c = '\r') cursor.rest

def skipDigits (cursor : JsonCursor) : JsonCursor := cursor.skipWhileFrom Char.isDigit cursor.rest

def next? (cursor : JsonCursor) : Option Char := cursor.rest.head?

/-- Fails after what has been read. -/
def fail {α : Type} (cursor : JsonCursor) (reason : String) : Except JsonError α :=
  .error ⟨reason, cursor.line, cursor.column⟩

/-- Fails at the next character, or at the end.  The character counts for one byte, and a line that
it ends is behind. -/
def failNext {α : Type} (cursor : JsonCursor) (reason : String) : Except JsonError α :=
  match cursor.rest with
  | [] => .error ⟨reason, cursor.line, cursor.column⟩
  | c :: _ =>
    if c = '\n' then .error ⟨reason, cursor.line + 1, 0⟩
    else .error ⟨reason, cursor.line, cursor.column + 1⟩

end JsonCursor

namespace JsonReader

/-! ### Words and numbers -/

def readLetters (cursor : JsonCursor) : List Char → Except JsonError JsonCursor
  | [] => .ok cursor
  | letter :: letters =>
    match cursor.next? with
    | none => cursor.fail "EOF while parsing a value"
    | some c =>
      if c = letter then readLetters cursor.skip letters else cursor.failNext "expected ident"

/-- What is wrong with a number that the text ends in: a number that is not wanted is no number. -/
def numberEnd (wanted : Bool) : String :=
  if wanted then "EOF while parsing a value" else "invalid number"

/-- Skips digits, of which there is one at least. -/
def skipSomeDigits (wanted : Bool) (cursor : JsonCursor) : Except JsonError JsonCursor :=
  match cursor.next? with
  | none => cursor.fail (numberEnd wanted)
  | some c => if c.isDigit then .ok cursor.skipDigits else cursor.failNext "invalid number"

/-- Skips an exponent from its letter on. -/
def skipExponent (wanted : Bool) (cursor : JsonCursor) : Except JsonError JsonCursor :=
  let cursor := cursor.skip
  skipSomeDigits wanted
    (if cursor.next? = some '+' ∨ cursor.next? = some '-' then cursor.skip else cursor)

/-- Skips the places of a number from its point on. -/
def skipPlaces (wanted : Bool) (cursor : JsonCursor) : Except JsonError JsonCursor := do
  let cursor ← skipSomeDigits wanted cursor.skip
  if cursor.next? = some 'e' ∨ cursor.next? = some 'E' then skipExponent wanted cursor
  else return cursor

/-- Skips a number without its sign.  No digit follows a zero in front. -/
def skipMagnitude (wanted : Bool) (cursor : JsonCursor) : Except JsonError JsonCursor := do
  let whole ← skipSomeDigits wanted cursor
  if cursor.next? = some '0' ∧ cursor.skip.next?.any Char.isDigit then
    cursor.skip.failNext "invalid number"
  else
    match whole.next? with
    | some '.' => skipPlaces wanted whole
    | some 'e' | some 'E' => skipExponent wanted whole
    | _ => return whole

def skipNumber (wanted : Bool) (cursor : JsonCursor) : Except JsonError JsonCursor :=
  skipMagnitude wanted (if cursor.next? = some '-' then cursor.skip else cursor)

def readNumber : JsonReader JsonNumber := fun cursor => do
  let stop ← skipNumber true cursor
  let digits := cursor.rest.take (cursor.rest.length - stop.rest.length)
  match (NumberText.ofText digits).value? with
  | some number => return (number, stop)
  | none => stop.fail "number out of range"

/-! ### Texts -/

/-- The number that four hexadecimal digits make. -/
def fourDigits? (a b c d : Char) : Option Nat := do
  let a ← Yaml.hexValue? a
  let b ← Yaml.hexValue? b
  let c ← Yaml.hexValue? c
  let d ← Yaml.hexValue? d
  return ((a * 16 + b) * 16 + c) * 16 + d

/-- Reads four hexadecimal digits.  What is no digit counts for one byte. -/
def readDigits : JsonReader Nat := fun cursor =>
  let size := (String.ofList cursor.rest).utf8ByteSize
  if size < 4 then
    (⟨[], cursor.line, cursor.column + size⟩ : JsonCursor).fail "EOF while parsing a string"
  else
    let column := cursor.column + 4
    match cursor.rest with
    | a :: b :: c :: d :: rest =>
      match fourDigits? a b c d with
      | some n => .ok (n, { cursor with rest, column })
      | none => { cursor with column }.fail "invalid escape"
    | _ => { cursor with column }.fail "invalid escape"

/-- The character that a letter after a backslash stands for. -/
def escapedChar? : Char → Option Char
  | '"' => some '"'
  | '\\' => some '\\'
  | '/' => some '/'
  | 'b' => some '\x08'
  | 'f' => some '\x0c'
  | 'n' => some '\n'
  | 'r' => some '\r'
  | 't' => some '\t'
  | _ => none

/-- Reads what follows a high surrogate: the escape of a low one. -/
def readLow (high : Nat) : JsonReader Char := fun cursor =>
  match cursor.next? with
  | none => cursor.fail "EOF while parsing a string"
  | some '\\' =>
    match cursor.skip.next? with
    | none => cursor.skip.fail "EOF while parsing a string"
    | some 'u' => do
      let (low, cursor) ← readDigits cursor.skip.skip
      if 0xDC00 ≤ low ∧ low ≤ 0xDFFF then
        return (Char.ofNat (0x10000 + (high - 0xD800) * 0x400 + (low - 0xDC00)), cursor)
      else cursor.fail "lone leading surrogate in hex escape"
    | some _ => cursor.skip.failNext "unexpected end of hex escape"
  | some _ => cursor.failNext "unexpected end of hex escape"

/-- Reads an escape after its backslash.  If the text is not wanted, surrogates need not be paired.
-/
def readEscape (wanted : Bool) : JsonReader Char := fun cursor =>
  match cursor.rest with
  | [] => cursor.fail "EOF while parsing a string"
  | 'u' :: _ => do
    let (n, cursor) ← readDigits cursor.skip
    if !wanted then return (' ', cursor)
    else if 0xDC00 ≤ n ∧ n ≤ 0xDFFF then cursor.fail "lone leading surrogate in hex escape"
    else if 0xD800 ≤ n ∧ n ≤ 0xDBFF then readLow n cursor
    else return (Char.ofNat n, cursor)
  | c :: _ =>
    match escapedChar? c with
    | some value => .ok (value, cursor.skip)
    | none => cursor.failNext "invalid escape"

/-- Reads a text after its opening quote, of which `text` has been read, latest first. -/
def readTextFrom (wanted : Bool) : Nat → List Char → JsonReader String
  | 0, _, cursor => cursor.fail "EOF while parsing a string"
  | fuel + 1, text, cursor =>
    match cursor.rest with
    | [] => cursor.fail "EOF while parsing a string"
    | c :: _ =>
      if c = '"' then .ok (String.ofList text.reverse, cursor.skip)
      else if c = '\\' then do
        let (value, cursor) ← readEscape wanted cursor.skip
        readTextFrom wanted fuel (value :: text) cursor
      else if c.toNat < 0x20 then
        (if wanted then cursor.skip else cursor).fail
          "control character (\\u0000-\\u001F) found while parsing a string"
      else readTextFrom wanted fuel (c :: text) cursor.skip

/-- Reads a text from its opening quote on. -/
def readQuoted (wanted : Bool) : JsonReader String := fun cursor =>
  readTextFrom wanted (cursor.rest.length + 1) [] cursor.skip

/-! ### Values that are not wanted -/

def readColon (cursor : JsonCursor) : Except JsonError JsonCursor :=
  let cursor := cursor.skipBlanks
  match cursor.next? with
  | some ':' => .ok cursor.skip
  | some _ => cursor.failNext "expected \x60:\x60"
  | none => cursor.failNext "EOF while parsing an object"

mutual

def skipValue : Nat → JsonCursor → Except JsonError JsonCursor
  | 0, cursor => cursor.fail "EOF while parsing a value"
  | fuel + 1, cursor =>
    let cursor := cursor.skipBlanks
    match cursor.next? with
    | none => cursor.failNext "EOF while parsing a value"
    | some 'n' => readLetters cursor.skip "ull".toList
    | some 't' => readLetters cursor.skip "rue".toList
    | some 'f' => readLetters cursor.skip "alse".toList
    | some '"' => do return (← readQuoted false cursor).2
    | some '[' => skipItems fuel true cursor.skip
    | some '\x7b' => skipMembers fuel true cursor.skip
    | some c =>
      if c = '-' ∨ c.isDigit then skipNumber false cursor else cursor.failNext "expected value"

def skipItems : Nat → Bool → JsonCursor → Except JsonError JsonCursor
  | 0, _, cursor => cursor.fail "EOF while parsing a list"
  | fuel + 1, first, cursor =>
    let cursor := cursor.skipBlanks
    match cursor.next? with
    | none => cursor.failNext "EOF while parsing a list"
    | some c =>
      if c = ']' then .ok cursor.skip
      else if first then do skipItems fuel false (← skipValue fuel cursor)
      else if c = ',' then do skipItems fuel false (← skipValue fuel cursor.skip)
      else cursor.failNext "expected \x60,\x60 or \x60]\x60"

def skipMembers : Nat → Bool → JsonCursor → Except JsonError JsonCursor
  | 0, _, cursor => cursor.fail "EOF while parsing an object"
  | fuel + 1, first, cursor =>
    let cursor := cursor.skipBlanks
    match cursor.next? with
    | none => cursor.failNext "EOF while parsing an object"
    | some c =>
      if c = '\x7d' then .ok cursor.skip
      else if first ∨ c = ',' then
        let cursor := if first then cursor else cursor.skip.skipBlanks
        match cursor.next? with
        | none => cursor.failNext "EOF while parsing an object"
        | some '"' => do
          let (_, cursor) ← readQuoted false cursor
          skipMembers fuel false (← skipValue fuel (← readColon cursor))
        | some _ => cursor.failNext "key must be a string"
      else cursor.failNext "expected \x60,\x60 or \x60\x7d\x60"

end

/-- Skips a value, whatever it is. -/
def skipAny (cursor : JsonCursor) : Except JsonError JsonCursor :=
  skipValue (2 * cursor.rest.length + 2) cursor

/-! ### Values that are wanted -/

/-- The error that the next value makes where something else is expected. -/
def unexpected {α : Type} (expected : String) (cursor : JsonCursor) : Except JsonError α :=
  let wrong {β : Type} (words : String) (cursor : JsonCursor) : Except JsonError β :=
    cursor.fail ("invalid type: " ++ words ++ ", expected " ++ expected)
  match cursor.next? with
  | some 'n' => do wrong "null" (← readLetters cursor.skip "ull".toList)
  | some 't' => do wrong "boolean \x60true\x60" (← readLetters cursor.skip "rue".toList)
  | some 'f' => do wrong "boolean \x60false\x60" (← readLetters cursor.skip "alse".toList)
  | some '"' => do
    let (text, cursor) ← readQuoted true cursor
    wrong ("string " ++ Text.quoted text) cursor
  | some '[' => wrong "sequence" cursor
  | some '\x7b' => wrong "map" cursor
  | some c =>
    if c = '-' ∨ c.isDigit then do
      let (number, cursor) ← readNumber cursor
      wrong number.words cursor
    else cursor.failNext "expected value"
  | none => cursor.failNext "expected value"

def readText : JsonReader String := fun cursor =>
  let cursor := cursor.skipBlanks
  match cursor.next? with
  | none => cursor.failNext "EOF while parsing a value"
  | some '"' => readQuoted true cursor
  | some _ => unexpected "a string" cursor

/-- Reads a value unless it is null. -/
def readOptional {α : Type} (read : JsonReader α) : JsonReader (Option α) := fun cursor =>
  let cursor := cursor.skipBlanks
  if cursor.next? = some 'n' then do return (none, ← readLetters cursor.skip "ull".toList)
  else do
    let (value, cursor) ← read cursor
    return (some value, cursor)

def readListEnd (cursor : JsonCursor) : Except JsonError JsonCursor :=
  let cursor := cursor.skipBlanks
  match cursor.next? with
  | some ']' => .ok cursor.skip
  | some ',' =>
    let cursor := cursor.skip.skipBlanks
    cursor.failNext (if cursor.next? = some ']' then "trailing comma" else "trailing characters")
  | some _ => cursor.failNext "trailing characters"
  | none => cursor.failNext "EOF while parsing a list"

def readItemsFrom {α : Type} (read : JsonReader α) : Nat → Bool → JsonReader (List α)
  | 0, _, cursor => cursor.fail "EOF while parsing a list"
  | fuel + 1, first, cursor =>
    let cursor := cursor.skipBlanks
    let readItem (cursor : JsonCursor) : Except JsonError (List α × JsonCursor) := do
      let (item, cursor) ← read cursor
      let (items, cursor) ← readItemsFrom read fuel false cursor
      return (item :: items, cursor)
    match cursor.next? with
    | none => cursor.failNext "EOF while parsing a list"
    | some c =>
      if c = ']' then .ok ([], cursor.skip)
      else if first then readItem cursor
      else if c = ',' then
        let cursor := cursor.skip.skipBlanks
        match cursor.next? with
        | none => cursor.failNext "EOF while parsing a value"
        | some ']' => cursor.failNext "trailing comma"
        | some _ => readItem cursor
      else cursor.failNext "expected \x60,\x60 or \x60]\x60"

def readList {α : Type} (read : JsonReader α) : JsonReader (List α) := fun cursor =>
  let cursor := cursor.skipBlanks
  match cursor.next? with
  | none => cursor.failNext "EOF while parsing a value"
  | some '[' => readItemsFrom read (cursor.rest.length + 1) true cursor.skip
  | some _ => unexpected "a sequence" cursor

/-- Fails for want of something in a list or object, after its end if that comes next. -/
def failInside {α : Type} (close : Char) (reason : String) (cursor : JsonCursor) :
    Except JsonError α :=
  let cursor := cursor.skipBlanks
  (if cursor.next? = some close then cursor.skip else cursor).fail reason

/-- A record of one field, which takes a default unless it is required. -/
structure RecordShape (α : Type) where
  /-- The name of the record. -/
  name : String
  /-- The name of its field. -/
  field : String
  default : Option α
  read : JsonReader α

/-- Reads the members of a record up to its end. -/
def readMembersFrom {α : Type} (shape : RecordShape α) : Nat → Option α → Bool → JsonReader α
  | 0, _, _, cursor => cursor.fail "EOF while parsing an object"
  | fuel + 1, value, first, cursor =>
    let cursor := cursor.skipBlanks
    let readMember (cursor : JsonCursor) : Except JsonError (α × JsonCursor) := do
      let (key, cursor) ← readQuoted true cursor
      if key = shape.field then
        if value.isSome then
          failInside '\x7d' ("duplicate field \x60" ++ key ++ "\x60") cursor
        else
          let (value, cursor) ← shape.read (← readColon cursor)
          readMembersFrom shape fuel (some value) false cursor
      else readMembersFrom shape fuel value false (← skipAny (← readColon cursor))
    match cursor.next? with
    | none => cursor.failNext "EOF while parsing an object"
    | some c =>
      if c = '\x7d' then
        match value <|> shape.default with
        | some value => .ok (value, cursor.skip)
        | none => cursor.skip.fail ("missing field \x60" ++ shape.field ++ "\x60")
      else if first then
        if c = '"' then readMember cursor else cursor.failNext "key must be a string"
      else if c = ',' then
        let cursor := cursor.skip.skipBlanks
        match cursor.next? with
        | none => cursor.failNext "EOF while parsing a value"
        | some '"' => readMember cursor
        | some '\x7d' => cursor.failNext "trailing comma"
        | some _ => cursor.failNext "key must be a string"
      else cursor.failNext "expected \x60,\x60 or \x60\x7d\x60"

/-- Reads a record: an object, or a list with the value of its field. -/
def readRecord {α : Type} (shape : RecordShape α) : JsonReader α := fun cursor =>
  let cursor := cursor.skipBlanks
  match cursor.next? with
  | none => cursor.failNext "EOF while parsing a value"
  | some '\x7b' => readMembersFrom shape (cursor.rest.length + 1) none true cursor.skip
  | some '[' =>
    let cursor := cursor.skip.skipBlanks
    match cursor.next? with
    | none => cursor.failNext "EOF while parsing a list"
    | some ']' =>
      match shape.default with
      | some value => .ok (value, cursor.skip)
      | none => cursor.skip.fail
          ("invalid length 0, expected struct " ++ shape.name ++ " with 1 element")
    | some _ => do
      let (value, cursor) ← shape.read cursor
      return (value, ← readListEnd cursor)
  | some _ => unexpected ("struct " ++ shape.name) cursor

def readAll {α : Type} (read : JsonReader α) (text : String) : Except JsonError α := do
  let (value, cursor) ← read { rest := text.toList }
  let cursor := cursor.skipBlanks
  if cursor.rest.isEmpty then return value else cursor.failNext "trailing characters"

end JsonReader

end SdkAudit
