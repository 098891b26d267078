import SdkAudit.Yaml.Scalar
import SdkAudit.Yaml.Token

/-!
# Names, tags and directives

A node may have a name, by which aliases refer to it, and a tag, which says of what kind it is.  The
tag is written in full between angle brackets, or after a handle; directives in front of a document
say what further handles stand for.

* `readName`: the name of an anchor or an alias;
* `readTag`: a tag;
* `readDirective`: a directive.
-/

namespace SdkAudit.Yaml

def failAt {α : Type} (input : Input) : Except Malformed α :=
  .error ⟨input.position .origin⟩

/-- Reads the name of an anchor or an alias, after its indicator. -/
def readName (input : Input) : Except Malformed (String × Input) :=
  let (name, rest) := input.splitWhile isWord
  if name.isEmpty then failAt rest
  else if rest.gapNext ∨ rest.next ("?:,]\x7d%@\x60".toList.contains ·) then .ok (name.text, rest)
  else failAt rest

/-! ### Tags -/

/-- A character of a tag; one between angle brackets may also hold commas and square brackets. -/
def isTagChar (verbatim : Bool) (c : Char) : Bool :=
  isWord c || ";/?:@&=+$.!~*'()%".toList.contains c || verbatim && ",[]".toList.contains c

/-- The bytes of a tag, in which a percent sign and two digits stand for a byte. -/
def tagBytes : Input → Except Malformed (List UInt8)
  | [] => .ok []
  | p :: rest =>
    if p.char = '%' then
      match rest with
      | high :: low :: rest =>
        match hexValue? high.char, hexValue? low.char with
        | some high, some low => return UInt8.ofNat (high * 16 + low) :: (← tagBytes rest)
        | _, _ => .error ⟨p.position⟩
      | _ => .error ⟨p.position⟩
    else return (String.singleton p.char).toUTF8.toList ++ (← tagBytes rest)

/-- Reads the characters of a tag.  There has to be one unless `mayBeEmpty`. -/
def readTagText (verbatim mayBeEmpty : Bool) (input : Input) :
    Except Malformed (String × Input) := do
  let (chars, rest) := input.splitWhile (isTagChar verbatim)
  if chars.isEmpty ∧ !mayBeEmpty then failAt rest
  else
    match String.fromUTF8? ⟨(← tagBytes chars).toArray⟩ with
    | some text => return (text, rest)
    | none => failAt input

/-- Reads a handle as far as it goes: an exclamation mark, and perhaps a name and another one. -/
def readHandle (input : Input) : Except Malformed (String × Input) :=
  match input with
  | [] => failAt input
  | p :: rest =>
    if p.char = '!' then
      let (name, rest) := Input.splitWhile isWord rest
      match rest with
      | q :: after =>
        if q.char = '!' then .ok ("!" ++ name.text ++ "!", after) else .ok ("!" ++ name.text, rest)
      | [] => .ok ("!" ++ name.text, [])
    else failAt input

/-- Whether a handle has an exclamation mark at either end. -/
def isFullHandle (handle : String) : Bool := handle.length > 1 && handle.endsWith "!"

/-- Reads a tag from its exclamation mark on. -/
def readTag (flow : Bool) (input : Input) : Except Malformed (Token × Input) := do
  let (tag, rest) ←
    if Input.next (· = '<') input.tail then
      let (text, rest) ← readTagText true false (input.drop 2)
      if Input.next (· = '>') rest then pure (Token.tag "" text, rest.tail) else failAt rest
    else do
      let (handle, rest) ← readHandle input
      if isFullHandle handle then
        let (text, rest) ← readTagText false false rest
        pure (Token.tag handle text, rest)
      else
        let (text, rest) ← readTagText false true rest
        let name := String.ofList (handle.toList.tail) ++ text
        pure (if name = "" then Token.tag "" "!" else Token.tag "!" name, rest)
  if Input.gapNext rest ∨ flow ∧ Input.next (· = ',') rest then return (tag, rest) else failAt rest

/-! ### Directives -/

/-- Reads a number of at most nine digits. -/
def readNumber (input : Input) : Except Malformed (Nat × Input) :=
  let (digits, rest) := input.splitWhile Char.isDigit
  if digits.isEmpty ∨ 9 < digits.length then failAt rest
  else .ok (digits.foldl (fun n p => n * 10 + (p.char.toNat - '0'.toNat)) 0, rest)

def readVersion (input : Input) : Except Malformed (Token × Input) := do
  let (major, rest) ← readNumber (input.skipWhile isBlank)
  if Input.next (· = '.') rest then
    let (minor, rest) ← readNumber rest.tail
    return (.version major minor, rest)
  else failAt rest

/-- Reads the handle of a directive and what it stands for. -/
def readHandleMeaning (input : Input) : Except Malformed (Token × Input) := do
  let (handle, rest) ← readHandle (input.skipWhile isBlank)
  if (handle = "!" ∨ isFullHandle handle) ∧ Input.next isBlank rest then
    let (meaning, rest) ← readTagText true false (rest.skipWhile isBlank)
    if Input.gapNext rest then return (.handle handle meaning, rest) else failAt rest
  else failAt rest

/-- Reads a directive after its percent sign, up to the end of its line. -/
def readDirective (input : Input) : Except Malformed (Token × Input) := do
  let (name, rest) := input.splitWhile isWord
  if !rest.gapNext then failAt rest
  else
    let (token, rest) ←
      if name.text = "YAML" then readVersion rest
      else if name.text = "TAG" then readHandleMeaning rest
      else failAt rest
    let rest := rest.skipWhile isBlank
    let rest := if Input.next (· = '#') rest then rest.skipWhile (!isBreak ·) else rest
    if rest.lineEndNext then return (token, rest.tail) else failAt rest

end SdkAudit.Yaml
