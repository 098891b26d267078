/-!
# Path patterns

A pattern is read character by character into pieces, and the pieces make a `Glob`, which says which
paths match: a star stands for any bytes, a question mark for one byte, square brackets for one byte
out of a class, and braces for a choice.  Two stars that fill a whole component of a path stand for
any number of components.  Matching is by the bytes of a path, and it is the whole path that has to
match.

* `Glob.covers`: whether a path matches;
* `Glob.read`: the glob that a pattern stands for;
* `GlobError`: what is wrong with a pattern, and `GlobError.message`.
-/

namespace SdkAudit

/-- A set of byte sequences. -/
inductive Glob where
  /-- The empty sequence. -/
  | done
  /-- One byte out of the ranges, or out of none of them. -/
  | byte (outside : Bool) (ranges : List (UInt8 × UInt8))
  /-- Any bytes. -/
  | anything
  /-- One sequence after another. -/
  | next (first second : Glob)
  /-- One sequence or another. -/
  | either (first second : Glob)
deriving Repr

namespace Glob

/-! ### Matching -/

/-- Whether the rest of a sequence is accepted after some bytes of it. -/
def acceptedLater (accepted : List UInt8 → Bool) : List UInt8 → Bool
  | [] => accepted []
  | b :: rest => accepted (b :: rest) || acceptedLater accepted rest

/-- Whether a sequence starts with one of the glob and its rest is accepted. -/
def startsIn (accepted : List UInt8 → Bool) : Glob → List UInt8 → Bool
  | done, bytes => accepted bytes
  | byte outside ranges, bytes =>
    match bytes with
    | [] => false
    | b :: rest => (ranges.any fun (low, high) => low ≤ b && b ≤ high) != outside && accepted rest
  | anything, bytes => acceptedLater accepted bytes
  | next first second, bytes => startsIn (fun rest => startsIn accepted second rest) first bytes
  | either first second, bytes => startsIn accepted first bytes || startsIn accepted second bytes

def covers (glob : Glob) (path : String) : Bool :=
  glob.startsIn List.isEmpty path.toUTF8.toList

/-! ### Building -/

def oneByte (b : UInt8) : Glob := byte false [(b, b)]

def bytesOf (c : Char) : List UInt8 := (String.singleton c).toUTF8.toList

def inOrder (globs : List Glob) : Glob := globs.foldr next done

def slash : Glob := oneByte 0x2F

/-- A part of a pattern. -/
inductive Piece where
  | literal (c : Char)
  /-- A question mark. -/
  | oneOfAny
  /-- A star. -/
  | star
  /-- Two stars that fill the first component. -/
  | leadingTree
  /-- Two stars that fill the last component. -/
  | trailingTree
  /-- Two stars that fill a component between others. -/
  | innerTree
  /-- A class of characters, each a range. -/
  | oneOf (outside : Bool) (ranges : List (Char × Char))
  /-- A choice, unless none of its branches holds anything. -/
  | choice (branches : Option Glob)
deriving Repr

/-- The byte ranges that a range of characters stands for.  All bytes of its two ends are in the
class, and so are the bytes between the last one of the first end and the first one of the second.
-/
def classRanges (range : Char × Char) : List (UInt8 × UInt8) :=
  let low := bytesOf range.1
  let high := bytesOf range.2
  if range.1 = range.2 then low.map fun b => (b, b)
  else (low.dropLast.map fun b => (b, b)) ++ [(low.getLastD 0, high.headD 0)] ++
    high.tail.map fun b => (b, b)

/-- What a piece stands for, unless it stands for nothing at all. -/
def Piece.glob? : Piece → Option Glob
  | literal c => some (inOrder ((bytesOf c).map oneByte))
  | oneOfAny => some (byte true [])
  | star => some anything
  | leadingTree => some (either (either done slash) (next anything slash))
  | trailingTree => some (next slash anything)
  | innerTree => some (either slash (next slash (next anything slash)))
  | oneOf outside ranges => some (byte outside (ranges.flatMap classRanges))
  | choice branches => branches

/-- What some pieces stand for one after another, unless that is nothing at all. -/
def ofPieces? (pieces : List Piece) : Option Glob :=
  match pieces.filterMap Piece.glob? with
  | [] => none
  | globs => some (inOrder globs)

/-- What a choice of branches stands for; branches that hold nothing are left out. -/
def ofBranches? (branches : List (List Piece)) : Option Glob :=
  match branches.filterMap ofPieces? with
  | [] => none
  | glob :: globs => some (globs.foldl either glob)

/-- What a whole pattern stands for. -/
def ofPieces (pieces : List Piece) : Glob :=
  match pieces with
  | [.leadingTree] => anything
  | _ => (ofPieces? pieces).getD done

end Glob

/-! ### Reading -/

/-- What is wrong with a pattern. -/
inductive GlobError where
  | unclosedClass
  | invalidRange (low high : Char)
  | unclosedChoice
  | unopenedChoice
  | danglingEscape
deriving DecidableEq, Repr

def GlobError.message : GlobError → String
  | unclosedClass => "unclosed character class; missing ']'"
  | invalidRange low high =>
    "invalid range; '" ++ low.toString ++ "' > '" ++ high.toString ++ "'"
  | unclosedChoice =>
    "unclosed alternate group; missing '\x7d' (maybe escape '\x7b' with '[\x7b]'?)"
  | unopenedChoice =>
    "unopened alternate group; missing '\x7b' (maybe escape '\x7d' with '[\x7d]'?)"
  | danglingEscape => "dangling '\\'"

namespace Glob

/-- What the characters read last leave open. -/
inductive Pending where
  | nothing
  /-- A backslash. -/
  | escape
  /-- A star, and the character before it. -/
  | star (before : Option Char)
  /-- Two stars, and the character before them. -/
  | stars (before : Option Char)
  /-- A square bracket. -/
  | bracket
  /-- A class with its ranges so far, latest first; `isOpen` says that the latest lacks its end. -/
  | oneOf (outside : Bool) (ranges : List (Char × Char)) (isOpen : Bool)
deriving Repr

/-- A choice that is being read: its finished branches and the one at hand, all latest first. -/
structure Branches where
  finished : List (List Piece) := []
  pieces : List Piece := []
deriving Repr

/-- What has been read of a pattern. -/
structure Reading where
  /-- The innermost open choice, or the whole pattern. -/
  inner : Branches := {}
  /-- What is around it, from the inside out. -/
  outer : List Branches := []
  pending : Pending := .nothing
  /-- The character read last. -/
  last : Option Char := none
deriving Repr

namespace Reading

/-- Adds a piece, which leaves nothing open. -/
def push (r : Reading) (piece : Piece) : Reading :=
  { r with inner := { r.inner with pieces := piece :: r.inner.pieces }, pending := .nothing }

/-- Adds two stars as pieces of their own. -/
def pushStars (r : Reading) : Reading := (r.push .star).push .star

/-- Puts a piece in the place of the slash before it.  Two components of two stars are like one. -/
def pushTree (r : Reading) (piece : Piece) : Reading :=
  match r.inner.pieces with
  | .leadingTree :: _ => { r with pending := .nothing }
  | .trailingTree :: _ => { r with pending := .nothing }
  | _ :: pieces =>
    { r with inner := { r.inner with pieces := piece :: pieces }, pending := .nothing }
  | [] => r.push piece

def openChoice (r : Reading) : Reading := { r with inner := {}, outer := r.inner :: r.outer }

/-- Starts the next branch of the innermost choice. -/
def nextBranch (r : Reading) : Reading :=
  { r with inner := { finished := r.inner.pieces.reverse :: r.inner.finished } }

def closeChoice (r : Reading) : Except GlobError Reading :=
  match r.outer with
  | [] => .error .unopenedChoice
  | around :: outer =>
    let branches := (r.inner.pieces.reverse :: r.inner.finished).reverse
    .ok ({ r with inner := around, outer }.push (.choice (ofBranches? branches)))

/-- Reads a character that nothing before it has a claim on. -/
def readPlain (r : Reading) (c : Char) : Except GlobError Reading :=
  let r := { r with pending := .nothing, last := some c }
  match c with
  | '?' => .ok (r.push .oneOfAny)
  | '[' => .ok { r with pending := .bracket }
  | '\x7b' => .ok r.openChoice
  | '\x7d' => r.closeChoice
  | ',' => .ok (if r.outer.isEmpty then r.push (.literal ',') else r.nextBranch)
  | '\\' => .ok { r with pending := .escape }
  | c => .ok (r.push (.literal c))

/-- Reads a character, and keeps in mind a star. -/
def readFree (r : Reading) (c : Char) : Except GlobError Reading :=
  if c = '*' then .ok { r with pending := .star r.last, last := some c } else r.readPlain c

/-- Settles two stars by the character after them, if there is one; the answer says whether that
character belongs to them. -/
def settleStars (r : Reading) (before next : Option Char) : Reading × Bool :=
  let inChoice := !r.outer.isEmpty
  if r.inner.pieces.isEmpty then
    match next with
    | none => (r.push .leadingTree, true)
    | some '/' => (r.push .leadingTree, true)
    | _ => (r.pushStars, false)
  else if before = some '/' ∨ inChoice ∧ (before = some ',' ∨ before = some '\x7b') then
    match next with
    | none => (r.pushTree .trailingTree, true)
    | some '/' => (r.pushTree .innerTree, true)
    | some c =>
      if inChoice ∧ (c = ',' ∨ c = '\x7d') then (r.pushTree .trailingTree, false)
      else (r.pushStars, false)
  else (r.pushStars, false)

/-- Reads a character of a class whose first one has been read or is now. -/
def readClass (r : Reading) (c : Char) (outside : Bool) (ranges : List (Char × Char))
    (isOpen : Bool) : Except GlobError Reading :=
  let r := { r with last := some c }
  match ranges with
  | [] => .ok { r with pending := .oneOf outside [(c, c)] false }
  | (low, high) :: others =>
    if c = ']' then
      .ok (r.push (.oneOf outside (if isOpen then ('-', '-') :: ranges else ranges)))
    else if isOpen then
      if c < low then .error (.invalidRange low c)
      else .ok { r with pending := .oneOf outside ((low, c) :: others) false }
    else if c = '-' then .ok { r with pending := .oneOf outside ((low, high) :: others) true }
    else .ok { r with pending := .oneOf outside ((c, c) :: ranges) false }

def read (r : Reading) (c : Char) : Except GlobError Reading :=
  match r.pending with
  | .nothing => r.readFree c
  | .escape => .ok ({ r with last := some c }.push (.literal c))
  | .star before =>
    if c = '*' then .ok { r with pending := .stars before, last := some c }
    else (r.push .star).readFree c
  | .stars before =>
    let (settled, taken) := r.settleStars before (some c)
    if taken then .ok { settled with last := some c } else settled.readFree c
  | .bracket =>
    if c = '!' ∨ c = '^' then .ok { r with pending := .oneOf true [] false, last := some c }
    else r.readClass c false [] false
  | .oneOf outside ranges isOpen => r.readClass c outside ranges isOpen

def finish (r : Reading) : Except GlobError (List Piece) := do
  let r ← match r.pending with
    | .nothing => pure r
    | .escape => .error .danglingEscape
    | .star _ => pure (r.push .star)
    | .stars before => pure (r.settleStars before none).1
    | .bracket => .error .unclosedClass
    | .oneOf .. => .error .unclosedClass
  if r.outer.isEmpty then pure r.inner.pieces.reverse else .error .unclosedChoice

end Reading

/-- The glob that a pattern stands for. -/
def read (pattern : String) : Except GlobError Glob := do
  let reading ← pattern.toList.foldlM Reading.read {}
  return ofPieces (← reading.finish)

end Glob

end SdkAudit
