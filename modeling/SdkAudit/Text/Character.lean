/-!
# Characters

A property of characters is given as a list of ranges of code points, ends included.

White space is what has the Unicode property `White_Space`; texts are trimmed of it at both ends.

Words of the tool (identifiers of technologies, severities, extensions, headings) are ASCII and are
recognised in any case.  For that, only the characters whose lower case contains an ASCII letter
matter: the ASCII capitals, the Kelvin sign, which is a `k`, and the dotted capital I, which is an
`i` followed by a combining dot.  No other character lowers to one, so all others stay as they are.
-/

namespace SdkAudit.Text

/-! ### Ranges of code points -/

/-- Ranges of code points, ends included. -/
abbrev CodeRanges := List (Nat × Nat)

def CodeRanges.covers (ranges : CodeRanges) (code : Nat) : Bool :=
  ranges.any fun range => range.1 ≤ code && code ≤ range.2

theorem CodeRanges.covers_iff {ranges : CodeRanges} {code : Nat} :
    ranges.covers code = true ↔ ∃ range ∈ ranges, range.1 ≤ code ∧ code ≤ range.2 := by
  simp [CodeRanges.covers]

/-! ### White space -/

def blankRanges : CodeRanges := [
  (0x9, 0xD), (0x20, 0x20), (0x85, 0x85), (0xA0, 0xA0), (0x1680, 0x1680), (0x2000, 0x200A),
  (0x2028, 0x2029), (0x202F, 0x202F), (0x205F, 0x205F), (0x3000, 0x3000)]

def isBlank (c : Char) : Bool := blankRanges.covers c.toNat

def trimStart (s : List Char) : List Char := s.dropWhile isBlank

def trimEnd (s : List Char) : List Char := (s.reverse.dropWhile isBlank).reverse

def trim (s : List Char) : List Char := trimEnd (trimStart s)

/-- Whether a text is empty or white space only. -/
def isBlankText (s : List Char) : Bool := s.all isBlank

/-! ### Lower case, as far as ASCII can see it -/

/-- The lower case of a character, if it contains an ASCII letter, and the character otherwise. -/
def lowerChar (c : Char) : List Char :=
  if c = '\u212A' then ['k'] else if c = '\u0130' then ['i', '\u0307'] else [c.toLower]

/-- A text in lower case, as far as a comparison with ASCII words can tell. -/
def lower (s : List Char) : List Char := s.flatMap lowerChar

def lowerString (s : String) : String := String.ofList (lower s.toList)

end SdkAudit.Text
