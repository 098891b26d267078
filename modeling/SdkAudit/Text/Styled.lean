import SdkAudit.Text.Search

/-!
# Styled text

Text for a terminal, which shows it in a style between an escape sequence that sets the style and
one that resets it.  Where the text itself holds a reset, the style is set again after it.
-/

namespace SdkAudit.Text

/-- A style for a terminal. -/
inductive Style where
  | bold
  | dimmed
  | underlined
  | red
  | green
  | yellow
  | blue
  | boldBlue
  | boldCyan
deriving DecidableEq, Repr

/-- The codes that set a style, the weight before the colour. -/
def Style.codes : Style → String
  | .bold => "1"
  | .dimmed => "2"
  | .underlined => "4"
  | .red => "31"
  | .green => "32"
  | .yellow => "33"
  | .blue => "34"
  | .boldBlue => "1;34"
  | .boldCyan => "1;36"

/-- What an environment variable says: no if it is zero, and yes if it is set to anything else. -/
def says? (environment : String → Option String) (name : String) : Option Bool :=
  (environment name).map (· ≠ "0")

/-- Whether styles are wanted: that can be forced or forbidden, and depends on whether a terminal
shows the text otherwise. -/
def stylesWanted (environment : String → Option String) (isTerminal : Bool) : Bool :=
  if says? environment "CLICOLOR_FORCE" = some true then true
  else if (environment "NO_COLOR").isSome then false
  else (says? environment "CLICOLOR").getD true && isTerminal

/-- The environment variables that say whether styles are wanted. -/
def styleVariables : List String := ["CLICOLOR_FORCE", "NO_COLOR", "CLICOLOR"]

def resetSequence : String := "\x1b[0m"

def Style.sequence (style : Style) : String := "\x1b[" ++ style.codes ++ "m"

/-- A text with `mark` after each occurrence of `needle`. -/
def markAfter (needle mark : List Char) : List Char → List Char
  | [] => []
  | c :: rest =>
    if needle.isPrefixOf (c :: rest) then
      -- the rest of the occurrence is copied up to its last character, where the mark goes
      c :: copy (needle.length - 1) rest
    else c :: markAfter needle mark rest
where
  /-- Copies what is left of an occurrence, and marks its end. -/
  copy : Nat → List Char → List Char
    | 0, rest => mark ++ markAfter needle mark rest
    | n + 1, c :: rest => c :: copy n rest
    | _ + 1, [] => mark

/-- A text in a style, if styles are wanted. -/
def styled (wanted : Bool) (style : Style) (s : String) : String :=
  if wanted then
    style.sequence ++
      String.ofList (markAfter resetSequence.toList style.sequence.toList s.toList) ++
      resetSequence
  else s

/-- A text filled up with spaces to a width. -/
def padded (width : Nat) (s : String) : String :=
  s ++ String.ofList (List.replicate (width - s.length) ' ')

/-- A text in a style, if styles are wanted, filled up with spaces to a width. -/
def styledTo (width : Nat) (wanted : Bool) (style : Style) (s : String) : String :=
  if wanted then
    style.sequence ++
      padded width
        (String.ofList (markAfter resetSequence.toList style.sequence.toList s.toList)) ++
      resetSequence
  else padded width s

end SdkAudit.Text
