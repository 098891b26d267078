import SdkAudit.Source.Place

/-!
# The tokens of a YAML document

A token is an indicator, a name or a scalar.  Blocks are set off by their indentation alone, so the
tokens that open and close them stand for no character; neither does the key token in front of a key
that is known by the colon after it.
-/

namespace SdkAudit.Yaml

/-- How a scalar is written. -/
inductive Style where
  | plain
  | quoted
  /-- A block of which every line counts as it stands. -/
  | literal
  /-- A block of which the lines are joined. -/
  | folded
deriving DecidableEq, Repr

/-- A token of a document. -/
inductive Token where
  /-- The version that a directive asks for. -/
  | version (major minor : Nat)
  /-- A handle that a directive introduces for tags, and what it stands for. -/
  | handle (name meaning : String)
  | documentStart
  | documentEnd
  | openBlockList
  | openBlockMap
  | closeBlock
  | openList
  | closeList
  | openMap
  | closeMap
  | dash
  | comma
  | key
  | colon
  | alias (name : String)
  | anchor (name : String)
  /-- A tag: its handle, which a verbatim tag has none of, and the rest. -/
  | tag (handle rest : String)
  | scalar (text : String) (style : Style)
  /-- The end of the text. -/
  | finish
deriving DecidableEq, Repr

/-- A token with the positions of its start and its end. -/
structure PlacedToken where
  token : Token
  start : Position
  stop : Position
deriving DecidableEq, Repr

end SdkAudit.Yaml
