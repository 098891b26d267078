import SdkAudit.Grammar.Rule

/-!
# Definitions of grammars

A grammar is written down as a list of named rules, the first of which is for whole texts.  Beside
the rules it says what may stand between lexemes, which lexemes are read by other means than their
shape, and how named ranks are ordered.

* `Entry.node`, `Entry.group`, `Entry.sort`: how rules are entered;
* `replaceRules`: the rules of a grammar that is like another, except for some rules.
-/

namespace SdkAudit.Grammar

/-- What becomes of the text of a rule or lexeme in the tree. -/
inductive Presence where
  /-- It is a node. -/
  | node
  /-- It is there as text. -/
  | text
  /-- Its parts are there, but not it. -/
  | group
  /-- Like a group; but what is of the sort is never taken for the sort itself. -/
  | sort
  /-- Like a group; it is no rule of the grammar but made for a repetition or a lexeme. -/
  | helper
deriving DecidableEq, Repr

/-- A named rule. -/
structure Entry where
  name : String
  presence : Presence
  phrase : Phrase
deriving DecidableEq, Repr

/-- A rule whose texts are nodes of the tree. -/
def Entry.node (name : String) (phrase : Phrase) : Entry := ⟨name, .node, phrase⟩

/-- A rule that is only a name for several others. -/
def Entry.group (name : String) (phrase : Phrase) : Entry := ⟨name, .group, phrase⟩

/-- A rule that is a name for nodes of a sort. -/
def Entry.sort (name : String) (phrase : Phrase) : Entry := ⟨name, .sort, phrase⟩

/-- What a ranking orders: a named rank, or whatever a rule says. -/
inductive Rated where
  | rank (name : String)
  | rule (name : String)
deriving DecidableEq, Repr

/-- A grammar as it is written down. -/
structure Definition where
  /-- The rules; the first is for whole texts. -/
  rules : List Entry
  /-- The characters that may stand before lexemes. -/
  blank : CharClass
  /-- Lexemes that may stand between any others. -/
  extras : List Phrase := []
  /-- Lexemes that are read by other means than their shape. -/
  externals : List (Phrase × Presence) := []
  /-- Rankings, each from what binds tightest. -/
  rankings : List (List Rated) := []
  /-- Rules that are replaced by what they stand for. -/
  inlined : List String := []
  /-- The lexeme that words of the grammar would be if they were none. -/
  word : Option String := none

/-- Some rules, where those of the same name are replaced and the others are added at the end. -/
def replaceRules (rules changes : List Entry) : List Entry :=
  rules.map (fun entry => (changes.find? (·.name = entry.name)).getD entry) ++
    changes.filter fun change => rules.all (·.name ≠ change.name)

end SdkAudit.Grammar
