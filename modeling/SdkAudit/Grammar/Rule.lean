import SdkAudit.Grammar.Shape

/-!
# Rules of grammars

A rule says what a part of a text may consist of.  Its leaves are lexemes and the names of other
rules.  A part of a rule can carry marks, which say how tightly it binds and what becomes of it in
the tree.

* `seq`, `choice`, `opt`, `many`, `manyOf`, `list`: how rules are put together;
* `rank`, `left`, `right`, `weighted`: how a text is read that can be read in several ways;
* `part`, `called`: which place a part has, and under which name it is a node.
-/

namespace SdkAudit.Grammar

/-- A lexeme of a grammar. -/
structure Token where
  shape : Shape
  /-- The text of the lexeme, if it can be only one. -/
  word : Option String := none
  /-- Whether no layout may stand before it. -/
  immediate : Bool := false
  /-- The preference over other lexemes, where one is stated. -/
  level : Option Int := none
deriving DecidableEq, Repr

namespace Token

def ofWord (word : String) : Token := { shape := .text word.toList, word := some word }

/-- The preference of the lexeme over others that could end at the same place. -/
def preference (t : Token) : Int := t.level.getD 0

/-- Of lexemes with equal preference, words come before others. -/
def tieBreak (t : Token) : Nat := (if t.word.isSome then 2 else 0) + (if t.immediate then 1 else 0)

end Token

/-- How tightly something binds.  Names are ordered by the grammar. -/
inductive Rank where
  | unstated
  | level (n : Int)
  | named (name : String)
deriving DecidableEq, Hashable, Repr

/-- Which of two readings an operator prefers among operators that bind as tightly. -/
inductive Side where
  | left
  | right
deriving DecidableEq, Hashable, Repr

/-- A name under which a part of a rule is in the tree. -/
structure Guise where
  name : String
  /-- Whether it is a node, and not just text. -/
  isNode : Bool
deriving DecidableEq, Hashable, Repr

/-- What is said about a part of a rule. -/
structure Marks where
  rank : Rank := .unstated
  side : Option Side := none
  /-- How much a reading gains from this part, where both readings of a text succeed. -/
  weight : Int := 0
  guise : Option Guise := none
  /-- The place of the part in its rule. -/
  place : Option String := none
deriving DecidableEq, Hashable, Repr

/-- A rule whose leaves are of type `α`. -/
inductive Rule (α : Type) where
  /-- Nothing at all, which also ends every sequence. -/
  | nothing
  | leaf (a : α)
  | next (first rest : Rule α)
  /-- A rule that no text follows, which also ends every choice. -/
  | never
  | either (first rest : Rule α)
  /-- The rule once or more. -/
  | repeated (item : Rule α)
  | marked (marks : Marks) (rule : Rule α)
deriving DecidableEq, Repr

namespace Rule

variable {α : Type}

def alternatives : Rule α → List (Rule α)
  | .never => []
  | .either first rest => first :: rest.alternatives
  | rule => [rule]

/-- The choice between some rules, each of which counts once. -/
def ofAlternatives [DecidableEq α] (rules : List (Rule α)) : Rule α :=
  match (rules.flatMap alternatives).eraseDups with
  | [rule] => rule
  | distinct => distinct.foldr .either .never

/-- A rule with something more said about it. -/
def mark (change : Marks → Marks) : Rule α → Rule α
  | .marked marks rule => .marked (change marks) rule
  | rule => .marked (change {}) rule

/-- The rule with other leaves. -/
def mapM {β : Type} {m : Type → Type} [Monad m] (f : α → m β) : Rule α → m (Rule β)
  | .nothing => pure .nothing
  | .leaf a => .leaf <$> f a
  | .next first rest => do return .next (← first.mapM f) (← rest.mapM f)
  | .never => pure .never
  | .either first rest => do return .either (← first.mapM f) (← rest.mapM f)
  | .repeated item => .repeated <$> item.mapM f
  | .marked marks rule => .marked marks <$> rule.mapM f

end Rule

/-- A leaf of a rule as it is written down. -/
inductive Leaf where
  | token (token : Token)
  | name (name : String)
deriving DecidableEq, Repr

/-- A rule as it is written down. -/
abbrev Phrase := Rule Leaf

instance : Coe String Phrase := ⟨fun word => .leaf (.token (.ofWord word))⟩

/-- The rule of this name. -/
def r (name : String) : Phrase := .leaf (.name name)

def lexeme (shape : Shape) : Phrase := .leaf (.token { shape })

/-- The lexeme, with something more said about it. -/
def ofLexeme (change : Token → Token) : Phrase → Phrase
  | .leaf (.token token) => .leaf (.token (change token))
  | rule => rule

/-- The lexeme, before which no layout may stand. -/
def tight (lexeme : Phrase) : Phrase := ofLexeme ({ · with immediate := true }) lexeme

/-- The lexeme, with this preference over other lexemes. -/
def preferring (level : Int) (lexeme : Phrase) : Phrase :=
  ofLexeme (fun token =>
    { token with shape := .preferred level token.shape, level := some level }) lexeme

def seq (rules : List Phrase) : Phrase := rules.foldr .next .nothing

def choice (rules : List Phrase) : Phrase := .ofAlternatives rules

def opt (rule : Phrase) : Phrase := choice [rule, .nothing]

def manyOf (rule : Phrase) : Phrase := .repeated rule

def many (rule : Phrase) : Phrase := choice [manyOf rule, .nothing]

/-- The rule once or more, with something between any two. -/
def listBy (between rule : Phrase) : Phrase := seq [rule, many (seq [between, rule])]

/-- The rule once or more, with commas between any two. -/
def list (rule : Phrase) : Phrase := listBy "," rule

/-- The rule once or more, with something between any two and perhaps after the last. -/
def openListBy (between rule : Phrase) : Phrase :=
  seq [rule, many (seq [between, rule]), opt between]

/-- Some rules between two words. -/
def enclosed (opening closing : Phrase) (rules : List Phrase) : Phrase :=
  seq (opening :: (rules ++ [closing]))

def parens (rules : List Phrase) : Phrase := enclosed "(" ")" rules

def brackets (rules : List Phrase) : Phrase := enclosed "[" "]" rules

def braces (rules : List Phrase) : Phrase := enclosed "\x7b" "\x7d" rules

def rank (rank : Rank) (rule : Phrase) : Phrase := rule.mark ({ · with rank })

/-- The rule that binds this tightly, where equal operators are read from the left. -/
def left (rank : Rank) (rule : Phrase) : Phrase := rule.mark ({ · with rank, side := some .left })

/-- The rule that binds this tightly, where equal operators are read from the right. -/
def right (rank : Rank) (rule : Phrase) : Phrase := rule.mark ({ · with rank, side := some .right })

/-- The rule, where readings that use it gain this much. -/
def weighted (weight : Int) (rule : Phrase) : Phrase := rule.mark ({ · with weight })

/-- The rule, with its place in the rule around it. -/
def part (place : String) (rule : Phrase) : Phrase := rule.mark ({ · with place := some place })

/-- The rule, as a node of this name. -/
def called (name : String) (rule : Phrase) : Phrase :=
  rule.mark ({ · with guise := some ⟨name, true⟩ })

/-- The rule, as if it were this text. -/
def spelled (name : String) (rule : Phrase) : Phrase :=
  rule.mark ({ · with guise := some ⟨name, false⟩ })

instance {n : Nat} : OfNat Rank n := ⟨.level n⟩

instance : Neg Rank := ⟨fun
  | .level n => .level (-n)
  | rank => rank⟩

instance : Coe String Rank := ⟨.named⟩

end SdkAudit.Grammar
