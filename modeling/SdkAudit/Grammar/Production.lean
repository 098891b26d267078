import SdkAudit.Grammar.Rule

/-!
# Productions

A rule without repetitions stands for finitely many productions: the sequences of symbols that it
admits, each step with the marks of the parts around it.

* `Draft.join`: one sequence after another;
* `Rule.drafts`: the sequences that a rule admits;
* `Rule.productions`: the same, each once.
-/

namespace SdkAudit.Grammar

/-- What a leaf stands for once the rules of a grammar are numbered. -/
inductive Ref where
  | token (index : Nat)
  | external (index : Nat)
  | rule (index : Nat)
deriving DecidableEq, Hashable, Repr

/-- A step of a production over symbols of type `α`. -/
structure StepOf (α : Type) where
  symbol : α
  rank : Rank := .unstated
  side : Option Side := none
  guise : Option Guise := none
  place : Option String := none
deriving DecidableEq, Hashable, Repr

/-- A sequence of steps and what a reading gains from it. -/
structure Draft (α : Type) where
  steps : List (StepOf α)
  weight : Int := 0
deriving DecidableEq, Repr

/-- The weight that is farther from zero, or the first of two that are as far. -/
def heavier (a b : Int) : Int := if a.natAbs < b.natAbs then b else a

namespace Draft

variable {α : Type}

def join (a b : Draft α) : Draft α := ⟨a.steps ++ b.steps, heavier a.weight b.weight⟩

def mapLast (f : StepOf α → StepOf α) (d : Draft α) : Draft α :=
  match d.steps.reverse with
  | [] => d
  | last :: before => { d with steps := (f last :: before).reverse }

end Draft

namespace Marks

/-- The marks of a part, where it says nothing itself those of what is around it. -/
def inside (inner around : Marks) : Marks where
  rank := if inner.rank = .unstated then around.rank else inner.rank
  side := inner.side.or around.side
  guise := inner.guise.or around.guise
  place := inner.place.or around.place

def step {α : Type} (marks : Marks) (symbol : α) : StepOf α :=
  { symbol, rank := marks.rank, side := marks.side, guise := marks.guise, place := marks.place }

/-- A step that is the last of a part, but not of the whole: it binds as what is around the part. -/
def release {α : Type} (marks around : Marks) (step : StepOf α) : StepOf α :=
  { step with
    rank := if marks.rank = .unstated then step.rank else around.rank
    side := if marks.side = none then step.side else around.side }

end Marks

namespace Rule

variable {α : Type}

/-- Whether the rule ends a sequence. -/
def isNothing : Rule α → Bool
  | .nothing => true
  | _ => false

/-- The sequences that a rule without repetitions admits, under the marks around it; the last part
of the whole keeps its own marks to the end. -/
def drafts (around : Marks) (isLast : Bool) : Rule α → List (Draft α)
  | .nothing => [⟨[], 0⟩]
  | .leaf a => [⟨[around.step a], 0⟩]
  | .next first rest =>
    let tails := rest.drafts around isLast
    (first.drafts around (isLast && rest.isNothing)).flatMap fun d => tails.map d.join
  | .never => []
  | .either first rest => first.drafts around isLast ++ rest.drafts around isLast
  | .repeated item => item.drafts around isLast
  | .marked marks rule =>
    (rule.drafts (marks.inside around) isLast).map fun d =>
      let d := { d with weight := heavier marks.weight d.weight }
      if isLast then d else d.mapLast (marks.release around)

/-- The sequences that a rule without repetitions admits, each once. -/
def productions [DecidableEq α] (rule : Rule α) : List (Draft α) :=
  (rule.drafts {} true).eraseDups

end Rule

end SdkAudit.Grammar
