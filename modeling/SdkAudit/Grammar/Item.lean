import SdkAudit.Grammar.Basic

/-!
# Items

An item is a production that has been read up to some step.  Productions of one nonterminal that
agree on what is still to be read, and on how the tree treats what has been read, share their items.
Sets of terminals are the bits of a number.

* `Item.order`: the order in which completed items are considered;
* `firstSets`: the terminals with which the texts of each nonterminal start;
* `reachable`: the nonterminals that may start where another one is expected, and what may follow;
* `Numbering.chart`: the items of a grammar.
-/

namespace SdkAudit.Grammar

/-- A production that has been read up to some step. -/
structure Item where
  /-- The nonterminal of the production, or none for a whole text. -/
  head : Option Nat
  weight : Int
  steps : Array (StepOf Symbol)
  /-- How many of the steps have been read. -/
  position : Nat
  /-- The number of the item after the next step. -/
  successor : Nat
deriving Repr

namespace Item

def last? (item : Item) : Option (StepOf Symbol) :=
  if item.position = 0 then none else item.steps[item.position - 1]?

/-- How tightly the item binds what has been read. -/
def rank (item : Item) : Rank := (item.last?.map (·.rank)).getD .unstated

/-- Which reading the item prefers over others that bind as tightly. -/
def side (item : Item) : Option Side := item.last?.bind (·.side)

def next? (item : Item) : Option Symbol := (item.steps[item.position]?).map (·.symbol)

def afterNext? (item : Item) : Option Symbol := (item.steps[item.position + 1]?).map (·.symbol)

def isComplete (item : Item) : Bool := item.position = item.steps.size

end Item

/-- What makes an item the same as another. -/
structure ItemKey where
  head : Option Nat
  position : Nat
  weight : Int
  length : Nat
  rank : Rank
  side : Option Side
  read : List (Option Guise × Option String)
  ahead : List (StepOf Symbol)
deriving DecidableEq, Hashable

def Item.key (item : Item) : ItemKey where
  head := item.head
  position := item.position
  weight := item.weight
  length := item.steps.size
  rank := item.rank
  side := item.side
  read := (item.steps.toList.take item.position).map fun step => (step.guise, step.place)
  ahead := item.steps.toList.drop item.position

/-- The order of ranks in itself, whatever they stand for. -/
def Rank.order : Rank → Rank → Ordering
  | .unstated, .unstated => .eq
  | .unstated, _ => .lt
  | .level _, .unstated => .gt
  | .level a, .level b => compare a b
  | .level _, .named _ => .lt
  | .named a, .named b => compare a b
  | .named _, _ => .gt

/-- The order of sides: none, left, right. -/
def Side.order : Option Side → Option Side → Ordering := fun a b => compare (code a) (code b)
where
  /-- The place of a side in the order. -/
  code : Option Side → Nat
    | none => 0
    | some .left => 1
    | some .right => 2

/-- The order of the parts of productions that have been read. -/
def StepOf.order {α : Type} (a b : StepOf α) : Ordering :=
  let guise (s : StepOf α) : Nat × String × Nat :=
    match s.guise with
    | none => (0, "", 0)
    | some g => (1, g.name, if g.isNode then 1 else 0)
  let place (s : StepOf α) : Nat × String :=
    match s.place with
    | none => (0, "")
    | some p => (1, p)
  let (a₁, a₂, a₃) := guise a
  let (b₁, b₂, b₃) := guise b
  (compare a₁ b₁).then <| (compare a₂ b₂).then <| (compare a₃ b₃).then <|
    (compare (place a).1 (place b).1).then (compare (place a).2 (place b).2)

/-- The order of lists by their first difference. -/
def orderLists {α : Type} (order : α → α → Ordering) : List α → List α → Ordering
  | [], [] => .eq
  | [], _ => .lt
  | _, [] => .gt
  | a :: as, b :: bs => (order a b).then (orderLists order as bs)

/-- The order in which completed items are considered. -/
def Item.order (a b : Item) : Ordering :=
  (compare a.position b.position).then <|
  (compare (a.head.elim 0 (· + 1)) (b.head.elim 0 (· + 1))).then <|
  (compare a.weight b.weight).then <|
  (compare a.steps.size b.steps.size).then <|
  (a.rank.order b.rank).then <|
  (Side.order a.side b.side).then <|
  orderLists StepOf.order a.steps.toList b.steps.toList

/-- A set of terminals, as the bits of a number. -/
abbrev Terminals := Nat

def single (terminal : Symbol) : Terminals := 1 <<< terminal

/-- The terminals with which texts of a symbol start, given those of the nonterminals. -/
def firstOf (terminals : Nat) (first : Array Terminals) (symbol : Symbol) : Terminals :=
  if symbol < terminals then single symbol else first[symbol - terminals]?.getD 0

/-- The terminals with which the texts of each nonterminal start, after so many rounds. -/
def firstRounds (terminals : Nat) (firstSteps : Array (List Symbol)) :
    Nat → Array Terminals → Array Terminals
  | 0, first => first
  | rounds + 1, first =>
    let next := firstSteps.map fun symbols =>
      symbols.foldl (fun set symbol => set ||| firstOf terminals first symbol) 0
    if next = first then first else firstRounds terminals firstSteps rounds next

/-- The terminals with which the texts of each nonterminal start. -/
def firstSets (g : Numbering) : Array Terminals :=
  let firstSteps := g.nonterminals.map fun nonterminal =>
    (nonterminal.productions.filterMap fun p => (p.steps[0]?).map (·.symbol)).eraseDups
  firstRounds g.terminals firstSteps g.nonterminals.size (firstSteps.map fun _ => 0)

/-- A nonterminal that may start where another one is expected. -/
structure Reach where
  nonterminal : Nat
  /-- Terminals that may follow it. -/
  follow : Terminals
  /-- Whether all that follows the other may follow it too. -/
  inherits : Bool
deriving Repr

/-- The nonterminals that stand first in productions of a nonterminal, with the terminals that may
follow them there, or none if they are all of the production. -/
def leads (g : Numbering) (first : Array Terminals) (nonterminal : Nonterminal) :
    List (Nat × Option Terminals) :=
  (nonterminal.productions.filterMap fun p =>
    match p.steps[0]? with
    | none => none
    | some step =>
      if step.symbol < g.terminals then none
      else some (step.symbol - g.terminals,
        (p.steps[1]?).map fun second => firstOf g.terminals first second.symbol)).eraseDups

/-- What is reached from the nonterminals still to be looked at, with at most so many looks. -/
def reachRounds (leads : Array (List (Nat × Option Terminals))) :
    Nat → List (Nat × Terminals × Bool) → Array (Option (Terminals × Bool)) →
      Array (Option (Terminals × Bool))
  | 0, _, found => found
  | _ + 1, [], found => found
  | fuel + 1, (nonterminal, follow, inherits) :: rest, found =>
    let known := (found[nonterminal]?).join
    let (oldFollow, oldInherits) := known.getD (0, false)
    let grown := (oldFollow ||| follow, oldInherits || inherits)
    if known = some grown then reachRounds leads fuel rest found
    else
      let more := (leads[nonterminal]?.getD []).map fun (lead, after) =>
        match after with
        | none => (lead, follow, inherits)
        | some after => (lead, after, false)
      reachRounds leads fuel (more ++ rest) (found.set! nonterminal (some grown))

/-- The nonterminals that may start where each one is expected, with itself. -/
def reachable (g : Numbering) (first : Array Terminals) : Array (Array Reach) :=
  let leads := g.nonterminals.map (leads g first)
  let unknown : Array (Option (Terminals × Bool)) := g.nonterminals.map fun _ => none
  (Array.range g.nonterminals.size).map fun i =>
    let found := reachRounds leads 1000000 [(i, 0, true)] unknown
    found.zipIdx.filterMap fun (reached, nonterminal) =>
      reached.map fun (follow, inherits) => { nonterminal, follow, inherits : Reach }

/-- The items of a grammar, and what is needed to move among them. -/
structure Chart where
  grammar : Numbering
  /-- The number of symbols that are no nonterminals. -/
  terminals : Nat
  items : Array Item
  first : Array Terminals
  reach : Array (Array Reach)
  /-- For every nonterminal and first symbol, the items of its productions after that symbol. -/
  entries : Array (Std.HashMap Symbol (List Nat))
  /-- For every nonterminal, the terminals that are first in a production of it. -/
  starts : Array Terminals
  /-- The item of a whole text of which nothing has been read. -/
  origin : Nat
  /-- The item of an empty text, if there may be one. -/
  emptyText : Option Nat
  /-- The nonterminals that some production gives another name. -/
  renamed : Array Bool
  /-- The hidden nonterminals in which some part has a place. -/
  placed : Array Bool
  extras : Terminals

/-- The items met so far. -/
structure ItemTable where
  items : Array Item := #[]
  known : Std.HashMap ItemKey Nat := {}

namespace ItemTable

def number (item : Item) : StateM ItemTable Nat := do
  let key := item.key
  match (← get).known[key]? with
  | some i => return i
  | none =>
    modifyGet fun table =>
      (table.items.size, ⟨table.items.push item, table.known.insert key table.items.size⟩)

/-- The numbers of the items of a production from some position on, and the first of them. -/
def numberFrom (head : Option Nat) (weight : Int) (steps : Array (StepOf Symbol))
    (position : Nat) : StateM ItemTable Nat := do
  let complete ← number ⟨head, weight, steps, steps.size, 0⟩
  let positions := (List.range (steps.size - position)).map (steps.size - 1 - ·)
  positions.foldlM (fun successor position => number ⟨head, weight, steps, position, successor⟩)
    complete

end ItemTable

/-- The items of the productions of a nonterminal after their first symbols. -/
def entriesOf (i : Nat) (nonterminal : Nonterminal) :
    StateM ItemTable (Std.HashMap Symbol (List Nat)) :=
  nonterminal.productions.foldlM (fun entries production => do
    match production.steps[0]? with
    | none => return entries
    | some step =>
      let item ← ItemTable.numberFrom (some i) production.weight production.steps 1
      let sofar := entries.getD step.symbol []
      return entries.insert step.symbol (if sofar.contains item then sofar else item :: sofar)) {}

/-- Which hidden nonterminals have a part with a place, after so many rounds. -/
def placedRounds (g : Numbering) : Nat → Array Bool → Array Bool
  | 0, placed => placed
  | rounds + 1, placed =>
    let next := g.nonterminals.map fun nonterminal =>
      nonterminal.productions.any fun production => production.steps.any fun step =>
        step.place.isSome ||
          (step.symbol ≥ g.terminals &&
            ((g.nonterminals[step.symbol - g.terminals]?).any fun inner =>
              inner.presence ≠ .node) &&
            placed[step.symbol - g.terminals]?.getD false)
    if next = placed then placed else placedRounds g rounds next

/-- The nonterminals that some production gives another name. -/
def renamedNonterminals (g : Numbering) : Array Bool :=
  g.nonterminals.foldl (fun renamed nonterminal =>
    nonterminal.productions.foldl (fun renamed production =>
      production.steps.foldl (fun renamed step =>
        if step.guise.isSome && step.symbol ≥ g.terminals then
          renamed.set! (step.symbol - g.terminals) true
        else renamed) renamed) renamed)
    (g.nonterminals.map fun _ => false)

def Numbering.chart (g : Numbering) : Chart :=
  let first := firstSets g
  let build : StateM ItemTable (Array (Std.HashMap Symbol (List Nat)) × Nat × Option Nat) := do
    let origin ← ItemTable.numberFrom none 0 #[{ symbol := g.terminals }] 0
    let entries ← g.nonterminals.zipIdx.mapM fun (nonterminal, i) => entriesOf i nonterminal
    let isEmptyAllowed := (g.nonterminals[0]?).any fun nonterminal =>
      nonterminal.productions.any (·.steps.isEmpty)
    let emptyText ← if isEmptyAllowed then some <$> ItemTable.number ⟨some 0, 0, #[], 0, 0⟩
      else pure none
    return (entries, origin, emptyText)
  let ((entries, origin, emptyText), table) := build.run {}
  { grammar := g
    terminals := g.terminals
    items := table.items
    first
    reach := reachable g first
    entries
    starts := g.nonterminals.map fun nonterminal =>
      nonterminal.productions.foldl (fun set production =>
        match production.steps[0]? with
        | some step => if step.symbol < g.terminals then set ||| single step.symbol else set
        | none => set) 0
    origin
    emptyText
    renamed := renamedNonterminals g
    placed := placedRounds g g.nonterminals.size (g.nonterminals.map fun _ => false)
    extras := g.extras.foldl (fun set symbol => set ||| single symbol) 0 }

end SdkAudit.Grammar
