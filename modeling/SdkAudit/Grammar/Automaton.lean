import SdkAudit.Grammar.Item

/-!
# The automaton of a grammar

A state of the automaton is a set of items, each with the terminals that may follow its production.
States are made when they are first entered, as a text reaches few of them.

* `State.expected`: the terminals with which a text can go on;
* `Chart.actions`: what to do on a terminal, once ranks and sides have ruled out some readings;
* `Automaton.target`: the state after a symbol, past states that only rename what has been read.
-/

namespace SdkAudit.Grammar

/-- Items by number, in order, each with the terminals that may follow its production. -/
abbrev Kernel := List (Nat × Terminals)

/-- A state of the automaton. -/
structure State where
  /-- The items with which the state was entered. -/
  kernel : Kernel
  /-- The nonterminals whose productions may start here, with what may follow them. -/
  closure : Thunk (List (Nat × Terminals))
  /-- The terminals that some item reads next. -/
  shifts : Thunk Terminals
  /-- The terminals that may follow a completed item. -/
  completions : Terminals

namespace Chart

def item (c : Chart) (i : Nat) : Item := c.items[i]?.getD ⟨none, 0, #[], 0, 0⟩

/-- The terminals with which texts of a symbol start. -/
def firstOf (c : Chart) (symbol : Symbol) : Terminals :=
  Grammar.firstOf c.terminals c.first symbol

/-- Adds terminals to those of a nonterminal. -/
def addFollow (found : Array (Option Terminals)) (nonterminal : Nat) (follow : Terminals) :
    Array (Option Terminals) :=
  found.modify nonterminal fun known => some (known.getD 0 ||| follow)

/-- The nonterminals whose productions may start after these items, with what may follow them. -/
def closure (c : Chart) (kernel : Kernel) : List (Nat × Terminals) :=
  let found := kernel.foldl (fun found (i, follow) =>
    let item := c.item i
    match item.next? with
    | none => found
    | some symbol =>
      if symbol < c.terminals then found
      else
        let follow := (item.afterNext?.map c.firstOf).getD follow
        (c.reach[symbol - c.terminals]?.getD #[]).foldl (fun found reach =>
          addFollow found reach.nonterminal
            (if reach.inherits then reach.follow ||| follow else reach.follow)) found)
    (Array.replicate c.grammar.nonterminals.size none)
  (found.zipIdx.filterMap fun (follow, i) => follow.map ((i, ·))).toList

/-- Whether some item reads a nonterminal next. -/
def hasClosure (c : Chart) (kernel : Kernel) : Bool :=
  kernel.any fun (i, _) => (c.item i).next?.any (c.terminals ≤ ·)

/-- The state that is entered with these items. -/
def state (c : Chart) (kernel : Kernel) : State :=
  let closure : Thunk (List (Nat × Terminals)) :=
    if c.hasClosure kernel then Thunk.mk fun _ => c.closure kernel else Thunk.pure []
  let own := kernel.foldl (fun set (i, _) =>
    match (c.item i).next? with
    | some symbol => if symbol < c.terminals then set ||| single symbol else set
    | none => set) 0
  { kernel
    closure
    shifts := Thunk.mk fun _ =>
      closure.get.foldl (fun set (i, _) => set ||| c.starts[i]?.getD 0) own
    completions := kernel.foldl (fun set (i, follow) =>
      if (c.item i).isComplete then set ||| follow else set) 0 }

end Chart

/-- The terminals with which a text can go on in the state. -/
def State.expected (c : Chart) (s : State) : Terminals :=
  s.shifts.get ||| s.completions ||| c.extras

/-- Items in order, where the terminals of equal ones are put together. -/
def mergeItems : Kernel → Kernel
  | (i, a) :: (j, b) :: rest =>
    if i = j then mergeItems ((i, a ||| b) :: rest) else (i, a) :: mergeItems ((j, b) :: rest)
  | rest => rest
termination_by kernel => kernel.length

/-- The items after a symbol has been read in the state. -/
def State.after (c : Chart) (s : State) (symbol : Symbol) : Kernel :=
  let own := s.kernel.filterMap fun (i, follow) =>
    let item := c.item i
    if item.next? = some symbol then some (item.successor, follow) else none
  let more := s.closure.get.flatMap fun (nonterminal, follow) =>
    ((c.entries[nonterminal]?).elim [] fun entries => entries.getD symbol []).map ((·, follow))
  mergeItems ((own ++ more).mergeSort (·.1 ≤ ·.1))

/-- Whether what a ranking orders is this rank or stands for one of these nonterminals. -/
def RatedBy.isOf (rated : RatedBy) (rank : Rank) (heads : List Nat) : Bool :=
  match rated with
  | .rank name => rank = .named name
  | .rule i => heads.contains i
  | .nothing => false

/-- The order of two ranks in a ranking, if it orders them. -/
def compareInRanking (a : Rank) (aHeads : List Nat) (b : Rank) (bHeads : List Nat) :
    Bool → Bool → List RatedBy → Option Ordering
  | _, _, [] => none
  | sawA, sawB, rated :: rest =>
    let isA := rated.isOf a aHeads
    let isB := rated.isOf b bHeads
    if isA && !isB && sawB then some .lt
    else if isB && !isA && sawA then some .gt
    else compareInRanking a aHeads b bHeads (sawA || isA) (sawB || isB) rest

/-- The order of two ranks of items with these heads: which binds tighter. -/
def Numbering.compareRanks (g : Numbering) (a : Rank) (aHeads : List Nat) (b : Rank)
    (bHeads : List Nat) : Ordering :=
  let level : Rank → Option Int
    | .level n => some n
    | .unstated => some 0
    | .named _ => none
  match level a, level b with
  | some m, some n =>
    if m = 0 && n = 0 then
      (g.rankings.findSome? (compareInRanking a aHeads b bHeads false false)).getD .eq
    else compare m n
  | _, _ => (g.rankings.findSome? (compareInRanking a aHeads b bHeads false false)).getD .eq

/-- Completed items among which no rank decides, in order. -/
structure Completion where
  items : List Nat := []
  rank : Rank := .unstated
  heads : List Nat := []
  sides : List (Option Side) := []

/-- One more completed item: it replaces others that bind less, and gives way to what binds more. -/
def Completion.add (c : Chart) (sofar : Completion) (i : Nat) : Completion :=
  let item := c.item i
  let heads := item.head.toList
  let added : Completion :=
    { items := sofar.items ++ [i]
      rank := item.rank
      heads := sofar.heads ++ heads.filter (!sofar.heads.contains ·)
      sides := item.side :: sofar.sides }
  if sofar.items.isEmpty then added
  else
    match c.grammar.compareRanks item.rank heads sofar.rank sofar.heads with
    | .gt => { items := [i], rank := item.rank, heads, sides := [item.side] }
    | .eq => added
    | .lt => sofar

/-- What can be done on a terminal. -/
inductive Action where
  /-- The item is complete, and its production becomes a node. -/
  | reduce (item : Nat)
  /-- The text is complete. -/
  | accept
  /-- The lexeme is read. -/
  | shift
  /-- The lexeme is read, and the state stays the same. -/
  | skip
deriving DecidableEq, Repr

namespace Chart

/-- The action for a completed item. -/
def completing (c : Chart) (i : Nat) : Action :=
  if (c.item i).head.isNone then .accept else .reduce i

/-- The completed items of the state that the terminal may follow, in the order in which they are
considered. -/
def completed (c : Chart) (s : State) (terminal : Symbol) : List Nat :=
  let found := s.kernel.filterMap fun (i, follow) =>
    if follow.testBit terminal && (c.item i).isComplete then some i else none
  match found with
  | [] => []
  | [i] => [i]
  | found => found.mergeSort fun i j => (c.item i).order (c.item j) ≠ .gt

/-- Whether the nonterminal was made for a repetition. -/
def isHelper (c : Chart) (nonterminal : Nat) : Bool :=
  (c.grammar.nonterminals[nonterminal]?).any (·.presence = .helper)

/-- What to do on a terminal that can be read while some items may be complete: readings that bind
less are ruled out, and of readings that bind as much those of the other side. -/
def settle (c : Chart) (s : State) (terminal : Symbol) (complete : Completion)
    (completedItems : List Nat) : List Action :=
  let reductions := complete.items.map c.completing
  let reading := s.kernel.filterMap fun (i, _) =>
    let item := c.item i
    if item.position > 0 && item.next?.any (fun next => (c.firstOf next).testBit terminal) then
      some item
    else none
  let involved := (reading.filterMap (·.head)) ++ completedItems.filterMap fun i => (c.item i).head
  match involved.eraseDups with
  | [nonterminal] =>
    if c.isHelper nonterminal then reductions else decide reading reductions
  | _ => decide reading reductions
where
  /-- The readings that rank and side leave. -/
  decide (reading : List Item) (reductions : List Action) : List Action :=
    let orders := reading.map fun item =>
      c.grammar.compareRanks item.rank item.head.toList complete.rank complete.heads
    match orders.contains .lt, orders.contains .gt with
    | false, true => [.shift]
    | true, false => reductions
    | true, true => reductions ++ [.shift]
    | false, false =>
      if complete.sides.all (· = some .left) then reductions
      else if complete.sides.all (· = some .right) then [.shift]
      else reductions ++ [.shift]

def actions (c : Chart) (s : State) (terminal : Symbol) : List Action :=
  let completedItems := c.completed s terminal
  let complete := completedItems.foldl (Completion.add c) {}
  let shifts := s.shifts.get.testBit terminal
  match complete.items, shifts with
  | [], true => [.shift]
  | [], false => if c.extras.testBit terminal then [.skip] else []
  | items, false => items.map c.completing
  | _, true => c.settle s terminal complete completedItems

end Chart

/-- The states entered so far. -/
structure Automaton where
  states : Array State := #[]
  known : Std.HashMap Kernel Nat := {}
  moves : Std.HashMap (Nat × Symbol) (Option Nat) := {}
  /-- For states that have been looked at, the nonterminal that they only rename to, if any. -/
  renamings : Std.HashMap Nat (Option Nat) := {}

namespace Automaton

/-- The number of the state that is entered with these items. -/
def enter (c : Chart) (kernel : Kernel) : StateM Automaton Nat := do
  match (← get).known[kernel]? with
  | some s => return s
  | none =>
    modifyGet fun a =>
      (a.states.size, { a with
        states := a.states.push (c.state kernel)
        known := a.known.insert kernel a.states.size })

def state (c : Chart) (a : Automaton) (s : Nat) : State := a.states[s]?.getD (c.state [])

/-- The state right after a symbol, if it can be read. -/
def move (c : Chart) (s : Nat) (symbol : Symbol) : StateM Automaton (Option Nat) := do
  match ((← get).state c s).after c symbol with
  | [] => return none
  | kernel => some <$> enter c kernel

/-- The nonterminal as which a completed item renames a symbol without leaving a trace. -/
def renaming? (c : Chart) (i : Nat) : Option Nat :=
  let item := c.item i
  match item.head, item.steps with
  | some head, #[step] =>
    let isPlain := item.weight = 0 && step.guise.isNone && step.place.isNone &&
      !(step.symbol ≥ c.terminals &&
        ((c.grammar.nonterminals[step.symbol - c.terminals]?).any fun inner =>
          inner.presence ≠ .node) &&
        c.placed[step.symbol - c.terminals]?.getD false)
    let isHidden := (c.grammar.nonterminals[head]?).any fun nonterminal =>
      nonterminal.presence = .group || nonterminal.presence = .helper
    if isPlain && isHidden && !(c.renamed[head]?.getD false) then some head else none
  | _, _ => none

/-- The nonterminal to which every reading in the state first renames what has been read. -/
def renamingOf (c : Chart) (s : State) : Option Nat :=
  let heads := (s.kernel.filterMap fun (i, _) =>
    if (c.item i).isComplete then renaming? c i else none).eraseDups
  match heads with
  | [] => none
  | _ =>
    if s.shifts.get ||| s.completions ≠ s.completions then none
    else
      let terminals := (List.range c.terminals).filter (s.completions.testBit ·)
      let kinds := terminals.map fun terminal =>
        (c.actions s terminal).map fun
          | .reduce i => renaming? c i
          | _ => none
      match (kinds.flatten).eraseDups with
      | [some head] => some head
      | _ => none

/-- The nonterminal to which a state only renames, kept for later. -/
def renamingAt (c : Chart) (s : Nat) : StateM Automaton (Option Nat) := do
  match (← get).renamings[s]? with
  | some known => return known
  | none =>
    let found := renamingOf c ((← get).state c s)
    modify fun a => { a with renamings := a.renamings.insert s found }
    return found

/-- The state to go to instead of one that only renames what has been read. -/
def pass (c : Chart) (s : Nat) : Nat → Nat → StateM Automaton Nat
  | 0, target => return target
  | fuel + 1, target => do
    match ← renamingAt c target with
    | none => return target
    | some nonterminal =>
      match ← move c s (c.terminals + nonterminal) with
      | none => return target
      | some next => pass c s fuel next

/-- The state after a symbol, past states that only rename what has been read. -/
def target (c : Chart) (s : Nat) (symbol : Symbol) : StateM Automaton (Option Nat) := do
  match (← get).moves[(s, symbol)]? with
  | some target => return target
  | none =>
    let target ← match ← move c s symbol with
      | none => pure none
      | some next => some <$> pass c s 100 next
    modify fun a => { a with moves := a.moves.insert (s, symbol) target }
    return target

def start (c : Chart) : StateM Automaton Nat :=
  let emptyText := c.emptyText.toList.map ((·, single 0))
  enter c (((c.origin, single 0) :: emptyText).mergeSort (·.1 ≤ ·.1))

end Automaton

end SdkAudit.Grammar
