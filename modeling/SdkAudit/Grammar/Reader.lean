import SdkAudit.Grammar.Lexicon
import SdkAudit.Grammar.Stack

/-!
# Reading texts

A text is read from the left, one lexeme after another.  Where the automaton leaves a choice, the
reading is split; where readings meet again, one tree is kept.  A reading that cannot go on is given
up, and the text cannot be read if none is left.

* `Reader.reduce`: a completed item becomes a tree, on every path;
* `Reader.condense`: the readings in order, merged where they can be;
* `Lexicon.read?`: the tree of a text.
-/

namespace SdkAudit.Grammar

/-- A text being read. -/
structure Reader where
  automaton : Automaton := {}
  /-- For states that have been asked for it, the lexemes that are expected. -/
  beginnings : Std.HashMap Nat Beginnings := {}
  stack : Stack := {}
  /-- The tree of the readings that have come to the end. -/
  finished : Option Tree := none
  /-- How far any reading has come. -/
  farthest : Nat := 0

namespace Reader

def maxReadings : Nat := 6

/-- How many readings may come of a reduction before others are given up. -/
def maxSplit : Nat := 10

def withAutomaton {α : Type} (m : StateM Automaton α) : StateM Reader α :=
  modifyGet fun r =>
    let (a, automaton) := m.run r.automaton
    (a, { r with automaton })

def modifyStack (f : Stack → Stack) : StateM Reader Unit :=
  modify fun r => { r with stack := f r.stack }

def stateAt (c : Chart) (s : Nat) : StateM Reader State := return (← get).automaton.state c s

def beginningsAt (lx : Lexicon) (s : Nat) (expected : Terminals) : StateM Reader Beginnings := do
  match (← get).beginnings[s]? with
  | some b => return b
  | none =>
    let b := lx.beginnings expected
    modify fun r => { r with beginnings := r.beginnings.insert s b }
    return b

/-- Some trees without the extras at their end, and those extras. -/
def withoutTrailing (trees : List Tree) : List Tree × List Tree :=
  let trailing := (trees.reverse.takeWhile (·.isExtra)).reverse
  (trees.take (trees.length - trailing.length), trailing)

/-- Of slices with one end, the tree that is kept, with the extras after it. -/
def choose (item : Nat) (symbol : Symbol) (place : Place) (slices : List (List Tree)) :
    Option (Tree × List Tree) :=
  slices.foldl (fun best trees =>
    let (children, trailing) := withoutTrailing trees
    let tree := Tree.ofItem item symbol children place
    match best with
    | none => some (tree, trailing)
    | some (other, _) => if tree.isPreferredTo other then some (tree, trailing) else best) none

/-- The slices of each new reading, in order. -/
def groups : List Slice → List (Nat × List (List Tree))
  | [] => []
  | slice :: rest =>
    match groups rest with
    | (h, trees) :: others =>
      if h = slice.head then (h, slice.trees :: trees) :: others
      else (slice.head, [slice.trees]) :: (h, trees) :: others
    | [] => [(slice.head, [slice.trees])]

/-- Pushes a tree and the extras after it on a reading. -/
def pushTree (h : Nat) (state : Nat) (tree : Tree) (trailing : List Tree) (s : Stack) : Stack :=
  let (s, v) := s.push (s.head h).vertex tree state tree.stop
  let (s, v) := trailing.foldl (fun (s, v) extra => s.push v extra state extra.stop) (s, v)
  s.modify h ({ · with vertex := v })

/-- The reading merged with the first of the earlier ones that it can be merged with, leaving out
the one that it came from. -/
def mergeEarlier (source h : Nat) (s : Stack) : Option Stack :=
  (List.range h).findSome? fun g => if g = source then none else s.merge? g h

/-- What becomes of a new reading after a reduction; the result is how many readings were removed
so far. -/
def reduceGroup (c : Chart) (source item : Nat) (removed : Nat)
    (group : Nat × List (List Tree)) : StateM Reader Nat := do
  let h := group.1 - removed
  let drop : StateM Reader Nat := do
    modifyStack (·.drop h)
    return removed + 1
  if h > maxSplit then drop
  else
    let stack := (← get).stack
    let data := c.item item
    match data.head with
    | none => drop
    | some nonterminal =>
      let symbol := c.terminals + nonterminal
      let base := stack.top h
      let next ← withAutomaton (Automaton.target c base.state symbol)
      match choose item symbol base.place group.2, next with
      | some (tree, trailing), some state =>
        modifyStack (pushTree h state (tree.gaining data.weight) trailing)
        match mergeEarlier source h (← get).stack with
        | some stack =>
          modifyStack fun _ => stack
          return removed + 1
        | none => return removed
      | _, _ => drop

/-- A completed item becomes a tree.  The result is the first reading that came of it, if any was
not merged with others. -/
def reduce (c : Chart) (source item : Nat) : StateM Reader (Option Nat) := do
  let before := (← get).stack.heads.size
  let (stack, slices) := (← get).stack.pop source (c.item item).steps.size
  modifyStack fun _ => stack
  let _ ← (groups slices).foldlM (reduceGroup c source item) 0
  return if (← get).stack.heads.size > before then some before else none

/-- A lexeme as a tree, at the top of a reading. -/
def leafOf (head : Head) (lexeme : Lexeme) (isExtra : Bool) : Tree × Head :=
  let start := (head.rest.take lexeme.start).foldl Place.afterBytes head.place
  let inside := (head.rest.drop lexeme.start).take (lexeme.stop - lexeme.start)
  let stop := inside.foldl Place.afterBytes start
  (.leaf lexeme.symbol isExtra lexeme.start start stop,
    { head with place := stop, rest := head.rest.drop lexeme.stop, memory := lexeme.memory })

def shift (h state : Nat) (lexeme : Lexeme) (isExtra : Bool) : StateM Reader Unit :=
  modifyStack fun s =>
    let head := s.head h
    let (leaf, next) := leafOf head lexeme isExtra
    let (s, vertex) := s.push head.vertex leaf state next.place
    s.modify h fun _ => { next with vertex }

/-- The tree of a text whose parts these are: the last that is no extra, with the others in it. -/
def wholeTree? (parts : List Tree) : Option Tree :=
  match parts.reverse.dropWhile (·.isExtra) with
  | .node item symbol weight layout start stop children :: before =>
    let after := (parts.reverse.takeWhile (·.isExtra)).reverse
    some (.node item symbol weight layout start stop (before.reverse ++ children ++ after))
  | _ => none

def accept (h : Nat) : StateM Reader Unit :=
  modify fun r =>
    let vertex := (r.stack.head h).vertex
    let trees := (Stack.pathsDown r.stack.vertices (r.stack.vertices.size + 1) vertex []).filterMap
      wholeTree?
    let finished := trees.foldl (fun best tree =>
      match best with
      | none => some tree
      | some other => if tree.isPreferredTo other then some tree else some other) r.finished
    { r with finished, stack := r.stack.modify h ({ · with standing := .over }) }

/-- What came of some actions. -/
inductive Step where
  /-- The lexeme has been read, or the text has ended. -/
  | moved
  /-- The reading goes on as another one, if any reduction made one. -/
  | reduced (last : Option Nat)

/-- Takes actions for a lexeme until one moves the reading. -/
def act (c : Chart) (h state : Nat) (lexeme : Lexeme) :
    Option Nat → List Action → StateM Reader Step
  | last, [] => return .reduced last
  | last, .reduce item :: rest => do
    let new ← reduce c h item
    act c h state lexeme (new.or last) rest
  | _, .accept :: _ => do
    accept h
    return .moved
  | last, .shift :: rest => do
    match ← withAutomaton (Automaton.target c state lexeme.symbol) with
    | some target =>
      shift h target lexeme false
      return .moved
    | none => act c h state lexeme last rest
  | _, .skip :: _ => do
    shift h state lexeme true
    return .moved

/-- Goes on with a reading until it has read a lexeme or is given up, after at most so many
steps. -/
def proceed (lx : Lexicon) (h : Nat) : Nat → Lexeme → StateM Reader Unit
  | 0, _ => modifyStack (·.modify h ({ · with standing := .stuck }))
  | fuel + 1, lexeme => do
    let c := lx.chart
    let state := ((← get).stack.top h).state
    let data ← stateAt c state
    match ← act c h state lexeme none (c.actions data lexeme.symbol) with
    | .moved => return
    | .reduced (some last) =>
      modifyStack fun s => (s.modify h fun _ => s.head last).drop last
      proceed lx h fuel lexeme
    | .reduced none =>
      let word := (c.grammar.word.elim 0 (1 + ·))
      if lexeme.isKeyword && (data.expected c).testBit word then
        proceed lx h fuel { lexeme with symbol := word, isKeyword := false }
      else modifyStack (·.modify h ({ · with standing := .stuck }))

/-- Reads the next lexeme of a reading. -/
def advance (lx : Lexicon) (h : Nat) : StateM Reader Unit := do
  let head := (← get).stack.head h
  let state := ((← get).stack.top h).state
  let expected := (← stateAt lx.chart state).expected lx.chart
  let beginnings ← beginningsAt lx state expected
  match lx.lexeme? expected beginnings (head.place.offset = 0) head.memory head.rest with
  | some lexeme => proceed lx h 100000 lexeme
  | none => modifyStack (·.modify h ({ · with standing := .stuck }))

/-- Advances a reading until it is as far as the others. -/
def catchUp (lx : Lexicon) (h : Nat) : Nat → StateM Reader Unit
  | 0 => modifyStack (·.modify h ({ · with standing := .stuck }))
  | fuel + 1 => do
    if ((← get).stack.head h).standing ≠ .going then return
    advance lx h
    let offset := ((← get).stack.top h).place.offset
    let farthest := (← get).farthest
    if offset > farthest || (h > 0 && offset = farthest) then
      modify ({ · with farthest := offset })
    else catchUp lx h fuel

/-- Advances the readings in turn, those that are split off on the way as well. -/
def advanceAll (lx : Lexicon) (length : Nat) : Nat → Nat → StateM Reader Unit
  | 0, _ => return
  | fuel + 1, h => do
    if h < (← get).stack.heads.size then
      catchUp lx h (2 * length + 100)
      advanceAll lx length fuel (h + 1)

/-- How two readings compare. -/
inductive Comparison where
  | dropFirst
  | dropSecond
  /-- They are merged if they can be. -/
  | keep
  /-- They are merged if they can be, and change places if not. -/
  | swap
deriving DecidableEq

/-- How a reading compares with a later one: one that goes on is better than one that is stuck, and
the greater gain comes first. -/
def compareHeads (s : Stack) (g h : Nat) : Comparison :=
  let isStuck (i : Nat) : Bool := (s.head i).standing = .stuck
  match isStuck g, isStuck h with
  | false, true => .dropSecond
  | true, false => .dropFirst
  | _, _ => if (s.top h).weight > (s.top g).weight then .swap else .keep

def exchange (s : Stack) (g h : Nat) : Stack :=
  let a := s.head g
  let b := s.head h
  (s.modify g fun _ => b).modify h fun _ => a

/-- Compares a reading with the earlier ones from some place on, and whether it is still there and
where. -/
def settleHead (h : Nat) : Nat → Nat → Stack → Stack × Nat
  | 0, _, s => (s, h + 1)
  | fuel + 1, g, s =>
    if g ≥ h then (s, h + 1)
    else
      match compareHeads s g h with
      | .dropSecond => (s.drop h, h)
      | .dropFirst => settleHead (h - 1) fuel g (s.drop g)
      | .keep =>
        match s.merge? g h with
        | some merged => (merged, h)
        | none => settleHead h fuel (g + 1) s
      | .swap =>
        match s.merge? g h with
        | some merged => (merged, h)
        | none => settleHead h fuel (g + 1) (exchange s g h)

/-- Compares every reading with the earlier ones. -/
def settleHeads : Nat → Nat → Stack → Stack
  | 0, _, s => s
  | fuel + 1, h, s =>
    if h ≥ s.heads.size then s
    else if (s.head h).standing = .over then settleHeads fuel h (s.drop h)
    else
      let (s, next) := settleHead h (s.heads.size + 1) 0 s
      settleHeads fuel next s

/-- The readings in order, merged where they can be; only the first few are kept. -/
def condense (s : Stack) : Stack :=
  let settled := settleHeads (4 * s.heads.size + 4) 0 s
  { settled with heads := settled.heads.take maxReadings }

/-- Reads until no reading goes on, after at most so many rounds. -/
def run (lx : Lexicon) (length : Nat) : Nat → StateM Reader Unit
  | 0 => return
  | fuel + 1 => do
    advanceAll lx length 1000 0
    modifyStack condense
    if (← get).stack.heads.any (·.standing = .going) then run lx length fuel

end Reader

def Lexicon.tree? (lx : Lexicon) (text : List Char) : Option Tree :=
  let length := text.length
  let read : StateM Reader Unit := do
    let state ← Reader.withAutomaton (Automaton.start lx.chart)
    Reader.modifyStack fun s =>
      { s with
        vertices := #[{ state, place := .origin }]
        heads := #[{ vertex := 0, place := .origin, rest := text, memory := 0 }] }
    Reader.run lx length (4 * length + 100)
  (read.run {}).2.finished

/-- The nodes and texts of a text, if it can be read. -/
def Lexicon.read? (lx : Lexicon) (text : List Char) : Option (List Branch) :=
  (lx.tree? text).map (Tree.branches lx.chart none)

end SdkAudit.Grammar
