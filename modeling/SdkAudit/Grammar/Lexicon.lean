import SdkAudit.Grammar.Automaton
import SdkAudit.Grammar.Cursor

/-!
# Lexing

Which lexeme is read depends on what is expected.  All expected lexemes are read at once; the
longest wins, unless one is preferred to what reading on could yield.  Words of the grammar are read
as the lexeme that they would be otherwise, and recognized afterwards.

* `Lexicon.scan`: the lexeme at the start of a text, of those that are read by their shape;
* `Lexicon.lexeme?`: the lexeme at a place in a text.
-/

namespace SdkAudit.Grammar

/-- The lexemes of a grammar. -/
structure Lexicon where
  chart : Chart
  scanner : Scanner
  /-- The words of the grammar that could be the lexeme that words are. -/
  keywords : List (String × Nat)
  /-- The same words, as terminals. -/
  keywordSet : Terminals

/-- The words of a grammar that could be the lexeme that words are. -/
def Numbering.keywords (g : Numbering) : List (String × Nat) :=
  match g.word.bind (g.tokens[·]?) with
  | none => []
  | some word => g.tokens.toList.zipIdx.filterMap fun (use, i) =>
    match use.token.word with
    | some text =>
      if word.token.shape.admits text.toList && some i ≠ g.word then some (text, i) else none
    | none => none

def Chart.lexicon (c : Chart) (scanner : Scanner) : Lexicon where
  chart := c
  scanner
  keywords := c.grammar.keywords
  keywordSet := c.grammar.keywords.foldl (fun set (_, i) => set ||| single (1 + i)) 0

/-- A lexeme at a place in a text. -/
structure Lexeme where
  symbol : Symbol
  /-- How many characters of layout come before it. -/
  start : Nat
  /-- How many characters come before its end. -/
  stop : Nat
  /-- Whether it is a word of the grammar that could be an ordinary word. -/
  isKeyword : Bool := false
  /-- What is kept for the lexemes after it. -/
  memory : Nat
deriving Repr

/-- A lexeme that has been read in part, and what may follow. -/
structure Partial where
  token : Nat
  rest : Shape
deriving DecidableEq, Repr

/-- The lexemes that are expected, none of which has been begun. -/
structure Beginnings where
  all : List Partial
  /-- Those before which layout may stand. -/
  afterBlank : List Partial
  mayEnd : Bool

/-- How far lexing has come. -/
structure Progress where
  begun : List Partial
  /-- Whether layout may go on. -/
  isBlank : Bool
  /-- Whether nothing but layout has been read. -/
  isFresh : Bool := true
  passed : Nat
  start : Nat
  /-- The lexeme that is complete, with its start and stop, if there is one. -/
  found : Option (Nat × Nat × Nat) := none

namespace Lexicon

def token (lx : Lexicon) (i : Nat) : Token :=
  ((lx.chart.grammar.tokens[i]?).map (·.token)).getD { shape := .done }

/-- Whether one complete lexeme is chosen over another of the same length. -/
def isChosenOver (lx : Lexicon) (i j : Nat) : Bool :=
  let a := lx.token i
  let b := lx.token j
  if a.preference ≠ b.preference then a.preference > b.preference
  else if a.tieBreak ≠ b.tieBreak then a.tieBreak > b.tieBreak
  else i < j

def complete? (lx : Lexicon) (begun : List Partial) : Option Nat :=
  begun.foldl (fun best p =>
    if p.rest.mayEnd then
      match best with
      | none => some p.token
      | some b => if lx.isChosenOver p.token b then some p.token else best
    else best) none

/-- The lexemes that are expected among some terminals. -/
def beginnings (lx : Lexicon) (expected : Terminals) : Beginnings :=
  let isKeyword (i : Nat) : Bool := lx.keywordSet.testBit (1 + i)
  let tokens := (List.range lx.chart.grammar.tokens.size).filter fun i => expected.testBit (1 + i)
  let words := if tokens.any isKeyword then lx.chart.grammar.word.toList else []
  let plain := tokens.filter fun i => !isKeyword i && !words.contains i
  let all := (plain ++ words).map fun i => (⟨i, (lx.token i).shape⟩ : Partial)
  { all
    afterBlank := all.filter fun p => !(lx.token p.token).immediate
    mayEnd := expected.testBit 0 }

/-- The longest lexeme at the start of a text, of those that are read by their shape; the end of the
text has no number. -/
def scan (lx : Lexicon) (b : Beginnings) (p : Progress) :
    List Char → Option (Option Nat × Nat × Nat)
  | [] =>
    match lx.complete? p.begun with
    | some i => some (some i, p.start, p.passed)
    | none =>
      if p.isFresh && b.mayEnd then some (none, p.passed, p.passed)
      else p.found.map fun (i, start, stop) => (some i, start, stop)
  | c :: rest =>
    let here := lx.complete? p.begun
    let found := (here.map fun i => (i, p.start, p.passed)).or p.found
    let finish := found.map fun (i, start, stop) => (some i, start, stop)
    let steps := p.begun.flatMap fun q =>
      (q.rest.after c).map fun (level, next) => (level.getD 0, (⟨q.token, next⟩ : Partial))
    let isBlank := p.isBlank && lx.chart.grammar.blank.holds c
    if steps.isEmpty then
      if !isBlank || here.any fun i => (lx.token i).preference ≥ 0 then finish
      else
        lx.scan b { begun := b.afterBlank, isBlank, passed := p.passed + 1, start := p.passed + 1,
                    found } rest
    else
      let level := steps.foldl (fun level step => max level step.1)
        (if isBlank then 0 else (steps.head?.elim 0 (·.1)))
      let goesOn := here.all fun i =>
        let preference := (lx.token i).preference
        if level = preference then
          !p.isBlank || steps.any (·.2.token = i) || (isBlank && !(lx.token i).immediate)
        else level > preference
      if !goesOn then finish
      else
        let begun := (steps.map (·.2)).eraseDups
        let begun := if isBlank then begun ++ b.afterBlank.filter (!begun.contains ·) else begun
        lx.scan b { begun, isBlank, isFresh := false, passed := p.passed + 1, start := p.start,
                    found } rest

def externalSymbol (lx : Lexicon) (i : Nat) : Symbol :=
  match (lx.chart.grammar.externals[i]?).bind (·.internal) with
  | some t => 1 + t
  | none => 1 + lx.chart.grammar.tokens.size + i

def scanned? (lx : Lexicon) (isExpected : Nat → Bool) (memory : Nat) (cursor : Cursor) :
    Option Lexeme :=
  (lx.scanner.read isExpected memory cursor).map fun (i, memory, cursor) =>
    let stop := cursor.finish
    { symbol := lx.externalSymbol i, start := min cursor.start stop, stop, memory }

/-- The words of the grammar that a text is. -/
def keyword? (lx : Lexicon) (expected : Terminals) (text : List Char) : Option Symbol :=
  (lx.keywords.find? fun (word, _) => word.toList = text).bind fun (_, i) =>
    if expected.testBit (1 + i) then some (1 + i) else none

/-- A mark at the start of a file that says how it is encoded. -/
def orderMark : Char := '\uFEFF'

/-- The lexeme at a place in a text where some terminals are expected.  One that nobody expects is
read if the scanner offers it. -/
def lexeme? (lx : Lexicon) (expected : Terminals) (b : Beginnings) (isFirst : Bool) (memory : Nat)
    (text : List Char) : Option Lexeme :=
  let cursor : Cursor :=
    match isFirst, text with
    | true, c :: rest => if c = orderMark then ⟨rest, 1, 1, none⟩ else ⟨text, 0, 0, none⟩
    | _, _ => ⟨text, 0, 0, none⟩
  let externals := lx.chart.grammar.externals
  let isExpected (i : Nat) : Bool := expected.testBit (lx.externalSymbol i)
  let offered :=
    if (List.range externals.size).any isExpected then lx.scanned? isExpected memory cursor
    else none
  match offered with
  | some lexeme => some lexeme
  | none =>
    let progress : Progress :=
      { begun := b.all, isBlank := !b.afterBlank.isEmpty, passed := cursor.passed,
        start := cursor.passed }
    match lx.scan b progress cursor.rest with
    | some (none, start, stop) => some { symbol := 0, start, stop, memory }
    | some (some i, start, stop) =>
      let word := if some i = lx.chart.grammar.word then
          lx.keyword? expected ((text.drop start).take (stop - start)) else none
      match word with
      | some symbol => some { symbol, start, stop, isKeyword := true, memory }
      | none => some { symbol := 1 + i, start, stop, memory }
    | none =>
      (lx.scanned? (fun _ => true) memory cursor).filter fun lexeme =>
        lexeme.stop > 0 || lexeme.memory ≠ memory

end Lexicon

end SdkAudit.Grammar
