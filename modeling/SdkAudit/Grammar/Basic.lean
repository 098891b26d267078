import SdkAudit.Grammar.Definition
import SdkAudit.Grammar.Production
import Std.Data.HashMap

/-!
# Grammars

In a grammar everything has a number.  The end of a text is symbol 0; then come the lexemes that are
read by their shape, those that are read by other means, and the nonterminals.  Every nonterminal
has its productions, in which no repetition and no inlined rule is left.

* `Lexemes`: the lexemes of a definition and what is known of them;
* `unroll`: a rule whose repetitions have become rules of their own;
* `Definition.grammar`: the grammar of a definition.
-/

namespace SdkAudit.Grammar

/-- A lexeme that occurs in a grammar. -/
structure TokenUse where
  token : Token
  name : String
  presence : Presence
  uses : Nat
deriving Repr

/-- A lexeme that is read by other means than its shape. -/
structure External where
  name : String
  presence : Presence
  /-- The lexeme of the grammar that it is, if it is one. -/
  internal : Option Nat
deriving Repr

/-- A rule with a number. -/
structure Numbered where
  name : String
  presence : Presence
  rule : Rule Ref

/-- The lexemes met so far. -/
abbrev Lexemes := Array TokenUse

namespace Lexemes

/-- The number of a lexeme, which is counted as used once more. -/
def number (token : Token) : StateM Lexemes Nat := do
  let lexemes ← get
  match lexemes.findIdx? (·.token = token) with
  | some i =>
    set (lexemes.modify i fun use => { use with uses := use.uses + 1 })
    return i
  | none =>
    let name := token.word.getD ""
    let presence := if token.word.isSome then Presence.text else .helper
    set (lexemes.push ⟨token, name, presence, 1⟩)
    return lexemes.size

/-- A phrase with its lexemes numbered and its names resolved. -/
def resolve (names : Std.HashMap String Ref) (phrase : Phrase) : StateM Lexemes (Rule Ref) :=
  phrase.mapM fun
    | .token token => return .token (← number token)
    | .name name => return names.getD name (.rule 0)

end Lexemes

/-- The helpers made for repetitions, with what each of them repeats. -/
structure Helpers where
  /-- The number of the first helper. -/
  first : Nat
  made : Array (Rule Ref) := #[]
  known : List (Rule Ref × Nat) := []

/-- A rule that is itself twice or an item. -/
def twiceOr (self : Nat) (item : Rule Ref) : Rule Ref :=
  .ofAlternatives [.next (.leaf (.rule self)) (.next (.leaf (.rule self)) .nothing), item]

/-- A rule whose repetitions have become rules of their own. -/
def unroll : Rule Ref → StateM Helpers (Rule Ref)
  | .nothing => return .nothing
  | .leaf a => return .leaf a
  | .next first rest => return .next (← unroll first) (← unroll rest)
  | .never => return .never
  | .either first rest => return .either (← unroll first) (← unroll rest)
  | .marked marks rule => return .marked marks (← unroll rule)
  | .repeated item => do
    let item ← unroll item
    let helpers ← get
    match helpers.known.find? (·.1 = item) with
    | some (_, self) => return .leaf (.rule self)
    | none =>
      let self := helpers.first + helpers.made.size
      set { helpers with
        made := helpers.made.push (twiceOr self item)
        known := (item, self) :: helpers.known }
      return .leaf (.rule self)

/-- A rule without repetitions; a group that is a repetition repeats itself. -/
def unrollEntry (self : Nat) (entry : Numbered) : StateM Helpers Numbered := do
  match entry.presence, entry.rule with
  | .group, .repeated item =>
    return { entry with presence := .helper, rule := twiceOr self (← unroll item) }
  | _, rule => return { entry with rule := ← unroll rule }

/-- The steps of an inlined rule in the place of the step that stands for it. -/
def inlineSteps (outer : StepOf Ref) (steps : List (StepOf Ref)) : List (StepOf Ref) :=
  let inner : Draft Ref := ⟨steps.map fun step =>
    { step with guise := outer.guise.or step.guise, place := outer.place.or step.place }, 0⟩
  (inner.mapLast fun last =>
    { last with
      rank := if last.rank = .unstated then outer.rank else last.rank
      side := last.side.or outer.side }).steps

/-- The sequences without steps that stand for inlined rules, after at most so many replacements. -/
def inlineDraft (inlined : Nat → Option (List (Draft Ref))) : Nat → Draft Ref → List (Draft Ref)
  | 0, d => [d]
  | fuel + 1, d =>
    let replacement? (step : StepOf Ref) : Option (List (Draft Ref)) :=
      match step.symbol with
      | .rule i => inlined i
      | _ => none
    let before := d.steps.takeWhile fun step => (replacement? step).isNone
    match d.steps.drop before.length with
    | [] => [d]
    | step :: rest =>
      ((replacement? step).getD []).flatMap fun inner =>
        inlineDraft inlined fuel
          ⟨before ++ inlineSteps step inner.steps ++ rest, heavier d.weight inner.weight⟩

/-- A symbol of a grammar; the end of a text is symbol 0. -/
abbrev Symbol := Nat

/-- A production of a grammar. -/
structure Production where
  steps : Array (StepOf Symbol)
  weight : Int
deriving Repr

/-- A nonterminal of a grammar. -/
structure Nonterminal where
  name : String
  presence : Presence
  productions : List Production
deriving Repr

/-- What a ranking orders, with rules as numbers. -/
inductive RatedBy where
  | rank (name : String)
  | rule (index : Nat)
  /-- What is no rule of its own binds nothing. -/
  | nothing
deriving DecidableEq, Repr

/-- A grammar in which everything is numbered. -/
structure Numbering where
  tokens : Array TokenUse
  externals : Array External
  nonterminals : Array Nonterminal
  extras : List Symbol
  rankings : List (List RatedBy)
  word : Option Nat
  blank : CharClass

namespace Numbering

/-- The number of symbols that are no nonterminals. -/
def terminals (g : Numbering) : Nat := 1 + g.tokens.size + g.externals.size

end Numbering

/-- The symbol that something numbered stands for, in a grammar with so many lexemes. -/
def Ref.symbol (tokens externals : Nat) : Ref → Symbol
  | .token i => 1 + i
  | .external i => 1 + tokens + i
  | .rule i => 1 + tokens + externals + i

namespace Definition

/-- The names of external lexemes, and of rules. -/
def names (d : Definition) : Std.HashMap String Ref :=
  let externals := d.externals.zipIdx.filterMap fun (external : (Phrase × Presence) × Nat) =>
    match external.1.1 with
    | .leaf (.name name) => some (name, Ref.external external.2)
    | _ => none
  let rules := d.rules.zipIdx.map fun (entry : Entry × Nat) => (entry.1.name, Ref.rule entry.2)
  Std.HashMap.ofList (externals ++ rules)

def numberLexemes (d : Definition) : StateM Lexemes (List Numbered) := do
  let names := d.names
  d.rules.mapM fun (entry : Entry) => do
    return ⟨entry.name, entry.presence, ← Lexemes.resolve names entry.phrase⟩

end Definition

/-- The lexeme that a rule is, which gets the name and presence of the rule; a lexeme is only taken
for a rule if it has no other use. -/
def takeLexeme? (i : Nat) (entry : Numbered) : StateM Lexemes (Option Nat) := do
  match entry.rule with
  | .leaf (.token t) =>
    let lexemes ← get
    match lexemes[t]? with
    | none => return none
    | some use =>
      let isHidden := entry.presence = .group || entry.presence = .sort
      if i = 0 || use.uses ≠ 1 || (isHidden && use.presence ≠ .helper) then return none
      set (lexemes.modify t fun use => { use with name := entry.name, presence := entry.presence })
      return some t
  | _ => return none

/-- The new number of every rule that stays one, and the lexemes of the others. -/
def renumber (taken : List (Option Nat)) : Array Ref :=
  let step (sofar : Array Ref × Nat) (lexeme : Option Nat) : Array Ref × Nat :=
    match lexeme with
    | some t => (sofar.1.push (.token t), sofar.2)
    | none => (sofar.1.push (.rule sofar.2), sofar.2 + 1)
  (taken.foldl step (#[], 0)).1

/-- What becomes of a leaf when rules are numbered anew. -/
def renumbered (refs : Array Ref) : Ref → Ref
  | .rule i => refs[i]?.getD (.rule 0)
  | ref => ref

/-- What an extra lexeme or an external one is, if it is a lexeme of the grammar or has a name. -/
def lexemeRef? (lexemes : Lexemes) (names : String → Option Ref) : Phrase → Option Ref
  | .leaf (.name name) => names name
  | .leaf (.token token) => (lexemes.findIdx? (·.token = token)).map .token
  | _ => none

def externalOf (lexemes : Lexemes) (names : String → Option Ref) (phrase : Phrase)
    (presence : Presence) : External :=
  let name :=
    match phrase with
    | .leaf (.name name) => name
    | _ => ""
  match lexemeRef? lexemes names phrase with
  | some (.token t) => ⟨name, presence, some t⟩
  | _ => ⟨name, presence, none⟩

namespace Definition

/-- The numbered grammar of a definition. -/
def numbering (d : Definition) : Numbering :=
  let (entries, lexemes) := d.numberLexemes.run #[]
  let takeAll : StateM Lexemes (List (Option Nat)) :=
    entries.zipIdx.mapM fun (entry : Numbered × Nat) => takeLexeme? entry.2 entry.1
  let (taken, lexemes) := takeAll.run lexemes
  let refs := renumber taken
  let firstNames := d.names
  let resolve (name : String) : Option Ref := (firstNames[name]?).map (renumbered refs)
  let kept : List Numbered := (entries.zip taken).filterMap fun (entry : Numbered × Option Nat) =>
    if entry.2.isSome then none
    else some { entry.1 with rule := entry.1.rule.mapM (m := Id) (renumbered refs) }
  let unrollAll : StateM Helpers (List Numbered) :=
    kept.zipIdx.mapM fun (entry : Numbered × Nat) => unrollEntry entry.2 entry.1
  let (unrolled, helpers) := unrollAll.run { first := kept.length }
  let all : Array Numbered :=
    unrolled.toArray ++ helpers.made.map fun rule => (⟨"", .helper, rule⟩ : Numbered)
  let drafts : Array (List (Draft Ref)) := all.map fun entry => entry.rule.productions
  let inlinedRules : List Nat := d.inlined.filterMap fun name =>
    match resolve name with
    | some (.rule i) =>
      if (all[i]?).any fun entry => entry.presence = .helper then none else some i
    | _ => none
  let inlined (i : Nat) : Option (List (Draft Ref)) :=
    if inlinedRules.contains i then drafts[i]? else none
  let externals := d.externals.toArray.map fun (external : Phrase × Presence) =>
    externalOf lexemes resolve external.1 external.2
  let symbol := Ref.symbol lexemes.size externals.size
  let step (step : StepOf Ref) : StepOf Symbol :=
    { symbol := symbol step.symbol, rank := step.rank, side := step.side, guise := step.guise,
      place := step.place }
  let production (draft : Draft Ref) : Production :=
    ⟨(draft.steps.map step).toArray, draft.weight⟩
  let nonterminal (i : Nat) (entry : Numbered × List (Draft Ref)) : Nonterminal :=
    { name := entry.1.name
      presence := entry.1.presence
      productions :=
        if inlinedRules.contains i then []
        else ((entry.2.flatMap (inlineDraft inlined 100)).eraseDups.map production) }
  let rated : Rated → RatedBy
    | .rank name => .rank name
    | .rule name =>
      match resolve name with
      | some (.rule i) => .rule i
      | _ => .nothing
  { tokens := lexemes
    externals
    nonterminals := (all.zip drafts).mapIdx nonterminal
    extras := (d.extras.filterMap (lexemeRef? lexemes resolve)).map symbol
    rankings := d.rankings.map (·.map rated)
    word := d.word.bind fun name =>
      match resolve name with
      | some (.token t) => some t
      | _ => none
    blank := d.blank }

end Definition

end SdkAudit.Grammar
