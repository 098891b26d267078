import SdkAudit.Compliance
import SdkAudit.Proofs.Outline.Arguments
import SdkAudit.Proofs.Outline.ChainTokens
import SdkAudit.Proofs.Outline.Faultless

/-!
# Declarations of functions

A chain of names with round brackets behind it may call a function or declare one.  The outline
tells the two apart by a single token before the chain, and after a return type with type arguments
by what follows the brackets.  This module says how functions are declared, whatever stands in their
types and parameters, and which of the declarations are told from calls.

* `Heading`, `Heads`, `Declares` — the declarations of functions in Kotlin and Dart;
* `Heading.escapes` — those that are taken for calls;
* `Outline.chainEnding?_of_chainTokens` — **tokens that make up a chain are followed as a chain**;
* `Nesting.shows_after_of_mem_groupsFrom` — what is known of the tokens after a group;
* `Nesting.Group.call?_of_declares` — **what a declaration gives for a call**;
* `calls_of_declarations` — which declarations are calls, and what they initialize;
* `calls_nullable_declaration` — a function with a nullable return type is taken for a call.
-/

namespace SdkAudit

open Nesting Outline
open ByNumber (Shows)

/-! ### Declarations -/

/-- In these tokens every angle bracket has its partner; the tip of an arrow is no bracket. -/
inductive AngleBalanced : List Token → Prop
  | nil : AngleBalanced []
  | token {before : List Token} {t : Token} :
      AngleBalanced before → t.isSign '<' = false → t.isSign '>' = false →
      AngleBalanced (before ++ [t])
  | arrow {before : List Token} {shaft tip : Token} :
      AngleBalanced before → (shaft.isSign '-' || shaft.isSign '=') = true →
      tip.isSign '>' = true → AngleBalanced (before ++ [shaft, tip])
  | group {before inner : List Token} {opener closer : Token} :
      AngleBalanced before → opener.isSign '<' = true → AngleBalanced inner →
      closer.isSign '>' = true → AngleBalanced (before ++ opener :: (inner ++ [closer]))

/-- These tokens are a list in angle brackets, or there is none. -/
inductive Angles : Bool → List Token → Prop
  | absent : Angles false []
  | present {opener closer : Token} {inner : List Token} :
      opener.isSign '<' = true → AngleBalanced inner → closer.isSign '>' = true →
      Angles true (opener :: (inner ++ [closer]))

/-- These tokens are a question mark, or there is none. -/
inductive QuestionMark : Bool → List Token → Prop
  | absent : QuestionMark false []
  | present {t : Token} : t.isSign '?' = true → QuestionMark true [t]

/-- What a function has before its parameters. -/
inductive Heading where
  /-- In Kotlin: perhaps type parameters, and its name behind those of its receiver. -/
  | function (generic : Bool) (names : List String)
  /-- In Dart: the name of its return type, which may have type arguments and may be nullable, and
  its own name, which may have type parameters. -/
  | typed (type : String) (generic nullable : Bool) (name : String) (parametric : Bool)
deriving DecidableEq, Repr

/-- The tokens of a heading. -/
inductive Heads : Flavor → Heading → List Token → Prop
  | function {word : Token} {types chain : List Token} {generic : Bool} {names : List String}
      {position : Position} :
      word.isName "fun" = true → Angles generic types → ChainTokens names position chain →
      Heads .kotlin (.function generic names) (word :: types ++ chain)
  | typed {t u : Token} {arguments mark parameters : List Token} {type name : String}
      {generic nullable parametric : Bool} :
      t.name? = some type → Angles generic arguments → QuestionMark nullable mark →
      u.name? = some name → Angles parametric parameters →
      Heads .dart (.typed type generic nullable name parametric)
        (t :: arguments ++ mark ++ u :: parameters)

/-- These tokens begin with the body of a Dart function. -/
inductive BeginsBody : List Token → Prop
  | block {t : Token} {rest : List Token} : t.isSign '\x7b' = true → BeginsBody (t :: rest)
  | arrow {t u : Token} {rest : List Token} :
      t.isSign '=' = true → u.isSign '>' = true → BeginsBody (t :: u :: rest)
  | async {t : Token} {rest : List Token} : t.isName "async" = true → BeginsBody (t :: rest)
  | syncStar {t u : Token} {rest : List Token} :
      t.isName "sync" = true → u.isSign '*' = true → BeginsBody (t :: u :: rest)

/-- The bracket with so many tokens before it opens the parameters of a function with this heading.
Before the heading may stand anything, such as modifiers or the library of the return type; in Dart
the body follows the parameters. -/
structure Declares (flavor : Flavor) (ts : List Token) (k : Nat) (heading : Heading) : Prop where
  bracket : SignAt ts k '('
  heads : ∃ front head rest, ts = front ++ head ++ rest ∧ (front ++ head).length = k ∧
    Heads flavor heading head
  body : flavor = .dart → ∃ j, Pairs ts k j ∧ BeginsBody (ts.drop (j + 1))

namespace Heading

/-- The name of the function, behind those of its receiver. -/
def callee : Heading → String
  | .function _ names => ".".intercalate names
  | .typed _ _ _ name _ => name

/-- Whether the declaration is taken for a call: in Kotlin one with type parameters, in Dart one
with a nullable return type, or whose return type is named like a word that may stand before a
call. -/
def escapes : Heading → Bool
  | .function generic names => generic && !names.getLast?.any (controlWords.contains ·)
  | .typed type generic nullable name parametric =>
    !parametric && !controlWords.contains name &&
      (nullable || !generic && expressionWords.contains type)

end Heading

variable {flavor : Flavor} {ts us front rest : List Token} {n : Nesting} {k : Nat}
  {names : List String} {position : Position} {previous t : Token}

/-! ### Tokens that stop a chain -/

/-- To the left of a chain this token is no part of it, and stands in the same group. -/
structure Token.StopsChain (t : Token) : Prop where
  no_bracket : t.bracket? = none
  no_dot : t.isSign '.' = false

theorem Token.bracket?_of_name? {name : String} (h : t.name? = some name) : t.bracket? = none := by
  refine Option.eq_none_iff_forall_ne_some.2 fun sign hb => ?_
  simp [Token.name?_eq_none_of_bracket? hb] at h

theorem Token.bracket?_of_isSign {c : Char} (h : t.isSign c = true)
    (hc : c ∉ ['(', ')', '[', ']', '\x7b', '\x7d']) : t.bracket? = none := by
  refine Option.eq_none_iff_forall_ne_some.2 fun sign hb => ?_
  simp [Token.isSign_of_bracket? hb hc] at h

theorem Token.stopsChain_of_name? {name : String} (h : t.name? = some name) : t.StopsChain where
  no_bracket := bracket?_of_name? h
  no_dot := by
    refine Bool.eq_false_iff.2 fun hdot => ?_
    simp [Token.name?_of_isSign hdot] at h

theorem Token.stopsChain_of_isSign {c : Char} (h : t.isSign c = true)
    (hc : c ∉ ['(', ')', '[', ']', '\x7b', '\x7d']) (hdot : c ≠ '.') : t.StopsChain where
  no_bracket := bracket?_of_isSign h hc
  no_dot := Token.isSign_of_isSign h hdot

/-! ### Chains from their tokens -/

theorem IsJoint.bracket?_eq_none {joint : List Token} (h : IsJoint joint) :
    ∀ t ∈ joint, t.bracket? = none := by
  cases h with
  | dot hdot => simpa using Token.bracket?_of_isSign hdot (by decide)
  | marked hmark hdot =>
    rw [Bool.or_eq_true] at hmark
    simpa using ⟨hmark.elim (Token.bracket?_of_isSign · (by decide))
      (Token.bracket?_of_isSign · (by decide)), Token.bracket?_of_isSign hdot (by decide)⟩

theorem ChainTokens.bracket?_eq_none (h : ChainTokens names position us) :
    ∀ t ∈ us, t.bracket? = none := by
  induction h with
  | last hname => simpa using Token.bracket?_of_name? hname
  | link hname hjoint _ ih =>
    intro t ht
    simp only [List.mem_cons, List.mem_append] at ht
    rcases ht with rfl | hmem | hmem
    · exact Token.bracket?_of_name? hname
    · exact hjoint.bracket?_eq_none t hmem
    · exact ih t hmem

namespace Nesting

/-- A token that is no bracket is the last one of what stands before the next place. -/
theorem EndsAt.exists_token (hn : n.IsProper) (h : EndsAt ts n (k + 1)) (ht : ts[k]? = some t)
    (hb : t.bracket? = none) : ∃ before : Nesting, before.IsProper ∧ n = .token before t ∧
      EndsAt ts before k := by
  cases n with
  | empty =>
    obtain ⟨o, kind, ho, hopener⟩ := h.empty
    obtain rfl := Option.some.inj (ht.symm.trans ho)
    simp [hopener] at hb
  | token before u =>
    obtain ⟨j, hj, hu, hbefore⟩ := h.token
    obtain rfl := Nat.succ.inj hj
    obtain rfl := Option.some.inj (ht.symm.trans hu)
    exact ⟨before, hn.1, rfl, hbefore⟩
  | group before kind opener inner closer =>
    obtain ⟨i, j, hj, -, hcloser, -, -⟩ := h.group hn
    obtain rfl := Nat.succ.inj hj
    obtain rfl := Option.some.inj (ht.symm.trans hcloser)
    simp [hn.2.2.2] at hb

/-- Tokens that are no brackets are the last ones of what stands before the next place. -/
theorem EndsAt.exists_tokens (hn : n.IsProper) (hus : ∀ t ∈ us, t.bracket? = none)
    (hts : ts = front ++ us ++ rest) (h : EndsAt ts n (front ++ us).length) :
    ∃ before : Nesting, before.IsProper ∧ n = us.foldl .token before ∧
      EndsAt ts before front.length := by
  induction us using List.reverseRecOn generalizing n rest with
  | nil => exact ⟨n, hn, rfl, by simpa using h⟩
  | append_singleton us t ih =>
    rw [← List.append_assoc, List.length_append, List.length_singleton] at h
    have ht : ts[(front ++ us).length]? = some t := by simp [hts]
    obtain ⟨m, hm, rfl, hbefore⟩ := h.exists_token hn ht (hus t (by simp))
    have hrest : ts = front ++ us ++ t :: rest := by simp [hts]
    obtain ⟨before, hproper, rfl, hends⟩ := ih hm (fun u hu => hus u (by simp [hu])) hrest hbefore
    exact ⟨before, hproper, by rw [List.foldl_append]; rfl, hends⟩

/-- A name and what joins it to the next one are a link. -/
theorem link?_foldl {name : String} {joint : List Token} (hname : t.name? = some name)
    (hjoint : IsJoint joint) (before : Nesting) :
    ((t :: joint).foldl .token before).link? = some ⟨name, t.position, before⟩ := by
  cases hjoint with
  | dot hdot => simp [link?, named?, hdot, hname]
  | @marked mark dot hmark hdot =>
    rw [Bool.or_eq_true] at hmark
    have hnone : mark.name? = none := by
      rcases hmark with hmark | hmark <;> exact Token.name?_of_isSign hmark
    simp [link?, named?, marked?, hdot, hnone, hname, hmark]

end Nesting

namespace Outline

/-- From the last name of a chain all its tokens are followed. -/
theorem exists_last_of_chainTokens (h : ChainTokens names position us) :
    ∃ links t last, us = links ++ [t] ∧ t.name? = some last ∧ names.getLast? = some last ∧
      ∀ before : Nesting, chainFrom [last] t.position (links.foldl .token before)
        = chainFrom names position before := by
  induction h with
  | @last t name hname => exact ⟨[], t, name, rfl, hname, rfl, fun _ => rfl⟩
  | @link t name names position joint us hname hjoint hchain ih =>
    obtain ⟨links, u, last, rfl, hlast, hnames, hfollow⟩ := ih
    refine ⟨t :: (joint ++ links), u, last, by simp, hlast, by simp [List.getLast?_cons, hnames],
      fun before => ?_⟩
    rw [← List.cons_append, List.foldl_append, hfollow,
      chainFrom_of_link (link?_foldl hname hjoint before)]

/-- **Tokens that make up a chain are followed as a chain**, unless it ends with a word that is
never called, where no link is left before them. -/
theorem chainEnding?_of_chainTokens (h : ChainTokens names position us) {before : Nesting}
    (hlink : before.link? = none) :
    chainEnding? (us.foldl .token before)
      = if names.getLast?.any (controlWords.contains ·) then none
        else some ⟨names, position, before, before.endsWithDot⟩ := by
  obtain ⟨links, t, last, rfl, hlast, hnames, hfollow⟩ := exists_last_of_chainTokens h
  rw [List.foldl_append, List.foldl_cons, List.foldl_nil, chainEnding?, hlast, hnames]
  simp only [Option.any_some, hfollow, chainFrom_of_last hlink]

/-- Whether a chain of so many names with this token before it declares something. -/
def declaredAfter (flavor : Flavor) (previous : Token) (count : Nat) (after : List Token) : Bool :=
  match flavor with
  | .kotlin => previous.name?.any (declarationWords.contains ·)
  | .dart =>
    count == 1 &&
      match previous.name? with
      | some word => !expressionWords.contains word
      | none => previous.isSign '>' && opensBody after

theorem isDeclaration_token {before : Nesting} {onExpression : Bool} {after : List Token} :
    isDeclaration flavor ⟨names, position, .token before previous, onExpression⟩ after
      = declaredAfter flavor previous names.length after := by
  cases flavor <;> rfl

/-- A chain with another token before it is a call, if it declares nothing. -/
theorem callee_of_chainTokens (hn : n.IsProper) (h : EndsAt ts n k)
    (hts : ts = front ++ previous :: us ++ rest) (hk : (front ++ previous :: us).length = k)
    (hstops : previous.StopsChain) (hchain : ChainTokens names position us)
    (inner : Nesting) (after : List Token) (scope : ScopeId) :
    (callAt? flavor n inner after scope).map Call.callee
      = if names.getLast?.any (controlWords.contains ·) ||
          declaredAfter flavor previous names.length after then none
        else some (".".intercalate names) := by
  subst hk
  have hall : ∀ t ∈ previous :: us, t.bracket? = none := by
    simpa using ⟨hstops.no_bracket, hchain.bracket?_eq_none⟩
  obtain ⟨before, -, rfl, -⟩ := h.exists_tokens hn hall hts
  have hlink : (Nesting.token before previous).link? = none := by simp [link?, hstops.no_dot]
  rw [callAt?, List.foldl_cons, chainEnding?_of_chainTokens hchain hlink, endsWithDot,
    hstops.no_dot]
  generalize names.getLast?.any (controlWords.contains ·) = ended
  cases ended with
  | true => rfl
  | false =>
    simp only [Bool.false_or, Bool.false_eq_true, if_false, Bool.not_false, Bool.true_and,
      isDeclaration_token]
    split <;> rfl

end Outline

/-! ### What follows a group -/

namespace Nesting

/-- What is known of the tokens after a group is what follows it. -/
theorem shows_after_of_mem_groupsFrom {earlier after following : List Token}
    {around : List Opening} {g : Group} (hn : n.IsProper) (hshow : Shows after following)
    (hg : g ∈ groupsFrom earlier around after n) :
    Shows g.after ((earlier ++ (n.tokens ++ following)).drop (g.stop + 1)) := by
  induction n generalizing earlier around after following with
  | empty => simp [groupsFrom] at hg
  | token before t ih =>
    have := ih hn.1 (hshow.cons t) hg
    rwa [tokens, List.append_assoc]
  | group before kind opener inner closer ihb ihi =>
    obtain ⟨hb, hopener, hi, hcloser⟩ := hn
    have hsplit : earlier ++ ((Nesting.group before kind opener inner closer).tokens ++ following)
        = earlier ++ (before.tokens ++ opener :: (inner.tokens ++ closer :: following)) := by
      simp [tokens]
    rw [hsplit]
    simp only [groupsFrom, List.mem_append, List.mem_cons] at hg
    rcases hg with hg | rfl | hg
    · exact ihb hb ⟨_, rfl, .inr (.inr ⟨[], opener, kind, rfl, hopener⟩)⟩ hg
    · have htokens : earlier ++ (before.tokens ++ opener :: (inner.tokens ++ closer :: following))
          = earlier ++ (before.tokens ++ opener :: (inner.tokens ++ [closer])) ++ following := by
        simp
      have hlength : (earlier ++ (before.tokens ++ opener :: (inner.tokens ++ [closer]))).length
          = (earlier ++ before.tokens).length + inner.tokens.length + 1 + 1 := by
        simp only [List.length_append, List.length_cons, List.length_nil]
        omega
      rw [htokens]
      simp only [Group.stop, Opening.index]
      rwa [List.drop_left' hlength]
    · have hwithin : Shows [] (closer :: following) :=
        ⟨_, rfl, .inr (.inl ⟨closer, following, kind, rfl, hcloser⟩)⟩
      have := ihi hi hwithin hg
      simpa using this

theorem opensBody_of_beginsBody (h : BeginsBody ts) : opensBody ts = true := by
  cases h with
  | block hbrace => simp [opensBody, hbrace]
  | arrow hequals htip => simp [opensBody, hequals, htip]
  | async hword => simp [opensBody, hword]
  | syncStar hword _ => simp [opensBody, hword]

/-- Behind a group the tokens go on as far as the group knows them. -/
theorem shows_after_of_mem_groups {g : Group} (hn : n.IsProper) (hg : g ∈ n.groups) :
    Shows g.after (n.tokens.drop (g.stop + 1)) := by
  have hshow := shows_after_of_mem_groupsFrom hn (⟨[], rfl, .inl rfl⟩ : Shows [] []) hg
  rwa [List.append_nil, List.nil_append] at hshow

/-- A body that begins behind a group is seen to begin there. -/
theorem opensBody_after_of_mem_groups {g : Group} (hn : n.IsProper) (hg : g ∈ n.groups)
    (h : BeginsBody (n.tokens.drop (g.stop + 1))) : opensBody g.after = true := by
  rw [← (shows_after_of_mem_groups hn hg).opensBody]
  exact opensBody_of_beginsBody h

end Nesting

/-! ### The calls of declarations -/

/-- Behind a token, a list in angle brackets ends with its closing one. -/
theorem Angles.exists_last {generic : Bool} {types : List Token} (h : Angles generic types)
    (t : Token) : ∃ init last, t :: types = init ++ [last] ∧
      (generic = false ∧ last = t ∨ generic = true ∧ last.isSign '>' = true) := by
  cases h with
  | absent => exact ⟨[], t, rfl, .inl ⟨rfl, rfl⟩⟩
  | @present opener closer inner _ _ hcloser =>
    exact ⟨t :: opener :: inner, closer, by simp, .inr ⟨rfl, hcloser⟩⟩

/-- The last token of a return type. -/
theorem QuestionMark.exists_last {generic nullable : Bool} {arguments mark : List Token}
    (hmark : QuestionMark nullable mark) (harguments : Angles generic arguments) (t : Token) :
    ∃ init last, t :: arguments ++ mark = init ++ [last] ∧
      (nullable = true ∧ last.isSign '?' = true ∨
        nullable = false ∧
          (generic = false ∧ last = t ∨ generic = true ∧ last.isSign '>' = true)) := by
  cases hmark with
  | absent =>
    obtain ⟨init, last, heq, hlast⟩ := harguments.exists_last t
    exact ⟨init, last, by rw [heq, List.append_nil], .inr ⟨rfl, hlast⟩⟩
  | @present question hquestion => exact ⟨t :: arguments, question, rfl, .inl ⟨rfl, hquestion⟩⟩

namespace Nesting

variable {g : Group} {heading : Heading}

/-- A group that opens with a round bracket is one of round brackets. -/
theorem kind_eq_round (hn : n.IsProper) (hg : g ∈ n.groups) (h : SignAt n.tokens g.index '(') :
    g.kind = .round := by
  have hopener := (proper_of_mem_groupsFrom hn hg).2.1
  have hround := h.bracket? .round (getElem?_index hg)
  simpa [hopener] using hround

/-- A chain with another token before it, seen from the round brackets behind it. -/
theorem Group.callee_of_chainTokens (hn : n.IsProper) (hg : g ∈ n.groups) (hround : g.kind = .round)
    (hts : n.tokens = front ++ previous :: us ++ rest)
    (hk : (front ++ previous :: us).length = g.index)
    (hstops : previous.StopsChain) (hchain : ChainTokens names position us) :
    (g.call? flavor).map Call.callee
      = if names.getLast?.any (controlWords.contains ·) ||
          declaredAfter flavor previous names.length g.after then none
        else some (".".intercalate names) := by
  rw [Group.call?, if_pos hround]
  exact Outline.callee_of_chainTokens (proper_of_mem_groupsFrom hn hg).1
    (endsAt_of_mem_groups hn hg) hts hk hstops hchain _ _ _

/-- Round brackets behind a sign are no call. -/
theorem Group.call?_eq_none_of_isSign {c : Char} (hn : n.IsProper) (hg : g ∈ n.groups)
    (hts : n.tokens = front ++ [t] ++ rest) (hk : (front ++ [t]).length = g.index)
    (ht : t.isSign c = true) (hc : c ∉ ['(', ')', '[', ']', '\x7b', '\x7d']) :
    g.call? flavor = none := by
  have hends := endsAt_of_mem_groups hn hg
  rw [← hk] at hends
  obtain ⟨before, -, hbefore, -⟩ := hends.exists_tokens (proper_of_mem_groupsFrom hn hg).1
    (by simpa using Token.bracket?_of_isSign ht hc) hts
  rw [Group.call?, hbefore]
  simp [callAt?, chainEnding?, Token.name?_of_isSign ht]

/-- What a Kotlin declaration gives for a call. -/
theorem Group.call?_of_function {word : Token} {types chain : List Token} {generic : Bool}
    (hn : n.IsProper) (hg : g ∈ n.groups) (hround : g.kind = .round)
    (hts : n.tokens = front ++ (word :: types ++ chain) ++ rest)
    (hk : (front ++ (word :: types ++ chain)).length = g.index)
    (hword : word.isName "fun" = true) (htypes : Angles generic types)
    (hchain : ChainTokens names position chain) :
    (g.call? .kotlin).map Call.callee
      = if (Heading.function generic names).escapes then some (".".intercalate names)
        else none := by
  rw [Token.isName_iff] at hword
  obtain ⟨init, previous, hlast, hprevious⟩ := htypes.exists_last word
  rw [hlast] at hts hk
  have hstops : previous.StopsChain := by
    rcases hprevious with ⟨-, rfl⟩ | ⟨-, hangle⟩
    · exact Token.stopsChain_of_name? hword
    · exact Token.stopsChain_of_isSign hangle (by decide) (by decide)
  have hdeclared : ∀ after, declaredAfter .kotlin previous names.length after = !generic := by
    intro after
    rcases hprevious with ⟨rfl, rfl⟩ | ⟨rfl, hangle⟩
    · simp [declaredAfter, hword, declarationWords]
    · simp [declaredAfter, Token.name?_of_isSign hangle]
  have hsplit : n.tokens = (front ++ init) ++ previous :: chain ++ rest := by simpa using hts
  rw [Group.callee_of_chainTokens hn hg hround hsplit (by simpa using hk) hstops hchain, hdeclared,
    Heading.escapes]
  generalize names.getLast?.any (controlWords.contains ·) = ended
  cases generic <;> cases ended <;> rfl

/-- What a Dart declaration gives for a call. -/
theorem Group.call?_of_typed {t u : Token} {arguments mark parameters : List Token}
    {type name : String} {generic nullable parametric : Bool}
    (hn : n.IsProper) (hg : g ∈ n.groups) (hround : g.kind = .round)
    (hts : n.tokens = front ++ (t :: arguments ++ mark ++ u :: parameters) ++ rest)
    (hk : (front ++ (t :: arguments ++ mark ++ u :: parameters)).length = g.index)
    (htype : t.name? = some type) (harguments : Angles generic arguments)
    (hmark : QuestionMark nullable mark) (hname : u.name? = some name)
    (hparameters : Angles parametric parameters) (hbody : opensBody g.after = true) :
    (g.call? .dart).map Call.callee
      = if (Heading.typed type generic nullable name parametric).escapes then some name
        else none := by
  cases hparameters with
  | @present opener closer inner _ _ hcloser =>
    have hsplit : n.tokens = (front ++ (t :: arguments ++ mark ++ u :: opener :: inner)) ++ [closer]
        ++ rest := by simpa using hts
    rw [Group.call?_eq_none_of_isSign hn hg hsplit (by simpa using hk) hcloser (by decide)]
    rfl
  | absent =>
    obtain ⟨init, previous, hlast, hprevious⟩ := hmark.exists_last harguments t
    rw [hlast] at hts hk
    have hstops : previous.StopsChain := by
      rcases hprevious with ⟨-, hsign⟩ | ⟨-, ⟨-, rfl⟩ | ⟨-, hsign⟩⟩
      · exact Token.stopsChain_of_isSign hsign (by decide) (by decide)
      · exact Token.stopsChain_of_name? htype
      · exact Token.stopsChain_of_isSign hsign (by decide) (by decide)
    have hdeclared : declaredAfter .dart previous 1 g.after
        = !(nullable || !generic && expressionWords.contains type) := by
      rcases hprevious with ⟨rfl, hsign⟩ | ⟨rfl, ⟨rfl, rfl⟩ | ⟨rfl, hsign⟩⟩
      · have hangle := Token.isSign_of_isSign hsign (d := '>') (by decide)
        simp [declaredAfter, Token.name?_of_isSign hsign, hangle]
      · simp [declaredAfter, htype]
      · simp [declaredAfter, Token.name?_of_isSign hsign, hsign, hbody]
    have hsplit : n.tokens = (front ++ init) ++ previous :: [u] ++ rest := by simpa using hts
    rw [Group.callee_of_chainTokens hn hg hround hsplit (by simpa using hk) hstops (.last hname),
      List.length_singleton, hdeclared, Heading.escapes]
    generalize (nullable || !generic && expressionWords.contains type) = missed
    cases missed <;> simp

/-- **What a declaration gives for a call**: nothing, or one of its own name. -/
theorem Group.call?_of_declares (hn : n.IsProper) (hg : g ∈ n.groups)
    (h : Declares flavor n.tokens g.index heading) :
    (g.call? flavor).map Call.callee = if heading.escapes then some heading.callee else none := by
  have hround := kind_eq_round hn hg h.bracket
  obtain ⟨front, head, rest, hts, hk, hheads⟩ := h.heads
  cases hheads with
  | function hword htypes hchain =>
    exact Group.call?_of_function hn hg hround hts hk hword htypes hchain
  | typed htype harguments hmark hname hparameters =>
    obtain ⟨j, hpair, hbody⟩ := h.body rfl
    obtain rfl := hpair.unique (inside_of_mem_groups hn hg).pairs
    exact Group.call?_of_typed hn hg hround hts hk htype harguments hmark hname hparameters
      (opensBody_after_of_mem_groups hn hg hbody)

end Nesting

/-! ### Whole texts -/

/-- A declaration has a call at its bracket exactly if it escapes. -/
theorem exists_sitedCall_iff_escapes (hn : n.IsProper) {heading : Heading}
    (h : Declares flavor n.tokens k heading) :
    (∃ call, (k, call) ∈ n.sitedCalls flavor) ↔ heading.escapes = true := by
  constructor
  · rintro ⟨call, hmem⟩
    obtain ⟨g, hg, rfl, hcall⟩ := exists_group_of_mem_sitedCalls hmem
    have hcallee := Group.call?_of_declares hn hg h
    rw [hcall] at hcallee
    by_contra hescapes
    rw [if_neg hescapes] at hcallee
    cases hcallee
  · intro hescapes
    obtain ⟨t, ht, hsign⟩ := h.bracket
    obtain ⟨g, hg, hindex, -, -⟩ :=
      exists_group_of_opening hn ht (SignAt.bracket? .round ⟨t, ht, hsign⟩ ht) [] [] []
    obtain rfl : g.index = k := by simpa using hindex
    have hcallee := Group.call?_of_declares hn hg h
    rw [if_pos hescapes] at hcallee
    obtain ⟨call, hcall, -⟩ := Option.map_eq_some_iff.1 hcallee
    exact ⟨call, List.mem_filterMap.2 ⟨g, hg, by rw [hcall]; rfl⟩⟩

/-- The call at the bracket of a declaration has the name of the function. -/
theorem callee_of_declares (hn : n.IsProper) {heading : Heading} {call : Call}
    (h : Declares flavor n.tokens k heading) (hmem : (k, call) ∈ n.sitedCalls flavor) :
    call.callee = heading.callee := by
  obtain ⟨g, hg, rfl, hcall⟩ := exists_group_of_mem_sitedCalls hmem
  have hcallee := Group.call?_of_declares hn hg h
  rw [hcall, if_pos ((exists_sitedCall_iff_escapes hn h).1 ⟨call, hmem⟩)] at hcallee
  exact Option.some.inj hcallee

/-- Under a rule set the call is one of the initializer. -/
def CallsInitializer (rules : RuleSet) (call : Call) : Prop :=
  call.kindUnder rules = .initializer ∨
    call.kindUnder rules = .facade rules.initialization.method

theorem initializes_classify_iff {rules : RuleSet} {o : Outline} :
    rules.initializes (.structured (o.classify rules)) = true ↔
      ∃ call ∈ o.calls.toList, CallsInitializer rules call := by
  simp [RuleSet.initializes, initializerCall?, classify, CallsInitializer, and_or_left, exists_or]

/-- **Which declarations are calls**, and what they initialize. -/
theorem calls_of_declarations {source : String} {o : Outline}
    (h : Scan.tokenOutline flavor source = .ok o) :
    ∃ ts n, Lexer.tokens flavor source.toList = .ok ts ∧ Nesting.ofTokens ts = .ok n ∧
      (n.sitedCalls flavor).map Prod.snd = o.calls.toList ∧
      (∀ k heading, Declares flavor ts k heading →
        ((∃ call, (k, call) ∈ n.sitedCalls flavor) ↔ heading.escapes = true) ∧
        ∀ call, (k, call) ∈ n.sitedCalls flavor → call.callee = heading.callee) ∧
      ∀ rules : RuleSet, rules.initializes (.structured (o.classify rules)) = true ↔
        ∃ k call, (k, call) ∈ n.sitedCalls flavor ∧ CallsInitializer rules call ∧
          ∀ heading, Declares flavor ts k heading → heading.escapes = true := by
  obtain ⟨ts, n, hlex, hread, rfl⟩ := tokenOutline_eq_ok_iff.1 h
  obtain ⟨hn, rfl⟩ := ofTokens_eq_ok_iff.1 hread
  refine ⟨n.tokens, n, hlex, hread, map_sitedCalls hn, ?_, ?_⟩
  · intro k heading hdeclares
    exact ⟨exists_sitedCall_iff_escapes hn hdeclares,
      fun call hmem => callee_of_declares hn hdeclares hmem⟩
  · intro rules
    rw [initializes_classify_iff, ← map_sitedCalls hn]
    constructor
    · rintro ⟨call, hcall, hkind⟩
      obtain ⟨⟨k, _⟩, hmem, rfl⟩ := List.mem_map.1 hcall
      exact ⟨k, _, hmem, hkind, fun heading hdeclares =>
        (exists_sitedCall_iff_escapes hn hdeclares).1 ⟨_, hmem⟩⟩
    · rintro ⟨k, call, hmem, hkind, -⟩
      exact ⟨call, List.mem_map.2 ⟨(k, call), hmem, rfl⟩, hkind⟩

/-- For instance no call is made where a Kotlin function is declared. -/
theorem calls_function_declaration :
    ∃ ts n, Lexer.tokens .kotlin "fun engage() \x7b \x7d".toList = .ok ts ∧
      Nesting.ofTokens ts = .ok n ∧ Declares .kotlin ts 2 (.function false ["engage"]) ∧
      ¬ ∃ call, (2, call) ∈ n.sitedCalls .kotlin := by
  have htokens : (Lexer.tokens .kotlin "fun engage() \x7b \x7d".toList).toOption = some [
      ⟨.name "fun", ⟨0, 0⟩, 0, 3⟩, ⟨.name "engage", ⟨0, 4⟩, 4, 10⟩, ⟨.sign '(', ⟨0, 10⟩, 10, 11⟩,
      ⟨.sign ')', ⟨0, 11⟩, 11, 12⟩, ⟨.sign '\x7b', ⟨0, 13⟩, 13, 14⟩,
      ⟨.sign '\x7d', ⟨0, 15⟩, 15, 16⟩] := by
    decide +kernel
  have hok : (Scan.tokenOutline .kotlin "fun engage() \x7b \x7d").toOption.isSome = true := by
    decide +kernel
  obtain ⟨o, ho⟩ := Option.isSome_iff_exists.1 hok
  obtain ⟨ts, n, hlex, hread, -, hdeclared, -⟩ :=
    calls_of_declarations (toOption_eq_some_iff.1 ho)
  have hdeclares : Declares .kotlin ts 2 (.function false ["engage"]) := by
    rw [hlex] at htokens
    cases htokens
    exact
      { bracket := ⟨_, rfl, rfl⟩
        heads := ⟨[], [_] ++ [_], _, rfl, rfl, .function rfl .absent (.last rfl)⟩
        body := nofun }
  refine ⟨ts, n, hlex, hread, hdeclares, fun hcall => ?_⟩
  exact absurd ((hdeclared 2 _ hdeclares).1.1 hcall) (by decide)

/-- **A function with a nullable return type is taken for a call**, and initializes the text if it
is named like the initializer. -/
theorem calls_nullable_declaration :
    ∃ ts n, Lexer.tokens .dart "String? engage() \x7b \x7d".toList = .ok ts ∧
      Nesting.ofTokens ts = .ok n ∧
      Declares .dart ts 3 (.typed "String" false true "engage" false) ∧
      (∃ call, (3, call) ∈ n.sitedCalls .dart ∧ call.callee = "engage") ∧
      (Catalogue.ruleSet .flutter).initializes
        (.structured ((ofNesting .dart n).classify (Catalogue.ruleSet .flutter))) = true := by
  have htokens : (Lexer.tokens .dart "String? engage() \x7b \x7d".toList).toOption = some [
      ⟨.name "String", ⟨0, 0⟩, 0, 6⟩, ⟨.sign '?', ⟨0, 6⟩, 6, 7⟩, ⟨.name "engage", ⟨0, 8⟩, 8, 14⟩,
      ⟨.sign '(', ⟨0, 14⟩, 14, 15⟩, ⟨.sign ')', ⟨0, 15⟩, 15, 16⟩,
      ⟨.sign '\x7b', ⟨0, 17⟩, 17, 18⟩, ⟨.sign '\x7d', ⟨0, 19⟩, 19, 20⟩] := by
    decide +kernel
  have hcheck : ((Lexer.tokens .dart "String? engage() \x7b \x7d".toList).toOption.any fun ts =>
      (Nesting.ofTokens ts).toOption.any fun n =>
        ((n.sitedCalls .dart).any fun c => c.1 = 3 ∧ c.2.callee = "engage") &&
          (Catalogue.ruleSet .flutter).initializes
            (.structured ((ofNesting .dart n).classify (Catalogue.ruleSet .flutter)))) = true := by
    decide +kernel
  simp only [Option.any_eq_true, Bool.and_eq_true, List.any_eq_true, decide_eq_true_eq] at hcheck
  obtain ⟨ts, hlex, n, hread, ⟨⟨_, call⟩, hcall, rfl, hcallee⟩, hinitializes⟩ := hcheck
  refine ⟨ts, n, toOption_eq_some_iff.1 hlex, toOption_eq_some_iff.1 hread, ?_,
    ⟨call, hcall, hcallee⟩, hinitializes⟩
  rw [hlex] at htokens
  cases htokens
  exact
    { bracket := ⟨_, rfl, rfl⟩
      heads := ⟨[], [_, _, _], _, rfl, rfl, .typed rfl .absent (.present rfl) rfl .absent⟩
      body := fun _ => ⟨4, ⟨.round, [_, _, _], [], _, _, _, rfl, rfl, rfl, rfl, .nil, rfl⟩,
        .block rfl⟩ }

end SdkAudit
