import SdkAudit.Proofs.Outline.Declarations

/-!
# Calls in their tokens

Which round brackets call something, and what, is told from the token sequence alone: a bracket
calls the longest chain of names right before it.  This module says so in both directions, without
the nesting that the outline is built from.

* `ChainBefore` — the chains of names before a bracket, each with the tokens before it;
* `EndsInLink`, `endsInDot` — what stands before a chain that could go on;
* `CallsAt` — the chain that a bracket calls;
* `Nesting.exists_callsAt_of_mem`, `Nesting.exists_call_of_callsAt` — **a bracket makes a call
  exactly if it calls a chain**;
* `CallsAt.before_of_lt` — chains that are called later start later.
-/

namespace SdkAudit

open Nesting Outline
open ByNumber (Shows)

/-! ### Chains before brackets -/

/-- The tokens right before a place are a chain of these names at this position, and behind these
tokens. -/
def ChainBefore (ts : List Token) (k : Nat) (front : List Token) (names : List String)
    (position : Position) : Prop :=
  ∃ us rest, ts = front ++ us ++ rest ∧ (front ++ us).length = k ∧ ChainTokens names position us

/-- The tokens end with a name and what joins it to another one. -/
def EndsInLink (front : List Token) : Prop :=
  ∃ init t name joint, front = init ++ t :: joint ∧ t.name? = some name ∧ IsJoint joint

def endsInDot (front : List Token) : Bool := front.getLast?.any (·.isSign '.')

/-- The callee that a chain of names writes behind these tokens: after a dot that follows no name it
hangs on an expression. -/
def calleeBehind (front : List Token) (names : List String) : String :=
  if endsInDot front then "<expr>." ++ ".".intercalate names else ".".intercalate names

/-- Whether a chain of so many names behind these tokens declares something. -/
def declaredBehind (flavor : Flavor) (front : List Token) (count : Nat) (after : List Token) :
    Bool :=
  front.getLast?.any (declaredAfter flavor · count after)

/-- The bracket with so many tokens before it calls the chain of these names, which stands behind
these tokens. -/
structure CallsAt (flavor : Flavor) (ts : List Token) (k : Nat) (front : List Token)
    (names : List String) (position : Position) : Prop where
  bracket : SignAt ts k '('
  chain : ChainBefore ts k front names position
  /-- The chain does not go on to the left. -/
  longest : ¬ EndsInLink front
  /-- Its last name is no word that is never called. -/
  callable : names.getLast?.any (controlWords.contains ·) = false
  /-- It declares nothing, or hangs on an expression. -/
  undeclared : endsInDot front = true ∨
    ∀ j, Pairs ts k j → declaredBehind flavor front names.length (ts.drop (j + 1)) = false

variable {flavor : Flavor} {ts front front' us rest after following : List Token} {n : Nesting}
  {g : Group} {k k' : Nat} {names names' : List String} {position position' : Position}
  {call : Call}

theorem IsJoint.getLast?_isSign {joint : List Token} (h : IsJoint joint) :
    joint.getLast?.any (·.isSign '.') = true := by
  cases h with
  | dot hdot => exact hdot
  | marked _ hdot => exact hdot

/-- A chain that could go on has a dot before it. -/
theorem EndsInLink.endsInDot (h : EndsInLink front) : endsInDot front = true := by
  obtain ⟨init, t, name, joint, rfl, -, hjoint⟩ := h
  have hne : joint ≠ [] := by cases hjoint <;> simp
  obtain ⟨last, hlast⟩ := List.getLast?_isSome.2 hne |> Option.isSome_iff_exists.1
  have hdot := hjoint.getLast?_isSign
  rw [hlast] at hdot
  simpa [SdkAudit.endsInDot, List.getLast?_append, List.getLast?_cons, hlast] using hdot

/-! ### What stands before a chain -/

namespace Nesting

/-- What is told of the last token before a place, where an opening bracket tells no more than
nothing, is told of the nesting that ends there. -/
theorem EndsAt.any_last? (hn : n.IsProper) (hts : ts = front ++ rest)
    (h : EndsAt ts n front.length) (f : Token → Bool)
    (hf : ∀ o kind, Token.bracket? o = some (.opening kind) → f o = false) :
    n.last?.any f = front.getLast?.any f := by
  obtain ⟨outside, later, hsplit, hout, hlength⟩ := h
  obtain rfl : front = outside ++ n.tokens := by
    rw [hts] at hsplit
    exact (List.append_inj hsplit (by rw [List.length_append, hlength])).1
  cases n with
  | empty =>
    rw [tokens, List.append_nil]
    rcases hout with rfl | ⟨init, o, kind, rfl, ho⟩
    · rfl
    · simp [last?, hf o kind ho]
  | token before t => simp [last?, tokens]
  | group before kind opener inner closer =>
    simp [last?, tokens, List.getLast?_append, List.getLast?_cons]

theorem IsProper.of_foldl (h : (us.foldl .token n).IsProper) : n.IsProper := by
  induction us generalizing n with
  | nil => exact h
  | cons t us ih => exact (ih h).1

theorem endsWithDot_eq_any_last? (n : Nesting) (hn : n.IsProper) :
    n.endsWithDot = n.last?.any (·.isSign '.') := by
  cases n with
  | empty | token => rfl
  | group before kind opener inner closer =>
    simp [endsWithDot, last?, Token.isSign_of_bracket? hn.2.2.2 (c := '.') (by decide)]

/-- A nesting ends with a dot exactly if the tokens before the place do. -/
theorem EndsAt.endsWithDot (hn : n.IsProper) (hts : ts = front ++ rest)
    (h : EndsAt ts n front.length) : n.endsWithDot = endsInDot front := by
  rw [endsWithDot_eq_any_last? n hn, h.any_last? hn hts _ fun o kind ho =>
    Token.isSign_of_bracket? ho (by decide)]
  rfl

/-- A nesting ends with a link exactly if the tokens before the place do. -/
theorem EndsAt.link?_eq_none_iff (hn : n.IsProper) (hts : ts = front ++ rest)
    (h : EndsAt ts n front.length) : n.link? = none ↔ ¬ EndsInLink front := by
  constructor
  · rintro hnone ⟨init, t, name, joint, rfl, hname, hjoint⟩
    have hus : ∀ u ∈ t :: joint, u.bracket? = none := by
      simpa using ⟨Token.bracket?_of_name? hname, hjoint.bracket?_eq_none⟩
    obtain ⟨before, -, rfl, -⟩ := h.exists_tokens hn hus hts
    rw [link?_foldl hname hjoint] at hnone
    cases hnone
  · intro hlink
    refine Option.eq_none_iff_forall_ne_some.2 fun l hl => hlink ?_
    obtain ⟨t, joint, heq, hname, -, hjoint⟩ := exists_foldl_of_link? hl
    obtain ⟨outside, later, hsplit, -, hlength⟩ := h
    rw [hts] at hsplit
    obtain ⟨rfl, -⟩ := List.append_inj hsplit (by rw [List.length_append, hlength])
    refine ⟨outside ++ l.before.tokens, t, l.name, joint, ?_, hname, hjoint⟩
    rw [heq, tokens_foldl, List.append_assoc]

end Nesting

/-! ### Declarations -/

namespace Outline

/-- An opening bracket before a chain declares nothing. -/
theorem declaredAfter_of_opening {o : Token} {kind : Bracket} {count : Nat}
    (h : o.bracket? = some (.opening kind)) : declaredAfter flavor o count after = false := by
  have hname := Token.name?_eq_none_of_bracket? h
  have hsign : o.isSign '>' = false := Token.isSign_of_bracket? h (by decide)
  cases flavor <;> simp [declaredAfter, hname, hsign]

theorem declaredAfter_of_shows (h : Shows after following) (previous : Token) (count : Nat) :
    declaredAfter flavor previous count after = declaredAfter flavor previous count following := by
  cases flavor <;> simp only [declaredAfter, h.opensBody]

theorem isDeclaration_eq_any_last? (chain : Chain) (after : List Token) :
    isDeclaration flavor chain after
      = chain.before.last?.any (declaredAfter flavor · chain.names.length after) := by
  unfold isDeclaration
  cases chain.before.last? with
  | none => rfl
  | some previous => cases flavor <;> rfl

/-- The test of a declaration, told from the tokens around the chain and its brackets. -/
theorem isDeclaration_of_endsAt {chain : Chain} (hn : chain.before.IsProper)
    (hts : ts = front ++ rest) (h : EndsAt ts chain.before front.length)
    (hshows : Shows after following) :
    isDeclaration flavor chain after
      = declaredBehind flavor front chain.names.length following := by
  rw [isDeclaration_eq_any_last?, h.any_last? hn hts _ fun o kind ho => declaredAfter_of_opening ho,
    declaredBehind]
  simp only [declaredAfter_of_shows hshows]

theorem callee_of_endsAt {chain : Chain} (hdot : chain.onExpression = endsInDot front) :
    chain.callee = calleeBehind front chain.names := by
  rw [Chain.callee, hdot, calleeBehind]

end Outline

/-! ### The call at a bracket -/

namespace Nesting

/-- The test of a declaration at a group. -/
theorem Group.isDeclaration_iff {chain : Chain} (hn : n.IsProper) (hg : g ∈ n.groups)
    (hbefore : chain.before.IsProper) (hts : n.tokens = front ++ rest)
    (h : EndsAt n.tokens chain.before front.length) :
    isDeclaration flavor chain g.after = false ↔ ∀ j, Pairs n.tokens g.index j →
      declaredBehind flavor front chain.names.length (n.tokens.drop (j + 1)) = false := by
  rw [isDeclaration_of_endsAt hbefore hts h (shows_after_of_mem_groups hn hg)]
  have hpair : Pairs n.tokens g.index g.stop := by simpa using pairs_of_mem_groupsFrom hn hg
  constructor
  · intro hfalse j hj
    rwa [hj.unique hpair]
  · exact fun hall => hall _ hpair

/-- **What makes a call is a bracket that calls a chain.** -/
theorem exists_callsAt_of_mem (hn : n.IsProper) (h : (k, call) ∈ n.sitedCalls flavor) :
    ∃ front names position, CallsAt flavor n.tokens k front names position ∧
      call.callee = calleeBehind front names ∧ call.position = position := by
  obtain ⟨g, hg, rfl, hcall⟩ := exists_group_of_mem_sitedCalls h
  obtain ⟨hbefore, hopener, -⟩ := proper_of_mem_groupsFrom hn hg
  have hround := (Group.call?_eq_some hcall).1
  rw [hround] at hopener
  rw [Group.call?, if_pos hround, callAt?] at hcall
  split at hcall
  case h_1 => cases hcall
  case h_2 chain hchain =>
    obtain ⟨us, heq, hmake, hlink, hdot⟩ := chainTokens_of_chainEnding? hchain
    have hcallable := chainEnding?_of_chainTokens hmake hlink
    rw [← heq, hchain] at hcallable
    obtain ⟨outside, rest, hts, hout, hlength⟩ := endsAt_of_mem_groups hn hg
    have hproper : chain.before.IsProper := by
      rw [heq] at hbefore
      exact hbefore.of_foldl
    rw [heq, tokens_foldl] at hts hlength
    have hends : EndsAt n.tokens chain.before (outside ++ chain.before.tokens).length :=
      ⟨outside, us ++ rest, by simpa using hts, hout, by rw [List.length_append]⟩
    have hsplit : n.tokens = (outside ++ chain.before.tokens) ++ (us ++ rest) := by simpa using hts
    have hsign := hends.endsWithDot hproper hsplit
    split_ifs at hcall with hdeclared
    cases hcall
    refine ⟨outside ++ chain.before.tokens, chain.names, chain.position, ?_,
      callee_of_endsAt (hdot.trans hsign), rfl⟩
    exact
      { bracket := ⟨g.opener, getElem?_index hg, Token.bracket?_eq_opening.1 hopener⟩
        chain := ⟨us, rest, by simpa using hts, by simpa using hlength, hmake⟩
        longest := (hends.link?_eq_none_iff hproper hsplit).1 hlink
        callable := by
          refine Bool.eq_false_iff.2 fun hword => ?_
          rw [if_pos hword] at hcallable
          cases hcallable
        undeclared := by
          rw [Bool.and_eq_true, Bool.not_eq_true', not_and, Bool.not_eq_true] at hdeclared
          cases honExpression : chain.onExpression with
          | true => exact .inl (by rw [← hsign, ← hdot, honExpression])
          | false =>
            exact .inr ((Group.isDeclaration_iff hn hg hproper hsplit hends).1
              (hdeclared honExpression)) }

/-- **A bracket that calls a chain makes a call**, which has the names of the chain and stands where
it starts. -/
theorem exists_call_of_callsAt (hn : n.IsProper)
    (h : CallsAt flavor n.tokens k front names position) :
    ∃ call, (k, call) ∈ n.sitedCalls flavor ∧ call.callee = calleeBehind front names ∧
      call.position = position := by
  obtain ⟨us, rest, hts, hk, hchain⟩ := h.chain
  obtain ⟨t, ht, hsign⟩ := h.bracket
  obtain ⟨g, hg, hindex, -, hround⟩ :=
    exists_group_of_opening hn ht (SignAt.bracket? .round ⟨t, ht, hsign⟩ ht) [] [] []
  obtain rfl : g.index = k := by simpa using hindex
  have hends := endsAt_of_mem_groups hn hg
  rw [← hk] at hends
  obtain ⟨before, hproper, hbefore, hends⟩ := hends.exists_tokens
    (proper_of_mem_groupsFrom hn hg).1 hchain.bracket?_eq_none hts
  rw [List.append_assoc] at hts
  have hlink := (hends.link?_eq_none_iff hproper hts).2 h.longest
  have hdot := hends.endsWithDot hproper hts
  have hending : chainEnding? g.before = some ⟨names, position, before, before.endsWithDot⟩ := by
    rw [hbefore, chainEnding?_of_chainTokens hchain hlink, h.callable]
    rfl
  have hopen : (!before.endsWithDot &&
      isDeclaration flavor ⟨names, position, before, before.endsWithDot⟩ g.after) = false := by
    rcases h.undeclared with hexpression | hundeclared
    · rw [hdot, hexpression]
      rfl
    · have hdeclared : isDeclaration flavor ⟨names, position, before, before.endsWithDot⟩ g.after
          = false := (Group.isDeclaration_iff hn hg hproper hts hends).2 hundeclared
      rw [hdeclared, Bool.and_false]
  have hcall : g.call? flavor = some
      { callee := Chain.callee ⟨names, position, before, before.endsWithDot⟩
        arguments := arguments flavor g.inner
        position
        scope := scopeWithin g.around } := by
    rw [Group.call?, if_pos hround, callAt?, hending]
    simp only [hopen, Bool.false_eq_true, if_false]
  exact ⟨_, List.mem_filterMap.2 ⟨g, hg, by rw [hcall]; rfl⟩, callee_of_endsAt hdot, rfl⟩

end Nesting

/-! ### One chain before a bracket -/

theorem EndsInLink.append {back : List Token} (h : EndsInLink back) (front : List Token) :
    EndsInLink (front ++ back) := by
  obtain ⟨init, t, name, joint, rfl, hname, hjoint⟩ := h
  exact ⟨front ++ init, t, name, joint, by simp, hname, hjoint⟩

theorem Outline.exists_names_chainFrom (names : List String) (position : Position) (n : Nesting) :
    ∃ more, (chainFrom names position n).names = more ++ names := by
  induction n using Nesting.link_induction generalizing names position with
  | link n l hlink ih =>
    obtain ⟨more, hmore⟩ := ih (l.name :: names) l.position
    exact ⟨more ++ [l.name], by rw [chainFrom_of_link hlink, hmore]; simp⟩
  | last n hlink => exact ⟨[], by rw [chainFrom_of_last hlink]; rfl⟩

/-- Where the tokens of a chain end with those of another chain, it has the names of that chain
behind its own. -/
theorem ChainTokens.exists_more {pre : List Token} (h : ChainTokens names position us)
    (h' : ChainTokens names' position' (pre ++ us)) :
    ∃ more, names' = more ++ names ∧ (pre = [] ∨ EndsInLink pre ∧ more ≠ []) := by
  -- both chains are followed from the same last name, one of them through the other
  have hfollow : chainFrom names position (pre.foldl .token .empty)
      = ⟨names', position', .empty, false⟩ := by
    obtain ⟨links, t, last, rfl, hlast, -, hchain⟩ := exists_last_of_chainTokens h
    obtain ⟨links', t', last', heq, hlast', -, hchain'⟩ := exists_last_of_chainTokens h'
    rw [← List.append_assoc] at heq
    obtain ⟨rfl, ht⟩ := List.append_inj' heq rfl
    obtain rfl : t = t' := by simpa using ht
    obtain rfl : last = last' := Option.some.inj (hlast.symm.trans hlast')
    rw [← hchain, ← List.foldl_append, hchain', chainFrom_of_last rfl]
    rfl
  cases hlink : (pre.foldl Nesting.token .empty).link? with
  | none =>
    rw [chainFrom_of_last hlink, Chain.mk.injEq] at hfollow
    have hpre := congrArg Nesting.tokens hfollow.2.2.1
    rw [tokens_foldl] at hpre
    exact ⟨[], hfollow.1.symm, .inl hpre⟩
  | some l =>
    rw [chainFrom_of_link hlink] at hfollow
    obtain ⟨more, hmore⟩ := exists_names_chainFrom (l.name :: names) l.position l.before
    rw [hfollow] at hmore
    obtain ⟨t, joint, heq, hname, -, hjoint⟩ := exists_foldl_of_link? hlink
    have hpre := congrArg Nesting.tokens heq
    rw [tokens_foldl, tokens_foldl] at hpre
    exact ⟨more ++ [l.name], by simpa using hmore,
      .inr ⟨⟨_, t, l.name, joint, hpre, hname, hjoint⟩, by simp⟩⟩

/-- A bracket calls the longest of the chains before it. -/
theorem CallsAt.exists_more (h : CallsAt flavor ts k front names position)
    (h' : ChainBefore ts k front' names' position') :
    ∃ more, names = more ++ names' ∧ (front = front' ∨ more ≠ []) := by
  obtain ⟨us, rest, hts, hk, hchain⟩ := h.chain
  obtain ⟨us', rest', hts', hk', hchain'⟩ := h'
  have hsame : front ++ us = front' ++ us' := by
    rw [hts] at hts'
    exact (List.append_inj hts' (hk.trans hk'.symm)).1
  rcases List.append_eq_append_iff.1 hsame with ⟨pre, rfl, rfl⟩ | ⟨pre, rfl, rfl⟩
  · obtain ⟨more, hnames, rfl | ⟨-, hmore⟩⟩ := hchain'.exists_more hchain
    · exact ⟨more, hnames, .inl (List.append_nil _).symm⟩
    · exact ⟨more, hnames, .inr hmore⟩
  · obtain ⟨-, -, rfl | ⟨hlink, -⟩⟩ := hchain.exists_more hchain'
    · have hall : ChainTokens names position ([] ++ us) := hchain
      obtain ⟨more, hnames, -⟩ := hchain'.exists_more hall
      exact ⟨more, hnames, .inl (List.append_nil _)⟩
    · exact absurd (hlink.append front') h.longest

/-- A bracket calls one chain. -/
theorem CallsAt.unique (h : CallsAt flavor ts k front names position)
    (h' : CallsAt flavor ts k front' names' position') : front = front' ∧ names = names' := by
  obtain ⟨more, hnames, hmore⟩ := h.exists_more h'.chain
  obtain ⟨more', hnames', -⟩ := h'.exists_more h.chain
  obtain rfl : more = [] := by
    have hlength := congrArg List.length hnames
    have hlength' := congrArg List.length hnames'
    rw [List.length_append] at hlength hlength'
    exact List.length_eq_zero_iff.1 (by omega)
  exact ⟨hmore.resolve_right (by simp), hnames⟩

/-! ### Where chains start -/

namespace CallsAt

theorem length_lt (h : CallsAt flavor ts k front names position) : front.length < k := by
  obtain ⟨us, rest, -, hk, hchain⟩ := h.chain
  obtain ⟨t, us', rfl, -⟩ := hchain.exists_first
  simp only [List.length_append, List.length_cons] at hk
  omega

/-- A chain that is called starts with its first name. -/
theorem exists_first (h : CallsAt flavor ts k front names position) :
    ∃ t, ts[front.length]? = some t ∧ t.name? = names.head? ∧ t.position = position := by
  obtain ⟨us, rest, rfl, -, hchain⟩ := h.chain
  cases hchain with
  | last hname => exact ⟨_, by simp, hname, rfl⟩
  | link hname => exact ⟨_, by simp, hname, rfl⟩

/-- **Chains that are called later start later**: no chain reaches over a bracket. -/
theorem lt_of_lt (h : CallsAt flavor ts k front names position)
    (h' : CallsAt flavor ts k' front' names' position') (hlt : k < k') : k < front'.length := by
  obtain ⟨us, rest, hts, hk', hchain⟩ := h'.chain
  obtain ⟨t, ht, hsign⟩ := h.bracket
  by_contra hle
  rw [Nat.not_lt] at hle
  -- the bracket would be one of the tokens that make up the later chain
  have hmem : t ∈ us := by
    rw [← hk', List.length_append] at hlt
    rw [hts, List.append_assoc, List.getElem?_append_right hle,
      List.getElem?_append_left (by omega)] at ht
    exact List.mem_of_getElem? ht
  have hbracket : t.bracket? = some (.opening .round) := Token.bracket?_eq_opening.2 hsign
  rw [hchain.bracket?_eq_none t hmem] at hbracket
  cases hbracket

/-- Chains that are called later have a later position. -/
theorem before_of_lt (h : CallsAt flavor ts k front names position)
    (h' : CallsAt flavor ts k' front' names' position') (hlt : k < k')
    (hts : ts.Pairwise fun t u => t.position.Before u.position) :
    position.Before position' := by
  obtain ⟨t, ht, -, rfl⟩ := h.exists_first
  obtain ⟨u, hu, -, rfl⟩ := h'.exists_first
  obtain ⟨hi, rfl⟩ := List.getElem?_eq_some_iff.1 ht
  obtain ⟨hj, rfl⟩ := List.getElem?_eq_some_iff.1 hu
  have hstart := h.lt_of_lt h' hlt
  have hlength := h.length_lt
  exact List.pairwise_iff_getElem.1 hts _ _ hi hj (by omega)

end CallsAt

end SdkAudit
