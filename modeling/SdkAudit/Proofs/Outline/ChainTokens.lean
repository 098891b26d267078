import SdkAudit.Proofs.Outline.Arena
import SdkAudit.Proofs.Outline.Chain

/-!
# Chains in their tokens

Every call of a token sequence is a chain of names with a round bracket behind it.  The chain is
followed to the left from the bracket; what it takes on its way are the tokens that make it up.

* `IsJoint`, `ChainTokens` — the tokens that make up a chain of names;
* `Outline.chainTokens_of_chainFrom` — **following a chain takes the tokens that make it up**;
* `Outline.exists_chain_of_mem_calls` — **a call is a chain of names before a bracket**;
* `ChainTokens.eq_pair` — the chain of two names that a dot joins.
-/

namespace SdkAudit

/-- These tokens join two names of a chain: a dot, or one behind a question mark or an exclamation
mark. -/
inductive IsJoint : List Token → Prop
  | dot {dot : Token} : dot.isSign '.' = true → IsJoint [dot]
  | marked {mark dot : Token} : (mark.isSign '?' || mark.isSign '!') = true →
      dot.isSign '.' = true → IsJoint [mark, dot]

/-- These tokens make up a chain of names that starts at a position. -/
inductive ChainTokens : List String → Position → List Token → Prop
  | last {t : Token} {name : String} : t.name? = some name → ChainTokens [name] t.position [t]
  | link {t : Token} {name : String} {names : List String} {position : Position}
      {joint ts : List Token} :
      t.name? = some name → IsJoint joint → ChainTokens names position ts →
      ChainTokens (name :: names) t.position (t :: (joint ++ ts))

open Nesting

namespace Nesting

theorem tokens_foldl (us : List Token) (before : Nesting) :
    (us.foldl .token before).tokens = before.tokens ++ us := by
  induction us generalizing before with
  | nil => exact (List.append_nil _).symm
  | cons t us ih =>
    rw [List.foldl_cons, ih, tokens, List.append_assoc]
    rfl

/-- A link is a name and what joins it to the next one. -/
theorem exists_foldl_of_link? {n : Nesting} {l : Link} (h : n.link? = some l) :
    ∃ t joint, n = (t :: joint).foldl .token l.before ∧ t.name? = some l.name ∧
      t.position = l.position ∧ IsJoint joint := by
  cases n with
  | empty | group => cases h
  | token rest dot =>
    rw [link?] at h
    split_ifs at h with hdot
    rw [Option.orElse_eq_some] at h
    rcases h with hnamed | ⟨-, hmarked⟩
    · obtain ⟨t, rfl, hname, hposition⟩ := named?_eq_some hnamed
      exact ⟨t, [dot], rfl, hname, hposition, .dot hdot⟩
    · cases rest with
      | empty | group => cases hmarked
      | token rest mark =>
        rw [marked?] at hmarked
        split_ifs at hmarked with hmark
        obtain ⟨t, rfl, hname, hposition⟩ := named?_eq_some hmarked
        exact ⟨t, [mark, dot], rfl, hname, hposition, .marked hmark hdot⟩

end Nesting

namespace Outline

/-- **Following a chain takes the tokens that make it up** off the end of a nesting, until no link
is left. -/
theorem chainTokens_of_chainFrom {names : List String} {position : Position} {ts : List Token}
    (h : ChainTokens names position ts) (n : Nesting) :
    ∃ us, ts.foldl .token n = us.foldl .token (chainFrom names position n).before ∧
      ChainTokens (chainFrom names position n).names (chainFrom names position n).position us ∧
      (chainFrom names position n).before.link? = none ∧
      (chainFrom names position n).onExpression
        = (chainFrom names position n).before.endsWithDot := by
  induction n using Nesting.link_induction generalizing names position ts with
  | link n l hlink ih =>
    obtain ⟨t, joint, htokens, hname, hposition, hjoint⟩ := exists_foldl_of_link? hlink
    obtain ⟨us, hus, hchain, hends⟩ := ih (.link hname hjoint h)
    rw [hposition] at hus hchain hends
    rw [chainFrom_of_link hlink]
    refine ⟨us, ?_, hchain, hends⟩
    rw [← hus, htokens, ← List.foldl_append, List.cons_append]
  | last n hlink =>
    rw [chainFrom_of_last hlink]
    exact ⟨ts, rfl, h, hlink, rfl⟩

/-- The chain that ends a nesting takes its tokens off the end, and no link is left before it. -/
theorem chainTokens_of_chainEnding? {n : Nesting} {chain : Chain}
    (h : chainEnding? n = some chain) :
    ∃ ts, n = ts.foldl .token chain.before ∧ ChainTokens chain.names chain.position ts ∧
      chain.before.link? = none ∧ chain.onExpression = chain.before.endsWithDot := by
  cases n with
  | empty | group => cases h
  | token before t =>
    rw [chainEnding?] at h
    split at h
    case h_1 name hname =>
      split_ifs at h
      cases h
      exact chainTokens_of_chainFrom (.last hname) before
    case h_2 => cases h

/-- **A call is a chain of names before a bracket**, and stands where the chain starts. -/
theorem exists_chain_of_mem_calls {flavor : Flavor} {n : Nesting} (hn : n.IsProper) {call : Call}
    (h : call ∈ (ofNesting flavor n).calls) :
    ∃ (chain : Chain) (front ts : List Token) (bracket : Token) (later : List Token),
      n.tokens = front ++ (ts ++ bracket :: later) ∧
      bracket.lexeme = .sign '(' ∧ ChainTokens chain.names chain.position ts ∧
      call.callee = chain.callee ∧ call.position = chain.position := by
  rw [← Array.mem_toList_iff, calls_ofNesting hn] at h
  obtain ⟨g, hg, hcall⟩ := List.mem_filterMap.1 h
  have hopener := (proper_of_mem_groupsFrom hn hg).2.1
  rw [(Group.call?_eq_some hcall).1] at hopener
  obtain ⟨later, hlater⟩ := tokens_eq_of_mem_groupsFrom hg
  obtain ⟨outside, hsplit, -⟩ := earlier_of_mem_groupsFrom hn hg
  rw [Group.call?, if_pos (Group.call?_eq_some hcall).1, callAt?] at hcall
  split at hcall
  case h_1 => cases hcall
  case h_2 chain hchain =>
    split_ifs at hcall
    cases hcall
    obtain ⟨ts, hends, hmake, -⟩ := chainTokens_of_chainEnding? hchain
    have hts : g.before.tokens = chain.before.tokens ++ ts := by rw [hends, tokens_foldl]
    refine ⟨chain, outside ++ chain.before.tokens, ts, g.opener,
      g.inner.tokens ++ g.closer :: later, ?_,
      Token.isSign_iff.1 (Token.bracket?_eq_opening.1 hopener), hmake, rfl, rfl⟩
    rw [List.nil_append] at hlater
    rw [hlater, hsplit, hts]
    simp

end Outline

/-- A chain starts with its first token. -/
theorem ChainTokens.exists_first {names : List String} {position : Position} {ts : List Token}
    (h : ChainTokens names position ts) : ∃ t rest, ts = t :: rest ∧ t.position = position := by
  cases h with
  | last => exact ⟨_, [], rfl, rfl⟩
  | link => exact ⟨_, _, rfl, rfl⟩

/-- A joint starts with a dot, a question mark or an exclamation mark. -/
theorem IsJoint.exists_sign {joint : List Token} (h : IsJoint joint) :
    ∃ sign rest, joint = sign :: rest ∧
      (sign.isSign '.' = true ∧ rest = [] ∨ (sign.isSign '?' || sign.isSign '!') = true) := by
  cases h with
  | @dot sign hdot => exact ⟨sign, [], rfl, .inl ⟨hdot, rfl⟩⟩
  | @marked mark sign hmark _ => exact ⟨mark, [sign], rfl, .inr hmark⟩

/-- Where a name, a dot, another name and a bracket stand, the chain of names that a bracket follows
is the chain of these two. -/
theorem ChainTokens.eq_pair {names : List String} {position : Position} {ts later more : List Token}
    (h : ChainTokens names position ts) {t dot u bracket bracket' : Token} {first second : String}
    (ht : t.name? = some first) (hdot : dot.lexeme = .sign '.') (hu : u.name? = some second)
    (hbracket : bracket.lexeme = .sign '(') (hbracket' : bracket'.lexeme = .sign '(')
    (heq : ts ++ bracket' :: later = t :: dot :: u :: bracket :: more) :
    names = [first, second] := by
  cases h with
  | last =>
    -- the bracket would stand where the dot stands
    obtain ⟨-, rfl, -⟩ : _ ∧ bracket' = dot ∧ _ := by simpa using heq
    rw [hdot] at hbracket'
    cases hbracket'
  | @link t' name names position joint ts hname hjoint hchain =>
    obtain ⟨rfl, hrest⟩ := List.cons.inj heq
    obtain rfl : name = first := Option.some.inj (hname.symm.trans ht)
    obtain ⟨sign, rest, rfl, ⟨-, rfl⟩ | hmark⟩ := hjoint.exists_sign
    · obtain ⟨-, hrest⟩ : _ ∧ ts ++ bracket' :: later = u :: bracket :: more := by
        simpa using hrest
      cases hchain with
      | @last u' name hname' =>
        obtain ⟨rfl, -⟩ := List.cons.inj hrest
        obtain rfl : name = second := Option.some.inj (hname'.symm.trans hu)
        rfl
      | @link u' name names position joint ts _ hjoint' _ =>
        -- the chain would go on at the bracket
        obtain ⟨sign', rest', rfl, hsign⟩ := hjoint'.exists_sign
        obtain ⟨-, rfl, -⟩ : _ ∧ sign' = bracket ∧ _ := by simpa using hrest
        simp [Token.isSign, hbracket] at hsign
    · obtain ⟨rfl, -⟩ : sign = dot ∧ _ := by simpa using hrest
      simp [Token.isSign, hdot] at hmark

end SdkAudit
