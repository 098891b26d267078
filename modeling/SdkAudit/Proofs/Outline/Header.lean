import SdkAudit.Proofs.Outline.Arena

/-!
# What stands before a brace

Whether a pair of braces handles errors is told from the tokens right before it.  A nesting holds
these tokens as a tree; this module says what is told in terms of the token sequence alone.

* `NameAt`, `SignAt` — what stands at a place of a token sequence;
* `Nesting.EndsAt` — a nesting is what stands before a place inside the group around it;
* `OpensGuarded` — the headers that make a pair of braces a guarded scope;
* `guards_iff` — **the test of a header is exact**.
-/

namespace SdkAudit

/-- The token with so many tokens before it is this name. -/
def NameAt (ts : List Token) (i : Nat) (word : String) : Prop :=
  ∃ t, ts[i]? = some t ∧ t.name? = some word

/-- The token with so many tokens before it is this sign. -/
def SignAt (ts : List Token) (i : Nat) (c : Char) : Prop :=
  ∃ t, ts[i]? = some t ∧ t.isSign c = true

theorem Token.name?_eq_none_of_bracket? {t : Token} {sign : BracketSign}
    (h : t.bracket? = some sign) : t.name? = none := by
  unfold bracket? at h
  unfold name?
  cases hl : t.lexeme <;> simp_all

theorem SignAt.bracket? {ts : List Token} {i : Nat} {t : Token} (kind : Bracket)
    (h : SignAt ts i kind.opener) (hi : ts[i]? = some t) :
    t.bracket? = some (.opening kind) := by
  obtain ⟨u, hu, hsign⟩ := h
  rw [hi] at hu
  cases hu
  exact Token.bracket?_eq_opening.2 hsign

namespace Nesting

/-! ### Reading backwards -/

/-- A nesting is all that stands before a place of a token sequence inside the group around that
place. -/
def EndsAt (ts : List Token) (before : Nesting) (k : Nat) : Prop :=
  ∃ outside rest, ts = outside ++ before.tokens ++ rest ∧
    (outside = [] ∨ ∃ front o kind, outside = front ++ [o] ∧
      Token.bracket? o = some (.opening kind)) ∧
    outside.length + before.tokens.length = k

variable {ts : List Token} {before : Nesting} {n : Nesting} {k : Nat}

theorem endsAt_of_mem_groups (hn : n.IsProper) {g : Group} (hg : g ∈ n.groups) :
    EndsAt n.tokens g.before g.index := by
  obtain ⟨later, hlater⟩ := tokens_eq_of_mem_groupsFrom hg
  obtain ⟨outside, hsplit, hout⟩ := earlier_of_mem_groupsFrom hn hg
  rw [List.nil_append, hsplit] at hlater
  refine ⟨outside, _, hlater, hout, ?_⟩
  rw [Opening.index, hsplit, List.length_append]

/-- Before the beginning of a group stands its bracket. -/
theorem EndsAt.empty (h : EndsAt ts .empty (k + 1)) :
    ∃ o kind, ts[k]? = some o ∧ o.bracket? = some (.opening kind) := by
  obtain ⟨outside, rest, rfl, hout | ⟨front, o, kind, rfl, ho⟩, hlen⟩ := h
  · subst hout
    simp [tokens] at hlen
  · obtain rfl : front.length = k := by simpa [tokens] using hlen
    exact ⟨o, kind, by simp [tokens], ho⟩

theorem EndsAt.token {t : Token} (h : EndsAt ts (.token before t) k) :
    ∃ j, k = j + 1 ∧ ts[j]? = some t ∧ EndsAt ts before j := by
  obtain ⟨outside, rest, rfl, hout, hlen⟩ := h
  simp only [tokens, List.length_append, List.length_singleton] at hlen
  refine ⟨outside.length + before.tokens.length, by omega, ?_, outside, t :: rest, ?_, hout, rfl⟩
  · rw [tokens, ← List.append_assoc, List.append_assoc, ← List.length_append]
    simp
  · simp [tokens]

theorem EndsAt.group {kind : Bracket} {opener closer : Token} {inner : Nesting}
    (hp : (Nesting.group before kind opener inner closer).IsProper)
    (h : EndsAt ts (.group before kind opener inner closer) k) :
    ∃ i j, k = j + 1 ∧ ts[i]? = some opener ∧ ts[j]? = some closer ∧ Pairs ts i j ∧
      EndsAt ts before i := by
  obtain ⟨hb, hopener, hi, hcloser⟩ := hp
  obtain ⟨outside, rest, rfl, hout, hlen⟩ := h
  simp only [tokens, List.length_append, List.length_cons, List.length_nil] at hlen
  have hts : outside ++ (Nesting.group before kind opener inner closer).tokens ++ rest
      = (outside ++ before.tokens) ++ opener :: (inner.tokens ++ closer :: rest) := by
    simp [tokens]
  rw [hts]
  refine ⟨(outside ++ before.tokens).length,
    (outside ++ before.tokens).length + inner.tokens.length + 1, ?_, ?_, ?_, ?_, ?_⟩
  · simp only [List.length_append]
    omega
  · simp
  · rw [Nat.add_assoc, List.getElem?_append_right (by omega), Nat.add_sub_cancel_left,
      List.getElem?_cons_succ]
    simp
  · exact ⟨kind, _, _, _, _, _, rfl, rfl, rfl, hopener, hi.balanced, hcloser⟩
  · exact ⟨outside, _, rfl, hout, by rw [List.length_append]⟩

/-- The name before a place is the last token of what stands there. -/
theorem EndsAt.last?_any_isName (hp : before.IsProper) (h : EndsAt ts before k) {word : String} :
    before.last?.any (·.isName word) = true ↔ ∃ j, k = j + 1 ∧ NameAt ts j word := by
  cases before with
  | empty =>
    simp only [last?, Option.any_none, Bool.false_eq_true, false_iff]
    rintro ⟨j, rfl, t, ht, hword⟩
    obtain ⟨o, kind, hk, ho⟩ := h.empty
    rw [hk] at ht
    cases ht
    simp [Token.name?_eq_none_of_bracket? ho] at hword
  | token rest t =>
    obtain ⟨j, rfl, hk, -⟩ := h.token
    simp [NameAt, hk, last?, Token.isName_iff]
  | group rest kind opener inner closer =>
    obtain ⟨i, j, rfl, -, hk, -, -⟩ := h.group hp
    have hname : closer.name? = none := Token.name?_eq_none_of_bracket? hp.2.2.2
    have hword : closer.isName word = false := by
      rw [← Bool.not_eq_true, Token.isName_iff, hname]
      simp
    simp [NameAt, hk, last?, hname, hword]

end Nesting

open Nesting Outline

/-! ### Headers -/

/-- The brace with so many tokens before it opens a body that is taken for one whose errors are
handled: after `try`, after `finally`, after `catch` with round brackets, or in Dart after `on` and
one name. -/
inductive OpensGuarded (flavor : Flavor) (ts : List Token) : Nat → Prop
  | tryBody {i : Nat} : NameAt ts i "try" → OpensGuarded flavor ts (i + 1)
  | finallyBody {i : Nat} : NameAt ts i "finally" → OpensGuarded flavor ts (i + 1)
  | catchBody {i j : Nat} :
      NameAt ts i "catch" → SignAt ts (i + 1) '(' → Pairs ts (i + 1) j →
      OpensGuarded flavor ts (j + 1)
  | onBody {i : Nat} {type : String} :
      flavor = .dart → NameAt ts i "on" → NameAt ts (i + 1) type → OpensGuarded flavor ts (i + 2)

variable {flavor : Flavor} {ts : List Token} {before : Nesting} {k : Nat}

/-- A header ends with a name or with a closing bracket. -/
theorem OpensGuarded.exists_last (h : OpensGuarded flavor ts k) :
    ∃ j t, k = j + 1 ∧ ts[j]? = some t ∧
      (t.name?.isSome ∨ ∃ kind, t.bracket? = some (.closing kind)) := by
  cases h with
  | tryBody hname | finallyBody hname | onBody _ _ hname =>
    obtain ⟨t, ht, hword⟩ := hname
    exact ⟨_, t, rfl, ht, .inl (by simp [hword])⟩
  | catchBody _ _ hpair =>
    obtain ⟨t, kind, ht, hcloser⟩ := hpair.closer
    exact ⟨_, t, rfl, ht, .inr ⟨kind, hcloser⟩⟩

theorem guards_token_iff {rest : Nesting} {t : Token} (hp : (Nesting.token rest t).IsProper)
    (h : EndsAt ts (.token rest t) k) :
    guards flavor (.token rest t) = true ↔ OpensGuarded flavor ts k := by
  obtain ⟨j, rfl, hj, hrest⟩ := h.token
  simp only [guards, Bool.or_eq_true, Bool.and_eq_true, beq_iff_eq, Token.isName_iff]
  constructor
  · rintro ((htry | hfinally) | ⟨⟨hdart, htype⟩, hon⟩)
    · exact .tryBody ⟨t, hj, htry⟩
    · exact .finallyBody ⟨t, hj, hfinally⟩
    · obtain ⟨type, htype⟩ := Option.isSome_iff_exists.1 htype
      obtain ⟨i, rfl, hon⟩ := (hrest.last?_any_isName hp.1).1 hon
      exact .onBody hdart hon ⟨t, hj, htype⟩
  · intro ho
    cases ho with
    | tryBody hname | finallyBody hname =>
      obtain ⟨u, hu, hword⟩ := hname
      rw [hj] at hu
      cases hu
      simp [hword]
    | onBody hdart hon htype =>
      obtain ⟨u, hu, hword⟩ := htype
      rw [hj] at hu
      cases hu
      exact .inr ⟨⟨hdart, by simp [hword]⟩, (hrest.last?_any_isName hp.1).2 ⟨_, rfl, hon⟩⟩
    | catchBody _ _ hpair =>
      obtain ⟨u, kind, hu, hcloser⟩ := hpair.closer
      rw [hj] at hu
      cases hu
      simp [hp.2] at hcloser

theorem guards_group_iff {rest inner : Nesting} {kind : Bracket} {opener closer : Token}
    (hp : (Nesting.group rest kind opener inner closer).IsProper)
    (h : EndsAt ts (.group rest kind opener inner closer) k) :
    guards flavor (.group rest kind opener inner closer) = true ↔ OpensGuarded flavor ts k := by
  obtain ⟨i, j, rfl, hi, hj, hpair, hrest⟩ := h.group hp
  have hname : closer.name? = none := Token.name?_eq_none_of_bracket? hp.2.2.2
  constructor
  · intro hg
    obtain rfl : kind = .round := by cases kind <;> simp_all [guards]
    obtain ⟨i, rfl, hcatch⟩ := (hrest.last?_any_isName hp.1).1 hg
    exact .catchBody hcatch ⟨opener, hi, Token.bracket?_eq_opening.1 hp.2.1⟩ hpair
  · intro ho
    cases ho with
    | tryBody hword | finallyBody hword | onBody _ _ hword =>
      obtain ⟨u, hu, hword⟩ := hword
      rw [hj] at hu
      cases hu
      simp [hname] at hword
    | catchBody hcatch hsign hpair' =>
      obtain rfl := hpair.unique_left hpair'
      have hround : opener.bracket? = some (.opening .round) := hsign.bracket? .round hi
      obtain rfl : kind = .round := by simpa [hp.2.1] using hround
      exact (hrest.last?_any_isName hp.1).2 ⟨_, rfl, hcatch⟩

theorem guards_iff_of_endsAt (hp : before.IsProper) (h : EndsAt ts before k) :
    guards flavor before = true ↔ OpensGuarded flavor ts k := by
  cases before with
  | empty =>
    simp only [guards, Bool.false_eq_true, false_iff]
    intro ho
    obtain ⟨j, t, rfl, ht, hlast⟩ := ho.exists_last
    obtain ⟨o, kind, ho, hopener⟩ := h.empty
    rw [ht] at ho
    cases ho
    rcases hlast with hname | ⟨kind', hcloser⟩
    · simp [Token.name?_eq_none_of_bracket? hopener] at hname
    · simp [hopener] at hcloser
  | token rest t => exact guards_token_iff hp h
  | group rest kind opener inner closer => exact guards_group_iff hp h

/-- **The test of a header is exact.** -/
theorem guards_iff {n : Nesting} (hn : n.IsProper) {g : Group} (hg : g ∈ n.groups) :
    guards flavor g.before = true ↔ OpensGuarded flavor n.tokens g.index :=
  guards_iff_of_endsAt (proper_of_mem_groupsFrom hn hg).1 (endsAt_of_mem_groups hn hg)

end SdkAudit
