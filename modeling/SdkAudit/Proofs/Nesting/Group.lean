import SdkAudit.Proofs.Nesting.Balanced

/-!
# Groups and what is around them

A group of a nesting is told by the tokens before its opening bracket.  This module lists the groups
of a nesting in the order in which they open, each with the groups around it, and says in terms of
the token sequence alone which groups these are.

* `Nesting.groups` — the groups of a nesting in their surroundings;
* `Nesting.pairs_iff` — the pairs of brackets are the brackets of the groups;
* `Encloses`, `Nesting.encloses_iff` — the groups around a group are those whose brackets are on
  both sides of it.
-/

namespace SdkAudit

namespace Nesting

/-- A group as it is seen from inside. -/
structure Opening where
  /-- All tokens before the opening bracket. -/
  earlier : List Token
  /-- What stands before it inside the group around it. -/
  before : Nesting
  kind : Bracket
  opener : Token

/-- A group in its surroundings. -/
structure Group extends Opening where
  inner : Nesting
  closer : Token
  /-- The tokens after it, up to the next opening bracket or to the end of the group around it. -/
  after : List Token
  /-- The groups around it, the innermost first. -/
  around : List Opening

/-- The number of tokens before the opening bracket. -/
def Opening.index (o : Opening) : Nat := o.earlier.length

/-- The number of tokens before the closing bracket. -/
def Group.stop (g : Group) : Nat := g.index + g.inner.tokens.length + 1

/-- The groups of a nesting in the order in which they open, where these tokens come before the
nesting, these groups are around it and these tokens follow it. -/
def groupsFrom (earlier : List Token) (around : List Opening) (after : List Token) :
    Nesting → List Group
  | .empty => []
  | .token before t => groupsFrom earlier around (t :: after) before
  | .group before kind opener inner closer =>
    let o : Opening := ⟨earlier ++ before.tokens, before, kind, opener⟩
    groupsFrom earlier around [opener] before ++
      { o with inner, closer, after, around } ::
        groupsFrom (earlier ++ before.tokens ++ [opener]) (o :: around) [] inner

/-- The groups of a nesting in the order in which they open. -/
def groups (n : Nesting) : List Group := groupsFrom [] [] [] n

variable {n : Nesting} {earlier after : List Token} {around : List Opening} {g : Group}

/-! ### Where a group stands -/

theorem prefix_of_mem_groupsFrom (h : g ∈ groupsFrom earlier around after n) :
    ∃ rest, g.earlier = earlier ++ rest := by
  induction n generalizing earlier around after with
  | empty => simp [groupsFrom] at h
  | token before t ih => exact ih h
  | group before kind opener inner closer ihb ihi =>
    simp only [groupsFrom, List.mem_append, List.mem_cons] at h
    rcases h with h | rfl | h
    · exact ihb h
    · exact ⟨_, rfl⟩
    · obtain ⟨rest, hrest⟩ := ihi h
      exact ⟨before.tokens ++ opener :: rest, by simp [hrest]⟩

/-- The tokens of a nesting, seen from one of its groups. -/
theorem tokens_eq_of_mem_groupsFrom (h : g ∈ groupsFrom earlier around after n) :
    ∃ later, earlier ++ n.tokens
      = g.earlier ++ g.opener :: (g.inner.tokens ++ g.closer :: later) := by
  induction n generalizing earlier around after with
  | empty => simp [groupsFrom] at h
  | token before t ih =>
    obtain ⟨later, hlater⟩ := ih h
    refine ⟨later ++ [t], ?_⟩
    rw [tokens, ← List.append_assoc, hlater]
    simp
  | group before kind opener inner closer ihb ihi =>
    simp only [groupsFrom, List.mem_append, List.mem_cons] at h
    rcases h with h | rfl | h
    · obtain ⟨later, hlater⟩ := ihb h
      refine ⟨later ++ opener :: (inner.tokens ++ [closer]), ?_⟩
      rw [tokens, ← List.append_assoc, hlater]
      simp
    · exact ⟨[], by simp [tokens]⟩
    · obtain ⟨later, hlater⟩ := ihi h
      refine ⟨later ++ [closer], ?_⟩
      have hmid : earlier ++ (Nesting.group before kind opener inner closer).tokens
          = (earlier ++ before.tokens ++ [opener] ++ inner.tokens) ++ [closer] := by
        simp [tokens]
      rw [hmid, hlater]
      simp

theorem index_ge_of_mem_groupsFrom (h : g ∈ groupsFrom earlier around after n) :
    earlier.length ≤ g.index := by
  obtain ⟨rest, hrest⟩ := prefix_of_mem_groupsFrom h
  simp [Opening.index, hrest]

theorem stop_lt_of_mem_groupsFrom (h : g ∈ groupsFrom earlier around after n) :
    g.stop < earlier.length + n.tokens.length := by
  obtain ⟨later, hlater⟩ := tokens_eq_of_mem_groupsFrom h
  have := congrArg List.length hlater
  simp only [List.length_append, List.length_cons] at this
  simp only [Group.stop, Opening.index]
  omega

theorem Group.index_lt_stop (g : Group) : g.index < g.stop := by
  simp only [Group.stop]
  omega

/-- The groups of a proper nesting have the brackets that they say, with proper nestings around and
between them. -/
theorem proper_of_mem_groupsFrom (hn : n.IsProper) (h : g ∈ groupsFrom earlier around after n) :
    g.before.IsProper ∧ g.opener.bracket? = some (.opening g.kind) ∧ g.inner.IsProper ∧
      g.closer.bracket? = some (.closing g.kind) := by
  induction n generalizing earlier around after with
  | empty => simp [groupsFrom] at h
  | token before t ih => exact ih hn.1 h
  | group before kind opener inner closer ihb ihi =>
    simp only [groupsFrom, List.mem_append, List.mem_cons] at h
    rcases h with h | rfl | h
    · exact ihb hn.1 h
    · exact hn
    · exact ihi hn.2.2.1 h

/-- What stands before a group inside the group around it is preceded by an opening bracket, or by
nothing of the nesting. -/
theorem earlier_of_mem_groupsFrom (hn : n.IsProper) (h : g ∈ groupsFrom earlier around after n) :
    ∃ outside, g.earlier = outside ++ g.before.tokens ∧
      (outside = earlier ∨
        ∃ front o kind, outside = front ++ [o] ∧ Token.bracket? o = some (.opening kind)) := by
  induction n generalizing earlier around after with
  | empty => simp [groupsFrom] at h
  | token before t ih => exact ih hn.1 h
  | group before kind opener inner closer ihb ihi =>
    simp only [groupsFrom, List.mem_append, List.mem_cons] at h
    rcases h with h | rfl | h
    · exact ihb hn.1 h
    · exact ⟨earlier, rfl, .inl rfl⟩
    · obtain ⟨outside, hsplit, hout⟩ := ihi hn.2.2.1 h
      refine ⟨outside, hsplit, .inr ?_⟩
      rcases hout with rfl | hout
      · exact ⟨_, opener, kind, rfl, hn.2.1⟩
      · exact hout

/-- Groups are listed in the order in which they open. -/
theorem pairwise_index_groupsFrom (n : Nesting) (earlier : List Token) (around : List Opening)
    (after : List Token) :
    (groupsFrom earlier around after n).Pairwise fun g h => g.index < h.index := by
  induction n generalizing earlier around after with
  | empty => exact .nil
  | token before t ih => exact ih earlier around (t :: after)
  | group before kind opener inner closer ihb ihi =>
    rw [groupsFrom, List.pairwise_append, List.pairwise_cons]
    refine ⟨ihb _ _ _, ⟨?_, ihi _ _ _⟩, ?_⟩
    · intro h hh
      have := index_ge_of_mem_groupsFrom hh
      simp only [List.length_append, List.length_cons] at this
      simp only [Opening.index, List.length_append] at *
      omega
    · intro g hg h hh
      have hstop := stop_lt_of_mem_groupsFrom hg
      have hlt := g.index_lt_stop
      rcases List.mem_cons.1 hh with rfl | hh
      · simp only [Opening.index, List.length_append] at *
        omega
      · have := index_ge_of_mem_groupsFrom hh
        simp only [Opening.index, List.length_append, List.length_cons] at *
        omega

/-! ### Every bracket belongs to a group -/

theorem getElem?_append_eq_some {ts us : List Token} {i : Nat} {t : Token}
    (h : (ts ++ us)[i]? = some t) :
    ts[i]? = some t ∨ ∃ j, i = ts.length + j ∧ us[j]? = some t := by
  rw [List.getElem?_append] at h
  split at h
  case isTrue => exact .inl h
  case isFalse hge => exact .inr ⟨i - ts.length, by omega, h⟩

/-- Where a token of `before` and a last token stands. -/
theorem getElem?_tokens_token {before : Nesting} {u t : Token} {i : Nat}
    (h : (Nesting.token before u).tokens[i]? = some t) : before.tokens[i]? = some t ∨ t = u := by
  rcases getElem?_append_eq_some h with h | ⟨j, -, h⟩
  · exact .inl h
  · exact .inr (List.mem_singleton.1 (List.mem_of_getElem? h))

/-- Where a token of `before` and a last group stands: before the group, at its opening bracket,
between its brackets, or at its closing bracket. -/
theorem getElem?_tokens_group {before inner : Nesting} {kind : Bracket} {opener closer t : Token}
    {i : Nat} (h : (Nesting.group before kind opener inner closer).tokens[i]? = some t) :
    before.tokens[i]? = some t ∨ (i = before.tokens.length ∧ t = opener) ∨
      (∃ m, i = before.tokens.length + (m + 1) ∧ inner.tokens[m]? = some t) ∨
      (i = before.tokens.length + (inner.tokens.length + 1) ∧ t = closer) := by
  rw [tokens] at h
  rcases getElem?_append_eq_some h with hbefore | ⟨j, rfl, hgroup⟩
  · exact .inl hbefore
  · cases j with
    | zero => exact .inr (.inl ⟨rfl, by simpa using hgroup.symm⟩)
    | succ j =>
      rw [List.getElem?_cons_succ] at hgroup
      rcases getElem?_append_eq_some hgroup with hinner | ⟨m, rfl, hlast⟩
      · exact .inr (.inr (.inl ⟨j, rfl, hinner⟩))
      · obtain rfl := List.mem_singleton.1 (List.mem_of_getElem? hlast)
        have hlt := (List.getElem?_eq_some_iff.1 hlast).1
        obtain rfl : m = 0 := by simpa using hlt
        exact .inr (.inr (.inr ⟨rfl, rfl⟩))

/-- Every opening bracket of a proper nesting opens a group. -/
theorem exists_group_of_opening (hn : n.IsProper) {i : Nat} {t : Token} {kind : Bracket}
    (hi : n.tokens[i]? = some t) (ht : t.bracket? = some (.opening kind)) (earlier : List Token)
    (around : List Opening) (after : List Token) :
    ∃ g ∈ groupsFrom earlier around after n,
      g.index = earlier.length + i ∧ g.opener = t ∧ g.kind = kind := by
  induction n generalizing i earlier around after with
  | empty => simp [tokens] at hi
  | token before u ih =>
    obtain ⟨hb, hu⟩ := hn
    rcases getElem?_tokens_token hi with hbefore | rfl
    · exact ih hb hbefore _ _ _
    · simp [hu] at ht
  | group before k opener inner closer ihb ihi =>
    obtain ⟨hb, ho, hin, hc⟩ := hn
    simp only [groupsFrom, List.mem_append, List.mem_cons]
    rcases getElem?_tokens_group hi with hbefore | ⟨rfl, rfl⟩ | ⟨m, rfl, hinner⟩ | ⟨rfl, rfl⟩
    · obtain ⟨g, hg, hrest⟩ := ihb hb hbefore earlier around [opener]
      exact ⟨g, .inl hg, hrest⟩
    · refine ⟨_, .inr (.inl rfl), by simp [Opening.index], rfl, ?_⟩
      rw [ho] at ht
      simpa using ht
    · obtain ⟨g, hg, hidx, hrest⟩ := ihi hin hinner (earlier ++ before.tokens ++ [opener])
        (⟨earlier ++ before.tokens, before, k, opener⟩ :: around) []
      refine ⟨g, .inr (.inr hg), ?_, hrest⟩
      simp only [List.length_append, List.length_cons, List.length_nil] at hidx
      omega
    · simp [hc] at ht

/-- The brackets of a group are a pair. -/
theorem pairs_of_mem_groupsFrom (hn : n.IsProper) (h : g ∈ groupsFrom earlier around after n) :
    Pairs (earlier ++ n.tokens) g.index g.stop := by
  obtain ⟨later, hlater⟩ := tokens_eq_of_mem_groupsFrom h
  obtain ⟨-, ho, hi, hc⟩ := proper_of_mem_groupsFrom hn h
  exact ⟨g.kind, g.earlier, g.inner.tokens, later, g.opener, g.closer, hlater, rfl, rfl, ho,
    hi.balanced, hc⟩

/-- The pairs of brackets in the tokens of a proper nesting are the brackets of its groups. -/
theorem pairs_iff (hn : n.IsProper) {i j : Nat} :
    Pairs n.tokens i j ↔ ∃ g ∈ n.groups, g.index = i ∧ g.stop = j := by
  constructor
  · intro h
    obtain ⟨kind, before, inner, rest, opener, closer, heq, hlen, -, ho, -, -⟩ := id h
    have hi : n.tokens[i]? = some opener := by
      rw [heq, ← hlen]
      simp
    obtain ⟨g, hg, hidx, -⟩ := exists_group_of_opening hn hi ho [] [] []
    have hgi : g.index = i := by simpa using hidx
    have hpair := pairs_of_mem_groupsFrom hn hg
    rw [hgi, List.nil_append] at hpair
    exact ⟨g, hg, hgi, hpair.unique h⟩
  · rintro ⟨g, hg, rfl, rfl⟩
    simpa using pairs_of_mem_groupsFrom hn hg

/-! ### Enclosing groups -/

/-- The groups around a group are those that were around the nesting and those of the nesting that
open before it and close after it. -/
theorem around_of_mem_groupsFrom (h : g ∈ groupsFrom earlier around after n) :
    ∃ new, g.around = new ++ around ∧
      (∀ o, o ∈ new ↔ ∃ e ∈ groupsFrom earlier around after n,
        e.toOpening = o ∧ e.index < g.index ∧ g.index < e.stop) ∧
      new.Pairwise fun o p => p.index < o.index := by
  induction n generalizing earlier around after with
  | empty => simp [groupsFrom] at h
  | token before t ih => exact ih h
  | group before kind opener inner closer ihb ihi =>
    simp only [groupsFrom, List.mem_append, List.mem_cons] at h ⊢
    set o₀ : Opening := ⟨earlier ++ before.tokens, before, kind, opener⟩ with ho₀
    set g₀ : Group := { o₀ with inner, closer, after, around } with hg₀
    have hindex₀ : g₀.index = earlier.length + before.tokens.length := by
      simp [hg₀, ho₀, Opening.index]
    have hstop₀ : g₀.stop = g₀.index + inner.tokens.length + 1 := rfl
    -- the groups before the new one close before it opens, those inside open after it
    have hleft : ∀ e ∈ groupsFrom earlier around [opener] before, e.stop < g₀.index := by
      intro e he
      have := stop_lt_of_mem_groupsFrom he
      omega
    have hright : ∀ e ∈ groupsFrom (earlier ++ before.tokens ++ [opener]) (o₀ :: around) [] inner,
        g₀.index < e.index ∧ e.stop < g₀.stop := by
      intro e he
      have hge := index_ge_of_mem_groupsFrom he
      have hlt := stop_lt_of_mem_groupsFrom he
      simp only [List.length_append, List.length_cons, List.length_nil] at hge hlt
      omega
    rcases h with h | h | h
    · obtain ⟨new, hnew, hmem, hsorted⟩ := ihb h
      refine ⟨new, hnew, fun o => ?_, hsorted⟩
      have hg := hleft g h
      have hgs := g.index_lt_stop
      rw [hmem]
      constructor
      · rintro ⟨e, he, hrest⟩
        exact ⟨e, .inl he, hrest⟩
      · rintro ⟨e, he | he | he, ho, hlt, hgt⟩
        · exact ⟨e, he, ho, hlt, hgt⟩
        · rw [he] at hlt
          omega
        · have := hright e he
          omega
    · subst h
      refine ⟨[], rfl, fun o => ?_, .nil⟩
      simp only [List.not_mem_nil, false_iff]
      rintro ⟨e, he | he | he, -, hlt, hgt⟩
      · have := hleft e he
        omega
      · rw [he] at hlt
        omega
      · have := hright e he
        omega
    · obtain ⟨new, hnew, hmem, hsorted⟩ := ihi h
      have hg := hright g h
      have hgs := g.index_lt_stop
      refine ⟨new ++ [o₀], by simp [hnew], fun o => ?_, ?_⟩
      · rw [List.mem_append, List.mem_singleton, hmem]
        constructor
        · rintro (⟨e, he, hrest⟩ | rfl)
          · exact ⟨e, .inr (.inr he), hrest⟩
          · exact ⟨g₀, .inr (.inl rfl), rfl, hg.1, by omega⟩
        · rintro ⟨e, he | he | he, ho, hlt, hgt⟩
          · have := hleft e he
            omega
          · subst he
            exact .inr ho.symm
          · exact .inl ⟨e, he, ho, hlt, hgt⟩
      · rw [List.pairwise_append]
        refine ⟨hsorted, List.pairwise_singleton .., ?_⟩
        intro o ho p hp
        obtain rfl := List.mem_singleton.1 hp
        obtain ⟨e, he, rfl, -⟩ := (hmem o).1 ho
        exact (hright e he).1

end Nesting

open Nesting

/-- A pair of brackets is around the token with so many tokens before it. -/
def Encloses (ts : List Token) (i k : Nat) : Prop := ∃ j, Pairs ts i j ∧ i < k ∧ k < j

namespace Nesting

variable {n : Nesting} {g : Group}

/-- **The groups around a group** are those whose brackets are on both sides of it, the innermost
first. -/
theorem encloses_iff (hn : n.IsProper) (hg : g ∈ n.groups) {i : Nat} :
    Encloses n.tokens i g.index ↔ ∃ o ∈ g.around, o.index = i := by
  obtain ⟨new, haround, hmem, -⟩ := around_of_mem_groupsFrom hg
  rw [haround, List.append_nil]
  constructor
  · rintro ⟨j, hpair, hlt, hgt⟩
    obtain ⟨e, he, rfl, rfl⟩ := (pairs_iff hn).1 hpair
    exact ⟨e.toOpening, (hmem _).2 ⟨e, he, rfl, hlt, hgt⟩, rfl⟩
  · rintro ⟨o, ho, rfl⟩
    obtain ⟨e, he, rfl, hlt, hgt⟩ := (hmem o).1 ho
    exact ⟨e.stop, (pairs_iff hn).2 ⟨e, he, rfl, rfl⟩, hlt, hgt⟩

theorem exists_group_of_mem_around (hg : g ∈ n.groups) {o : Opening} (ho : o ∈ g.around) :
    ∃ e ∈ n.groups, e.toOpening = o ∧ e.index < g.index := by
  obtain ⟨new, haround, hmem, -⟩ := around_of_mem_groupsFrom hg
  rw [haround, List.append_nil] at ho
  obtain ⟨e, he, heq, hlt, -⟩ := (hmem o).1 ho
  exact ⟨e, he, heq, hlt⟩

theorem pairwise_around (hg : g ∈ n.groups) : g.around.Pairwise fun o p => p.index < o.index := by
  obtain ⟨new, haround, -, hsorted⟩ := around_of_mem_groupsFrom hg
  rwa [haround, List.append_nil]

end Nesting

end SdkAudit
