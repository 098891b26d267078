import SdkAudit.Proofs.Nesting.Balanced

/-!
# Nestings one after the other

Two nestings one after the other are a nesting.  And where the tokens of one begin with those of
another, that other one is its beginning: brackets are not matched across it.

* `Nesting.tokens_append`, `Nesting.IsProper.append` — what stands one after the other;
* `Nesting.IsProper.exists_append` — **a beginning that is a nesting leaves a nesting**;
* `Nesting.ofTokens_append` — so what follows a nesting is read by itself.
-/

namespace SdkAudit

namespace Nesting

@[simp] theorem append_empty (n : Nesting) : n.append .empty = n := rfl

@[simp] theorem tokens_append (n m : Nesting) : (n.append m).tokens = n.tokens ++ m.tokens := by
  induction m with
  | empty => simp [tokens]
  | token before t ih => simp [append, tokens, ih]
  | group before kind opener inner closer ih _ => simp [append, tokens, ih]

theorem IsProper.append {n m : Nesting} (hn : n.IsProper) (hm : m.IsProper) :
    (n.append m).IsProper := by
  induction m with
  | empty => exact hn
  | token before t ih => exact ⟨ih hm.1, hm.2⟩
  | group before kind opener inner closer ih _ => exact ⟨ih hm.1, hm.2⟩

theorem IsProper.eq_of_tokens {n m : Nesting} (hn : n.IsProper) (hm : m.IsProper)
    (h : n.tokens = m.tokens) : n = m := by
  have hread := ofTokens_eq_ok_iff.2 ⟨hn, h⟩
  rw [ofTokens_eq_ok_iff.2 ⟨hm, rfl⟩] at hread
  exact (Except.ok.inj hread).symm

/-- A nesting does not end inside a group. -/
theorem tokens_ne_of_opening {first before inner : Nesting} {opener : Token} {kind : Bracket}
    {part rest : List Token} (hfirst : first.IsProper) (hbefore : before.IsProper)
    (hopener : opener.bracket? = some (.opening kind)) (hinner : inner.IsProper)
    (hpart : inner.tokens = part ++ rest) : first.tokens ≠ before.tokens ++ opener :: part := by
  intro h
  have hdepth := hfirst.balanced.depth_eq
  have hprefix := hinner.balanced.depth_prefix part.length
  rw [hpart, List.take_left] at hprefix
  rw [h, depth_append, hbefore.balanced.depth_eq, depth_cons, Token.rise_opening hopener] at hdepth
  omega

/-- **A beginning that is a nesting leaves a nesting.** -/
theorem IsProper.exists_append {n first : Nesting} {rest : List Token} (hn : n.IsProper)
    (hfirst : first.IsProper) (h : n.tokens = first.tokens ++ rest) :
    ∃ m : Nesting, m.IsProper ∧ m.tokens = rest ∧ n = first.append m := by
  rcases List.eq_nil_or_concat' rest with rfl | ⟨rest, last, rfl⟩
  · rw [List.append_nil] at h
    exact ⟨.empty, trivial, rfl, hn.eq_of_tokens hfirst h⟩
  rw [← List.append_assoc] at h
  cases n with
  | empty => simp [tokens] at h
  | token before t =>
    obtain ⟨hbefore, hlast⟩ := List.append_inj' h rfl
    obtain rfl := List.singleton_inj.1 hlast
    obtain ⟨m, hm, rfl, rfl⟩ := exists_append hn.1 hfirst hbefore
    exact ⟨.token m t, ⟨hm, hn.2⟩, rfl, rfl⟩
  | group before kind opener inner closer =>
    obtain ⟨hproper, hopener, hinner, hcloser⟩ := hn
    rw [tokens, ← List.cons_append, ← List.append_assoc] at h
    obtain ⟨hopen, hlast⟩ := List.append_inj' h rfl
    obtain rfl := List.singleton_inj.1 hlast
    -- the beginning ends before the group, since no nesting ends inside one
    obtain ⟨between, hbetween, rfl⟩ : ∃ between, before.tokens = first.tokens ++ between ∧
        rest = between ++ opener :: inner.tokens := by
      rcases List.append_eq_append_iff.1 hopen with ⟨part, hpart, hgroup⟩ | hbefore
      · cases part with
        | nil => exact ⟨[], by simpa using hpart.symm, hgroup.symm⟩
        | cons t part =>
          obtain ⟨rfl, hin⟩ := List.cons.inj hgroup
          exact (tokens_ne_of_opening hfirst hproper hopener hinner hin hpart).elim
      · exact hbefore
    obtain ⟨m, hm, rfl, rfl⟩ := exists_append hproper hfirst hbetween
    exact ⟨.group m kind opener inner closer, ⟨hm, hopener, hinner, hcloser⟩, by simp [tokens], rfl⟩

/-- What follows a nesting is read by itself. -/
theorem ofTokens_append {first n : Nesting} (hfirst : first.IsProper) {rest : List Token} :
    ofTokens (first.tokens ++ rest) = .ok n ↔ ∃ m, ofTokens rest = .ok m ∧ n = first.append m := by
  simp only [ofTokens_eq_ok_iff]
  constructor
  · rintro ⟨hn, htokens⟩
    obtain ⟨m, hm, rfl, rfl⟩ := hn.exists_append hfirst htokens
    exact ⟨m, ⟨hm, rfl⟩, rfl⟩
  · rintro ⟨m, ⟨hm, rfl⟩, rfl⟩
    exact ⟨hfirst.append hm, tokens_append first m⟩

end Nesting

end SdkAudit
