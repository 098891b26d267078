import Mathlib
import SdkAudit.Source.Nesting

/-!
# Balanced token sequences

A token sequence is balanced if it can be built from tokens that are no brackets by putting them one
after the other and between brackets of one kind.  Reading a sequence as a nesting succeeds on the
balanced sequences, and loses nothing.

* `Nesting.IsProper` — the groups of a nesting have the brackets that they say;
* `Nesting.ofTokens_eq_ok_iff` — **reading is the inverse of printing**, on proper nestings;
* `Balanced`, `balanced_iff` — the balanced sequences are the ones that can be read;
* `Pairs` — which closing bracket belongs to which opening one;
* `Pairs.unique`, `Pairs.unique_left` — a bracket has at most one partner.
-/

namespace SdkAudit

/-- A token sequence whose brackets match. -/
inductive Balanced : List Token → Prop
  | nil : Balanced []
  | token {before : List Token} {t : Token} :
      Balanced before → t.bracket? = none → Balanced (before ++ [t])
  | group {before inner : List Token} {opener closer : Token} (kind : Bracket) :
      Balanced before → opener.bracket? = some (.opening kind) → Balanced inner →
      closer.bracket? = some (.closing kind) →
      Balanced (before ++ opener :: (inner ++ [closer]))

namespace Nesting

/-- The groups of a nesting stand between the brackets that they say, and its other tokens are no
brackets. -/
def IsProper : Nesting → Prop
  | .empty => True
  | .token before t => before.IsProper ∧ t.bracket? = none
  | .group before kind opener inner closer =>
    before.IsProper ∧ opener.bracket? = some (.opening kind) ∧ inner.IsProper ∧
      closer.bracket? = some (.closing kind)

def append (first : Nesting) : Nesting → Nesting
  | .empty => first
  | .token before t => .token (first.append before) t
  | .group before kind opener inner closer => .group (first.append before) kind opener inner closer

@[simp] theorem empty_append (n : Nesting) : Nesting.empty.append n = n := by
  induction n with
  | empty => rfl
  | token before t ih => rw [append, ih]
  | group before kind opener inner closer ih _ => rw [append, ih]

/-! ### Reading -/

/-- The tokens that have been read when these groups are open and this stands in the innermost. -/
def tokensSoFar : List Opened → Nesting → List Token
  | [], inner => inner.tokens
  | o :: opened, inner => tokensSoFar opened o.before ++ o.opener :: inner.tokens

/-- What has been read is proper so far. -/
def IsProperSoFar : List Opened → Nesting → Prop
  | [], inner => inner.IsProper
  | o :: opened, inner =>
    IsProperSoFar opened o.before ∧ o.opener.bracket? = some (.opening o.kind) ∧ inner.IsProper

theorem IsProperSoFar.inner {opened : List Opened} {inner : Nesting}
    (h : IsProperSoFar opened inner) : inner.IsProper := by
  cases opened with
  | nil => exact h
  | cons o opened => exact h.2.2

theorem IsProperSoFar.with_inner {opened : List Opened} {inner other : Nesting}
    (h : IsProperSoFar opened inner) (ho : other.IsProper) : IsProperSoFar opened other := by
  cases opened with
  | nil => exact ho
  | cons o opened => exact ⟨h.1, h.2.1, ho⟩

theorem tokensSoFar_token (opened : List Opened) (inner : Nesting) (t : Token) :
    tokensSoFar opened (.token inner t) = tokensSoFar opened inner ++ [t] := by
  cases opened with
  | nil => rfl
  | cons o opened => simp [tokensSoFar, tokens]

theorem tokensSoFar_group (opened : List Opened) (o : Opened) (inner : Nesting) (t : Token) :
    tokensSoFar opened (.group o.before o.kind o.opener inner t)
      = tokensSoFar (o :: opened) inner ++ [t] := by
  cases opened with
  | nil => simp [tokensSoFar, tokens]
  | cons p opened => simp [tokensSoFar, tokens]

/-- What is read is proper and has the tokens that were there. -/
theorem readFrom_sound {opened : List Opened} {inner n : Nesting} {rest : List Token}
    (hp : IsProperSoFar opened inner) (h : readFrom opened inner rest = .ok n) :
    n.IsProper ∧ n.tokens = tokensSoFar opened inner ++ rest := by
  induction rest generalizing opened inner with
  | nil =>
    cases opened with
    | nil =>
      rw [readFrom] at h
      cases h
      exact ⟨hp, by simp [tokensSoFar]⟩
    | cons o opened => simp [readFrom] at h
  | cons t rest ih =>
    rw [readFrom] at h
    split at h
    case h_1 hb =>
      have htoken : (Nesting.token inner t).IsProper := ⟨hp.inner, hb⟩
      have := ih (hp.with_inner htoken) h
      rwa [tokensSoFar_token, List.append_assoc] at this
    case h_2 kind hb =>
      have hopened : IsProperSoFar (⟨inner, kind, t⟩ :: opened) .empty := ⟨hp, hb, trivial⟩
      have := ih hopened h
      simpa [tokensSoFar, tokens] using this
    case h_3 kind hb =>
      cases opened with
      | nil => simp at h
      | cons o opened =>
        by_cases hk : o.kind = kind
        · subst hk
          obtain ⟨houter, hopener, hinner⟩ := hp
          have hgroup : (Nesting.group o.before o.kind o.opener inner t).IsProper :=
            ⟨houter.inner, hopener, hinner, hb⟩
          simp only [if_true] at h
          have := ih (houter.with_inner hgroup) h
          rwa [tokensSoFar_group, List.append_assoc] at this
        · simp [hk] at h

/-- Reading the tokens of a proper nesting comes to that nesting. -/
theorem readFrom_tokens {n : Nesting} (hn : n.IsProper) (opened : List Opened) (inner : Nesting)
    (rest : List Token) :
    readFrom opened inner (n.tokens ++ rest) = readFrom opened (inner.append n) rest := by
  induction n generalizing opened inner rest with
  | empty => rfl
  | token before t ih =>
    obtain ⟨hbefore, ht⟩ := hn
    rw [tokens, List.append_assoc, ih hbefore, List.singleton_append, readFrom, ht]
    rfl
  | group before kind opener mid closer ihb ihm =>
    obtain ⟨hbefore, hopener, hmid, hcloser⟩ := hn
    have hsplit : (Nesting.group before kind opener mid closer).tokens ++ rest
        = before.tokens ++ (opener :: (mid.tokens ++ (closer :: rest))) := by
      simp [tokens]
    rw [hsplit, ihb hbefore, readFrom, hopener]
    show readFrom (⟨inner.append before, kind, opener⟩ :: opened) .empty
      (mid.tokens ++ (closer :: rest)) = _
    rw [ihm hmid, empty_append, readFrom, hcloser]
    show (if kind = kind then _ else _) = _
    rw [if_pos rfl]
    rfl

/-- **Reading is the inverse of printing.**  A token sequence is read as a nesting exactly if the
nesting is proper and has these tokens. -/
theorem ofTokens_eq_ok_iff {ts : List Token} {n : Nesting} :
    ofTokens ts = .ok n ↔ n.IsProper ∧ n.tokens = ts := by
  constructor
  · intro h
    have hstart : IsProperSoFar [] .empty := trivial
    exact readFrom_sound hstart h
  · rintro ⟨hn, rfl⟩
    have := readFrom_tokens hn [] .empty []
    rw [List.append_nil, empty_append] at this
    rw [ofTokens, this, readFrom]

theorem IsProper.balanced {n : Nesting} (hn : n.IsProper) : Balanced n.tokens := by
  induction n with
  | empty => exact .nil
  | token before t ih => exact .token (ih hn.1) hn.2
  | group before kind opener inner closer ihb ihi =>
    exact .group kind (ihb hn.1) hn.2.1 (ihi hn.2.2.1) hn.2.2.2

end Nesting

open Nesting

/-- The balanced sequences are the tokens of proper nestings. -/
theorem balanced_iff {ts : List Token} :
    Balanced ts ↔ ∃ n : Nesting, n.IsProper ∧ n.tokens = ts := by
  constructor
  · intro h
    induction h with
    | nil => exact ⟨.empty, trivial, rfl⟩
    | @token before t _ ht ih =>
      obtain ⟨n, hn, rfl⟩ := ih
      exact ⟨.token n t, ⟨hn, ht⟩, rfl⟩
    | @group before inner opener closer kind _ hopener _ hcloser ihb ihi =>
      obtain ⟨n, hn, rfl⟩ := ihb
      obtain ⟨m, hm, rfl⟩ := ihi
      exact ⟨.group n kind opener m closer, ⟨hn, hopener, hm, hcloser⟩, rfl⟩
  · rintro ⟨n, hn, rfl⟩
    exact hn.balanced

/-! ### Depth -/

/-- By how much a token changes the number of open brackets. -/
def Token.rise (t : Token) : Int :=
  match t.bracket? with
  | some (.opening _) => 1
  | some (.closing _) => -1
  | none => 0

/-- By how much some tokens change the number of open brackets. -/
def depth (ts : List Token) : Int := (ts.map Token.rise).sum

@[simp] theorem depth_nil : depth [] = 0 := rfl

@[simp] theorem depth_cons (t : Token) (ts : List Token) : depth (t :: ts) = t.rise + depth ts := by
  simp [depth]

@[simp] theorem depth_append (ts us : List Token) : depth (ts ++ us) = depth ts + depth us := by
  simp [depth]

theorem Token.rise_opening {t : Token} {kind : Bracket} (h : t.bracket? = some (.opening kind)) :
    t.rise = 1 := by
  rw [rise, h]

theorem Token.rise_closing {t : Token} {kind : Bracket} (h : t.bracket? = some (.closing kind)) :
    t.rise = -1 := by
  rw [rise, h]

theorem Token.rise_none {t : Token} (h : t.bracket? = none) : t.rise = 0 := by
  rw [rise, h]

theorem Balanced.depth_eq {ts : List Token} (h : Balanced ts) : depth ts = 0 := by
  induction h with
  | nil => rfl
  | token _ ht ih => simp [ih, Token.rise_none ht]
  | group kind _ hopener _ hcloser ihb ihi =>
    simp [ihb, ihi, Token.rise_opening hopener, Token.rise_closing hcloser]

/-- No prefix of a balanced sequence closes more brackets than it opens. -/
theorem Balanced.depth_prefix {ts : List Token} (h : Balanced ts) :
    ∀ k, 0 ≤ depth (ts.take k) := by
  induction h with
  | nil => intro k; simp
  | @token before t hb ht ih =>
    intro k
    rw [List.take_append, depth_append]
    have hrest : depth ([t].take (k - before.length)) = 0 := by
      cases k - before.length with
      | zero => rfl
      | succ m => simp [Token.rise_none ht]
    rw [hrest]
    simpa using ih k
  | @group before inner opener closer kind hb hopener hi hcloser ihb ihi =>
    intro k
    rw [List.take_append, depth_append]
    rcases Nat.lt_or_ge before.length k with hk | hk
    · -- the prefix goes beyond what stands before the group, which adds nothing
      rw [List.take_of_length_le (by omega), hb.depth_eq]
      obtain ⟨m, hm⟩ : ∃ m, k - before.length = m + 1 := ⟨k - before.length - 1, by omega⟩
      rw [hm, List.take_succ_cons, depth_cons, Token.rise_opening hopener, List.take_append,
        depth_append]
      have hinner := ihi m
      have hlast : -1 ≤ depth ([closer].take (m - inner.length)) := by
        cases m - inner.length with
        | zero => simp
        | succ j => simp [Token.rise_closing hcloser]
      omega
    · rw [Nat.sub_eq_zero_of_le hk]
      simpa using ihb k

/-! ### Partners -/

/-- The bracket with so many tokens before it is opened and the other one closes it: between them
stands a balanced sequence. -/
def Pairs (ts : List Token) (i j : Nat) : Prop :=
  ∃ (kind : Bracket) (before inner after : List Token) (opener closer : Token),
    ts = before ++ opener :: (inner ++ closer :: after) ∧ before.length = i ∧
      j = i + inner.length + 1 ∧ opener.bracket? = some (.opening kind) ∧ Balanced inner ∧
      closer.bracket? = some (.closing kind)

theorem Pairs.lt {ts : List Token} {i j : Nat} (h : Pairs ts i j) : i < j := by
  obtain ⟨_, _, _, _, _, _, _, _, rfl, _⟩ := h
  omega

theorem Pairs.closer {ts : List Token} {i j : Nat} (h : Pairs ts i j) :
    ∃ t kind, ts[j]? = some t ∧ t.bracket? = some (.closing kind) := by
  obtain ⟨kind, before, inner, after, opener, closer, rfl, rfl, rfl, -, -, hcloser⟩ := h
  refine ⟨closer, kind, ?_, hcloser⟩
  rw [Nat.add_assoc, List.getElem?_append_right (by omega), Nat.add_sub_cancel_left]
  simp

/-- A balanced sequence cannot go on past the bracket that closes another one. -/
theorem length_le_of_balanced {inner inner' after after' : List Token} {closer closer' : Token}
    {kind : Bracket} (h : inner ++ closer :: after = inner' ++ closer' :: after')
    (hinner : Balanced inner) (hcloser : closer.bracket? = some (.closing kind))
    (hinner' : Balanced inner') : inner'.length ≤ inner.length := by
  by_contra hlt
  have htake : inner'.take (inner.length + 1) = inner ++ [closer] := by
    have hshort : inner.length + 1 ≤ inner'.length := by omega
    have hsame := congrArg (List.take (inner.length + 1)) h
    rw [List.take_append_of_le_length hshort] at hsame
    rw [← hsame, List.take_append]
    simp
  have hdepth := hinner'.depth_prefix (inner.length + 1)
  rw [htake, depth_append, hinner.depth_eq] at hdepth
  simp [Token.rise_closing hcloser] at hdepth

/-- An opening bracket has at most one partner. -/
theorem Pairs.unique {ts : List Token} {i j j' : Nat} (h : Pairs ts i j) (h' : Pairs ts i j') :
    j = j' := by
  obtain ⟨kind, before, inner, after, opener, closer, rfl, hlen, rfl, ho, hi, hc⟩ := h
  obtain ⟨kind', before', inner', after', opener', closer', heq, hlen', rfl, ho', hi', hc'⟩ := h'
  obtain ⟨rfl, htail⟩ := List.append_inj heq (by omega)
  have hmid : inner ++ closer :: after = inner' ++ closer' :: after' := (List.cons.inj htail).2
  have h₁ := length_le_of_balanced hmid hi hc hi'
  have h₂ := length_le_of_balanced hmid.symm hi' hc' hi
  omega

/-- A balanced sequence cannot start before the bracket that opens another one. -/
theorem length_le_of_balanced_left {before before' inner inner' : List Token}
    {opener opener' : Token} {kind : Bracket}
    (h : before ++ opener :: inner = before' ++ opener' :: inner') (hinner : Balanced inner)
    (hopener' : opener'.bracket? = some (.opening kind)) (hinner' : Balanced inner') :
    before'.length ≤ before.length := by
  rcases List.append_eq_append_iff.1 h with ⟨mid, rfl, hmid⟩ | ⟨mid, rfl, -⟩
  · cases mid with
    | nil => simp
    | cons t mid =>
      obtain ⟨-, rfl⟩ : opener = t ∧ inner = mid ++ opener' :: inner' := by simpa using hmid
      have hdepth := hinner.depth_eq
      have hprefix := hinner.depth_prefix mid.length
      rw [List.take_left] at hprefix
      rw [depth_append, depth_cons, Token.rise_opening hopener', hinner'.depth_eq] at hdepth
      omega
  · simp

/-- A closing bracket has at most one partner. -/
theorem Pairs.unique_left {ts : List Token} {i i' j : Nat} (h : Pairs ts i j)
    (h' : Pairs ts i' j) : i = i' := by
  obtain ⟨kind, before, inner, after, opener, closer, rfl, rfl, hj, ho, hi, hc⟩ := h
  obtain ⟨kind', before', inner', after', opener', closer', heq, rfl, hj', ho', hi', hc'⟩ := h'
  have hsplit : (before ++ opener :: inner) ++ closer :: after
      = (before' ++ opener' :: inner') ++ closer' :: after' := by
    simpa using heq
  obtain ⟨hmid, -⟩ := List.append_inj hsplit
    (by simp only [List.length_append, List.length_cons]; omega)
  have h₁ := length_le_of_balanced_left hmid hi ho' hi'
  have h₂ := length_le_of_balanced_left hmid.symm hi' ho hi
  omega

end SdkAudit
