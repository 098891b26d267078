import SdkAudit.Proofs.Nesting.Matching

/-!
# Words of brackets

Only the brackets of a token sequence decide whether it can be read as a nesting: they have to be a
word in which every bracket that opens is closed by one of its kind.  This module says so, says what
the partners are that such a sequence gets, and which bracket is to blame where there are none.

* `Dyck` — the words of three kinds of brackets that match;
* `openAfter` — the brackets that are open after a word, kept on a stack;
* `readFrom_step` — **one step of reading**, from which the runs below are derived;
* `exists_nesting_iff` — **the sequences that can be read**, whose brackets are such a word;
* `canMatch_iff` — the sequences that can go on to one that can be read;
* `IsMatching`, `Nesting.isMatching_partners` — **what the partners are**;
* `readFrom_of_refused`, `readFrom_of_open` — **where reading fails**;
* `matchesBrackets` — all of it, for every token sequence.
-/

namespace SdkAudit

open Nesting

/-- The brackets of some tokens, in order. -/
def bracketsOf (ts : List Token) : List BracketSign := ts.filterMap Token.bracket?

@[simp] theorem bracketsOf_nil : bracketsOf [] = [] := rfl

@[simp] theorem bracketsOf_append (ts us : List Token) :
    bracketsOf (ts ++ us) = bracketsOf ts ++ bracketsOf us :=
  List.filterMap_append

theorem bracketsOf_cons_none {t : Token} (h : t.bracket? = none) (ts : List Token) :
    bracketsOf (t :: ts) = bracketsOf ts :=
  List.filterMap_cons_none h

theorem bracketsOf_cons_some {t : Token} {sign : BracketSign} (h : t.bracket? = some sign)
    (ts : List Token) : bracketsOf (t :: ts) = sign :: bracketsOf ts :=
  List.filterMap_cons_some h

/-! ### Words that match -/

/-- A word of brackets in which every bracket that opens is closed by one of its kind. -/
inductive Dyck : List BracketSign → Prop
  | nil : Dyck []
  | group {inner after : List BracketSign} (kind : Bracket) :
      Dyck inner → Dyck after → Dyck (.opening kind :: (inner ++ .closing kind :: after))

theorem Dyck.append {u v : List BracketSign} (hu : Dyck u) (hv : Dyck v) : Dyck (u ++ v) := by
  induction hu with
  | nil => exact hv
  | group kind hinner _ _ ih =>
    rw [List.cons_append, List.append_assoc, List.cons_append]
    exact .group kind hinner ih

theorem Balanced.dyck {ts : List Token} (h : Balanced ts) : Dyck (bracketsOf ts) := by
  induction h with
  | nil => exact .nil
  | token _ ht ih =>
    rw [bracketsOf_append, bracketsOf_cons_none ht, bracketsOf_nil, List.append_nil]
    exact ih
  | group kind _ hopener _ hcloser ihb ihi =>
    rw [bracketsOf_append, bracketsOf_cons_some hopener, bracketsOf_append,
      bracketsOf_cons_some hcloser, bracketsOf_nil]
    exact ihb.append (.group kind ihi .nil)

/-- The kinds of the brackets that are open after a word, the innermost first, where these were open
before it.  There are none where a bracket closes what is not open. -/
def openAfter : List Bracket → List BracketSign → Option (List Bracket)
  | opened, [] => some opened
  | opened, .opening kind :: word => openAfter (kind :: opened) word
  | [], .closing _ :: _ => none
  | k :: opened, .closing kind :: word => if k = kind then openAfter opened word else none

theorem openAfter_append (opened : List Bracket) (u v : List BracketSign) :
    openAfter opened (u ++ v) = (openAfter opened u).bind (openAfter · v) := by
  induction u generalizing opened with
  | nil => rfl
  | cons sign u ih =>
    cases sign with
    | opening kind => exact ih (kind :: opened)
    | closing kind =>
      cases opened with
      | nil => rfl
      | cons k opened =>
        simp only [List.cons_append, openAfter]
        split
        case isTrue => exact ih opened
        case isFalse => rfl

/-- What matches leaves open what was open. -/
theorem Dyck.openAfter_eq {u : List BracketSign} (h : Dyck u) (opened : List Bracket) :
    openAfter opened u = some opened := by
  induction h generalizing opened with
  | nil => rfl
  | group kind _ _ ihi iha =>
    rw [openAfter, openAfter_append, ihi, Option.bind_some, openAfter, if_pos rfl, iha]

/-- Everything that is open can be closed. -/
theorem openAfter_closing (opened : List Bracket) :
    openAfter opened (opened.map .closing) = some [] := by
  induction opened with
  | nil => rfl
  | cons kind opened ih => rw [List.map_cons, openAfter, if_pos rfl, ih]

/-! ### Sequences that can be read -/

def kindsOf (opened : List Opened) : List Bracket := opened.map Opened.kind

/-- **One step of reading**: a token is taken, and the brackets that are open are those of the word
read so far; or a bracket is refused that closes what is not open. -/
theorem readFrom_step (opened : List Opened) (inner : Nesting) (t : Token) :
    (∃ opened' inner',
      (IsProperSoFar opened inner → IsProperSoFar opened' inner' ∧
        tokensSoFar opened' inner' = tokensSoFar opened inner ++ [t]) ∧
      ∀ rest, readFrom opened inner (t :: rest) = readFrom opened' inner' rest ∧
        openAfter (kindsOf opened) (bracketsOf (t :: rest))
          = openAfter (kindsOf opened') (bracketsOf rest)) ∨
    (∃ kind, t.bracket? = some (.closing kind)) ∧
      ∀ rest, readFrom opened inner (t :: rest) = .error (.unbalanced t.position) ∧
        openAfter (kindsOf opened) (bracketsOf (t :: rest)) = none := by
  simp only [readFrom]
  cases hb : t.bracket? with
  | none =>
    refine .inl ⟨opened, .token inner t, fun hp => ?_, fun rest => ?_⟩
    · have htoken : (Nesting.token inner t).IsProper := ⟨hp.inner, hb⟩
      exact ⟨hp.with_inner htoken, tokensSoFar_token ..⟩
    · rw [bracketsOf_cons_none hb]
      exact ⟨rfl, rfl⟩
  | some sign =>
    simp only [bracketsOf_cons_some hb]
    cases sign with
    | opening kind =>
      refine .inl ⟨⟨inner, kind, t⟩ :: opened, .empty, fun hp => ⟨⟨hp, hb, trivial⟩, ?_⟩,
        fun rest => ⟨rfl, rfl⟩⟩
      simp [tokensSoFar, Nesting.tokens]
    | closing kind =>
      cases opened with
      | nil => exact .inr ⟨⟨kind, rfl⟩, fun rest => ⟨rfl, rfl⟩⟩
      | cons o opened =>
        by_cases hkind : o.kind = kind
        · subst hkind
          refine .inl ⟨opened, .group o.before o.kind o.opener inner t, fun hp => ?_,
            fun rest => ⟨if_pos rfl, if_pos rfl⟩⟩
          obtain ⟨houter, hopener, hinner⟩ := hp
          have hgroup : (Nesting.group o.before o.kind o.opener inner t).IsProper :=
            ⟨houter.inner, hopener, hinner, hb⟩
          exact ⟨houter.with_inner hgroup, tokensSoFar_group ..⟩
        · exact .inr ⟨⟨kind, rfl⟩, fun rest => ⟨if_neg hkind, if_neg hkind⟩⟩

/-- Reading comes to an end where no bracket is left open. -/
theorem exists_readFrom_iff {opened : List Opened} {inner : Nesting} {ts : List Token} :
    (∃ n, readFrom opened inner ts = .ok n) ↔
      openAfter (kindsOf opened) (bracketsOf ts) = some [] := by
  induction ts generalizing opened inner with
  | nil => cases opened <;> simp [readFrom, openAfter, kindsOf]
  | cons t ts ih =>
    rcases readFrom_step opened inner t with ⟨opened', inner', -, hstep⟩ | ⟨-, hrefused⟩
    · rw [(hstep ts).1, (hstep ts).2]
      exact ih
    · rw [(hrefused ts).1, (hrefused ts).2]
      simp

/-- **A token sequence can be read** exactly if its brackets are a word that matches. -/
theorem exists_nesting_iff {ts : List Token} :
    (∃ n, Nesting.ofTokens ts = .ok n) ↔ Dyck (bracketsOf ts) := by
  constructor
  · rintro ⟨n, hn⟩
    obtain ⟨hproper, rfl⟩ := ofTokens_eq_ok_iff.1 hn
    exact hproper.balanced.dyck
  · intro h
    exact exists_readFrom_iff.2 (h.openAfter_eq [])

/-- Some tokens begin a sequence that can be read. -/
def CanMatch (ts : List Token) : Prop := ∃ more, Dyck (bracketsOf (ts ++ more))

theorem exists_closer (kind : Bracket) : ∃ t : Token, t.bracket? = some (.closing kind) := by
  cases kind with
  | round => exact ⟨⟨.sign ')', .origin, 0, 0⟩, rfl⟩
  | square => exact ⟨⟨.sign ']', .origin, 0, 0⟩, rfl⟩
  | curly => exact ⟨⟨.sign '\x7d', .origin, 0, 0⟩, rfl⟩

/-- There are tokens for every word of closing brackets. -/
theorem exists_closers (kinds : List Bracket) :
    ∃ ts : List Token, bracketsOf ts = kinds.map .closing := by
  induction kinds with
  | nil => exact ⟨[], rfl⟩
  | cons kind kinds ih =>
    obtain ⟨ts, hts⟩ := ih
    obtain ⟨t, ht⟩ := exists_closer kind
    exact ⟨t :: ts, by rw [bracketsOf_cons_some ht, hts, List.map_cons]⟩

/-- **Some tokens begin a sequence that can be read** as long as no bracket closes what is not
open. -/
theorem canMatch_iff {ts : List Token} :
    CanMatch ts ↔ ∃ opened, openAfter [] (bracketsOf ts) = some opened := by
  constructor
  · rintro ⟨more, hmore⟩
    have hword := hmore.openAfter_eq []
    rw [bracketsOf_append, openAfter_append, Option.bind_eq_some_iff] at hword
    obtain ⟨opened, hopened, -⟩ := hword
    exact ⟨opened, hopened⟩
  · rintro ⟨opened, hopened⟩
    obtain ⟨more, hmore⟩ := exists_closers opened
    refine ⟨more, exists_nesting_iff.1 (exists_readFrom_iff.2 ?_)⟩
    show openAfter [] _ = _
    rw [bracketsOf_append, openAfter_append, hopened, Option.bind_some, hmore, openAfter_closing]

/-! ### Where reading fails -/

/-- **The first bracket that closes what is not open** is the one that reading stops at. -/
theorem readFrom_of_refused {opened : List Opened} {inner : Nesting} {front rest : List Token}
    {t : Token} (hfront : openAfter (kindsOf opened) (bracketsOf front) ≠ none)
    (ht : openAfter (kindsOf opened) (bracketsOf (front ++ [t])) = none) :
    (∃ kind, t.bracket? = some (.closing kind)) ∧
      readFrom opened inner (front ++ t :: rest) = .error (.unbalanced t.position) := by
  induction front generalizing opened inner with
  | nil =>
    rcases readFrom_step opened inner t with ⟨opened', inner', -, hstep⟩ | ⟨hclosing, hrefused⟩
    · rw [List.nil_append, (hstep []).2] at ht
      cases ht
    · exact ⟨hclosing, (hrefused rest).1⟩
  | cons u front ih =>
    rcases readFrom_step opened inner u with ⟨opened', inner', -, hstep⟩ | ⟨-, hrefused⟩
    · rw [(hstep front).2] at hfront
      rw [List.cons_append, (hstep (front ++ [t])).2] at ht
      rw [List.cons_append, (hstep (front ++ t :: rest)).1]
      exact ih hfront ht
    · exact absurd (hrefused front).2 hfront

/-- **Where brackets are left open**, the innermost of them is to blame: what follows it matches. -/
theorem readFrom_of_open {opened : List Opened} {inner : Nesting} {ts : List Token} {k : Bracket}
    {kinds : List Bracket} (hp : IsProperSoFar opened inner)
    (h : openAfter (kindsOf opened) (bracketsOf ts) = some (k :: kinds)) :
    ∃ front t rest, tokensSoFar opened inner ++ ts = front ++ t :: rest ∧
      t.bracket? = some (.opening k) ∧ Dyck (bracketsOf rest) ∧
      readFrom opened inner ts = .error (.unbalanced t.position) := by
  induction ts generalizing opened inner with
  | nil =>
    cases opened with
    | nil => simp [kindsOf, openAfter] at h
    | cons o opened =>
      obtain ⟨hk, -⟩ := List.cons.inj (Option.some.inj h)
      obtain ⟨-, hopener, hinner⟩ := hp
      exact ⟨_, o.opener, inner.tokens, List.append_nil _, hk ▸ hopener, hinner.balanced.dyck, rfl⟩
  | cons t ts ih =>
    rcases readFrom_step opened inner t with ⟨opened', inner', hkeeps, hstep⟩ | ⟨-, hrefused⟩
    · obtain ⟨hp', htokens⟩ := hkeeps hp
      rw [(hstep ts).2] at h
      have := ih hp' h
      rwa [htokens, List.append_assoc, List.singleton_append, ← (hstep ts).1] at this
    · rw [(hrefused ts).2] at h
      cases h

/-! ### Pairs -/

/-- As many brackets are open after a pair as before it. -/
theorem Pairs.depth_stop {ts : List Token} {i j : Nat} (h : Pairs ts i j) :
    depth (ts.take (j + 1)) = depth (ts.take i) := by
  obtain ⟨kind, before, inner, after, opener, closer, rfl, rfl, rfl, hopener, hinner, hcloser⟩ := h
  have hstop : before.length + inner.length + 1 + 1 = before.length + ((inner.length + 1) + 1) := by
    omega
  rw [hstop, List.take_length_add_append, List.take_left, List.take_succ_cons,
    List.take_length_add_append]
  simp [Token.rise_opening hopener, Token.rise_closing hcloser, hinner.depth_eq]

/-- Between the brackets of a pair, more brackets are open than before it. -/
theorem Pairs.depth_within {ts : List Token} {i j m : Nat} (h : Pairs ts i j) (hi : i < m)
    (hj : m ≤ j) : depth (ts.take i) + 1 ≤ depth (ts.take m) := by
  obtain ⟨kind, before, inner, after, opener, closer, rfl, rfl, rfl, hopener, hinner, -⟩ := h
  obtain ⟨p, rfl⟩ : ∃ p, m = before.length + (p + 1) := ⟨m - before.length - 1, by omega⟩
  have hp : p ≤ inner.length := by omega
  have hprefix := hinner.depth_prefix p
  rw [List.take_length_add_append, List.take_left, List.take_succ_cons,
    List.take_append_of_le_length hp, depth_append, depth_cons, Token.rise_opening hopener]
  omega

/-- Two pairs of brackets do not cross: they are apart, or one is inside the other. -/
theorem Pairs.apart_or_inside {ts : List Token} {i j k l : Nat} (h : Pairs ts i j)
    (h' : Pairs ts k l) (hik : i < k) : j < k ∨ l < j := by
  by_contra hcross
  rw [not_or, not_lt, not_lt] at hcross
  have hne : j ≠ l := fun heq => hik.ne (h.unique_left (heq ▸ h'))
  -- the first pair would end where the second one is still open
  have hopen := h.depth_within hik hcross.1
  have hstill := h'.depth_within (by omega : k < j + 1) (by omega)
  rw [h.depth_stop] at hstill
  omega

/-! ### Partners -/

/-- A pair stays a pair, with more tokens before and behind it. -/
theorem Pairs.extend {ts : List Token} {i j : Nat} (h : Pairs ts i j) (front back : List Token) :
    Pairs (front ++ (ts ++ back)) (front.length + i) (front.length + j) := by
  obtain ⟨kind, before, inner, after, opener, closer, rfl, rfl, rfl, hopener, hinner, hcloser⟩ := h
  refine ⟨kind, front ++ before, inner, after ++ back, opener, closer, by simp, by simp, ?_,
    hopener, hinner, hcloser⟩
  omega

theorem Pairs.behind {ts : List Token} {i j : Nat} (h : Pairs ts i j) (back : List Token) :
    Pairs (ts ++ back) i j := by
  simpa using h.extend [] back

/-- A group begins and ends with a pair. -/
theorem Nesting.IsProper.pairs {before inner : Nesting} {kind : Bracket} {opener closer : Token}
    (hn : (Nesting.group before kind opener inner closer).IsProper) :
    Pairs (Nesting.group before kind opener inner closer).tokens before.tokens.length
      (before.tokens.length + inner.tokens.length + 1) :=
  ⟨kind, before.tokens, inner.tokens, [], opener, closer, rfl, rfl, rfl, hn.2.1,
    hn.2.2.1.balanced, hn.2.2.2⟩

/-- Every bracket of a nesting belongs to a pair. -/
theorem exists_pair {n : Nesting} (hn : n.IsProper) {i : Nat} {t : Token}
    (hi : n.tokens[i]? = some t) (ht : t.bracket? ≠ none) :
    ∃ j, Pairs n.tokens i j ∨ Pairs n.tokens j i := by
  induction n generalizing i with
  | empty => simp [tokens] at hi
  | token before u ih =>
    rcases getElem?_tokens_token hi with hbefore | rfl
    · obtain ⟨j, hj⟩ := ih hn.1 hbefore
      exact ⟨j, hj.imp (·.behind [u]) (·.behind [u])⟩
    · exact absurd hn.2 ht
  | group before kind opener inner closer ihb ihi =>
    rcases getElem?_tokens_group hi with hbefore | ⟨rfl, -⟩ | ⟨m, rfl, hinner⟩ | ⟨rfl, -⟩
    · obtain ⟨j, hj⟩ := ihb hn.1 hbefore
      exact ⟨j, hj.imp (·.behind _) (·.behind _)⟩
    · exact ⟨_, .inl hn.pairs⟩
    · obtain ⟨j, hj⟩ := ihi hn.2.2.1 hinner
      have hmore := fun a b (h : Pairs inner.tokens a b) =>
        h.extend (before.tokens ++ [opener]) [closer]
      simp only [List.append_assoc, List.singleton_append, List.length_append,
        List.length_singleton] at hmore
      refine ⟨before.tokens.length + (j + 1), ?_⟩
      rw [Nat.add_comm m, Nat.add_comm j, ← Nat.add_assoc, ← Nat.add_assoc]
      exact hj.imp (hmore _ _) (hmore _ _)
    · exact ⟨_, .inr hn.pairs⟩

/-- What is no bracket has no partner. -/
theorem partnersFrom_of_none {n : Nesting} (hn : n.IsProper) (k : Nat) {i : Nat} {t : Token}
    (hi : n.tokens[i]? = some t) (ht : t.bracket? = none) :
    (n.partnersFrom k)[i]? = some none := by
  induction n generalizing i k with
  | empty => simp [tokens] at hi
  | token before u ih =>
    rw [partnersFrom]
    rcases getElem?_append_eq_some hi with hbefore | ⟨j, rfl, hlast⟩
    · have hlt := (List.getElem?_eq_some_iff.1 (ih hn.1 k hbefore)).1
      rw [List.getElem?_append_left hlt, ih hn.1 k hbefore]
    · obtain rfl : j = 0 := by simpa using (List.getElem?_eq_some_iff.1 hlast).1
      simp
  | group before kind opener inner closer ihb ihi =>
    obtain ⟨hb, hopener, hin, hcloser⟩ := hn
    rw [partnersFrom]
    rcases getElem?_tokens_group hi with hbefore | ⟨-, rfl⟩ | ⟨m, rfl, hinner⟩ | ⟨-, rfl⟩
    · have hlt := (List.getElem?_eq_some_iff.1 (ihb hb k hbefore)).1
      rw [List.getElem?_append_left hlt, ihb hb k hbefore]
    · simp [hopener] at ht
    · have hpartner := ihi hin (k + before.tokens.length + 1) hinner
      have hlt := (List.getElem?_eq_some_iff.1 hpartner).1
      rw [List.getElem?_append_right (by simp), length_partnersFrom, Nat.add_sub_cancel_left,
        List.getElem?_cons_succ, List.getElem?_append_left hlt, hpartner]
    · simp [hcloser] at ht

/-- **Partners are pairs.** -/
theorem partners_iff {n : Nesting} (hn : n.IsProper) {i j : Nat} :
    n.partners[i]? = some (some j) ↔ Pairs n.tokens i j ∨ Pairs n.tokens j i := by
  constructor
  · intro h
    have hlt := (List.getElem?_eq_some_iff.1 h).1
    rw [partners, length_partnersFrom] at hlt
    have hi : n.tokens[i]? = some n.tokens[i] := List.getElem?_eq_getElem hlt
    by_cases ht : n.tokens[i].bracket? = none
    · rw [partners, partnersFrom_of_none hn 0 hi ht] at h
      cases h
    · obtain ⟨j', hpair | hpair⟩ := exists_pair hn hi ht
      · rw [(partners_of_pairs hn hpair).1] at h
        cases h
        exact .inl hpair
      · rw [(partners_of_pairs hn hpair).2] at h
        cases h
        exact .inr hpair
  · rintro (hpair | hpair)
    · exact (partners_of_pairs hn hpair).1
    · exact (partners_of_pairs hn hpair).2

/-- The two brackets of a pair are of one kind. -/
theorem Pairs.exists_kind {ts : List Token} {i j : Nat} (h : Pairs ts i j) :
    ∃ t u kind, ts[i]? = some t ∧ t.bracket? = some (.opening kind) ∧ ts[j]? = some u ∧
      u.bracket? = some (.closing kind) := by
  obtain ⟨kind, before, inner, after, opener, closer, rfl, rfl, rfl, hopener, -, hcloser⟩ := h
  refine ⟨opener, closer, kind, by simp, hopener, ?_, hcloser⟩
  rw [Nat.add_assoc, List.getElem?_append_right (Nat.le_add_right _ _), Nat.add_sub_cancel_left]
  simp

/-- The first token of a pair opens a kind, and the second one closes it. -/
theorem Pairs.of_left {ts : List Token} {i j : Nat} {t : Token} (h : Pairs ts i j)
    (hi : ts[i]? = some t) :
    ∃ kind u, t.bracket? = some (.opening kind) ∧ ts[j]? = some u ∧
      u.bracket? = some (.closing kind) := by
  obtain ⟨t', u, kind, hi', hopener, hu, hcloser⟩ := h.exists_kind
  obtain rfl := Option.some.inj (hi.symm.trans hi')
  exact ⟨kind, u, hopener, hu, hcloser⟩

/-- The second token of a pair closes a kind, and the first one opens it. -/
theorem Pairs.of_right {ts : List Token} {i j : Nat} {u : Token} (h : Pairs ts i j)
    (hj : ts[j]? = some u) :
    ∃ kind t, u.bracket? = some (.closing kind) ∧ ts[i]? = some t ∧
      t.bracket? = some (.opening kind) := by
  obtain ⟨t, u', kind, ht, hopener, hj', hcloser⟩ := h.exists_kind
  obtain rfl := Option.some.inj (hj.symm.trans hj')
  exact ⟨kind, t, hcloser, ht, hopener⟩

/-- What is promised of the partners of the tokens. -/
structure IsMatching (ts : List Token) (partners : List (Option Nat)) : Prop where
  length : partners.length = ts.length
  /-- Every bracket has a partner, and nothing else has one. -/
  exists_iff : ∀ (i : Nat) (t : Token), ts[i]? = some t →
    ((∃ j, partners[i]? = some (some j)) ↔ t.bracket?.isSome = true)
  /-- A bracket is the partner of its partner. -/
  involutive : ∀ i j : Nat, partners[i]? = some (some j) → partners[j]? = some (some i)
  /-- The partner of an opening bracket comes after it, and closes its kind. -/
  opening : ∀ (i j : Nat) (t : Token) (kind : Bracket), partners[i]? = some (some j) →
    ts[i]? = some t → t.bracket? = some (.opening kind) →
    i < j ∧ ∃ u, ts[j]? = some u ∧ u.bracket? = some (.closing kind)
  /-- The partner of a closing bracket comes before it, and opens its kind. -/
  closing : ∀ (i j : Nat) (t : Token) (kind : Bracket), partners[i]? = some (some j) →
    ts[i]? = some t → t.bracket? = some (.closing kind) →
    j < i ∧ ∃ u, ts[j]? = some u ∧ u.bracket? = some (.opening kind)
  /-- Two pairs are apart, or one is inside the other. -/
  laminar : ∀ i j k l : Nat, partners[i]? = some (some j) → partners[k]? = some (some l) →
    i < j → k < l → i < k → j < k ∨ l < j

/-- **The partners in a nesting** match its tokens. -/
theorem isMatching_partners {n : Nesting} (hn : n.IsProper) : IsMatching n.tokens n.partners where
  length := length_partnersFrom 0 n
  exists_iff := by
    intro i t hi
    simp only [partners_iff hn]
    constructor
    · rintro ⟨j, hpair | hpair⟩
      · obtain ⟨kind, -, hopener, -⟩ := hpair.of_left hi
        rw [hopener]
        rfl
      · obtain ⟨kind, -, hcloser, -⟩ := hpair.of_right hi
        rw [hcloser]
        rfl
    · intro ht
      exact exists_pair hn hi (Option.isSome_iff_ne_none.1 ht)
  involutive := fun i j h => (partners_iff hn).2 ((partners_iff hn).1 h).symm
  opening := by
    intro i j t kind h hi ht
    rcases (partners_iff hn).1 h with hpair | hpair
    · obtain ⟨kind', u, ht', hu, hcloser⟩ := hpair.of_left hi
      obtain rfl : kind = kind' := by simpa [ht] using ht'
      exact ⟨hpair.lt, u, hu, hcloser⟩
    · obtain ⟨kind', -, hcloser, -⟩ := hpair.of_right hi
      simp [ht] at hcloser
  closing := by
    intro i j t kind h hi ht
    rcases (partners_iff hn).1 h with hpair | hpair
    · obtain ⟨kind', -, hopener, -⟩ := hpair.of_left hi
      simp [ht] at hopener
    · obtain ⟨kind', u, ht', hu, hopener⟩ := hpair.of_right hi
      obtain rfl : kind = kind' := by simpa [ht] using ht'
      exact ⟨hpair.lt, u, hu, hopener⟩
  laminar := by
    intro i j k l h h' hij hkl hik
    have hpair : Pairs n.tokens i j :=
      ((partners_iff hn).1 h).resolve_right fun hback => hij.not_gt hback.lt
    have hpair' : Pairs n.tokens k l :=
      ((partners_iff hn).1 h').resolve_right fun hback => hkl.not_gt hback.lt
    exact hpair.apart_or_inside hpair' hik

/-! ### Every token sequence -/

/-- How the brackets of a token sequence are matched. -/
structure MatchesBrackets (ts : List Token) : Prop where
  /-- The sequence is accepted exactly if its brackets are a word that matches. -/
  accepted_iff : (∃ n, Nesting.ofTokens ts = .ok n) ↔ Dyck (bracketsOf ts)
  /-- Then its partners, which are also those that are found by number, match it. -/
  partners : ∀ n, Nesting.ofTokens ts = .ok n →
    IsMatching ts n.partners ∧ Matching.ofTokens ts = .ok n.partners
  /-- Where it stops being the beginning of an accepted sequence it is refused, with the position of
  the bracket there, which is a closing one. -/
  refused : ∀ front t rest, ts = front ++ t :: rest → CanMatch front → ¬ CanMatch (front ++ [t]) →
    (∃ kind, t.bracket? = some (.closing kind)) ∧
      Nesting.ofTokens ts = .error (.unbalanced t.position)
  /-- It stops somewhere, unless all of it is such a beginning. -/
  stops : ¬ CanMatch ts → ∃ front t rest, ts = front ++ t :: rest ∧ CanMatch front ∧
    ¬ CanMatch (front ++ [t])
  /-- A beginning of accepted sequences that is not accepted itself is refused with the position of
  the last bracket that is left open. -/
  unfinished : CanMatch ts → ¬ Dyck (bracketsOf ts) → ∃ front t rest kind, ts = front ++ t :: rest ∧
    t.bracket? = some (.opening kind) ∧ Dyck (bracketsOf rest) ∧
    Nesting.ofTokens ts = .error (.unbalanced t.position)

theorem canMatch_nil : CanMatch [] := ⟨[], .nil⟩

/-- Some tokens that do not begin an accepted sequence stop doing so at one of them. -/
theorem exists_stop {front ts : List Token} (hfront : CanMatch front)
    (h : ¬ CanMatch (front ++ ts)) :
    ∃ first t rest, ts = first ++ t :: rest ∧ CanMatch (front ++ first) ∧
      ¬ CanMatch (front ++ (first ++ [t])) := by
  induction ts generalizing front with
  | nil => exact absurd (by rwa [List.append_nil]) h
  | cons t ts ih =>
    by_cases ht : CanMatch (front ++ [t])
    · rw [← List.singleton_append, ← List.append_assoc] at h
      obtain ⟨first, u, rest, rfl, hfirst, hu⟩ := ih ht h
      exact ⟨t :: first, u, rest, rfl, by simpa using hfirst, by simpa using hu⟩
    · exact ⟨[], t, ts, rfl, by simpa using hfront, ht⟩

/-- **Brackets are matched** in every token sequence: accepted are exactly the balanced ones, their
partners are as they should be, and others are refused where they stop being balanced. -/
theorem matchesBrackets (ts : List Token) : MatchesBrackets ts where
  accepted_iff := exists_nesting_iff
  partners := by
    intro n hn
    obtain ⟨hproper, rfl⟩ := ofTokens_eq_ok_iff.1 hn
    refine ⟨isMatching_partners hproper, ?_⟩
    rw [Matching.ofTokens_eq, hn]
    rfl
  refused := by
    rintro front t rest rfl hfront ht
    rw [canMatch_iff] at hfront ht
    obtain ⟨opened, hopened⟩ := hfront
    have hstop : openAfter [] (bracketsOf (front ++ [t])) = none :=
      Option.eq_none_iff_forall_ne_some.2 fun opened h => ht ⟨opened, h⟩
    have hread : openAfter (kindsOf []) (bracketsOf front) ≠ none := by
      rw [kindsOf, List.map_nil, hopened]
      simp
    exact readFrom_of_refused hread hstop
  stops := by
    intro h
    have hstop : ¬ CanMatch ([] ++ ts) := h
    obtain ⟨first, t, rest, rfl, hfirst, ht⟩ := exists_stop canMatch_nil hstop
    exact ⟨first, t, rest, rfl, hfirst, ht⟩
  unfinished := by
    intro h hnot
    obtain ⟨opened, hopened⟩ := canMatch_iff.1 h
    cases opened with
    | nil => exact absurd (exists_nesting_iff.1 (exists_readFrom_iff.2 hopened)) hnot
    | cons kind kinds =>
      have hstart : IsProperSoFar [] .empty := trivial
      obtain ⟨front, t, rest, hts, ht, hrest, hread⟩ := readFrom_of_open hstart hopened
      exact ⟨front, t, rest, kind, hts, ht, hrest, hread⟩

end SdkAudit
