import SdkAudit.Proofs.Nesting.Group
import SdkAudit.Proofs.Source.Checked

/-!
# Brackets matched by number

A nesting holds its groups.  Brackets can also be matched without building one: the number of each
opening bracket is kept until its partner comes, and then each gets the number of the other.  This
module does so with checked steps and compares the two.

* `Matching.ofTokens` — the partners that are found by number;
* `Nesting.partners` — the partners that the groups of a nesting have;
* `Matching.ofTokens_eq` — **they are the same**, and no check fails;
* `Nesting.partners_of_pairs` — the partner of a bracket is the one that it pairs with.
-/

namespace SdkAudit

open Nesting

/-! ### Matching -/

namespace Matching

/-- Goes on at the token with this number, with the opening brackets that have no partner yet,
innermost first, and with the partners that have been found. -/
def matchFrom (ts : List Token) (i : Nat) (opened : List (Bracket × Nat))
    (partners : List (Option Nat)) : List Token → Checked (List (Option Nat))
  | [] =>
    match opened with
    | [] => .ok partners
    | (_, j) :: _ => do
      let _ ← Checked.look ts j
      .error .refused
  | t :: rest =>
    match t.bracket? with
    | none => matchFrom ts (i + 1) opened partners rest
    | some (.opening kind) => matchFrom ts (i + 1) ((kind, i) :: opened) partners rest
    | some (.closing kind) =>
      match opened with
      | [] => .error .refused
      | (k, j) :: opened =>
        if k = kind then do
          let partners ← Checked.put partners i (some j)
          let partners ← Checked.put partners j (some i)
          matchFrom ts (i + 1) opened partners rest
        else .error .refused

/-- The partner of each token, if it has one. -/
def ofTokens (ts : List Token) : Checked (List (Option Nat)) :=
  matchFrom ts 0 [] (List.replicate ts.length none) ts

end Matching

/-! ### The partners in a nesting -/

namespace Nesting

/-- The partners of the tokens of a nesting before which there are so many. -/
def partnersFrom (k : Nat) : Nesting → List (Option Nat)
  | .empty => []
  | .token before _ => partnersFrom k before ++ [none]
  | .group before _ _ inner _ =>
    let i := k + before.tokens.length
    partnersFrom k before ++ some (i + inner.tokens.length + 1) ::
      (partnersFrom (i + 1) inner ++ [some i])

/-- The partner of each token of a nesting, if it has one. -/
def partners (n : Nesting) : List (Option Nat) := n.partnersFrom 0

@[simp] theorem length_partnersFrom (k : Nat) (n : Nesting) :
    (n.partnersFrom k).length = n.tokens.length := by
  induction n generalizing k with
  | empty => rfl
  | token before t ih => simp [partnersFrom, tokens, ih]
  | group before kind opener inner closer ihb ihi => simp [partnersFrom, tokens, ihb, ihi]

/-- The partners that are known where these groups are open and `inner` stands in the innermost. -/
def partnersSoFar : List Opened → Nesting → List (Option Nat)
  | [], inner => inner.partners
  | o :: opened, inner =>
    partnersSoFar opened o.before ++
      none :: inner.partnersFrom ((tokensSoFar opened o.before).length + 1)

/-- The groups that are open, as they are told by number. -/
def numbered : List Opened → List (Bracket × Nat)
  | [] => []
  | o :: opened => (o.kind, (tokensSoFar opened o.before).length) :: numbered opened

@[simp] theorem length_partnersSoFar (opened : List Opened) (inner : Nesting) :
    (partnersSoFar opened inner).length = (tokensSoFar opened inner).length := by
  induction opened generalizing inner with
  | nil => simp [partnersSoFar, tokensSoFar, partners]
  | cons o opened ih => simp [partnersSoFar, tokensSoFar, ih]

theorem partnersSoFar_token (opened : List Opened) (inner : Nesting) (t : Token) :
    partnersSoFar opened (.token inner t) = partnersSoFar opened inner ++ [none] := by
  cases opened <;> simp [partnersSoFar, partners, partnersFrom]

/-- The partners of a group that has just been closed. -/
theorem partnersSoFar_group (opened : List Opened) (before inner : Nesting) (kind : Bracket)
    (opener closer : Token) :
    partnersSoFar opened (.group before kind opener inner closer)
      = partnersSoFar opened before ++
          some ((tokensSoFar opened before).length + inner.tokens.length + 1) ::
            (inner.partnersFrom ((tokensSoFar opened before).length + 1) ++
              [some (tokensSoFar opened before).length]) := by
  cases opened with
  | nil => simp [partnersSoFar, partners, partnersFrom, tokensSoFar]
  | cons o opened =>
    have hcount : ∀ k : Nat, k + 1 + before.tokens.length = k + (before.tokens.length + 1) := by
      omega
    simp [partnersSoFar, partnersFrom, tokensSoFar, hcount]

end Nesting

namespace Matching

/-- Brackets are matched by number as they are by reading a nesting. -/
theorem matchFrom_eq {ts : List Token} (opened : List Opened) (inner : Nesting) {rest : List Token}
    (hts : ts = tokensSoFar opened inner ++ rest) :
    matchFrom ts (tokensSoFar opened inner).length (numbered opened)
        (partnersSoFar opened inner ++ List.replicate rest.length none) rest
      = (Checked.refusing (readFrom opened inner rest)).map partners := by
  induction rest generalizing opened inner with
  | nil =>
    cases opened with
    | nil =>
      rw [List.length_nil, List.replicate_zero, List.append_nil]
      rfl
    | cons o opened =>
      have hopener : ts[(tokensSoFar opened o.before).length]? = some o.opener := by
        simp [hts, tokensSoFar]
      rw [numbered, matchFrom, Checked.look_eq hopener]
      rfl
  | cons t rest ih =>
    have hmore : ts = (tokensSoFar opened inner ++ [t]) ++ rest := by rw [hts]; simp
    have hspace : List.replicate (t :: rest).length (none : Option Nat)
        = none :: List.replicate rest.length none := rfl
    rw [matchFrom, readFrom, hspace]
    cases hb : t.bracket? with
    | none =>
      have := ih opened (.token inner t) (by rw [hmore, tokensSoFar_token])
      rw [tokensSoFar_token, partnersSoFar_token] at this
      simpa using this
    | some sign =>
      cases sign with
      | opening kind =>
        have := ih (⟨inner, kind, t⟩ :: opened) .empty
          (by rw [hmore]; simp [tokensSoFar, tokens])
        simpa [tokensSoFar, partnersSoFar, numbered, tokens, partnersFrom] using this
      | closing kind =>
        cases opened with
        | nil => rfl
        | cons o opened =>
          show (if o.kind = kind then _ else _)
            = (Checked.refusing (if o.kind = kind then _ else _)).map partners
          by_cases hk : o.kind = kind
          · rw [if_pos hk, if_pos hk]
            have hgroup := tokensSoFar_group opened o inner t
            have := ih opened (.group o.before o.kind o.opener inner t)
              (by rw [hmore, hgroup])
            rw [hgroup, partnersSoFar_group, hk] at this
            have hclosing := Checked.put_append (partnersSoFar (o :: opened) inner) none
              (some (tokensSoFar opened o.before).length) (List.replicate rest.length none)
            have hopening := Checked.put_append (partnersSoFar opened o.before) none
              (some (tokensSoFar (o :: opened) inner).length)
              (inner.partnersFrom ((tokensSoFar opened o.before).length + 1) ++
                some (tokensSoFar opened o.before).length :: List.replicate rest.length none)
            have hstop : (tokensSoFar (o :: opened) inner).length
                = (tokensSoFar opened o.before).length + inner.tokens.length + 1 := by
              simp only [tokensSoFar, List.length_append, List.length_cons]
              omega
            rw [length_partnersSoFar] at hclosing hopening
            rw [hclosing, Checked.ok_bind, partnersSoFar, List.append_assoc, List.cons_append,
              hopening, Checked.ok_bind, ← this, hstop]
            simp [hstop]
          · rw [if_neg hk, if_neg hk]
            rfl

/-- **Brackets are matched by number** as they are by reading a nesting, and no check fails. -/
theorem ofTokens_eq (ts : List Token) :
    ofTokens ts = (Checked.refusing (Nesting.ofTokens ts)).map partners :=
  matchFrom_eq [] .empty rfl

end Matching

namespace Nesting

/-! ### Partners and pairs -/

theorem partners_of_mem_groupsFrom {n : Nesting} {earlier after : List Token}
    {around : List Opening} {g : Group} (h : g ∈ groupsFrom earlier around after n)
    (front : List (Option Nat)) (hfront : front.length = earlier.length)
    (back : List (Option Nat)) :
    (front ++ (n.partnersFrom earlier.length ++ back))[g.index]? = some (some g.stop) ∧
      (front ++ (n.partnersFrom earlier.length ++ back))[g.stop]? = some (some g.index) := by
  induction n generalizing earlier around after front back with
  | empty => simp [groupsFrom] at h
  | token before t ih =>
    have := ih h front hfront (none :: back)
    simpa [partnersFrom] using this
  | group before kind opener inner closer ihb ihi =>
    simp only [groupsFrom, List.mem_append, List.mem_cons] at h
    rcases h with h | rfl | h
    · have := ihb h front hfront
        (some (earlier.length + before.tokens.length + inner.tokens.length + 1) ::
          (inner.partnersFrom (earlier.length + before.tokens.length + 1) ++
            some (earlier.length + before.tokens.length) :: back))
      simpa [partnersFrom] using this
    · have hstop : earlier.length + before.tokens.length + inner.tokens.length + 1
          = (front ++ before.partnersFrom earlier.length).length +
              (inner.partnersFrom (earlier.length + before.tokens.length + 1)).length + 1 := by
        simp [hfront]
      have hindex : earlier.length + before.tokens.length
          = (front ++ before.partnersFrom earlier.length).length := by simp [hfront]
      simp only [Group.stop, Opening.index, List.length_append, partnersFrom, List.append_assoc,
        List.cons_append, List.nil_append]
      rw [← List.append_assoc]
      constructor
      · rw [hindex, List.getElem?_append_right le_rfl]
        simp
      · rw [hstop, Nat.add_assoc, List.getElem?_append_right (by omega), Nat.add_sub_cancel_left,
          List.getElem?_cons_succ, List.getElem?_append_right le_rfl]
        simp
    · have hlength : (earlier ++ before.tokens ++ [opener]).length
          = earlier.length + before.tokens.length + 1 := by simp [Nat.add_assoc]
      have := ihi h (front ++ before.partnersFrom earlier.length ++
        [some (earlier.length + before.tokens.length + inner.tokens.length + 1)])
        (by simp [hfront]) (some (earlier.length + before.tokens.length) :: back)
      rw [hlength] at this
      simpa [partnersFrom] using this

/-- **The partner of a bracket** is the bracket that it pairs with. -/
theorem partners_of_pairs {n : Nesting} (hn : n.IsProper) {i j : Nat} (h : Pairs n.tokens i j) :
    n.partners[i]? = some (some j) ∧ n.partners[j]? = some (some i) := by
  obtain ⟨g, hg, rfl, rfl⟩ := (pairs_iff hn).1 h
  simpa [partners] using partners_of_mem_groupsFrom hg [] rfl []

end Nesting

end SdkAudit
