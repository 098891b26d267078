import SdkAudit.Proofs.Outline.ByNumber
import SdkAudit.Proofs.Outline.Header
import SdkAudit.Proofs.Outline.Separator
import SdkAudit.Proofs.Text.Trim

/-!
# Segments and pieces

The arguments of a call are the pieces between the commas of its nesting, and by number they are the
segments between two brackets.  This module follows the tokens and groups of a nesting along the
token sequence and says which segment belongs to which piece.

* `Nesting.Inside`, `Lies` — what stands between two brackets, item by item;
* `Segment` — a segment that holds the items of a piece;
* `ByNumber.segments_eq` — **the segments are the pieces**, each of them inside its brackets;
* `ByNumber.literalKeys_eq`, `ByNumber.arguments_eq` — so keys and arguments are the same by number.
-/

namespace SdkAudit

open Nesting Outline

variable {ts : List Token} {partners : List (Option Nat)} {flavor : Flavor}

/-- A bracket is no other sign. -/
theorem Token.isSign_of_bracket? {t : Token} {sign : BracketSign} (h : t.bracket? = some sign)
    {c : Char} (hc : c ∉ ['(', ')', '[', ']', '\x7b', '\x7d']) : t.isSign c = false := by
  refine Bool.eq_false_iff.2 fun hsign => ?_
  rw [Token.isSign_iff] at hsign
  simp only [List.mem_cons, List.not_mem_nil, or_false, not_or] at hc
  simp [Token.bracket?, hsign, hc] at h

/-! ### Items along the tokens -/

/-- Between the brackets with these numbers stands this nesting. -/
def Nesting.Inside (ts : List Token) (i j : Nat) (kind : Bracket) (n : Nesting) : Prop :=
  n.IsProper ∧ ∃ before after opener closer,
    ts = before ++ opener :: (n.tokens ++ closer :: after) ∧ before.length = i ∧
      j = i + n.tokens.length + 1 ∧ Token.bracket? opener = some (.opening kind) ∧
      Token.bracket? closer = some (.closing kind)

theorem Nesting.Inside.pairs {i j : Nat} {kind : Bracket} {n : Nesting}
    (h : Inside ts i j kind n) : Pairs ts i j := by
  obtain ⟨hn, before, after, opener, closer, hts, hi, hj, hopener, hcloser⟩ := h
  exact ⟨kind, before, n.tokens, after, opener, closer, hts, hi, hj, hopener, hn.balanced, hcloser⟩

theorem Nesting.Inside.opener {i j : Nat} {kind : Bracket} {n : Nesting}
    (h : Inside ts i j kind n) : ∃ t, ts[i]? = some t ∧ t.bracket? = some (.opening kind) := by
  obtain ⟨-, before, after, opener, closer, rfl, rfl, -, hopener, -⟩ := h
  exact ⟨opener, by simp, hopener⟩

theorem Pairs.lt_length {i j : Nat} (h : Pairs ts i j) : j < ts.length := by
  obtain ⟨t, -, ht, -⟩ := h.closer
  exact (List.getElem?_eq_some_iff.1 ht).1

/-- These tokens and groups stand from one number up to another. -/
inductive Lies (ts : List Token) : Nat → List Nesting.Item → Nat → Prop
  | nil {k : Nat} : Lies ts k [] k
  | token {k stop : Nat} {t : Token} {items : List Nesting.Item} :
      ts[k]? = some t → t.bracket? = none → Lies ts (k + 1) items stop →
      Lies ts k (.token t :: items) stop
  | group {k m stop : Nat} {kind : Bracket} {inner : Nesting} {items : List Nesting.Item} :
      Inside ts k m kind inner → Lies ts (m + 1) items stop →
      Lies ts k (.group kind inner :: items) stop

namespace Lies

variable {k mid stop : Nat} {items more : List Nesting.Item}

theorem le (h : Lies ts k items stop) : k ≤ stop := by
  induction h with
  | nil => exact le_rfl
  | token _ _ _ ih => omega
  | group hinside _ ih =>
    have := hinside.pairs.lt
    omega

theorem lt (h : Lies ts k items stop) (hne : items ≠ []) : k < stop := by
  cases h with
  | nil => exact absurd rfl hne
  | token _ _ hrest =>
    have := hrest.le
    omega
  | group hinside hrest =>
    have := hinside.pairs.lt
    have := hrest.le
    omega

theorem append (h : Lies ts k items mid) (h' : Lies ts mid more stop) :
    Lies ts k (items ++ more) stop := by
  induction h with
  | nil => exact h'
  | token ht hb _ ih => exact .token ht hb (ih h')
  | group hinside _ ih => exact .group hinside (ih h')

/-- Where items lie there are tokens. -/
theorem lt_length (h : Lies ts k items stop) {i : Nat} (hi : i < stop) (hk : k ≤ i) :
    i < ts.length := by
  induction h with
  | nil => omega
  | @token k stop t items ht _ _ ih =>
    by_cases heq : i = k
    · exact heq ▸ (List.getElem?_eq_some_iff.1 ht).1
    · exact ih hi (by omega)
  | @group k m stop kind inner items hinside _ ih =>
    by_cases hm : i ≤ m
    · exact lt_of_le_of_lt hm hinside.pairs.lt_length
    · exact ih hi (by omega)

end Lies

theorem lies_itemsBefore {n : Nesting} (hn : n.IsProper) {outside rest : List Token}
    {more : List Nesting.Item} {stop : Nat}
    (h : Lies (outside ++ n.tokens ++ rest) (outside.length + n.tokens.length) more stop) :
    Lies (outside ++ n.tokens ++ rest) outside.length (n.itemsBefore more) stop := by
  induction n generalizing outside rest more with
  | empty => exact h
  | token before t ih =>
    have hsplit : outside ++ (Nesting.token before t).tokens ++ rest
        = outside ++ before.tokens ++ t :: rest := by simp [Nesting.tokens]
    rw [hsplit] at h ⊢
    refine ih hn.1 (.token ?_ hn.2 ?_)
    · rw [← List.length_append]
      simp
    · simpa [Nesting.tokens, Nat.add_assoc] using h
  | group before kind opener inner closer ihb _ =>
    obtain ⟨hb, hopener, hi, hcloser⟩ := hn
    have hsplit : outside ++ (Nesting.group before kind opener inner closer).tokens ++ rest
        = outside ++ before.tokens ++ opener :: (inner.tokens ++ closer :: rest) := by
      simp [Nesting.tokens]
    rw [hsplit] at h ⊢
    refine ihb hb (.group (m := outside.length + before.tokens.length + inner.tokens.length + 1)
      ⟨hi, _, _, opener, closer, rfl, by simp, rfl, hopener, hcloser⟩ ?_)
    have hcount : outside.length + (Nesting.group before kind opener inner closer).tokens.length
        = outside.length + before.tokens.length + inner.tokens.length + 1 + 1 := by
      simp only [Nesting.tokens, List.length_append, List.length_cons, List.length_nil]
      omega
    rwa [hcount] at h

/-- What stands between two brackets lies there item by item. -/
theorem Nesting.Inside.lies {i j : Nat} {kind : Bracket} {n : Nesting}
    (h : Inside ts i j kind n) : Lies ts (i + 1) n.items j := by
  obtain ⟨hn, before, after, opener, closer, rfl, rfl, rfl, -, -⟩ := h
  have hsplit : before ++ opener :: (n.tokens ++ closer :: after)
      = (before ++ [opener]) ++ n.tokens ++ closer :: after := by simp
  rw [hsplit]
  have hlies : Lies (before ++ [opener] ++ n.tokens ++ closer :: after) (before ++ [opener]).length
      n.items ((before ++ [opener]).length + n.tokens.length) := lies_itemsBefore hn .nil
  have hcount : (before ++ [opener]).length + n.tokens.length
      = before.length + n.tokens.length + 1 := by
    simp only [List.length_append, List.length_cons, List.length_nil]
    omega
  rwa [hcount, List.length_append, List.length_singleton] at hlies

/-! ### Segments -/

/-- The partners of a token sequence are those that its brackets pair with. -/
def Matched (ts : List Token) (partners : List (Option Nat)) : Prop :=
  ∀ i j, Pairs ts i j → partners[i]? = some (some j) ∧ partners[j]? = some (some i)

/-- A segment between two brackets that holds the items of a piece. -/
structure Segment (ts : List Token) (i j : Nat) (segment : Nat × Nat) (piece : List Nesting.Item) :
    Prop where
  lies : Lies ts segment.1 piece segment.2
  nonempty : piece ≠ []
  after_opening : i < segment.1
  before_closing : segment.2 ≤ j
  /-- Behind the segment stands a token, and no equals sign. -/
  ends : ∃ t, ts[segment.2]? = some t ∧ t.isSign '=' = false

/-- Every one of these segments holds a piece. -/
theorem Segment.exists_of_forall₂ {i j : Nat} {found : List (Nat × Nat)}
    {held : List (List Nesting.Item)}
    (h : List.Forall₂ (Segment ts i j) found held) {segment : Nat × Nat} (hmem : segment ∈ found) :
    ∃ piece, Segment ts i j segment piece := by
  induction h with
  | nil => cases hmem
  | cons hhead _ ih =>
    rcases List.mem_cons.1 hmem with rfl | hmem
    · exact ⟨_, hhead⟩
    · exact ih hmem

theorem ByNumber.opens_iff {t : Token} :
    ByNumber.opens t = true ↔ ∃ kind, t.bracket? = some (.opening kind) := by
  simp only [ByNumber.opens, Bool.or_eq_true, Token.bracket?_eq_opening]
  constructor
  · rintro ((h | h) | h)
    · exact ⟨.round, h⟩
    · exact ⟨.square, h⟩
    · exact ⟨.curly, h⟩
  · rintro ⟨_ | _ | _, h⟩
    · exact .inl (.inl h)
    · exact .inl (.inr h)
    · exact .inr h

/-- Nothing in front of the first piece. -/
theorem modifyHead_nil_append {α : Type} (found : List (List α)) :
    found.modifyHead ([] ++ ·) = found :=
  congrFun List.modifyHead_id found

theorem Text.cutAt_cons {α : Type} (isMark : α → Bool) (x : α) (items : List α) :
    cutAt isMark (x :: items)
      = if isMark x then [] :: cutAt isMark items
        else (cutAt isMark items).modifyHead (x :: ·) := by
  rw [cutAt_eq_splitOnP, List.splitOnP_cons_eq_if_modifyHead, cutAt_eq_splitOnP]

namespace ByNumber

variable {i j : Nat} {kind : Bracket} {n : Nesting} {segment : Nat × Nat} {head : Token}
  {items : List Nesting.Item}

/-- What has been read of a piece is a segment, unless nothing has. -/
theorem forall₂_segment {k start : Nat} {sofar : List Nesting.Item} (hsofar : Lies ts start sofar k)
    (hi : i < start) (hk : k ≤ j) (hends : ∃ t, ts[k]? = some t ∧ t.isSign '=' = false)
    {found : List (Nat × Nat)} {found' : List (List Nesting.Item)}
    (h : List.Forall₂ (Segment ts i j) found found') :
    List.Forall₂ (Segment ts i j) (if start < k then (start, k) :: found else found)
      (if sofar.isEmpty then found' else sofar :: found') := by
  cases sofar with
  | nil =>
    cases hsofar
    rw [if_neg (lt_irrefl _)]
    exact h
  | cons x sofar =>
    rw [if_pos (hsofar.lt (by simp))]
    exact .cons ⟨hsofar, by simp, hi, hk, hends⟩ h

/-- From anywhere in a piece on, the segments are the pieces to come. -/
theorem segmentsFrom_eq (hp : Matched ts partners) {k calls start : Nat}
    {items sofar : List Nesting.Item} (h : Lies ts k items j) (hsofar : Lies ts start sofar k)
    (hi : i < start) (hj : ∃ t, ts[j]? = some t ∧ t.isSign '=' = false) (hcalls : j - k < calls) :
    ∃ found, segmentsFrom ts partners j calls start k = .ok found ∧
      List.Forall₂ (Segment ts i j) found
        (((Text.cutAt pieces.isComma items).modifyHead (sofar ++ ·)).filter (!·.isEmpty)) := by
  induction h generalizing calls start sofar with
  | @nil k =>
    obtain ⟨calls, rfl⟩ : ∃ fewer, calls = fewer + 1 := ⟨calls - 1, by omega⟩
    rw [segmentsFrom, if_neg (lt_irrefl k)]
    refine ⟨_, rfl, ?_⟩
    have := forall₂_segment hsofar hi le_rfl hj .nil
    cases sofar <;> simpa [Text.cutAt] using this
  | @token k stop t items ht hb hrest ih =>
    have hlt := (Lies.token ht hb hrest).lt (by simp)
    have hle := hrest.le
    have hopens : ¬ opens t = true := fun h => by
      obtain ⟨kind, hkind⟩ := opens_iff.1 h
      rw [hb] at hkind
      cases hkind
    have hstart := hsofar.le
    obtain ⟨calls, rfl⟩ : ∃ fewer, calls = fewer + 1 := ⟨calls - 1, by omega⟩
    have hfewer : stop - (k + 1) < calls := by omega
    rw [segmentsFrom, if_pos hlt, Checked.look_eq ht, Checked.ok_bind, if_neg hopens]
    by_cases hcomma : t.isSign ',' = true
    · have hmark : pieces.isComma (.token t) = true := hcomma
      have hends : ∃ t, ts[k]? = some t ∧ t.isSign '=' = false :=
        ⟨t, ht, Token.isSign_of_isSign hcomma (by decide)⟩
      obtain ⟨found, hfound, hall⟩ := ih .nil (by omega : i < k + 1) hj hfewer
      rw [modifyHead_nil_append] at hall
      rw [if_pos hcomma, hfound, Checked.ok_bind]
      refine ⟨_, rfl, ?_⟩
      have := forall₂_segment hsofar hi hlt.le hends hall
      rw [Text.cutAt_cons, if_pos hmark]
      cases sofar <;> simpa [Function.comp_def] using this
    · have hmark : ¬ pieces.isComma (.token t) = true := hcomma
      obtain ⟨found, hfound, hall⟩ := ih (hsofar.append (.token ht hb .nil)) hi hj hfewer
      rw [if_neg hcomma]
      refine ⟨found, hfound, ?_⟩
      rw [Text.cutAt_cons, if_neg hmark, List.modifyHead_modifyHead]
      simpa [Function.comp_def] using hall
  | @group k m stop kind inner items hinside hrest ih =>
    have hlt := (Lies.group hinside hrest).lt (by simp)
    have hle := hrest.le
    have hmlt := hinside.pairs.lt
    obtain ⟨opener, ht, hb⟩ := hinside.opener
    have hpartner : Checked.look partners k = .ok (some m) :=
      Checked.look_eq (hp k m hinside.pairs).1
    have hmark : ¬ pieces.isComma (.group kind inner) = true := by simp [pieces.isComma]
    obtain ⟨calls, rfl⟩ : ∃ fewer, calls = fewer + 1 := ⟨calls - 1, by omega⟩
    have hfewer : stop - (m + 1) < calls := by omega
    obtain ⟨found, hfound, hall⟩ := ih (hsofar.append (.group hinside .nil)) hi hj hfewer
    rw [segmentsFrom, if_pos hlt, Checked.look_eq ht, Checked.ok_bind, if_pos (opens_iff.2 ⟨_, hb⟩),
      hpartner, Checked.ok_bind]
    refine ⟨found, hfound, ?_⟩
    rw [Text.cutAt_cons, if_neg hmark, List.modifyHead_modifyHead]
    simpa [Function.comp_def] using hall

/-- **The segments between two brackets are the pieces** that stand there.  None is empty, and each
lies between the brackets. -/
theorem segments_eq (hp : Matched ts partners) (h : Inside ts i j kind n) :
    ∃ found, segments ts partners i j = .ok found ∧
      List.Forall₂ (Segment ts i j) found (pieces n) := by
  have hj : ∃ t, ts[j]? = some t ∧ t.isSign '=' = false := by
    obtain ⟨t, kind, ht, hb⟩ := h.pairs.closer
    exact ⟨t, ht, Token.isSign_of_bracket? hb (by decide)⟩
  obtain ⟨found, hfound, hall⟩ := segmentsFrom_eq hp h.lies .nil (Nat.lt_succ_self i) hj
    (by omega : j - (i + 1) < j + 1)
  rw [modifyHead_nil_append] at hall
  exact ⟨found, hfound, hall⟩

/-! ### Keys and arguments -/

/-- Segment by segment, the keys are those of the pieces. -/
theorem literalKey?_eq {segment : Nat × Nat} {piece : List Nesting.Item}
    (h : Segment ts i j segment piece) :
    literalKey? ts segment = .ok (Outline.literalKey? piece) := by
  obtain ⟨start, stop⟩ := segment
  have hlies : Lies ts start piece stop := h.lies
  cases hlies with
  | nil => exact absurd rfl h.nonempty
  | @token _ _ head items hhead _ hrest =>
    cases hrest with
    | nil => rw [literalKey?, if_neg (lt_irrefl _)]; rfl
    | @token _ _ colon items hcolon _ hrest =>
      have hlt : start + 1 < stop := hrest.le
      rw [literalKey?, if_pos hlt, Checked.look_eq hcolon, Checked.ok_bind, Checked.look_eq hhead,
        Checked.ok_bind, Outline.literalKey?]
      split
      · cases head.lexeme <;> rfl
      · rfl
    | @group _ m _ kind inner items hinside hrest =>
      have hlt : start + 1 < stop := by
        have := hinside.pairs.lt
        have := hrest.le
        omega
      obtain ⟨opener, hopener, hb⟩ := hinside.opener
      have hcolon : opener.isSign ':' = false := Token.isSign_of_bracket? hb (by decide)
      rw [literalKey?, if_pos hlt, Checked.look_eq hopener, Checked.ok_bind,
        if_neg (by simp [hcolon])]
      rfl
  | @group _ m _ kind inner items hinside hrest =>
    obtain ⟨opener, hopener, hb⟩ := hinside.opener
    rw [literalKey?]
    split
    case isTrue hlt =>
      have hlength := h.lies.lt_length hlt (Nat.le_succ start)
      rw [Checked.look_eq (List.getElem?_eq_getElem hlength), Checked.ok_bind,
        Checked.look_eq hopener, Checked.ok_bind]
      have hname : ∀ key, opener.lexeme ≠ .name key ∧ opener.lexeme ≠ .text key := by
        intro key
        constructor <;> intro hlexeme <;> simp [Token.bracket?, hlexeme] at hb
      split
      · split
        case h_1 hlexeme => exact absurd hlexeme (hname _).1
        case h_2 hlexeme => exact absurd hlexeme (hname _).2
        case h_3 => rfl
      · rfl
    case isFalse => rfl

/-- **The keys of an object literal** are the same by number. -/
theorem literalKeys_eq (hp : Matched ts partners) (h : Inside ts i j kind n) :
    literalKeys ts partners i j = .ok (Outline.literalKeys n) := by
  obtain ⟨found, hfound, hall⟩ := segments_eq hp h
  have hkeys : found.mapM (literalKey? ts) = .ok ((pieces n).map Outline.literalKey?) :=
    Checked.mapM_eq (fun segment piece (h : Segment ts i j segment piece) => literalKey?_eq h) hall
  rw [literalKeys, hfound, Checked.ok_bind, hkeys, Checked.ok_bind]
  simp [Outline.literalKeys, List.filterMap_map]

/-- What stands behind the mark of a label is looked at by number and as an item. -/
theorem look_isEquals {k stop : Nat} {items : List Nesting.Item} (h : Lies ts k items stop)
    (hends : ∃ t, ts[stop]? = some t ∧ t.isSign '=' = false) :
    ∃ t, Checked.look ts k = .ok t ∧ t.isSign '=' = Outline.label?.startsWithEquals items := by
  cases h with
  | nil =>
    obtain ⟨t, ht, hequals⟩ := hends
    exact ⟨t, Checked.look_eq ht, hequals⟩
  | @token _ _ t _ ht _ _ => exact ⟨t, Checked.look_eq ht, rfl⟩
  | group hinside _ =>
    obtain ⟨opener, hopener, hb⟩ := hinside.opener
    exact ⟨opener, Checked.look_eq hopener, Token.isSign_of_bracket? hb (by decide)⟩

/-- There is a token behind the first one of a segment. -/
theorem exists_second {start stop : Nat} {piece : List Nesting.Item}
    (h : Segment ts i j (start, stop) piece) : ∃ t, Checked.look ts (start + 1) = .ok t := by
  have hlt : start + 1 < ts.length := by
    obtain ⟨t, ht, -⟩ := h.ends
    have hstop : stop < ts.length := (List.getElem?_eq_some_iff.1 ht).1
    have hstart : start < stop := h.lies.lt h.nonempty
    omega
  exact ⟨ts[start + 1], Checked.look_eq (List.getElem?_eq_getElem hlt)⟩

/-- A group alone in its segment has its closing bracket at the end of it. -/
theorem last_iff {m stop : Nat} {items : List Nesting.Item} (h : Lies ts (m + 1) items stop) :
    m = stop - 1 ↔ items = [] := by
  constructor
  · intro hm
    by_contra hne
    have := h.lt hne
    omega
  · rintro rfl
    cases h
    rfl

/-- A segment that starts with a token is an argument with a label, or a positional one. -/
theorem argument_of_token (h : Segment ts i j segment (.token head :: items)) :
    argument flavor ts partners segment = .ok (Outline.argument flavor (.token head :: items)) := by
  obtain ⟨start, stop⟩ := segment
  have hlies : Lies ts start (.token head :: items) stop := h.lies
  cases hlies with
  | token hhead hb hrest =>
    have hbrace : ¬ (flavor = .dart ∧ head.isSign '\x7b' = true) := fun hbrace => by
      have hcurly : head.bracket? = some (.opening .curly) := Token.bracket?_eq_opening.2 hbrace.2
      rw [hb] at hcurly
      cases hcurly
    have hlabel : label? flavor ts head (start, stop)
        = .ok (Outline.label? flavor (.token head :: items)) := by
      cases hrest with
      | nil =>
        obtain ⟨t, ht⟩ := exists_second h
        rw [label?, ht, Checked.ok_bind, if_neg (by simp)]
        rfl
      | @token _ _ mark items hmark _ hrest =>
        have hlt : start + 1 < stop := hrest.le
        obtain ⟨next, hnext, hequals⟩ := look_isEquals hrest h.ends
        rw [label?, Checked.look_eq hmark, Checked.ok_bind]
        cases hname : head.name? with
        | none => cases flavor <;> simp [Outline.label?, hname]
        | some name =>
          rw [if_pos ⟨hlt, rfl⟩]
          cases flavor with
          | dart => simp [Outline.label?, hname]
          | kotlin =>
            by_cases hmark : mark.isSign '=' = true
            · simp only [hnext, Checked.ok_bind, Outline.label?, hname, hmark, ← hequals]
              cases next.isSign '=' <;> rfl
            · simp [Outline.label?, hmark]
      | @group _ m _ kind inner items hinside hrest =>
        obtain ⟨opener, hopener, hb⟩ := hinside.opener
        have hcolon : opener.isSign ':' = false := Token.isSign_of_bracket? hb (by decide)
        have hequals : opener.isSign '=' = false := Token.isSign_of_bracket? hb (by decide)
        rw [label?, Checked.look_eq hopener, Checked.ok_bind]
        cases flavor <;> simp [Outline.label?, hcolon, hequals]
    rw [argument, Checked.look_eq hhead, Checked.ok_bind, hlabel, Checked.ok_bind]
    unfold Outline.argument
    cases Outline.label? flavor (.token head :: items) with
    | some label => rfl
    | none =>
      simp only [if_neg hbrace]
      cases flavor <;> rfl

/-- A segment that starts with a group is an object literal in Dart, if the group is all of it and
has braces. -/
theorem argument_of_group (hp : Matched ts partners)
    (h : Segment ts i j segment (.group kind n :: items)) :
    argument flavor ts partners segment
      = .ok (Outline.argument flavor (.group kind n :: items)) := by
  obtain ⟨start, stop⟩ := segment
  have hlies : Lies ts start (.group kind n :: items) stop := h.lies
  cases hlies with
  | @group _ m _ _ _ _ hinside hrest =>
    obtain ⟨opener, hopener, hb⟩ := hinside.opener
    have hname : opener.name? = none := Token.name?_eq_none_of_bracket? hb
    have hlabel : label? flavor ts opener (start, stop) = .ok none := by
      obtain ⟨t, ht⟩ := exists_second h
      rw [label?, ht, Checked.ok_bind, if_neg (by simp [hname])]
      rfl
    have hstop := hrest.le
    have hlower : Checked.lower stop = .ok (stop - 1) := by
      obtain ⟨less, rfl⟩ : ∃ less, stop = less + 1 := ⟨stop - 1, by omega⟩
      rfl
    have hcurly : opener.isSign '\x7b' = true ↔ kind = .curly := by
      rw [Token.isSign_iff]
      constructor
      · intro hlexeme
        simp [Token.bracket?, hlexeme] at hb
        exact hb.symm
      · rintro rfl
        exact Token.isSign_iff.1 (Token.bracket?_eq_opening.1 hb)
    rw [argument, Checked.look_eq hopener, Checked.ok_bind, hlabel, Checked.ok_bind]
    by_cases hliteral : flavor = .dart ∧ kind = .curly
    · obtain ⟨rfl, rfl⟩ := hliteral
      rw [if_pos ⟨rfl, hcurly.2 rfl⟩, Checked.look_eq (hp _ _ hinside.pairs).1, Checked.ok_bind,
        hlower, Checked.ok_bind]
      by_cases hall : items = []
      · have hm := (last_iff hrest).2 hall
        subst hall
        rw [if_pos (by rw [hm]), ← hm, literalKeys_eq hp hinside]
        rfl
      · rw [if_neg fun h => hall ((last_iff hrest).1 (Option.some.inj h))]
        cases items with
        | nil => exact absurd rfl hall
        | cons => rfl
    · rw [if_neg fun h => hliteral ⟨h.1, hcurly.1 h.2⟩]
      have hpositional : Outline.argument flavor (.group kind n :: items) = .positional := by
        cases flavor <;> cases kind <;> cases items <;> simp_all [Outline.argument, Outline.label?]
      rw [hpositional]
      rfl

/-- **The arguments of a call** are the same by number. -/
theorem arguments_eq (hp : Matched ts partners) (h : Inside ts i j kind n) :
    arguments flavor ts partners i j = .ok (Outline.arguments flavor n) := by
  obtain ⟨found, hfound, hall⟩ := segments_eq hp h
  have hargument : ∀ segment piece, Segment ts i j segment piece →
      argument flavor ts partners segment = .ok (Outline.argument flavor piece) := by
    intro segment piece hsegment
    cases piece with
    | nil => exact absurd rfl hsegment.nonempty
    | cons item items =>
      cases item with
      | token head => exact argument_of_token hsegment
      | group kind inner => exact argument_of_group hp hsegment
  rw [arguments, hfound, Checked.ok_bind]
  exact Checked.mapM_eq hargument hall

end ByNumber

end SdkAudit
