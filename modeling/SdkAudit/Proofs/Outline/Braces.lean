import SdkAudit.Proofs.Outline.Header
import SdkAudit.Scan

/-!
# Scopes mirror braces

The scopes of an outline are found while its nesting is taken apart.  They can also be told by
walking along the tokens with a stack of open scopes, where every opening brace pushes a new scope
and every closing brace pops one.  Both come to the same, and the stack never runs empty.

* `Walk`, `Walk.ofTokens` — the scopes that are open after some tokens;
* `Walk.ofTokens_take` — the walk agrees with the groups around a place;
* `Walk.one_lt_of_closing` — a closing brace always has a scope to close;
* `MirrorsBraces` — what it means that an outline mirrors the braces of a token sequence;
* `mirrorsBraces_tokenOutline` — **every outline that is read from tokens does**.
-/

namespace SdkAudit

open Nesting Outline

/-! ### Walking along the tokens -/

/-- The scopes that are open at a place of a token sequence, the innermost first, and the number
that the next scope will get. -/
structure Walk where
  opened : List Nat
  next : Nat

namespace Walk

/-- One token further.  The scope of the file is never closed. -/
def step (w : Walk) (t : Token) : Walk :=
  if t.isSign '\x7b' then ⟨w.next :: w.opened, w.next + 1⟩
  else if t.isSign '\x7d' then ⟨if 1 < w.opened.length then w.opened.tail else w.opened, w.next⟩
  else w

def along (w : Walk) (ts : List Token) : Walk := ts.foldl step w

/-- What is open after some tokens of a file. -/
def ofTokens (ts : List Token) : Walk := along ⟨[fileScope], 1⟩ ts

@[simp] theorem along_nil (w : Walk) : w.along [] = w := rfl

theorem along_append (w : Walk) (ts us : List Token) :
    w.along (ts ++ us) = (w.along ts).along us :=
  List.foldl_append

theorem along_cons (w : Walk) (t : Token) (ts : List Token) :
    w.along (t :: ts) = (w.step t).along ts := rfl

theorem step_opening {t : Token} (h : t.bracket? = some (.opening .curly)) (w : Walk) :
    w.step t = ⟨w.next :: w.opened, w.next + 1⟩ :=
  if_pos (Token.bracket?_eq_opening.1 h)

theorem step_closing {t : Token} (h : t.bracket? = some (.closing .curly)) {w : Walk}
    (hw : 1 < w.opened.length) : w.step t = ⟨w.opened.tail, w.next⟩ := by
  have hclose : t.isSign '\x7d' = true := Token.bracket?_eq_closing.1 h
  have hopen : t.isSign '\x7b' = false := by
    rw [← Bool.not_eq_true]
    intro ho
    rw [Token.isSign_iff] at hclose ho
    simp [hclose] at ho
  rw [step, if_neg (by simp [hopen]), if_pos hclose, if_pos hw]

theorem step_of_ne {t : Token} (ho : t.bracket? ≠ some (.opening .curly))
    (hc : t.bracket? ≠ some (.closing .curly)) (w : Walk) : w.step t = w := by
  have hopen : ¬ t.isSign '\x7b' = true := fun h => ho (Token.bracket?_eq_opening.2 h)
  have hclose : ¬ t.isSign '\x7d' = true := fun h => hc (Token.bracket?_eq_closing.2 h)
  rw [step, if_neg hopen, if_neg hclose]

variable {n : Nesting}

/-- After a nesting the same scopes are open as before it. -/
theorem along_tokens (hn : n.IsProper) {w : Walk} (hw : w.opened ≠ []) :
    w.along n.tokens = ⟨w.opened, w.next + braces n.tokens⟩ := by
  induction n generalizing w with
  | empty => rfl
  | token before t ih =>
    obtain ⟨hb, ht⟩ := hn
    rw [tokens, along_append, ih hb hw, along_cons, along_nil, braces_append,
      braces_singleton_of_ne (by simp [ht]), Nat.add_zero,
      step_of_ne (by simp [ht]) (by simp [ht])]
  | group before kind opener inner closer ihb ihi =>
    obtain ⟨hb, hopener, hi, hcloser⟩ := hn
    have hlast : braces [closer] = 0 := braces_singleton_of_ne (by simp [hcloser])
    rw [tokens, along_append, ihb hb hw, along_cons, along_append, braces_append,
      braces_cons opener, braces_append, hlast]
    by_cases hk : kind = .curly
    · subst hk
      rw [step_opening hopener, ihi hi (by simp), along_cons, along_nil,
        step_closing hcloser (by simpa [List.length_pos_iff] using hw),
        braces_singleton_curly hopener]
      simp [Nat.add_assoc]
    · have hinner := ihi hi (w := ⟨w.opened, w.next + braces before.tokens⟩) hw
      rw [step_of_ne (by simp [hopener, hk]) (by simp [hopener]), hinner, along_cons, along_nil,
        step_of_ne (by simp [hcloser]) (by simp [hcloser, hk]),
        braces_singleton_of_ne (t := opener) (by simp [hopener, hk])]
      simp [Nat.add_assoc]

/-- **A closing brace always has a scope to close**, which is not that of the file. -/
theorem one_lt_of_closing (hn : n.IsProper) {w : Walk} (hw : w.opened ≠ []) {i : Nat} {t : Token}
    (hi : n.tokens[i]? = some t) (ht : t.bracket? = some (.closing .curly)) :
    1 < (w.along (n.tokens.take i)).opened.length := by
  induction n generalizing w i with
  | empty => simp [tokens] at hi
  | token before u ih =>
    obtain ⟨hb, hu⟩ := hn
    rcases getElem?_tokens_token hi with hbefore | rfl
    · have hlt := (List.getElem?_eq_some_iff.1 hbefore).1
      rw [tokens, List.take_append_of_le_length hlt.le]
      exact ih hb hw hbefore
    · simp [hu] at ht
  | group before kind opener inner closer ihb ihi =>
    obtain ⟨hb, hopener, hin, hcloser⟩ := hn
    rcases getElem?_tokens_group hi with hbefore | ⟨rfl, rfl⟩ | ⟨m, rfl, hinner⟩ | ⟨rfl, rfl⟩
    · have hlt := (List.getElem?_eq_some_iff.1 hbefore).1
      rw [tokens, List.take_append_of_le_length hlt.le]
      exact ihb hb hw hbefore
    · simp [hopener] at ht
    · have hlt := (List.getElem?_eq_some_iff.1 hinner).1
      rw [tokens, List.take_length_add_append, along_append, along_tokens hb hw,
        List.take_succ_cons, along_cons, List.take_append_of_le_length hlt.le]
      refine ihi hin ?_ hinner
      by_cases hk : kind = .curly
      · subst hk
        simp [step_opening hopener]
      · simpa [step_of_ne (t := opener) (by simp [hopener, hk]) (by simp [hopener])] using hw
    · -- the brace closes the group, so the scope of the group is still open
      obtain rfl : kind = .curly := by simpa [hcloser] using ht
      rw [tokens, List.take_length_add_append, along_append, along_tokens hb hw,
        List.take_succ_cons, along_cons, List.take_left, step_opening hopener,
        along_tokens hin (by simp)]
      simpa [List.length_pos_iff] using hw

/-- Where a walk agrees with the groups around a nesting, it agrees with those around its groups. -/
theorem along_earlier {earlier after : List Token} {around : List Opening} {w : Walk}
    (hn : n.IsProper) (hw : w.along earlier = ⟨scopesAround around, 1 + braces earlier⟩)
    {g : Group} (hg : g ∈ groupsFrom earlier around after n) :
    w.along g.earlier = ⟨scopesAround g.around, 1 + braces g.earlier⟩ := by
  induction n generalizing earlier around after with
  | empty => simp [groupsFrom] at hg
  | token before t ih => exact ih hn.1 hw hg
  | group before kind opener inner closer ihb ihi =>
    obtain ⟨hb, hopener, hi, hcloser⟩ := hn
    have hbefore : w.along (earlier ++ before.tokens)
        = ⟨scopesAround around, 1 + braces (earlier ++ before.tokens)⟩ := by
      rw [along_append, hw, along_tokens hb (by simp [scopesAround])]
      simp [Nat.add_assoc]
    simp only [groupsFrom, List.mem_append, List.mem_cons] at hg
    rcases hg with hg | rfl | hg
    · exact ihb hb hw hg
    · exact hbefore
    · refine ihi hi ?_ hg
      rw [along_append, hbefore, along_cons, along_nil]
      by_cases hk : kind = .curly
      · subst hk
        rw [step_opening hopener, scopesAround_cons_curly rfl, braces_append _ [opener],
          braces_singleton_curly hopener]
        rfl
      · rw [step_of_ne (by simp [hopener, hk]) (by simp [hopener]), scopesAround_cons_of_ne hk,
          braces_append _ [opener], braces_singleton_of_ne (t := opener) (by simp [hopener, hk])]
        rfl

/-- **The walk agrees with the groups around a place.** -/
theorem ofTokens_take (hn : n.IsProper) {g : Group} (hg : g ∈ n.groups) :
    ofTokens (n.tokens.take g.index) = ⟨scopesAround g.around, g.scope⟩ := by
  rw [← earlier_eq_take hg]
  exact along_earlier hn (w := ⟨[fileScope], 1⟩) rfl hg

end Walk

/-! ### Outlines that mirror braces -/

/-- The number of the scope that the brace with so many tokens before it opens. -/
def braceScope (ts : List Token) (i : Nat) : Nat := 1 + braces (ts.take i)

/-- The braces around the token with so many tokens before it, the innermost first. -/
structure BracesAround (ts : List Token) (k : Nat) (is : List Nat) : Prop where
  sorted : is.Pairwise fun i j => j < i
  mem_iff : ∀ i, i ∈ is ↔ SignAt ts i '\x7b' ∧ Encloses ts i k

/-- The scopes from one outwards are those of these braces and the file, and whether errors are
handled there is told from their headers. -/
structure LiesIn (flavor : Flavor) (ts : List Token) (o : Outline) (id : Nat) (is : List Nat) :
    Prop where
  ancestry : o.Ancestry id (is.map (braceScope ts) ++ [fileScope])
  isGuarded_iff : o.isGuarded id = true ↔ ∃ i ∈ is, OpensGuarded flavor ts i

/-- An outline mirrors the braces of a token sequence.  Its calls are given with the number of
tokens before their brackets. -/
structure MirrorsBraces (flavor : Flavor) (ts : List Token) (o : Outline)
    (sited : List (Nat × Call)) : Prop where
  /-- There is one scope for the file and one for each brace. -/
  size : o.scopes.size = 1 + braces ts
  file : o.scopes[fileScope]? = some ⟨.file, none⟩
  eq_file : ∀ (id : Nat) (scope : Scope), o.scopes[id]? = some scope →
    scope.kind = .file ∨ scope.parent = none → id = fileScope
  parentsFirst : o.ParentsFirst
  /-- A brace opens the scope with its number inside the innermost scope that is open. -/
  brace : ∀ i, SignAt ts i '\x7b' → ∃ kind parent,
    o.scopes[braceScope ts i]? = some ⟨kind, some parent⟩ ∧
      (kind = .guarded ↔ OpensGuarded flavor ts i) ∧
      (Walk.ofTokens (ts.take i)).opened.head? = some parent
  file_liesIn : LiesIn flavor ts o fileScope []
  brace_liesIn : ∀ i, SignAt ts i '\x7b' → ∃ is, BracesAround ts i is ∧
    LiesIn flavor ts o (braceScope ts i) (i :: is)
  calls : sited.map Prod.snd = o.calls.toList
  calls_sorted : sited.Pairwise fun c d => c.1 < d.1
  call_liesIn : ∀ k call, (k, call) ∈ sited → SignAt ts k '(' ∧ ∃ is, BracesAround ts k is ∧
    LiesIn flavor ts o call.scope is
  /-- A closing brace never finds only the scope of the file open. -/
  closing : ∀ i, SignAt ts i '\x7d' → 1 < (Walk.ofTokens (ts.take i)).opened.length

section

variable {flavor : Flavor} {n : Nesting} {g : Group}

theorem exists_curly_group (hn : n.IsProper) {i : Nat} (hi : SignAt n.tokens i '\x7b') :
    ∃ g ∈ n.groups, g.kind = .curly ∧ g.index = i ∧ g.scope = braceScope n.tokens i := by
  obtain ⟨t, ht, hsign⟩ := hi
  have hopener : t.bracket? = some (.opening .curly) := Token.bracket?_eq_opening.2 hsign
  obtain ⟨g, hg, hidx, -, hk⟩ := exists_group_of_opening hn ht hopener [] [] []
  rw [List.length_nil, Nat.zero_add] at hidx
  exact ⟨g, hg, hk, hidx, by rw [Opening.scope, earlier_eq_take hg, hidx, braceScope]⟩

/-- The braces among the groups around a group, innermost first. -/
def curlyIndices (around : List Opening) : List Nat :=
  (around.filter (·.kind = .curly)).map Opening.index

theorem signAt_index_iff (hn : n.IsProper) (hg : g ∈ n.groups) :
    SignAt n.tokens g.index '\x7b' ↔ g.kind = .curly := by
  have hopener := (proper_of_mem_groupsFrom hn hg).2.1
  constructor
  · intro h
    have hcurly : g.opener.bracket? = some (.opening .curly) :=
      h.bracket? .curly (getElem?_index hg)
    simpa [hopener] using hcurly
  · intro hk
    rw [hk] at hopener
    exact ⟨g.opener, getElem?_index hg, Token.bracket?_eq_opening.1 hopener⟩

theorem bracesAround_curlyIndices (hn : n.IsProper) (hg : g ∈ n.groups) :
    BracesAround n.tokens g.index (curlyIndices g.around) where
  sorted := by
    rw [curlyIndices, List.pairwise_map]
    exact (pairwise_around hg).filter _
  mem_iff := by
    intro i
    simp only [curlyIndices, List.mem_map, List.mem_filter, decide_eq_true_eq]
    rw [encloses_iff hn hg]
    constructor
    · rintro ⟨o, ⟨ho, hk⟩, rfl⟩
      obtain ⟨e, he, rfl, -⟩ := exists_group_of_mem_around hg ho
      exact ⟨(signAt_index_iff hn he).2 hk, e.toOpening, ho, rfl⟩
    · rintro ⟨hsign, o, ho, rfl⟩
      obtain ⟨e, he, rfl, -⟩ := exists_group_of_mem_around hg ho
      exact ⟨e.toOpening, ⟨ho, (signAt_index_iff hn he).1 hsign⟩, rfl⟩

theorem map_braceScope_curlyIndices (hg : g ∈ n.groups) :
    (curlyIndices g.around).map (braceScope n.tokens) ++ [fileScope] = scopesAround g.around := by
  rw [curlyIndices, scopesAround, List.map_map]
  congr 1
  refine List.map_congr_left fun o ho => ?_
  obtain ⟨e, he, rfl, -⟩ := exists_group_of_mem_around hg (List.mem_filter.1 ho).1
  rw [Function.comp_apply, braceScope, Opening.scope, earlier_eq_take he]

/-- A brace opens a guarded scope exactly if its header says so. -/
theorem isGuard_braceScope_iff (hn : n.IsProper) {i : Nat} (hi : SignAt n.tokens i '\x7b') :
    (ofNesting flavor n).IsGuard (braceScope n.tokens i) ↔ OpensGuarded flavor n.tokens i := by
  obtain ⟨g, hg, hk, rfl, hscope⟩ := exists_curly_group hn hi
  rw [← guards_iff hn hg, ← hscope, IsGuard, scopes_getElem?_scope hn hg hk]
  by_cases hguards : guards flavor g.before = true <;> simp [hguards]

/-- Whether errors are handled in a scope is told from the braces around it. -/
theorem liesIn_of_ancestry (hn : n.IsProper) {id : Nat} {is : List Nat}
    (his : ∀ i ∈ is, SignAt n.tokens i '\x7b')
    (h : (ofNesting flavor n).Ancestry id (is.map (braceScope n.tokens) ++ [fileScope])) :
    LiesIn flavor n.tokens (ofNesting flavor n) id is where
  ancestry := h
  isGuarded_iff := by
    have hfile : ¬ (ofNesting flavor n).IsGuard fileScope := by
      rintro ⟨parent, hget⟩
      rw [fileScope, scopes_getElem?_zero hn] at hget
      cases hget
    rw [isGuarded_iff h]
    constructor
    · rintro ⟨s, hs, hguard⟩
      rcases List.mem_append.1 hs with hs | hs
      · obtain ⟨i, hi, rfl⟩ := List.mem_map.1 hs
        exact ⟨i, hi, (isGuard_braceScope_iff hn (his i hi)).1 hguard⟩
      · rw [List.mem_singleton.1 hs] at hguard
        exact absurd hguard hfile
    · rintro ⟨i, hi, hopens⟩
      exact ⟨_, List.mem_append_left _ (List.mem_map_of_mem hi),
        (isGuard_braceScope_iff hn (his i hi)).2 hopens⟩

/-- **The scopes around a group** are those of the braces around it. -/
theorem liesIn_of_mem_groups (hn : n.IsProper) (hg : g ∈ n.groups) :
    LiesIn flavor n.tokens (ofNesting flavor n) (scopeWithin g.around)
      (curlyIndices g.around) := by
  have hbraces := bracesAround_curlyIndices hn hg
  refine liesIn_of_ancestry hn (fun i hi => ((hbraces.mem_iff i).1 hi).1) ?_
  rw [map_braceScope_curlyIndices hg]
  exact ancestry_of_mem_groups hn hg

theorem liesIn_of_curly (hn : n.IsProper) (hg : g ∈ n.groups) (hk : g.kind = .curly) :
    LiesIn flavor n.tokens (ofNesting flavor n) (braceScope n.tokens g.index)
      (g.index :: curlyIndices g.around) := by
  have hbraces := bracesAround_curlyIndices hn hg
  have hscope : g.scope = braceScope n.tokens g.index := by
    rw [Opening.scope, earlier_eq_take hg, braceScope]
  refine liesIn_of_ancestry hn ?_ ?_
  · intro i hi
    rcases List.mem_cons.1 hi with rfl | hi
    · exact (signAt_index_iff hn hg).2 hk
    · exact ((hbraces.mem_iff i).1 hi).1
  · rw [List.map_cons, List.cons_append, map_braceScope_curlyIndices hg, ← hscope]
    exact .step (scopes_getElem?_scope hn hg hk) (ancestry_of_mem_groups hn hg)

theorem eq_file_of_scope (hn : n.IsProper) {id : Nat} {scope : Scope}
    (hget : (ofNesting flavor n).scopes[id]? = some scope)
    (hfile : scope.kind = .file ∨ scope.parent = none) : id = fileScope := by
  cases id with
  | zero => rfl
  | succ id =>
    obtain ⟨g, hg, hk, -, heq⟩ := exists_group_of_scope hn hget
    rw [Group.scope?, if_pos hk] at heq
    cases heq
    by_cases hguards : guards flavor g.before = true <;> simp [hguards] at hfile

/-- The outline of a nesting mirrors the braces among its tokens. -/
theorem mirrorsBraces_ofNesting (hn : n.IsProper) :
    MirrorsBraces flavor n.tokens (ofNesting flavor n) (n.sitedCalls flavor) where
  size := size_scopes_ofNesting hn
  file := scopes_getElem?_zero hn
  eq_file := fun _ _ hget hfile => eq_file_of_scope hn hget hfile
  parentsFirst := parentsFirst_ofNesting hn
  brace := by
    intro i hi
    obtain ⟨g, hg, hk, rfl, hscope⟩ := exists_curly_group hn hi
    refine ⟨_, _, hscope ▸ scopes_getElem?_scope hn hg hk, ?_, ?_⟩
    · rw [← guards_iff hn hg]
      by_cases hguards : guards flavor g.before = true <;> simp [hguards]
    · rw [Walk.ofTokens_take hn hg]
      exact head?_scopesAround g.around
  file_liesIn := liesIn_of_ancestry hn (by simp) (.root (scopes_getElem?_zero hn))
  brace_liesIn := by
    intro i hi
    obtain ⟨g, hg, hk, rfl, -⟩ := exists_curly_group hn hi
    exact ⟨_, bracesAround_curlyIndices hn hg, liesIn_of_curly hn hg hk⟩
  calls := map_sitedCalls hn
  calls_sorted := pairwise_sitedCalls
  call_liesIn := by
    intro k call hmem
    obtain ⟨g, hg, rfl, hcall⟩ := exists_group_of_mem_sitedCalls hmem
    obtain ⟨hk, hscope⟩ := Group.call?_eq_some hcall
    have hopener := (proper_of_mem_groupsFrom hn hg).2.1
    rw [hk] at hopener
    refine ⟨⟨g.opener, getElem?_index hg, Token.bracket?_eq_opening.1 hopener⟩, _,
      bracesAround_curlyIndices hn hg, ?_⟩
    rw [hscope]
    exact liesIn_of_mem_groups hn hg
  closing := by
    rintro i ⟨t, ht, hsign⟩
    exact Walk.one_lt_of_closing hn (by simp) ht (Token.bracket?_eq_closing.2 hsign)

end

theorem toOption_eq_some_iff {ε α : Type} {x : Except ε α} {a : α} :
    x.toOption = some a ↔ x = .ok a := by
  cases x <;> simp [Except.toOption]

theorem tokenOutline_eq_ok_iff {flavor : Flavor} {source : String} {o : Outline} :
    Scan.tokenOutline flavor source = .ok o ↔ ∃ ts n, Lexer.tokens flavor source.toList = .ok ts ∧
      Nesting.ofTokens ts = .ok n ∧ ofNesting flavor n = o := by
  unfold Scan.tokenOutline
  cases Lexer.tokens flavor source.toList with
  | error e => simp [bind, Except.bind]
  | ok ts =>
    simp only [bind, Except.bind, Except.ok.injEq, exists_and_left, exists_eq_left']
    cases Nesting.ofTokens ts with
    | error e => simp
    | ok n => simp [pure, Except.pure]

/-- **Outlines mirror braces.**  Where the tokens of a source text are balanced, the text has an
outline, and its scopes are the braces, each inside the braces around it. -/
theorem mirrorsBraces_tokenOutline {flavor : Flavor} {source : String} {ts : List Token}
    (hlex : Lexer.tokens flavor source.toList = .ok ts) (hb : Balanced ts) :
    ∃ n, Nesting.ofTokens ts = .ok n ∧ Scan.tokenOutline flavor source = .ok (ofNesting flavor n) ∧
      MirrorsBraces flavor ts (ofNesting flavor n) (n.sitedCalls flavor) := by
  obtain ⟨n, hn, rfl⟩ := balanced_iff.1 hb
  have hread : Nesting.ofTokens n.tokens = .ok n := ofTokens_eq_ok_iff.2 ⟨hn, rfl⟩
  exact ⟨n, hread, tokenOutline_eq_ok_iff.2 ⟨_, n, hlex, hread, rfl⟩, mirrorsBraces_ofNesting hn⟩

/-- For instance where a call stands in a list in a `try` body, after a function without calls. -/
theorem mirrorsBraces_try_body :
    ∃ ts n, Lexer.tokens .dart "f() { } g() { try { h([i()]); } catch (e) { } }".toList = .ok ts ∧
      Balanced ts ∧ Nesting.ofTokens ts = .ok n ∧
      MirrorsBraces .dart ts (ofNesting .dart n) (n.sitedCalls .dart) := by
  have hok : (Scan.tokenOutline .dart
      "f() { } g() { try { h([i()]); } catch (e) { } }").toOption.isSome = true := by
    decide +kernel
  obtain ⟨o, ho⟩ := Option.isSome_iff_exists.1 hok
  obtain ⟨ts, n, hlex, hread, -⟩ := tokenOutline_eq_ok_iff.1 (toOption_eq_some_iff.1 ho)
  obtain ⟨hn, rfl⟩ := ofTokens_eq_ok_iff.1 hread
  have hb : Balanced n.tokens := hn.balanced
  obtain ⟨m, hm, -, hmirrors⟩ := mirrorsBraces_tokenOutline hlex hb
  exact ⟨n.tokens, m, hlex, hb, hm, hmirrors⟩

end SdkAudit
