import SdkAudit.Outline.OfNesting
import SdkAudit.Proofs.Nesting.Group
import SdkAudit.Proofs.Outline.Ancestor

/-!
# The outline of a nesting, group by group

Every pair of braces is a scope and every pair of round brackets may be a call.  This module tells
the outline of a nesting from the list of its groups, so that what is said of groups and of what is
around them carries over to scopes and calls.

* `braces`, `Opening.scope` — scopes are numbered by the braces that open before them;
* `Outline.scopes_ofNesting`, `Outline.calls_ofNesting` — the scopes and the calls of an outline are
  those of the groups, in the order in which the groups open;
* `Outline.scopes_getElem?_scope` — **a pair of braces is the scope with its number**;
* `Nesting.ancestry_of_mem_groups` — the scopes around a group are an ancestry of the outline.
-/

namespace SdkAudit

theorem Token.isSign_iff {t : Token} {c : Char} : t.isSign c = true ↔ t.lexeme = .sign c := by
  simp [isSign]

theorem Token.isName_iff {t : Token} {word : String} :
    t.isName word = true ↔ t.name? = some word := by
  cases h : t.lexeme <;> simp [isName, name?, h]

def Bracket.opener : Bracket → Char
  | .round => '('
  | .square => '['
  | .curly => '\x7b'

def Bracket.closer : Bracket → Char
  | .round => ')'
  | .square => ']'
  | .curly => '\x7d'

theorem Token.bracket?_eq_opening {t : Token} {kind : Bracket} :
    t.bracket? = some (.opening kind) ↔ t.isSign kind.opener = true := by
  rw [isSign_iff]
  constructor
  · intro h
    unfold bracket? at h
    cases kind <;> split at h <;> simp_all [Bracket.opener]
  · intro h
    cases kind <;> simp [bracket?, h, Bracket.opener]

theorem Token.bracket?_eq_closing {t : Token} {kind : Bracket} :
    t.bracket? = some (.closing kind) ↔ t.isSign kind.closer = true := by
  rw [isSign_iff]
  constructor
  · intro h
    unfold bracket? at h
    cases kind <;> split at h <;> simp_all [Bracket.closer]
  · intro h
    cases kind <;> simp [bracket?, h, Bracket.closer]

/-- The number of braces that open among some tokens. -/
def braces (ts : List Token) : Nat := ts.countP (·.isSign '\x7b')

@[simp] theorem braces_nil : braces [] = 0 := rfl

@[simp] theorem braces_append (ts us : List Token) : braces (ts ++ us) = braces ts + braces us :=
  List.countP_append

theorem braces_singleton_curly {t : Token} (h : t.bracket? = some (.opening .curly)) :
    braces [t] = 1 := by
  have : t.isSign '\x7b' = true := Token.bracket?_eq_opening.1 h
  simp [braces, this]

theorem braces_singleton_of_ne {t : Token} (h : t.bracket? ≠ some (.opening .curly)) :
    braces [t] = 0 := by
  have : t.isSign '\x7b' = false := by
    rwa [ne_eq, Token.bracket?_eq_opening, Bool.not_eq_true] at h
  simp [braces, this]

theorem braces_cons (t : Token) (ts : List Token) : braces (t :: ts) = braces [t] + braces ts :=
  braces_append [t] ts

theorem braces_take_le (ts : List Token) {i j : Nat} (h : i ≤ j) :
    braces (ts.take i) ≤ braces (ts.take j) :=
  (List.take_prefix_take_left h).sublist.countP_le

/-- Every number below the number of braces is the number of braces before one of them. -/
theorem exists_brace {ts : List Token} {m : Nat} (h : m < braces ts) :
    ∃ i t, ts[i]? = some t ∧ t.bracket? = some (.opening .curly) ∧ braces (ts.take i) = m := by
  induction ts generalizing m with
  | nil => simp at h
  | cons t ts ih =>
    rw [braces_cons] at h
    by_cases ht : t.bracket? = some (.opening .curly)
    · rw [braces_singleton_curly ht] at h
      cases m with
      | zero => exact ⟨0, t, rfl, ht, rfl⟩
      | succ m =>
        obtain ⟨i, u, hi, hu, hm⟩ := ih (m := m) (by omega)
        refine ⟨i + 1, u, hi, hu, ?_⟩
        rw [List.take_succ_cons, braces_cons, braces_singleton_curly ht, hm, Nat.add_comm]
    · rw [braces_singleton_of_ne ht, Nat.zero_add] at h
      obtain ⟨i, u, hi, hu, hm⟩ := ih h
      refine ⟨i + 1, u, hi, hu, ?_⟩
      rw [List.take_succ_cons, braces_cons, braces_singleton_of_ne ht, hm, Nat.zero_add]

/-! ### The scope and the call of a group -/

open Outline

namespace Nesting

/-- The number of the scope that a brace opens: the file and the braces before it come first. -/
def Opening.scope (o : Opening) : Nat := 1 + braces o.earlier

/-- The scope in which something stands that has these groups around it. -/
def scopeWithin : List Opening → Nat
  | [] => fileScope
  | o :: around => if o.kind = .curly then o.scope else scopeWithin around

/-- The scopes in which something stands that has these groups around it, the innermost first. -/
def scopesAround (around : List Opening) : List Nat :=
  (around.filter (·.kind = .curly)).map Opening.scope ++ [fileScope]

namespace Group

def scope? (flavor : Flavor) (g : Group) : Option Scope :=
  if g.kind = .curly then
    some ⟨if guards flavor g.before then .guarded else .block, some (scopeWithin g.around)⟩
  else none

def call? (flavor : Flavor) (g : Group) : Option Call :=
  if g.kind = .round then callAt? flavor g.before g.inner g.after (scopeWithin g.around) else none

end Group

/-- The calls of a nesting in file order, each with the number of tokens before its bracket. -/
def sitedCalls (flavor : Flavor) (n : Nesting) : List (Nat × Call) :=
  n.groups.filterMap fun g => (g.call? flavor).map (g.index, ·)

theorem scope_of_callAt? {flavor : Flavor} {before inner : Nesting} {after : List Token}
    {scope : ScopeId} {call : Call} (h : callAt? flavor before inner after scope = some call) :
    call.scope = scope := by
  unfold callAt? at h
  split at h
  · cases h
  · split at h
    · cases h
    · cases h
      rfl

/-- A call stands between round brackets, in the scope that is around them. -/
theorem Group.call?_eq_some {flavor : Flavor} {g : Group} {call : Call}
    (h : g.call? flavor = some call) : g.kind = .round ∧ call.scope = scopeWithin g.around := by
  unfold Group.call? at h
  split at h
  case isTrue hk => exact ⟨hk, scope_of_callAt? h⟩
  case isFalse => cases h

theorem scopeWithin_cons_curly {o : Opening} (h : o.kind = .curly) (around : List Opening) :
    scopeWithin (o :: around) = o.scope := by
  rw [scopeWithin, if_pos h]

theorem scopeWithin_cons_of_ne {o : Opening} (h : o.kind ≠ .curly) (around : List Opening) :
    scopeWithin (o :: around) = scopeWithin around := by
  rw [scopeWithin, if_neg h]

theorem scopesAround_cons_curly {o : Opening} (h : o.kind = .curly) (around : List Opening) :
    scopesAround (o :: around) = o.scope :: scopesAround around := by
  simp [scopesAround, h]

theorem scopesAround_cons_of_ne {o : Opening} (h : o.kind ≠ .curly) (around : List Opening) :
    scopesAround (o :: around) = scopesAround around := by
  simp [scopesAround, h]

theorem head?_scopesAround (around : List Opening) :
    (scopesAround around).head? = some (scopeWithin around) := by
  induction around with
  | nil => rfl
  | cons o around ih =>
    by_cases h : o.kind = .curly
    · rw [scopesAround_cons_curly h, scopeWithin_cons_curly h, List.head?_cons]
    · rw [scopesAround_cons_of_ne h, scopeWithin_cons_of_ne h, ih]

/-! ### Tokens before a group -/

variable {n : Nesting} {g : Group}

theorem earlier_eq_take (hg : g ∈ n.groups) : g.earlier = n.tokens.take g.index := by
  obtain ⟨later, hlater⟩ := tokens_eq_of_mem_groupsFrom hg
  rw [List.nil_append] at hlater
  rw [hlater, Opening.index, List.take_left]

theorem getElem?_index (hg : g ∈ n.groups) : n.tokens[g.index]? = some g.opener := by
  obtain ⟨later, hlater⟩ := tokens_eq_of_mem_groupsFrom hg
  rw [List.nil_append] at hlater
  rw [hlater, Opening.index]
  simp

/-- Something around a group has opened before it, with all its tokens. -/
theorem braces_lt_of_mem_around (hn : n.IsProper) (hg : g ∈ n.groups) {o : Opening}
    (ho : o ∈ g.around) (hk : o.kind = .curly) : braces o.earlier < braces g.earlier := by
  obtain ⟨e, he, rfl, hlt⟩ := exists_group_of_mem_around hg ho
  have hopener := (proper_of_mem_groupsFrom hn he).2.1
  rw [hk] at hopener
  have htake : n.tokens.take (e.index + 1) = e.earlier ++ [e.opener] := by
    rw [List.take_add_one, getElem?_index he, ← earlier_eq_take he]
    rfl
  have hle := braces_take_le n.tokens (Nat.succ_le_of_lt hlt)
  rw [htake, ← earlier_eq_take hg, braces_append, braces_singleton_curly hopener] at hle
  omega

theorem scopeWithin_lt (hn : n.IsProper) (hg : g ∈ n.groups) : scopeWithin g.around < g.scope := by
  have hmem : scopeWithin g.around ∈ scopesAround g.around :=
    List.mem_of_mem_head? (head?_scopesAround g.around)
  rw [scopesAround, List.mem_append, List.mem_map] at hmem
  rcases hmem with ⟨o, ho, heq⟩ | hfile
  · rw [List.mem_filter, decide_eq_true_eq] at ho
    have := braces_lt_of_mem_around hn hg ho.1 ho.2
    rw [← heq, Opening.scope, Opening.scope]
    omega
  · rw [List.mem_singleton.1 hfile, Opening.scope, fileScope]
    omega

end Nesting

open Nesting

/-! ### The outline of the groups -/

namespace Outline

variable {flavor : Flavor} {n : Nesting} {o : Outline} {earlier after : List Token}
  {around : List Opening}

def addGroup (flavor : Flavor) (o : Outline) (g : Group) : Outline :=
  ⟨o.scopes ++ (g.scope? flavor).toArray, o.calls ++ (g.call? flavor).toArray⟩

theorem nextScope_addGroup (flavor : Flavor) (o : Outline) (g : Group) :
    (o.addGroup flavor g).nextScope = o.nextScope + if g.kind = .curly then 1 else 0 := by
  by_cases hk : g.kind = .curly <;> simp [addGroup, nextScope, Group.scope?, hk]

/-- One group is added, and then what is in it. -/
theorem addNesting_group (g : Group) {o b : Outline}
    (hb : addNesting flavor (scopeWithin g.around) o [g.opener] g.before = b)
    (hscope : b.nextScope = g.scope) :
    addNesting flavor (scopeWithin g.around) o g.after
        (.group g.before g.kind g.opener g.inner g.closer)
      = addNesting flavor (scopeWithin (g.toOpening :: g.around)) (b.addGroup flavor g) []
          g.inner := by
  obtain ⟨⟨earlier, before, kind, opener⟩, inner, closer, after, around⟩ := g
  subst hb
  cases kind with
  | round =>
    rw [scopeWithin_cons_of_ne (by simp)]
    simp only [addNesting, addGroup, Group.scope?, Group.call?]
    cases callAt? flavor before inner after (scopeWithin around) <;> simp [addCall]
  | square =>
    rw [scopeWithin_cons_of_ne (by simp)]
    simp [addNesting, addGroup, Group.scope?, Group.call?]
  | curly =>
    rw [scopeWithin_cons_curly rfl, ← hscope]
    simp [addNesting, addGroup, addScope, Group.scope?, Group.call?]

/-- **What a nesting adds to an outline**: the scopes and the calls of its groups. -/
theorem addNesting_eq (earlier : List Token) (around : List Opening) (after : List Token)
    (hn : n.IsProper) (ho : o.nextScope = 1 + braces earlier) :
    (addNesting flavor (scopeWithin around) o after n).nextScope
        = 1 + braces (earlier ++ n.tokens) ∧
      (addNesting flavor (scopeWithin around) o after n).scopes.toList
        = o.scopes.toList ++ (groupsFrom earlier around after n).filterMap (Group.scope? flavor) ∧
      (addNesting flavor (scopeWithin around) o after n).calls.toList
        = o.calls.toList ++ (groupsFrom earlier around after n).filterMap (Group.call? flavor) := by
  induction n generalizing o earlier around after with
  | empty => simp [addNesting, groupsFrom, tokens, ho]
  | token before t ih =>
    obtain ⟨hb, ht⟩ := hn
    obtain ⟨hnext, hscopes, hcalls⟩ := ih earlier around (t :: after) hb ho
    refine ⟨?_, hscopes, hcalls⟩
    rw [tokens, ← List.append_assoc, braces_append, braces_singleton_of_ne (by simp [ht])]
    exact hnext
  | group before kind opener inner closer ihb ihi =>
    obtain ⟨hb, hopener, hi, hcloser⟩ := hn
    obtain ⟨hnext, hscopes, hcalls⟩ := ihb earlier around [opener] hb ho
    let g : Group :=
      ⟨⟨earlier ++ before.tokens, before, kind, opener⟩, inner, closer, after, around⟩
    rw [addNesting_group g rfl hnext]
    set b := (addNesting flavor (scopeWithin around) o [opener] before).addGroup flavor g with hb'
    have hopen : b.nextScope = 1 + braces (earlier ++ before.tokens ++ [opener]) := by
      rw [hb', nextScope_addGroup, hnext, braces_append _ [opener]]
      by_cases hk : kind = .curly
      · subst hk
        simp [g, braces_singleton_curly hopener, Nat.add_assoc]
      · simp [g, hk, braces_singleton_of_ne (t := opener) (by simp [hopener, hk])]
    obtain ⟨hnext', hscopes', hcalls'⟩ :=
      ihi (earlier ++ before.tokens ++ [opener]) (g.toOpening :: around) [] hi hopen
    refine ⟨?_, ?_, ?_⟩
    · have hclosing : braces [closer] = 0 := braces_singleton_of_ne (by simp [hcloser])
      have htokens : earlier ++ (Nesting.group before kind opener inner closer).tokens
          = (earlier ++ before.tokens ++ [opener]) ++ inner.tokens ++ [closer] := by
        simp [tokens]
      rw [htokens, braces_append, hclosing]
      exact hnext'
    · rw [hscopes', hb']
      simp only [addGroup, Array.toList_append, hscopes, groupsFrom, List.filterMap_append]
      cases hscope : g.scope? flavor <;> simp [g, hscope]
    · rw [hcalls', hb']
      simp only [addGroup, Array.toList_append, hcalls, groupsFrom, List.filterMap_append]
      cases hcall : g.call? flavor <;> simp [g, hcall]

/-- The scopes of an outline are the file and the braces. -/
theorem scopes_ofNesting (hn : n.IsProper) :
    (ofNesting flavor n).scopes.toList
      = ⟨.file, none⟩ :: n.groups.filterMap (Group.scope? flavor) :=
  (addNesting_eq [] [] [] hn rfl).2.1

/-- The calls of an outline are those of the groups. -/
theorem calls_ofNesting (hn : n.IsProper) :
    (ofNesting flavor n).calls.toList = n.groups.filterMap (Group.call? flavor) :=
  (addNesting_eq [] [] [] hn rfl).2.2

theorem size_scopes_ofNesting (hn : n.IsProper) :
    (ofNesting flavor n).scopes.size = 1 + braces n.tokens :=
  (addNesting_eq [] [] [] hn rfl).1

theorem map_sitedCalls (hn : n.IsProper) :
    (n.sitedCalls flavor).map Prod.snd = (ofNesting flavor n).calls.toList := by
  rw [calls_ofNesting hn, sitedCalls, List.map_filterMap]
  congr 1
  funext g
  cases g.call? flavor <;> rfl

/-- A call with so many tokens before its bracket is that of a group. -/
theorem exists_group_of_mem_sitedCalls {k : Nat} {call : Call}
    (h : (k, call) ∈ n.sitedCalls flavor) :
    ∃ g ∈ n.groups, g.index = k ∧ g.call? flavor = some call := by
  obtain ⟨g, hg, hsite⟩ := List.mem_filterMap.1 h
  obtain ⟨call', hcall, heq⟩ := Option.map_eq_some_iff.1 hsite
  obtain ⟨rfl, rfl⟩ := Prod.mk.inj heq
  exact ⟨g, hg, rfl, hcall⟩

theorem pairwise_sitedCalls : (n.sitedCalls flavor).Pairwise fun c d => c.1 < d.1 := by
  refine (pairwise_index_groupsFrom n [] [] []).filterMap _ ?_
  intro g h hlt c hc d hd
  obtain ⟨_, _, rfl⟩ := Option.map_eq_some_iff.1 hc
  obtain ⟨_, _, rfl⟩ := Option.map_eq_some_iff.1 hd
  exact hlt

/-! ### Which scope a brace is -/

theorem length_filterMap_scope? (flavor : Flavor) (hn : n.IsProper) (earlier : List Token)
    (around : List Opening) (after : List Token) :
    ((groupsFrom earlier around after n).filterMap (Group.scope? flavor)).length
      = braces n.tokens := by
  induction n generalizing earlier around after with
  | empty => rfl
  | token before t ih =>
    obtain ⟨hb, ht⟩ := hn
    rw [tokens, braces_append, braces_singleton_of_ne (by simp [ht]), Nat.add_zero]
    exact ih hb _ _ _
  | group before kind opener inner closer ihb ihi =>
    obtain ⟨hb, hopener, hi, hcloser⟩ := hn
    have hclosing : braces [closer] = 0 := braces_singleton_of_ne (by simp [hcloser])
    rw [groupsFrom, List.filterMap_append, List.length_append, ihb hb, tokens, braces_append,
      braces_cons opener, braces_append, hclosing, List.filterMap_cons]
    by_cases hk : kind = .curly
    · subst hk
      simp [Group.scope?, ihi hi, braces_singleton_curly hopener]
      omega
    · simp [Group.scope?, hk, ihi hi, braces_singleton_of_ne (t := opener) (by simp [hopener, hk])]

/-- A pair of braces among the groups of a nesting is found by the number of braces before it. -/
theorem getElem?_filterMap_scope? (flavor : Flavor) (hn : n.IsProper) {g : Group}
    (hg : g ∈ groupsFrom earlier around after n) (hk : g.kind = .curly) {m : Nat}
    (hm : braces g.earlier = braces earlier + m) :
    ((groupsFrom earlier around after n).filterMap (Group.scope? flavor))[m]?
      = g.scope? flavor := by
  have hsome : g.scope? flavor = some
      ⟨if guards flavor g.before then .guarded else .block, some (scopeWithin g.around)⟩ := by
    rw [Group.scope?, if_pos hk]
  induction n generalizing earlier around after m with
  | empty => simp [groupsFrom] at hg
  | token before t ih => exact ih hn.1 hg hm
  | group before kind opener inner closer ihb ihi =>
    obtain ⟨hb, hopener, hi, hcloser⟩ := hn
    have hlen := length_filterMap_scope? flavor hb earlier around [opener]
    simp only [groupsFrom, List.mem_append, List.mem_cons, List.filterMap_append] at hg ⊢
    rcases hg with hg | hg | hg
    · have hget := ihb hb hg hm
      have hlt := (List.getElem?_eq_some_iff.1 (hget.trans hsome)).1
      rw [List.getElem?_append_left hlt, hget]
    · subst hg
      rw [braces_append] at hm
      have hlast : m - braces before.tokens = 0 := by omega
      rw [List.getElem?_append_right (by omega), hlen, hlast, List.filterMap_cons_some hsome,
        List.getElem?_cons_zero, hsome]
    · obtain ⟨rest, hrest⟩ := prefix_of_mem_groupsFrom hg
      have hget := ihi hi hg (m := braces rest) (by rw [hrest, braces_append])
      rw [hrest] at hm
      simp only [braces_append] at hm
      rw [List.getElem?_append_right (by omega), hlen]
      by_cases hcurly : kind = .curly
      · subst hcurly
        rw [braces_singleton_curly hopener] at hm
        have hnext : m - braces before.tokens = braces rest + 1 := by omega
        rw [hnext, List.filterMap_cons_some (by rw [Group.scope?, if_pos rfl]),
          List.getElem?_cons_succ, hget]
      · rw [braces_singleton_of_ne (t := opener) (by simp [hopener, hcurly])] at hm
        have hnext : m - braces before.tokens = braces rest := by omega
        rw [hnext, List.filterMap_cons_none (by rw [Group.scope?, if_neg hcurly]), hget]

/-- **A pair of braces is the scope with its number.** -/
theorem scopes_getElem?_scope (hn : n.IsProper) {g : Group} (hg : g ∈ n.groups)
    (hk : g.kind = .curly) :
    (ofNesting flavor n).scopes[g.scope]? = some
      ⟨if guards flavor g.before then .guarded else .block, some (scopeWithin g.around)⟩ := by
  have hearlier : braces g.earlier = braces [] + braces g.earlier := by simp
  have hget := getElem?_filterMap_scope? flavor hn hg hk hearlier
  rw [← Array.getElem?_toList, scopes_ofNesting hn, Opening.scope, Nat.add_comm,
    List.getElem?_cons_succ]
  exact hget.trans (if_pos hk)

theorem scopes_getElem?_zero (hn : n.IsProper) :
    (ofNesting flavor n).scopes[0]? = some ⟨.file, none⟩ := by
  rw [← Array.getElem?_toList, scopes_ofNesting hn, List.getElem?_cons_zero]

/-- Every scope but the file is a pair of braces. -/
theorem exists_group_of_scope (hn : n.IsProper) {id : Nat} {scope : Scope}
    (h : (ofNesting flavor n).scopes[id + 1]? = some scope) :
    ∃ g ∈ n.groups, g.kind = .curly ∧ g.scope = id + 1 ∧ g.scope? flavor = some scope := by
  have hlt := (Array.getElem?_eq_some_iff.1 h).1
  rw [size_scopes_ofNesting hn] at hlt
  have hid : id < braces n.tokens := by omega
  obtain ⟨i, t, hi, ht, hbraces⟩ := exists_brace hid
  obtain ⟨g, hg, hidx, -, hk⟩ := exists_group_of_opening hn hi ht [] [] []
  have hscope : g.scope = id + 1 := by
    rw [List.length_nil, Nat.zero_add] at hidx
    rw [Opening.scope, earlier_eq_take hg, hidx, hbraces, Nat.add_comm]
  refine ⟨g, hg, hk, hscope, ?_⟩
  have hget : (ofNesting flavor n).scopes[g.scope]? = _ := scopes_getElem?_scope hn hg hk
  rw [hscope, h] at hget
  rw [Group.scope?, if_pos hk, hget]

/-- The parent of every scope was added before it. -/
theorem parentsFirst_ofNesting (hn : n.IsProper) : (ofNesting flavor n).ParentsFirst := by
  intro id scope parent hget hparent
  cases id with
  | zero =>
    rw [scopes_getElem?_zero hn] at hget
    cases hget
    cases hparent
  | succ id =>
    obtain ⟨g, hg, hk, hscope, heq⟩ := exists_group_of_scope hn hget
    rw [Group.scope?, if_pos hk] at heq
    cases heq
    cases hparent
    rw [← hscope]
    exact scopeWithin_lt hn hg

/-! ### The scopes around a group -/

/-- The scopes around the groups of a nesting are an ancestry, if those around the nesting are. -/
theorem ancestry_of_mem_groupsFrom {o : Outline}
    (hscopes : ∀ g ∈ groupsFrom earlier around after n, g.kind = .curly →
      ∃ kind, o.scopes[g.scope]? = some ⟨kind, some (scopeWithin g.around)⟩)
    (haround : o.Ancestry (scopeWithin around) (scopesAround around)) {g : Group}
    (hg : g ∈ groupsFrom earlier around after n) :
    o.Ancestry (scopeWithin g.around) (scopesAround g.around) := by
  induction n generalizing earlier around after with
  | empty => simp [groupsFrom] at hg
  | token before t ih => exact ih hscopes haround hg
  | group before kind opener inner closer ihb ihi =>
    simp only [groupsFrom, List.mem_append, List.mem_cons] at hg hscopes
    rcases hg with hg | rfl | hg
    · exact ihb (fun e he => hscopes e (.inl he)) haround hg
    · exact haround
    · refine ihi (fun e he => hscopes e (.inr (.inr he))) ?_ hg
      by_cases hk : kind = .curly
      · obtain ⟨k, hget⟩ := hscopes _ (.inr (.inl rfl)) hk
        rw [scopeWithin_cons_curly hk, scopesAround_cons_curly hk]
        exact .step hget haround
      · rwa [scopeWithin_cons_of_ne hk, scopesAround_cons_of_ne hk]

/-- **The scopes around a group** are those of the braces around it and the file. -/
theorem ancestry_of_mem_groups (hn : n.IsProper) {g : Group} (hg : g ∈ n.groups) :
    (ofNesting flavor n).Ancestry (scopeWithin g.around) (scopesAround g.around) :=
  ancestry_of_mem_groupsFrom (fun _ he hk => ⟨_, scopes_getElem?_scope hn he hk⟩)
    (.root (scopes_getElem?_zero hn)) hg

end Outline

end SdkAudit
