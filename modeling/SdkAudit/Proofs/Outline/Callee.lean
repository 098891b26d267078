import SdkAudit.Outline.OfForest
import SdkAudit.Proofs.Outline.Arena
import SdkAudit.Proofs.Outline.Chain
import SdkAudit.Proofs.Source.Reading

/-!
# Callees in their text

What a callee says before its first dot is written in the text.  Where the text is read from tokens
it is the start of a name, at which the call stands, unless the callee hangs on an expression.
Where it is read with a grammar, characters that are left out of callees may stand in between.

* `Outline.rootOf` — a callee up to its first dot;
* `Outline.exists_token_of_mem_calls` — a call stands where one of its names stands;
* `Outline.Spelled` — a text spells a word, with characters in between that callees leave out;
* `Outline.spelled_of_mem_calls` — a grammar finds only callees that the text spells;
* `Call.rootOf_of_facade` — a call through the facade has the root of the facade;
* `Laid.name_isInfix` — the text of a name lies in the text it was read from.
-/

namespace SdkAudit

open Nesting

namespace Outline

/-! ### Roots -/

/-- What a word says before its first dot. -/
def rootOf (word : List Char) : List Char := word.takeWhile (· ≠ '.')

theorem rootOf_isPrefix (word : List Char) : rootOf word <+: word := List.takeWhile_prefix _

theorem rootOf_append_dot (word more : List Char) : rootOf (word ++ '.' :: more) = rootOf word := by
  induction word with
  | nil => simp [rootOf]
  | cons c word ih =>
    by_cases hc : c = '.'
    · simp [rootOf, hc]
    · simpa [rootOf, hc] using ih

/-- The root of a callee that hangs on an expression. -/
def expressionRoot : List Char := "<expr>".toList

theorem rootOf_callee {chain : Chain} {name : String} (h : chain.names.head? = some name) :
    rootOf chain.callee.toList <+: name.toList ∨ rootOf chain.callee.toList = expressionRoot := by
  obtain ⟨rest, hnames⟩ : ∃ rest, chain.names = name :: rest := List.head?_eq_some_iff.1 h
  unfold Chain.callee
  rw [hnames]
  by_cases hexpr : chain.onExpression = true
  · right
    have hsplit : ("<expr>." ++ ".".intercalate (name :: rest)).toList
        = expressionRoot ++ '.' :: (".".intercalate (name :: rest)).toList := by
      rw [String.toList_append]
      rfl
    simp only [hexpr, if_true, hsplit, rootOf_append_dot]
    decide
  · left
    simp only [hexpr, Bool.false_eq_true, if_false]
    cases rest with
    | nil =>
      rw [String.intercalate_singleton]
      exact rootOf_isPrefix _
    | cons next rest =>
      have hsplit : (".".intercalate (name :: next :: rest)).toList
          = name.toList ++ '.' :: (".".intercalate (next :: rest)).toList := by
        simp [String.toList_append]
      rw [hsplit, rootOf_append_dot]
      exact rootOf_isPrefix _

/-! ### Callees of tokens -/

variable {flavor : Flavor}

/-- The first name of a chain is that of a token, at which the chain stands. -/
theorem exists_token_of_chainFrom (names : List String) (position : Position) (n : Nesting)
    {first : Token} {name : String} (hposition : first.position = position)
    (hfirst : first.name? = some name) (hnames : names.head? = some name) :
    ∃ t ∈ n.tokens ++ [first], t.position = (chainFrom names position n).position ∧
      ∃ word, t.name? = some word ∧ (chainFrom names position n).names.head? = some word := by
  induction n using Nesting.link_induction generalizing names position first name with
  | link n l hlink ih =>
    obtain ⟨t, ht, htposition, hshape⟩ := link?_eq_some hlink
    obtain ⟨u, hu, hstarts⟩ := ih (l.name :: names) l.position htposition ht rfl
    have hsub : ∀ v ∈ l.before.tokens ++ [t], v ∈ n.tokens := by
      obtain ⟨dot, rfl⟩ | ⟨mark, dot, rfl⟩ := hshape <;> simp [tokens] <;> tauto
    rw [chainFrom_of_link hlink]
    exact ⟨u, List.mem_append_left _ (hsub u hu), hstarts⟩
  | last n hlink =>
    rw [chainFrom_of_last hlink]
    exact ⟨first, by simp, hposition, name, hfirst, hnames⟩

/-- A call stands at a token that is a name, and the callee starts with that name or hangs on an
expression. -/
theorem exists_token_of_callAt? {before inner : Nesting} {after : List Token} {scope : ScopeId}
    {call : Call} (h : callAt? flavor before inner after scope = some call) :
    ∃ t ∈ before.tokens, t.position = call.position ∧ ∃ name, t.name? = some name ∧
      (rootOf call.callee.toList <+: name.toList ∨
        rootOf call.callee.toList = expressionRoot) := by
  simp only [callAt?] at h
  cases before with
  | empty | group => simp [chainEnding?] at h
  | token before t =>
    simp only [chainEnding?] at h
    split at h
    · cases h
    case h_2 chain hchain =>
      split at h
      · cases h
      · cases h
        split at hchain
        case h_1 name hname =>
          split at hchain
          · cases hchain
          · cases hchain
            obtain ⟨u, hu, hpos, word, hword, hhead⟩ :=
              exists_token_of_chainFrom [name] t.position before rfl hname rfl
            exact ⟨u, hu, hpos, word, hword, rootOf_callee hhead⟩
        case h_2 => cases hchain

/-- **A call stands where one of its names stands.** -/
theorem exists_token_of_mem_calls {n : Nesting} (hn : n.IsProper) {call : Call}
    (h : call ∈ (ofNesting flavor n).calls) :
    ∃ t ∈ n.tokens, t.position = call.position ∧ ∃ name, t.name? = some name ∧
      (rootOf call.callee.toList <+: name.toList ∨
        rootOf call.callee.toList = expressionRoot) := by
  rw [← Array.mem_toList_iff, calls_ofNesting hn] at h
  obtain ⟨g, hg, hcall⟩ := List.mem_filterMap.1 h
  obtain ⟨outside, hsplit, -⟩ := earlier_of_mem_groupsFrom hn hg
  rw [Group.call?] at hcall
  split at hcall
  case isTrue hk =>
    obtain ⟨t, ht, hstarts⟩ := exists_token_of_callAt? hcall
    refine ⟨t, List.mem_of_mem_take (i := g.index) ?_, hstarts⟩
    rw [← earlier_eq_take hg, hsplit]
    exact List.mem_append_right _ ht
  case isFalse => cases hcall

/-! ### Callees of forests -/

/-- The text spells the word, with characters in between that callees leave out. -/
def Spelled (word text : List Char) : Prop :=
  ∃ part, part <:+: text ∧ part.filter (!isLeftOut ·) = word

theorem Spelled.of_append {word more text : List Char} (h : Spelled (word ++ more) text) :
    Spelled word text := by
  obtain ⟨part, hpart, hword⟩ := h
  obtain ⟨front, back, rfl, hfront, -⟩ := List.filter_eq_append_iff.1 hword
  exact ⟨front, (List.infix_append' [] front back).trans hpart, hfront⟩

theorem between_isInfix (source : List Char) (start stop : Place) :
    between source start stop <:+: source :=
  (List.take_prefix _ _).isInfix.trans (List.drop_suffix _ _).isInfix

theorem spelled_of_site? {source : List Char} {node : Spot} {start opening : Place}
    {list : Forest} {site : Site Spot} (h : site? source node start opening list = some site) :
    Spelled site.callee.toList source := by
  unfold site? at h
  split at h
  case h_1 => cases h
  case h_2 =>
    cases h
    exact ⟨_, between_isInfix source start opening, by simp⟩

theorem spelled_of_mem_sites {source : List Char} {around : Spot} {forest : Forest}
    {site : Site Spot} (h : site ∈ sites source around forest) :
    Spelled site.callee.toList source := by
  induction around, forest using sites.induct with
  | case1 => simp [sites] at h
  | case2 around before start stop callee opening stop' list call ihb ihc ihl =>
    simp only [sites, List.mem_append, Option.mem_toList] at h
    rcases h with ((hbefore | hcallee) | hsite) | hlist
    · exact ihb hbefore
    · exact ihc hcallee
    · exact spelled_of_site? hsite
    · exact ihl hlist
  | case3 around before kind start stop inner hcall ihb ihi =>
    rw [sites.eq_3 _ _ _ _ _ _ _ hcall, List.mem_append] at h
    exact h.elim ihb ihi

namespace Lowering

variable {ν : Type} [DecidableEq ν] {tree : SyntaxTree ν}

theorem calls_enter (l : Lowering ν) (parent : ScopeId) (node : ν) (kind : ScopeKind) :
    (l.enter parent node kind).1.outline.calls = l.outline.calls := by
  unfold enter
  split <;> rfl

theorem calls_enclosingScope (l : Lowering ν) (node : ν) :
    (l.enclosingScope tree node).1.outline.calls = l.outline.calls := by
  have hfold : ∀ (chain : List (ν × ScopeKind)) (start : Lowering ν × ScopeId),
      (chain.foldl (fun s n => s.1.enter s.2 n.1 n.2) start).1.outline.calls
        = start.1.outline.calls := by
    intro chain
    induction chain with
    | nil => exact fun _ => rfl
    | cons n chain ih =>
      intro start
      rw [List.foldl_cons, ih, calls_enter]
  exact hfold (tree.chain node) (l, fileScope)

theorem exists_site_of_mem_calls {l : Lowering ν} {found : List (Site ν)} {call : Call}
    (h : call ∈ (found.foldl (addSite tree) l).outline.calls) :
    call ∈ l.outline.calls ∨ ∃ site ∈ found, site.callee = call.callee := by
  induction found generalizing l with
  | nil => exact .inl h
  | cons site found ih =>
    rcases ih h with hadded | ⟨later, hlater, heq⟩
    · simp only [addSite, addCall, Array.mem_push, calls_enclosingScope] at hadded
      rcases hadded with hold | rfl
      · exact .inl hold
      · exact .inr ⟨site, List.mem_cons_self, rfl⟩
    · exact .inr ⟨later, List.mem_cons_of_mem _ hlater, heq⟩

end Lowering

/-- **A grammar finds only callees that the text spells.** -/
theorem spelled_of_mem_calls {source : List Char} {forest : Forest} {call : Call}
    (h : call ∈ (ofForest source forest).calls) : Spelled call.callee.toList source := by
  simp only [ofForest, sorted, List.mem_toArray, List.mem_mergeSort, Array.mem_toList_iff] at h
  rcases Lowering.exists_site_of_mem_calls h with hnone | ⟨site, hsite, hcallee⟩
  · simp at hnone
  · rw [← hcallee]
    exact spelled_of_mem_sites hsite

/-! ### Calls of the SDK -/

theorem initializerCall?_eq_some {o : Outline} {initializer : String} {call : Call}
    (h : o.initializerCall? initializer = some call) :
    call ∈ o.calls ∧ (call.kind = .initializer ∨ call.kind = .facade initializer) := by
  rw [Outline.initializerCall?, Option.orElse_eq_some] at h
  rcases h with hfind | ⟨-, hfind⟩
  · refine ⟨Array.mem_toList_iff.1 (List.mem_of_find?_eq_some hfind), .inl ?_⟩
    simpa using List.find?_some hfind
  · refine ⟨Array.mem_toList_iff.1 (List.mem_of_find?_eq_some hfind), .inr ?_⟩
    simpa using List.find?_some hfind

end Outline

open Outline

theorem Text.eq_of_splitLast? {mark : Char} {text front back : List Char}
    (h : splitLast? mark text = some (front, back)) : text = front ++ mark :: back := by
  induction text generalizing front back with
  | nil => cases h
  | cons c text ih =>
    unfold splitLast? at h
    split at h
    case h_1 front' back' hsplit =>
      cases h
      rw [ih hsplit, List.cons_append]
    case h_2 =>
      split_ifs at h with hmark
      cases h
      rw [hmark, List.nil_append]

theorem Text.splitLast?_eq_none {mark : Char} {text : List Char} (h : mark ∉ text) :
    splitLast? mark text = none := by
  induction text with
  | nil => rfl
  | cons c text ih =>
    rw [List.mem_cons, not_or] at h
    simp [splitLast?, ih h.2, Ne.symm h.1]

theorem Text.splitLast?_append {mark : Char} {front back : List Char} (h : mark ∉ back) :
    splitLast? mark (front ++ mark :: back) = some (front, back) := by
  induction front with
  | nil => simp [splitLast?, splitLast?_eq_none h]
  | cons c front ih => simp [splitLast?, ih]

theorem Call.rootOf_of_facade {rules : RuleSet} {call : Call} {method : String}
    (h : call.kindUnder rules = .facade method) :
    rootOf call.callee.toList = rules.facadeRoot.toList := by
  unfold kindUnder receiver? at h
  cases hsplit : Text.splitLast? '.' call.callee.toList with
  | none =>
    simp only [hsplit, Option.map_none] at h
    split_ifs at h
  | some parts =>
    obtain ⟨front, back⟩ := parts
    simp only [hsplit, Option.map_some] at h
    split_ifs at h with hfacade
    have hfront : front = rules.facade.toList := by rw [← hfacade, String.toList_ofList]
    rw [Text.eq_of_splitLast? hsplit, rootOf_append_dot, hfront, RuleSet.facadeRoot,
      String.toList_ofList]
    rfl

theorem Call.callee_of_initializer {rules : RuleSet} {call : Call}
    (h : call.kindUnder rules = .initializer) : call.callee = rules.initialization.method := by
  unfold kindUnder at h
  split at h
  · split_ifs at h with hcallee
    exact hcallee
  · split_ifs at h

/-! ### Names in their text -/

/-- **The text of a name lies in the text it was read from.** -/
theorem Laid.name_isInfix {p : Place} {text : List Char} {ts : List Token} (h : Laid p text ts)
    {t : Token} (ht : t ∈ ts) {name : String} (hname : t.name? = some name) :
    name.toList <:+: text := by
  obtain ⟨gap, body, rest, rfl, -, hspells, -⟩ := h.exists_place ht
  have hbody : name.toList <:+: body := by
    unfold Token.name? at hname
    cases hlexeme : t.lexeme with
    | name word =>
      rw [hlexeme] at hname hspells
      cases hname
      cases hspells with
      | name => simp
      | quoted =>
        rw [String.toList_ofList]
        exact List.infix_append ['\x60'] _ ['\x60']
    | _ => simp [hlexeme] at hname
  exact hbody.trans (List.infix_append' gap body rest)

end SdkAudit
