import SdkAudit.Project
import SdkAudit.Proofs.Outline.Braces
import SdkAudit.Proofs.Outline.Callee
import SdkAudit.Proofs.Pattern.Found

/-!
# Files that are passed over

A project check passes over the files that show no sign of the SDK.  A use of the SDK is such a sign
if it goes through the facade, whose name is then in the text.  A bare call of the initializer is
one only if its bracket follows its name directly: white space or a comment in between hides it.

* `RuleSet.FindsUse` — a text in which a use of the SDK is found;
* `Dialect.Writes` — how a text writes a word that is read from it;
* `writes_of_mem_calls` — **every call writes the root of its callee**;
* `RuleSet.WrittenApart` — a use of the SDK that shows no sign of it;
* `isCandidate_of_findsUse_iff` — **a text with a use of the SDK is passed over exactly if all of it
  is written apart**;
* `findsUse_initializer_apart` — a call of the initializer that is passed over.
-/

namespace SdkAudit

open Nesting Outline

/-! ### Uses of the SDK -/

/-- The call is one of the initializer by its bare name, or one through the facade. -/
def Call.IsUse (call : Call) : Prop :=
  call.kind = .initializer ∨ ∃ method, call.kind = .facade method

/-- A use of the SDK is found in the text of a file. -/
def RuleSet.FindsUse (rules : RuleSet) (path source : String) : Prop :=
  (rules.analyzeFile path source).initialized = true ∨
    match Scan.ofFile rules path source with
    | .structured o => ∃ call ∈ o.calls, call.IsUse
    | .degraded found => found ≠ []

/-- How a text in a dialect writes a word that is read from it.  Tokens are parts of their text.  A
grammar's callees are so only up to characters that are left out of them. -/
def Dialect.Writes (dialect : Dialect) (word source : String) : Prop :=
  match dialect with
  | .dart | .kotlin => word.toList <:+: source.toList
  | _ => Spelled word.toList source.toList

/-- A use of the SDK that is found, with the word that the text writes for it. -/
inductive RuleSet.WritesUse (rules : RuleSet) (path source : String) : Prop
  /-- The initializer is called by its bare name. -/
  | bareCall {o : Outline} {call : Call} :
      Scan.ofFile rules path source = .structured o → call ∈ o.calls → call.kind = .initializer →
      (Dialect.ofFileName path rules.technology).Writes rules.initialization.method source →
      WritesUse rules path source
  /-- A method is called through the facade. -/
  | facadeCall {o : Outline} {call : Call} {method : String} :
      Scan.ofFile rules path source = .structured o → call ∈ o.calls → call.kind = .facade method →
      (Dialect.ofFileName path rules.technology).Writes rules.facadeRoot source →
      WritesUse rules path source
  /-- Flutter's initializer, and nothing else, is found by its pattern. -/
  | pattern :
      Scan.ofFile rules path source = .degraded [rules.initialization.method] →
      rules.technology = .flutter → rules.initialization.method.toList <:+: source.toList →
      WritesUse rules path source

/-- The SDK is used, but the name of the facade is nowhere in the text, and nowhere does a bracket
follow the name of the initializer directly. -/
structure RuleSet.WrittenApart (rules : RuleSet) (path source : String) : Prop where
  facade : ¬ rules.facadeRoot.toList <:+: source.toList
  bracket : ¬ (rules.initialization.method ++ "(").toList <:+: source.toList
  use : rules.WritesUse path source

theorem isCandidate_iff {rules : RuleSet} {source : String} :
    isCandidate rules source = true ↔ rules.facadeRoot.toList <:+: source.toList ∨
      (rules.initialization.method ++ "(").toList <:+: source.toList := by
  rw [isCandidate, Bool.or_eq_true, Text.holdsString, Text.holdsString, Text.holds_iff,
    Text.holds_iff]

/-- The words of the catalogue have no dots and hang on no expression. -/
theorem roots_of_catalogue (technology : Technology) :
    rootOf (Catalogue.ruleSet technology).initialization.method.toList
        = (Catalogue.ruleSet technology).initialization.method.toList ∧
      (Catalogue.ruleSet technology).initialization.method.toList ≠ expressionRoot ∧
      (Catalogue.ruleSet technology).facadeRoot.toList ≠ expressionRoot := by
  cases technology <;> decide +kernel

/-! ### Every call writes its root -/

theorem rootOf_infix_of_tokenOutline {flavor : Flavor} {source : String} {o : Outline}
    (ho : Scan.tokenOutline flavor source = .ok o) {call : Call} (hcall : call ∈ o.calls)
    (hroot : rootOf call.callee.toList ≠ expressionRoot) :
    rootOf call.callee.toList <:+: source.toList := by
  obtain ⟨ts, n, hlex, hread, rfl⟩ := tokenOutline_eq_ok_iff.1 ho
  obtain ⟨hn, rfl⟩ := ofTokens_eq_ok_iff.1 hread
  obtain ⟨t, ht, -, name, hname, hstarts⟩ := exists_token_of_mem_calls hn hcall
  have hprefix : rootOf call.callee.toList <+: name.toList := hstarts.resolve_right hroot
  exact hprefix.isInfix.trans ((laid_of_tokens hlex).name_isInfix ht hname)

theorem spelled_of_grammarOutline {lexicon : Thunk Grammar.Lexicon} {roles : Grammar.Roles}
    {source : String} {o : Outline} (ho : Scan.grammarOutline? lexicon roles source = some o)
    {call : Call} (hcall : call ∈ o.calls) :
    Spelled (rootOf call.callee.toList) source.toList := by
  obtain ⟨forest, -, rfl⟩ := Option.map_eq_some_iff.1 ho
  obtain ⟨more, hmore⟩ := rootOf_isPrefix call.callee.toList
  have hcallee := spelled_of_mem_calls hcall
  rw [← hmore] at hcallee
  exact hcallee.of_append

/-- **Every call writes the root of its callee.** -/
theorem writes_of_mem_calls {dialect : Dialect} {source word : String} {o : Outline}
    (ho : Scan.outline? dialect source = some o) {call : Call} (hcall : call ∈ o.calls)
    (hroot : rootOf call.callee.toList = word.toList) (hword : word.toList ≠ expressionRoot) :
    dialect.Writes word source := by
  unfold Dialect.Writes
  rw [← hroot] at hword ⊢
  cases dialect with
  | dart | kotlin => exact rootOf_infix_of_tokenOutline (toOption_eq_some_iff.1 ho) hcall hword
  | javaScript | typeScript | tsx | java | swift => exact spelled_of_grammarOutline ho hcall
  | objectiveC => cases ho

/-! ### Uses that are passed over -/

variable {technology : Technology} {path source : String}

theorem RuleSet.findsUse_iff {rules : RuleSet} :
    rules.FindsUse path source ↔ match Scan.ofFile rules path source with
      | .structured o => ∃ call ∈ o.calls, call.IsUse
      | .degraded found => found ≠ [] := by
  unfold FindsUse analyzeFile analyze
  cases Scan.ofFile rules path source with
  | structured o =>
    refine or_iff_right_of_imp fun h => ?_
    obtain ⟨call, hcall⟩ := Option.isSome_iff_exists.1 h
    obtain ⟨hmem, hinitializer | hfacade⟩ := initializerCall?_eq_some hcall
    · exact ⟨call, hmem, .inl hinitializer⟩
    · exact ⟨call, hmem, .inr ⟨_, hfacade⟩⟩
  | degraded found =>
    refine or_iff_right_of_imp fun h => ?_
    exact List.ne_nil_of_mem (List.contains_iff_mem.1 h)

theorem findsUse_of_writesUse {rules : RuleSet} (h : rules.WritesUse path source) :
    rules.FindsUse path source := by
  rw [RuleSet.findsUse_iff]
  cases h with
  | bareCall hscan hcall hkind _ =>
    rw [hscan]
    exact ⟨_, hcall, .inl hkind⟩
  | facadeCall hscan hcall hkind _ =>
    rw [hscan]
    exact ⟨_, hcall, .inr ⟨_, hkind⟩⟩
  | pattern hscan _ _ =>
    rw [hscan]
    exact List.cons_ne_nil _ _

theorem exists_outline_of_ofFile {rules : RuleSet} {o : Outline}
    (h : Scan.ofFile rules path source = .structured o) :
    ∃ plain, Scan.outline? (Dialect.ofFileName path rules.technology) source = some plain ∧
      plain.classify rules = o := by
  unfold Scan.ofFile Scan.ofSource at h
  split at h
  case h_1 plain hplain => exact ⟨plain, hplain, Scan.structured.inj h⟩
  case h_2 => cases h

theorem foundMethods_of_ofFile {rules : RuleSet} {found : List String}
    (h : Scan.ofFile rules path source = .degraded found) :
    found = Scan.foundMethods rules.technology source := by
  unfold Scan.ofFile Scan.ofSource at h
  split at h
  case h_1 => cases h
  case h_2 => exact (Scan.degraded.inj h).symm

/-- The text writes the word of every call that is a use of the SDK. -/
theorem writesUse_of_mem_calls {o : Outline}
    (hscan : Scan.ofFile (Catalogue.ruleSet technology) path source = .structured o) {call : Call}
    (hcall : call ∈ o.calls) (huse : call.IsUse) :
    (Catalogue.ruleSet technology).WritesUse path source := by
  obtain ⟨hinitializer, hmethod, hroot⟩ := roots_of_catalogue technology
  obtain ⟨plain, hplain, rfl⟩ := exists_outline_of_ofFile hscan
  obtain ⟨c, hc, rfl⟩ := Array.mem_map.1 hcall
  rcases huse with hkind | ⟨method, hkind⟩
  · have hword : rootOf c.callee.toList
        = (Catalogue.ruleSet technology).initialization.method.toList := by
      rw [Call.callee_of_initializer hkind, hinitializer]
    exact .bareCall hscan hcall hkind (writes_of_mem_calls hplain hc hword hmethod)
  · have hword := Call.rootOf_of_facade hkind
    exact .facadeCall hscan hcall hkind (writes_of_mem_calls hplain hc hword hroot)

/-- A use that is found is written, unless the facade is. -/
theorem writesUse_of_findsUse
    (hfacade : ¬ (Catalogue.ruleSet technology).facadeRoot.toList <:+: source.toList)
    (h : (Catalogue.ruleSet technology).FindsUse path source) :
    (Catalogue.ruleSet technology).WritesUse path source := by
  rw [RuleSet.findsUse_iff] at h
  cases hscan : Scan.ofFile (Catalogue.ruleSet technology) path source with
  | structured o =>
    rw [hscan] at h
    obtain ⟨call, hcall, huse⟩ := h
    exact writesUse_of_mem_calls hscan hcall huse
  | degraded found =>
    rw [hscan] at h
    have htechnology : (Catalogue.ruleSet technology).technology = technology := by
      cases technology <;> rfl
    have hfound := foundMethods_of_ofFile hscan
    rw [htechnology] at hfound
    subst hfound
    obtain ⟨hflutter, honly, hinfix⟩ :=
      (Scan.facadeRoot_infix_or_initializer h).resolve_left hfacade
    rw [honly] at hscan
    exact .pattern hscan (htechnology.trans hflutter) hinfix

theorem findsUse_imp_iff (technology : Technology) (path source : String) :
    ((Catalogue.ruleSet technology).FindsUse path source →
        isCandidate (Catalogue.ruleSet technology) source = true) ↔
      ¬ (Catalogue.ruleSet technology).WrittenApart path source := by
  rw [isCandidate_iff]
  constructor
  · rintro hseen ⟨hfacade, hbracket, huse⟩
    exact (hseen (findsUse_of_writesUse huse)).elim hfacade hbracket
  · intro hapart huse
    by_contra hunseen
    obtain ⟨hfacade, hbracket⟩ := not_or.1 hunseen
    exact hapart ⟨hfacade, hbracket, writesUse_of_findsUse hfacade huse⟩

/-- **A text with a use of the SDK is passed over exactly if all of it is written apart**, and so is
a file of a project that can be read. -/
theorem isCandidate_of_findsUse_iff (technology : Technology) (path source : String) :
    (((Catalogue.ruleSet technology).FindsUse path source →
          isCandidate (Catalogue.ruleSet technology) source = true) ↔
        ¬ (Catalogue.ruleSet technology).WrittenApart path source) ∧
      ∀ (audit : Audit) (store : Store),
        (((path, source) ∈ Audit.readable store → (audit.rulesOf path).FindsUse path source →
            (path, source) ∈ audit.candidates store) ↔
          ¬ ((path, source) ∈ Audit.readable store ∧
            (audit.rulesOf path).WrittenApart path source)) := by
  refine ⟨findsUse_imp_iff technology path source, fun audit store => ?_⟩
  have hfile := findsUse_imp_iff (audit.technologyOf path) path source
  have hmem : (path, source) ∈ audit.candidates store ↔ (path, source) ∈ Audit.readable store ∧
      isCandidate (audit.rulesOf path) source = true := List.mem_filter
  rw [hmem, not_and, Audit.rulesOf, ← hfile]
  tauto

/-- For instance where a space stands before the bracket of the initializer. -/
theorem findsUse_initializer_apart :
    (Catalogue.ruleSet .flutter).FindsUse "lib/main.dart"
        "void main() { engage (k, p, s, a, t); }" ∧
      isCandidate (Catalogue.ruleSet .flutter)
        "void main() { engage (k, p, s, a, t); }" = false := by
  refine ⟨.inl ?_, ?_⟩
  · decide +kernel
  · decide +kernel

end SdkAudit
