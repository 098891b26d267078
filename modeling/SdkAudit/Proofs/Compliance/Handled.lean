import SdkAudit.Proofs.Compliance.Layout
import SdkAudit.Proofs.Outline.TryStatement

/-!
# The advice to handle errors works

A call through the facade that no scope guards is to be wrapped in a `try`.  Whoever wraps a whole
text so has followed the advice for every call in it, and has changed nothing else: the other
findings are the same, one line further down.

* `Call.inTry`, `Diagnostic.inTry` — a call and a finding where the text is in the body of a `try`;
* `Analysis.WithoutErrors` — an analysis without the findings about errors;
* `RuleSet.withoutErrors_of_guarded` — **where all calls are guarded, nothing else is lost**;
* `analyze_inTry` — **a text in the body of a `try` has no findings about errors, and all others**.
-/

namespace SdkAudit

open Outline

variable {flavor : Flavor}

/-- The call where the text is in the body of a `try`: one line further down, in the next scope. -/
def Call.inTry (call : Call) : Call :=
  { call with
    position := ⟨call.position.line + 1, call.position.column⟩
    scope := call.scope + 1 }

/-- The finding where the text is in the body of a `try`: one line further down, unless it is that
the text misses the initialization. -/
def Diagnostic.inTry (d : Diagnostic) : Diagnostic :=
  if d.category = .missingInitialization then d
  else { d with position := ⟨d.position.line + 1, d.position.column⟩ }

/-- The analysis `a'` is the analysis `a` without its findings about errors, one line further down.
-/
structure Analysis.WithoutErrors (a' a : Analysis) : Prop where
  mode : a'.mode = a.mode
  initialized : a'.initialized = a.initialized
  diagnostics : a'.diagnostics
    = (a.diagnostics.filter (fun d => d.category ≠ .errorHandling)).map Diagnostic.inTry
  /-- The finding that the text misses the initialization stands at its start. -/
  missing : ∀ d ∈ a'.diagnostics, d.category = .missingInitialization → d.position = .origin

/-- Places further down are in the same order. -/
theorem Relocation.notAfter_down (lines chars : Nat) (p q : Position) :
    ((Relocation.down lines chars).position p).notAfter ((Relocation.down lines chars).position q)
      = p.notAfter q := by
  rw [Bool.eq_iff_iff, Position.notAfter_iff, Position.notAfter_iff]
  show p.line + lines < q.line + lines ∨ p.line + lines = q.line + lines ∧ p.column ≤ q.column ↔ _
  omega

/-- **Where all calls are guarded, nothing but the findings about errors is lost.** -/
theorem RuleSet.withoutErrors_of_guarded (rules : RuleSet) {chars : Nat} {seat : ScopeId → ScopeId}
    {o o' : Outline} (h : o'.HasCallsOf (.down 1 chars) seat o)
    (hguarded : ∀ call ∈ o.calls, o'.isGuarded (seat call.scope) = true) :
    (rules.analyze (.structured o')).WithoutErrors (rules.analyze (.structured o)) where
  mode := rfl
  initialized := by
    simp only [analyze, initializes, h.initializerCall?, Option.isSome_map]
  diagnostics := by
    have hpart : ∀ d ∈ (rules.outlineFindings o).filter (fun d => d.category ≠ .errorHandling),
        d ∈ rules.outlineFindings o := fun d hd => List.mem_of_mem_filter hd
    show rules.diagnostics (.structured o') = ((rules.diagnostics (.structured o)).filter _).map _
    rw [diagnostics_structured, diagnostics_structured, filter_inFileOrder,
      outlineFindings_follow_of_guarded h hguarded,
      inFileOrder_follow hpart fun c _ d _ => Relocation.notAfter_down 1 chars _ _]
    rfl
  missing := by
    intro d hd hcategory
    obtain ⟨-, -, rfl⟩ := missing_iff.1 ⟨hd, hcategory⟩
    rfl

/-- The calls of a text are those of the text in the body of a `try`. -/
theorem hasCallsOf_tryOutline (o : Outline) :
    (o.relocate (.down 1 6)).tryOutline.HasCallsOf (.down 1 6) (· + 1) o := by
  rw [HasCallsOf, calls_tryOutline, Outline.relocate, Array.map_map]
  rfl

/-- **A text in the body of a `try` has no findings about errors, and all others.**  It has an
outline, with the same calls one line further down, all of them guarded.  Under every rule set its
analysis is that of the text by itself without the findings about errors, also as that of a file in
the dialect. -/
theorem analyze_inTry {source : String} {o : Outline}
    (h : Scan.tokenOutline flavor source = .ok o) :
    ∃ o', Scan.tokenOutline flavor (inTry source) = .ok o' ∧
      o'.calls = o.calls.map Call.inTry ∧
      (∀ call ∈ o'.calls, o'.isGuarded call.scope = true) ∧
      ∀ rules : RuleSet,
        (o'.classify rules).calls = (o.classify rules).calls.map Call.inTry ∧
        (rules.analyze (.structured (o'.classify rules))).WithoutErrors
          (rules.analyze (.structured (o.classify rules))) ∧
        ∀ path, Dialect.ofFileName path rules.technology = flavor.dialect →
          (rules.analyzeFile path (inTry source)).WithoutErrors
            (rules.analyzeFile path source) := by
  have hcalls := hasCallsOf_tryOutline o
  have hguarded : ∀ call ∈ o.calls,
      (o.relocate (.down 1 6)).tryOutline.isGuarded (call.scope + 1) = true := by
    intro call hcall
    obtain ⟨ts, n, -, hread, rfl⟩ := tokenOutline_eq_ok_iff.1 h
    obtain ⟨hn, -⟩ := Nesting.ofTokens_eq_ok_iff.1 hread
    have htree : (ofNesting flavor n).IsTree := isTree_ofNesting hn
    have hmoved : ((ofNesting flavor n).relocate (.down 1 6)).IsTree := ⟨htree.root, htree.parent⟩
    exact isGuarded_tryOutline hmoved (scope_lt_of_mem_calls hn hcall)
  have htext := tokenOutline_inTry h
  generalize (o.relocate (.down 1 6)).tryOutline = o' at hcalls hguarded htext
  have hanalysis : ∀ rules : RuleSet,
      (rules.analyze (.structured (o'.classify rules))).WithoutErrors
        (rules.analyze (.structured (o.classify rules))) := by
    intro rules
    refine rules.withoutErrors_of_guarded (hcalls.classify rules) fun call hcall => ?_
    obtain ⟨c, hc, rfl⟩ := Array.mem_map.1 hcall
    have hscopes : (o'.classify rules).scopes = o'.scopes := rfl
    rw [isGuarded_congr hscopes]
    exact hguarded c hc
  refine ⟨o', htext, hcalls, ?_, fun rules => ⟨hcalls.classify rules, hanalysis rules, ?_⟩⟩
  · intro call hcall
    rw [hcalls] at hcall
    obtain ⟨c, hc, rfl⟩ := Array.mem_map.1 hcall
    exact hguarded c hc
  · intro path hpath
    rw [RuleSet.analyzeFile, ofFile_of_tokenOutline hpath htext, RuleSet.analyzeFile,
      ofFile_of_tokenOutline hpath h]
    exact hanalysis rules

/-- For instance for a call in a function, behind which a comment ends the text. -/
theorem analyze_inTry_comment :
    ∃ o o', Scan.tokenOutline .dart "f() { MappSdk.isReady(); } // ends" = .ok o ∧
      Scan.tokenOutline .dart (inTry "f() { MappSdk.isReady(); } // ends") = .ok o' ∧
      (∀ call ∈ o'.calls, o'.isGuarded call.scope = true) ∧
      ((Catalogue.ruleSet .flutter).analyzeFile "a.dart"
          (inTry "f() { MappSdk.isReady(); } // ends")).WithoutErrors
        ((Catalogue.ruleSet .flutter).analyzeFile "a.dart"
          "f() { MappSdk.isReady(); } // ends") := by
  have hok : (Scan.tokenOutline .dart "f() { MappSdk.isReady(); } // ends").toOption.isSome
      = true := by
    decide +kernel
  have hpath : Dialect.ofFileName "a.dart" (Catalogue.ruleSet .flutter).technology = .dart := by
    decide +kernel
  obtain ⟨o, ho⟩ := Option.isSome_iff_exists.1 hok
  have ho := toOption_eq_some_iff.1 ho
  obtain ⟨o', ho', -, hguarded, hanalysis⟩ := analyze_inTry ho
  exact ⟨o, o', ho, ho', hguarded, (hanalysis (Catalogue.ruleSet .flutter)).2.2 "a.dart" hpath⟩

end SdkAudit
