import SdkAudit.Proofs.Compliance.Moved
import SdkAudit.Proofs.Outline.Braces
import SdkAudit.Proofs.Pattern.Found
import SdkAudit.Proofs.Source.TokenEnds

/-!
# Layout does not matter

White space and comments between tokens change where calls stand and nothing else, as long as the
text can be read from its tokens.  The findings of an outline depend on places only in that they are
sorted by them, and places come in the order of the tokens.

* `Call.forget`, `Outline.Alike`, `Analysis.Alike` — what is left without places;
* `RuleSet.diagnostics_relocate` — findings move with their calls, if these keep their order;
* `Relocation.notAfter_onto` — places keep the order of their tokens;
* `tokenOutline_insert_filler` — **filler between tokens changes no verdict**;
* `diagnostics_insert_space_unbalanced` — where brackets do not match, a space may.
-/

namespace SdkAudit

open Nesting Outline

/-! ### What is left without places -/

/-- The call without its place. -/
def Call.forget (call : Call) : Call := { call with position := .origin }

/-- The finding without its place. -/
def Diagnostic.forget (d : Diagnostic) : Diagnostic := { d with position := .origin }

/-- Two outlines are the same up to places. -/
structure Outline.Alike (o o' : Outline) : Prop where
  scopes : o.scopes = o'.scopes
  calls : o.calls.map Call.forget = o'.calls.map Call.forget

/-- Two analyses are the same up to places. -/
structure Analysis.Alike (a a' : Analysis) : Prop where
  mode : a.mode = a'.mode
  initialized : a.initialized = a'.initialized
  diagnostics : a.diagnostics.map Diagnostic.forget = a'.diagnostics.map Diagnostic.forget

variable {r : Relocation} {flavor : Flavor} {rules : RuleSet} {o : Outline}

theorem Outline.relocate_alike (o : Outline) : (o.relocate r).Alike o where
  scopes := rfl
  calls := by
    rw [Outline.relocate, Array.map_map]
    rfl

namespace RuleSet

/-! ### Findings move with their calls -/

theorem classify_relocate (o : Outline) :
    (o.relocate r).classify rules = (o.classify rules).relocate r := by
  simp only [Outline.classify, Outline.relocate, Array.map_map]
  rfl

theorem hasCallsOf_relocate (o : Outline) : (o.relocate r).HasCallsOf r id o := rfl

/-- **Findings move with their calls**, if these keep their order. -/
theorem diagnostics_relocate (hkeep : ∀ c ∈ o.calls, ∀ d ∈ o.calls,
      (r.position c.position).notAfter (r.position d.position) = c.position.notAfter d.position) :
    (rules.diagnostics (.structured (o.relocate r))).map Diagnostic.forget
      = (rules.diagnostics (.structured o)).map Diagnostic.forget := by
  have hforget : Diagnostic.forget ∘ Diagnostic.follow r = Diagnostic.forget := by
    funext d
    unfold Function.comp Diagnostic.follow
    split_ifs <;> rfl
  rw [diagnostics_structured, diagnostics_structured,
    outlineFindings_follow_of_same (hasCallsOf_relocate o)
      fun call _ => isGuarded_relocate o call.scope,
    inFileOrder_follow (fun _ hd => hd) hkeep, List.map_map, hforget]

theorem analyze_relocate (hkeep : ∀ c ∈ o.calls, ∀ d ∈ o.calls,
      (r.position c.position).notAfter (r.position d.position) = c.position.notAfter d.position) :
    (rules.analyze (.structured (o.relocate r))).Alike (rules.analyze (.structured o)) where
  mode := rfl
  initialized := by
    simp only [analyze, initializes, (hasCallsOf_relocate o).initializerCall?, Option.isSome_map]
  diagnostics := diagnostics_relocate hkeep

end RuleSet

/-! ### The order of places -/

/-- **Places keep the order of their tokens.** -/
theorem Relocation.notAfter_onto {ts : List Token}
    (hts : ts.Pairwise fun t u => t.position.Before u.position) {i j : Nat} (hi : i < ts.length)
    (hj : j < ts.length) :
    ((Relocation.onto ts).position ⟨0, i⟩).notAfter ((Relocation.onto ts).position ⟨0, j⟩)
      = (⟨0, i⟩ : Position).notAfter ⟨0, j⟩ := by
  have hplace : ∀ (k : Nat) (hk : k < ts.length),
      (Relocation.onto ts).position ⟨0, k⟩ = ts[k].position := by
    intro k hk
    simp [Relocation.onto, hk]
  have hsorted := List.pairwise_iff_getElem.1 hts
  rw [hplace i hi, hplace j hj]
  rcases Nat.lt_trichotomy i j with hlt | rfl | hgt
  · rw [(hsorted i j hi hj hlt).notAfter]
    simp [Position.notAfter, hlt.le]
  · rw [Position.notAfter_self, Position.notAfter_self]
  · rw [(hsorted j i hj hi hgt).not_notAfter]
    simp [Position.notAfter, hgt]

/-- The calls of numbered lexemes keep their order at the places of tokens. -/
theorem notAfter_onto_of_mem_calls {ts : List Token}
    (hts : ts.Pairwise fun t u => t.position.Before u.position) {k : Nesting}
    (hk : Nesting.ofTokens (numbered (ts.map Token.lexeme)) = .ok k) {c d : Call}
    (hc : c ∈ (ofNesting flavor k).calls) (hd : d ∈ (ofNesting flavor k).calls) :
    ((Relocation.onto ts).position c.position).notAfter ((Relocation.onto ts).position d.position)
      = c.position.notAfter d.position := by
  obtain ⟨hproper, htokens⟩ := ofTokens_eq_ok_iff.1 hk
  have hnumber : ∀ call ∈ (ofNesting flavor k).calls, ∃ i < ts.length, call.position = ⟨0, i⟩ := by
    intro call hcall
    obtain ⟨t, ht, hpos, -⟩ := exists_token_of_mem_calls hproper hcall
    rw [htokens, numbered, List.mem_mapIdx] at ht
    obtain ⟨i, hi, rfl⟩ := ht
    exact ⟨i, by simpa using hi, hpos.symm⟩
  obtain ⟨i, hi, hci⟩ := hnumber c hc
  obtain ⟨j, hj, hdj⟩ := hnumber d hd
  rw [hci, hdj]
  exact Relocation.notAfter_onto hts hi hj

/-! ### Token sequences that say the same -/

theorem Outline.Alike.symm {o o' : Outline} (h : o.Alike o') : o'.Alike o :=
  ⟨h.scopes.symm, h.calls.symm⟩

theorem Outline.Alike.trans {o o' o'' : Outline} (h : o.Alike o') (h' : o'.Alike o'') :
    o.Alike o'' :=
  ⟨h.scopes.trans h'.scopes, h.calls.trans h'.calls⟩

theorem Outline.Alike.classify {o o' : Outline} (h : o.Alike o') (rules : RuleSet) :
    (o.classify rules).Alike (o'.classify rules) where
  scopes := h.scopes
  calls := by
    have hkind : ∀ q : Outline, (q.classify rules).calls.map Call.forget
        = (q.calls.map Call.forget).map fun call => { call with kind := call.kindUnder rules } := by
      intro q
      rw [Outline.classify, Array.map_map, Array.map_map]
      rfl
    rw [hkind, hkind, h.calls]

theorem Analysis.Alike.symm {a a' : Analysis} (h : a.Alike a') : a'.Alike a :=
  ⟨h.mode.symm, h.initialized.symm, h.diagnostics.symm⟩

theorem Analysis.Alike.trans {a a' a'' : Analysis} (h : a.Alike a') (h' : a'.Alike a'') :
    a.Alike a'' :=
  ⟨h.mode.trans h'.mode, h.initialized.trans h'.initialized, h.diagnostics.trans h'.diagnostics⟩

/-- The verdict about a token sequence is that about its numbered lexemes. -/
theorem analyze_numbered {ts : List Token}
    (hts : ts.Pairwise fun t u => t.position.Before u.position) {k : Nesting}
    (hk : Nesting.ofTokens (numbered (ts.map Token.lexeme)) = .ok k) (rules : RuleSet) :
    (rules.analyze (.structured ((ofNesting flavor (k.relocate (.onto ts))).classify rules))).Alike
      (rules.analyze (.structured ((ofNesting flavor k).classify rules))) := by
  rw [ofNesting_relocate, RuleSet.classify_relocate]
  refine RuleSet.analyze_relocate fun c hc d hd => ?_
  simp only [classify, Array.mem_map] at hc hd
  obtain ⟨c, hc, rfl⟩ := hc
  obtain ⟨d, hd, rfl⟩ := hd
  have hkeep := notAfter_onto_of_mem_calls hts hk hc hd
  exact hkeep

/-- **Token sequences that say the same get the same verdict.** -/
theorem exists_nesting_of_lexemes {ts us : List Token}
    (hsame : us.map Token.lexeme = ts.map Token.lexeme)
    (hts : ts.Pairwise fun t u => t.position.Before u.position)
    (hus : us.Pairwise fun t u => t.position.Before u.position) {n : Nesting}
    (h : Nesting.ofTokens ts = .ok n) :
    ∃ m, Nesting.ofTokens us = .ok m ∧ (ofNesting flavor m).Alike (ofNesting flavor n) ∧
      ∀ rules : RuleSet, (rules.analyze (.structured ((ofNesting flavor m).classify rules))).Alike
        (rules.analyze (.structured ((ofNesting flavor n).classify rules))) := by
  obtain ⟨k, hk, rfl⟩ := ofTokens_eq_ok_iff_numbered.1 h
  have hk' : Nesting.ofTokens (numbered (us.map Token.lexeme)) = .ok k := by rw [hsame, hk]
  refine ⟨_, ofTokens_eq_ok_iff_numbered.2 ⟨k, hk', rfl⟩, ?_, fun rules => ?_⟩
  · rw [ofNesting_relocate, ofNesting_relocate]
    exact (relocate_alike _).trans (relocate_alike _).symm
  · exact (analyze_numbered hus hk' rules).trans (analyze_numbered hts hk rules).symm

/-! ### Inserting filler -/

/-- The dialect that is read from tokens in a flavor. -/
def Flavor.dialect : Flavor → Dialect
  | .dart => .dart
  | .kotlin => .kotlin

theorem outline?_dialect (flavor : Flavor) (source : String) :
    Scan.outline? flavor.dialect source = (Scan.tokenOutline flavor source).toOption := by
  cases flavor <;> rfl

/-- The text of a file in the dialect is scanned for its outline. -/
theorem ofFile_of_tokenOutline {source path : String} {o : Outline} {rules : RuleSet}
    (hpath : Dialect.ofFileName path rules.technology = flavor.dialect)
    (ho : Scan.tokenOutline flavor source = .ok o) :
    Scan.ofFile rules path source = .structured (o.classify rules) := by
  rw [Scan.ofFile, hpath, Scan.ofSource, outline?_dialect, ho]
  rfl

theorem Reading.Alike.exists_result {q q' : Reading} (h : q.Alike q') {ts : List Token}
    (hts : q.result = .ok ts) :
    ∃ us, q'.result = .ok us ∧ us.map Token.lexeme = ts.map Token.lexeme := by
  obtain ⟨htokens, hrefusal⟩ := h
  unfold Reading.result at hts ⊢
  cases hq : q.refusal? with
  | some e => simp [hq] at hts
  | none =>
    rw [hq] at hts hrefusal
    cases hts
    cases hq' : q'.refusal? with
    | some e => simp [hq'] at hrefusal
    | none => exact ⟨q'.tokens, rfl, htokens.symm⟩

theorem Reading.Alike.symm {q q' : Reading} (h : q.Alike q') : q'.Alike q := ⟨h.1.symm, h.2.symm⟩

/-- Where two texts are read alike, an outline of one is an outline of the other, up to places. -/
theorem exists_outline_of_alike {source source' : String}
    (h : Reading.Alike (Mode.blank.read flavor .origin source.toList)
      (Mode.blank.read flavor .origin source'.toList)) {o : Outline}
    (ho : Scan.tokenOutline flavor source = .ok o) :
    ∃ o', Scan.tokenOutline flavor source' = .ok o' ∧ o'.Alike o ∧
      ∀ rules : RuleSet, (rules.analyze (.structured (o'.classify rules))).Alike
        (rules.analyze (.structured (o.classify rules))) := by
  obtain ⟨ts, n, hlex, hread, rfl⟩ := tokenOutline_eq_ok_iff.1 ho
  rw [Lexer.tokens_eq] at hlex
  obtain ⟨us, hus, hsame⟩ := h.exists_result hlex
  rw [← Lexer.tokens_eq] at hlex hus
  obtain ⟨m, hm, halike, hanalysis⟩ :=
    exists_nesting_of_lexemes hsame (laid_of_tokens hlex).pairwise (laid_of_tokens hus).pairwise
      hread
  exact ⟨_, tokenOutline_eq_ok_iff.2 ⟨us, m, hus, hm, rfl⟩, halike, hanalysis⟩

/-- **Filler between tokens changes no verdict.**  A text with filler where a token ends has tokens
exactly if it has them without, and an outline exactly if it has one without.  The two outlines are
the same up to places, and so is what every rule set finds, in files of the dialect. -/
theorem tokenOutline_insert_filler {text filler more : String}
    (h : EndsToken flavor text.toList more.toList) (hfiller : Filler filler.toList) :
    ((∃ ts, Lexer.tokens flavor (text ++ filler ++ more).toList = .ok ts) ↔
        ∃ ts, Lexer.tokens flavor (text ++ more).toList = .ok ts) ∧
      ((∃ o, Scan.tokenOutline flavor (text ++ filler ++ more) = .ok o) ↔
        ∃ o, Scan.tokenOutline flavor (text ++ more) = .ok o) ∧
      ∀ o o', Scan.tokenOutline flavor (text ++ more) = .ok o →
        Scan.tokenOutline flavor (text ++ filler ++ more) = .ok o' →
        o'.Alike o ∧ ∀ (rules : RuleSet) (path : String),
          (o'.classify rules).Alike (o.classify rules) ∧
          (Dialect.ofFileName path rules.technology = flavor.dialect →
            (rules.analyzeFile path (text ++ filler ++ more)).Alike
              (rules.analyzeFile path (text ++ more))) := by
  have halike : Reading.Alike (Mode.blank.read flavor .origin (text ++ filler ++ more).toList)
      (Mode.blank.read flavor .origin (text ++ more).toList) := by
    simpa only [String.toList_append] using h.read_insert hfiller
  refine ⟨?_, ?_, ?_⟩
  · rw [Lexer.tokens_eq, Lexer.tokens_eq]
    constructor
    · rintro ⟨ts, hts⟩
      obtain ⟨us, hus, -⟩ := halike.exists_result hts
      exact ⟨us, hus⟩
    · rintro ⟨ts, hts⟩
      obtain ⟨us, hus, -⟩ := halike.symm.exists_result hts
      exact ⟨us, hus⟩
  · constructor
    · rintro ⟨o, ho⟩
      obtain ⟨o', ho', -⟩ := exists_outline_of_alike halike ho
      exact ⟨o', ho'⟩
    · rintro ⟨o, ho⟩
      obtain ⟨o', ho', -⟩ := exists_outline_of_alike halike.symm ho
      exact ⟨o', ho'⟩
  · intro o o' ho ho'
    obtain ⟨_, heq, hsame, hanalysis⟩ := exists_outline_of_alike halike.symm ho
    obtain rfl := Except.ok.inj (heq.symm.trans ho')
    refine ⟨hsame, fun rules path => ⟨?_, fun hpath => ?_⟩⟩
    · exact hsame.classify rules
    · rw [RuleSet.analyzeFile, ofFile_of_tokenOutline hpath ho', RuleSet.analyzeFile,
        ofFile_of_tokenOutline hpath ho]
      exact hanalysis rules

/-- For instance where a comment is put between the name of a call and its bracket. -/
theorem tokenOutline_insert_filler_comment :
    EndsToken .dart "MappSdk.engage".toList "(key, id);".toList ∧ Filler " /*now*/ ".toList ∧
      ((∃ o, Scan.tokenOutline .dart ("MappSdk.engage" ++ " /*now*/ " ++ "(key, id);") = .ok o) ↔
        ∃ o, Scan.tokenOutline .dart ("MappSdk.engage" ++ "(key, id);") = .ok o) := by
  have hends : EndsToken .dart "MappSdk.engage".toList "(key, id);".toList := by
    unfold EndsToken
    decide +kernel
  have hspell : " /*now*/ ".toList = ' ' :: '/' :: '*' :: (['n', 'o', 'w'] ++ ['*', '/', ' ']) := by
    decide +kernel
  have hfiller : Filler " /*now*/ ".toList := by
    rw [hspell]
    exact .comment (by simp)
  exact ⟨hends, hfiller, (tokenOutline_insert_filler hends hfiller).2.1⟩

/-- **Where brackets do not match, a space may change the verdict**: a call that is found by its
pattern is not found with a space before its point. -/
theorem diagnostics_insert_space_unbalanced :
    EndsToken .dart "MappSdk".toList ".isPushEnabled(".toList ∧ Filler " ".toList ∧
      Dialect.ofFileName "a.dart" .flutter = .dart ∧
      ¬ ((Catalogue.ruleSet .flutter).analyzeFile "a.dart"
          ("MappSdk" ++ " " ++ ".isPushEnabled(")).Alike
        ((Catalogue.ruleSet .flutter).analyzeFile "a.dart" ("MappSdk" ++ ".isPushEnabled(")) := by
  have hends : EndsToken .dart "MappSdk".toList ".isPushEnabled(".toList := by
    unfold EndsToken
    decide +kernel
  have hblank : Text.isBlank ' ' = true := by decide +kernel
  have hfiller : Filler " ".toList := .white (by simp [hblank])
  have hdialect : Dialect.ofFileName "a.dart" .flutter = .dart := by decide +kernel
  refine ⟨hends, hfiller, hdialect, fun halike => ?_⟩
  have hlength : ∀ source : String, Scan.outline? .dart source = none →
      ((Catalogue.ruleSet .flutter).analyzeFile "a.dart" source).diagnostics.length
        = ((Catalogue.ruleSet .flutter).degradedFindings
            (Scan.matchedMethods .flutter source)).length := by
    intro source hnone
    have htechnology : (Catalogue.ruleSet .flutter).technology = .flutter := rfl
    rw [RuleSet.analyzeFile, Scan.ofFile, htechnology, hdialect, Scan.ofSource, hnone]
    simp only [RuleSet.analyze, RuleSet.diagnostics, List.length_mergeSort, htechnology,
      RuleSet.degradedFindings_foundMethods]
  have hsame := congrArg List.length halike.diagnostics
  rw [List.length_map, List.length_map, hlength _ (by decide +kernel),
    hlength _ (by decide +kernel)] at hsame
  exact absurd hsame (by decide +kernel)

end SdkAudit
