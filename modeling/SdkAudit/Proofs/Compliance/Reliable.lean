import Mathlib
import SdkAudit.Compliance
import SdkAudit.Proofs.Rules.Consistent

/-!
# Accepted rule sets are reliable

The analysis of a text looks methods up by their names and takes the first one that it meets.  In a
rule set that was accepted there is no other, so the order in which methods are documented does not
matter, and a required method that was not found always comes with its own sample.

* `RuleSet.tellsApart_iff_method?_perm` — **names tell methods apart exactly if the order of the
  methods does not matter** to how they are looked up;
* `RuleSet.analyze_withMethods` — **what is found depends on the methods only by how they are looked
  up**;
* `RuleSet.TellsMissing` — a finding says of a required method that it is missing, and shows its
  sample;
* `RuleSet.forall₂_tellsMissing` — there is one such finding for every required method that was not
  found;
* `RuleSet.checkWith_reliable` — **exactly the consistent rule sets are accepted, and what is found
  under an accepted one does not depend on the order of its methods**.
-/

namespace SdkAudit

namespace RuleSet

variable {rules : RuleSet}

/-! ### Looking methods up -/

/-- Two documented methods of one name are the same. -/
def TellsApart (rules : RuleSet) : Prop :=
  ∀ m ∈ rules.methods, ∀ m' ∈ rules.methods, m.name = m'.name → m = m'

theorem IsConsistent.tellsApart {IsPattern : String → Prop} (h : rules.IsConsistent IsPattern) :
    rules.TellsApart := by
  have hnodup : rules.methodNames.Nodup := nodup_methodNames_iff.2 h.distinct
  exact fun m hm m' hm' => List.inj_on_of_nodup_map hnodup hm hm'

/-- Where names tell methods apart, a method is met under its name exactly if it is documented. -/
theorem TellsApart.method?_eq_some_iff (h : rules.TellsApart) {name : String} {m : Method} :
    rules.method? name = some m ↔ m ∈ rules.methods ∧ m.name = name := by
  constructor
  · intro hfound
    exact ⟨List.mem_of_find?_eq_some hfound, by simpa using List.find?_some hfound⟩
  · rintro ⟨hm, rfl⟩
    obtain ⟨found, hfound⟩ : ∃ found, rules.method? m.name = some found := by
      rw [← Option.isSome_iff_exists, method?, List.find?_isSome]
      exact ⟨m, hm, by simp⟩
    have hname : found.name = m.name := by simpa using List.find?_some hfound
    rw [hfound, h found (List.mem_of_find?_eq_some hfound) m hm hname]

/-- **Names tell methods apart exactly if the order of the methods does not matter.** -/
theorem tellsApart_iff_method?_perm : rules.TellsApart ↔
    ∀ methods : List Method, methods.Perm rules.methods →
      ∀ name, { rules with methods }.method? name = rules.method? name := by
  constructor
  · intro h methods hperm name
    have hother : { rules with methods }.TellsApart := fun m hm m' hm' =>
      h m (hperm.mem_iff.1 hm) m' (hperm.mem_iff.1 hm')
    ext m
    rw [h.method?_eq_some_iff, hother.method?_eq_some_iff, hperm.mem_iff]
  · intro horder m hm m' hm' hname
    -- a method that is put first is met under its name
    have hfirst : ∀ k ∈ rules.methods, rules.method? k.name = some k := by
      intro k hk
      rw [← horder (k :: rules.methods.erase k) (List.perm_cons_erase hk).symm]
      simp [method?]
    have hboth : some m = some m' := by rw [← hfirst m hm, ← hfirst m' hm', hname]
    exact Option.some.inj hboth

theorem Documents.perm {name : String} (h : rules.Documents name) {methods : List Method}
    (hperm : methods.Perm rules.methods) : { rules with methods }.Documents name := by
  obtain ⟨m, hm, hname⟩ := h
  exact ⟨m, hperm.mem_iff.2 hm, hname⟩

/-- A consistent rule set stays so when its methods are documented in another order. -/
theorem IsConsistent.perm {IsPattern : String → Prop} (h : rules.IsConsistent IsPattern)
    {methods : List Method} (hperm : methods.Perm rules.methods) :
    { rules with methods }.IsConsistent IsPattern where
  distinct := hperm.symm.pairwise h.distinct fun h => h.symm
  required := fun name hname => (h.required name hname).perm hperm
  searched := fun p hp => (h.searched p hp).perm hperm
  readable := h.readable
  asks := h.asks

/-! ### Methods in another order -/

section WithMethods

variable {methods : List Method}
  (hsame : ∀ name, { rules with methods }.method? name = rules.method? name)

include hsame

theorem initializationFinding?_withMethods (o : Outline) :
    { rules with methods }.initializationFinding? o = rules.initializationFinding? o := by
  have hneeds : { rules with methods }.needsInitialization = rules.needsInitialization := by
    funext call
    simp only [needsInitialization, hsame]
  simp only [initializationFinding?, hneeds]
  rfl

theorem callFindings_withMethods (o : Outline) (call : Call) :
    { rules with methods }.callFindings o call = rules.callFindings o call := by
  simp only [callFindings, arityFinding?, hsame]
  rfl

theorem outlineFindings_withMethods (o : Outline) :
    { rules with methods }.outlineFindings o = rules.outlineFindings o := by
  have hcalls := funext (callFindings_withMethods hsame o)
  simp only [outlineFindings, initializationFinding?_withMethods hsame, hcalls]

theorem degradedFindings_withMethods (found : List String) :
    { rules with methods }.degradedFindings found = rules.degradedFindings found := by
  have hmissing : { rules with methods }.missingRequiredMethod = rules.missingRequiredMethod := by
    funext name
    simp only [missingRequiredMethod, hsame]
  simp only [degradedFindings, hmissing]

/-- **What is found depends on the methods only by how they are looked up.** -/
theorem analyze_withMethods (scan : Scan) :
    { rules with methods }.analyze scan = rules.analyze scan := by
  have hdiagnostics : { rules with methods }.diagnostics scan = rules.diagnostics scan := by
    cases scan with
    | structured o => simp only [diagnostics, outlineFindings_withMethods hsame]
    | degraded found => simp only [diagnostics, degradedFindings_withMethods hsame]
  have hinitializes : { rules with methods }.initializes scan = rules.initializes scan := by
    cases scan <;> rfl
  simp only [analyze, hdiagnostics, hinitializes]

/-- A text is scanned without regard to the methods, so the same holds of files. -/
theorem analyzeFile_withMethods (path source : String) :
    { rules with methods }.analyzeFile path source = rules.analyzeFile path source :=
  analyze_withMethods hsame (Scan.ofFile rules path source)

end WithMethods

/-! ### Required methods that were not found -/

/-- A finding says of a required method that it is missing, and shows the sample of the only method
that is documented under its name. -/
def TellsMissing (rules : RuleSet) (name : String) (d : Diagnostic) : Prop :=
  ∃ m, (∀ m', m' ∈ rules.methods ∧ m'.name = name ↔ m' = m) ∧
    d = { severity := .warning, category := .missingRequiredMethod, position := .origin
          message := "Missing required Mapp SDK method: " ++ name, suggestion := some m.sample }

theorem tellsMissing_missingRequiredMethod {IsPattern : String → Prop}
    (h : rules.IsConsistent IsPattern) {name : String} (hname : name ∈ rules.requiredMethods) :
    rules.TellsMissing name (rules.missingRequiredMethod name) := by
  obtain ⟨m, hm⟩ := h.required name hname
  have hmethod := h.tellsApart.method?_eq_some_iff.2 hm
  refine ⟨m, fun m' => ?_, by rw [missingRequiredMethod, hmethod]; rfl⟩
  rw [← h.tellsApart.method?_eq_some_iff, hmethod, Option.some.injEq, eq_comm]

/-- All findings about a text without an outline are at its start, so they keep their order. -/
theorem diagnostics_degraded (rules : RuleSet) (found : List String) :
    rules.diagnostics (.degraded found) = rules.degradedFindings found := by
  refine List.mergeSort_of_pairwise (List.pairwise_of_forall_mem_list ?_)
  intro d hd d' hd'
  obtain ⟨name, -, rfl⟩ := List.mem_map.1 hd
  obtain ⟨name', -, rfl⟩ := List.mem_map.1 hd'
  rfl

/-- There is one finding for every required method that was not found, in order. -/
theorem forall₂_tellsMissing {IsPattern : String → Prop} (h : rules.IsConsistent IsPattern)
    (found : List String) :
    List.Forall₂ rules.TellsMissing (rules.requiredMethods.filter (· ∉ found))
      (rules.diagnostics (.degraded found)) := by
  rw [diagnostics_degraded, degradedFindings, List.forall₂_map_right_iff]
  have hfilter : rules.requiredMethods.filter (!found.contains ·)
      = rules.requiredMethods.filter (· ∉ found) := by
    simp
  rw [hfilter, List.forall₂_same]
  intro name hname
  exact tellsMissing_missingRequiredMethod h (List.mem_filter.1 hname).1

/-! ### What acceptance is good for -/

/-- **Exactly the consistent rule sets are accepted, and an accepted one is reliable.**  Whatever
notation tells which texts are patterns, a fault that is reported is there.  Where none is reported,
there is one finding, with the sample of its method, for every required method that was not found,
and neither texts with an outline nor texts without one are judged differently when the methods are
documented in another order. -/
theorem checkWith_reliable (refusal? : String → Option String) (rules : RuleSet) :
    (rules.checkWith refusal? = .ok () ↔ rules.IsConsistent (refusal? · = none)) ∧
      (∀ d, rules.checkWith refusal? = .error d → rules.Shows refusal? d) ∧
      (rules.checkWith refusal? = .ok () →
        (∀ found, List.Forall₂ rules.TellsMissing (rules.requiredMethods.filter (· ∉ found))
          (rules.analyze (.degraded found)).diagnostics) ∧
        ∀ methods : List Method, methods.Perm rules.methods →
          { rules with methods }.checkWith refusal? = .ok () ∧
          (∀ scan, { rules with methods }.analyze scan = rules.analyze scan) ∧
          ∀ path source, { rules with methods }.analyzeFile path source
            = rules.analyzeFile path source) := by
  refine ⟨checkWith_eq_ok_iff, fun d => shows_of_checkWith, fun hok => ?_⟩
  have hconsistent := checkWith_eq_ok_iff.1 hok
  refine ⟨forall₂_tellsMissing hconsistent, fun methods hperm => ?_⟩
  have hsame := tellsApart_iff_method?_perm.1 hconsistent.tellsApart methods hperm
  exact ⟨checkWith_eq_ok_iff.2 (hconsistent.perm hperm), analyze_withMethods hsame,
    analyzeFile_withMethods hsame⟩

/-- For instance for the rules of Flutter, read from the last method to the first, and for the same
rules with a required method that is not documented. -/
theorem checkWith_reliable_flutter :
    let rules := Catalogue.ruleSet .flutter
    let broken := { rules with requiredMethods := ["engage", "missingMethod"] }
    rules.check = .ok () ∧ rules.methods.reverse.Perm rules.methods ∧
      rules.methods.reverse ≠ rules.methods ∧
      List.Forall₂ rules.TellsMissing ["setPushEnabled", "handledPushOpen"]
        (rules.analyze (.degraded ["engage", "isPushEnabled"])).diagnostics ∧
      (∀ scan, { rules with methods := rules.methods.reverse }.analyze scan = rules.analyze scan) ∧
      broken.check = .error (.undocumentedRequired "Flutter" "missingMethod") ∧
      broken.Shows Pattern.refusal? (.undocumentedRequired "Flutter" "missingMethod") := by
  intro rules broken
  have hok : rules.check = .ok () := checkWith_eq_ok_iff.2 (Catalogue.isConsistent .flutter)
  have hperm : rules.methods.reverse.Perm rules.methods := List.reverse_perm _
  have hbroken : broken.check = .error (.undocumentedRequired "Flutter" "missingMethod") := by
    decide +kernel
  obtain ⟨-, -, hreliable⟩ := checkWith_reliable Pattern.refusal? rules
  obtain ⟨hmissing, horder⟩ := hreliable hok
  have hfilter : rules.requiredMethods.filter (· ∉ ["engage", "isPushEnabled"])
      = ["setPushEnabled", "handledPushOpen"] := by decide +kernel
  exact ⟨hok, hperm, by decide +kernel, hfilter ▸ hmissing _, (horder _ hperm).2.1, hbroken,
    (checkWith_reliable Pattern.refusal? broken).2.1 _ hbroken⟩

end RuleSet

end SdkAudit
