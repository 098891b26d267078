import Mathlib
import SdkAudit.Rules.Consistency

/-!
# Rule sets that are accepted

The check of a rule set goes through four tables one after the other and stops at the first fault.
This module says what it stands for, without the order in which it looks: a rule set is accepted
exactly if it is consistent, and a fault that is reported is one that the rule set has.  Both hold
for every notation of patterns.

* `RuleSet.IsConsistent` — the documentation, the required methods, the patterns and the initializer
  fit together;
* `RuleSet.Shows` — a fault that a rule set has;
* `firstRepeated?_eq_none_iff`, `RuleSet.patternDefect?_eq_none_iff` — what parts of the check let
  pass;
* `RuleSet.checkWith_eq_ok_iff` — **exactly the consistent rule sets are accepted**;
* `RuleSet.shows_of_checkWith` — **a fault that is reported is there**;
* `Catalogue.isConsistent` — every rule set of the catalogue is accepted.
-/

namespace SdkAudit

/-! ### Names that are repeated -/

section Repeated

variable {seen names : List String} {name : String}

theorem firstRepeated?_of_mem (h : name ∈ seen) :
    firstRepeated? seen (name :: names) = some name := by
  simp [firstRepeated?, h]

theorem firstRepeated?_of_notMem (h : name ∉ seen) :
    firstRepeated? seen (name :: names) = firstRepeated? (name :: seen) names := by
  simp [firstRepeated?, h]

/-- No name is repeated exactly if the names are distinct and none of them was seen before. -/
theorem firstRepeated?_eq_none_iff :
    firstRepeated? seen names = none ↔ names.Nodup ∧ ∀ name ∈ names, name ∉ seen := by
  induction names generalizing seen with
  | nil => simp [firstRepeated?]
  | cons first rest ih =>
    rw [List.nodup_cons, List.forall_mem_cons]
    by_cases hseen : first ∈ seen
    · simp [firstRepeated?_of_mem hseen, hseen]
    · rw [firstRepeated?_of_notMem hseen, ih]
      simp only [List.mem_cons, not_or]
      constructor
      · rintro ⟨hrest, hall⟩
        exact ⟨⟨fun hmem => (hall first hmem).1 rfl, hrest⟩, hseen, fun name hname =>
          (hall name hname).2⟩
      · rintro ⟨⟨hfirst, hrest⟩, -, hall⟩
        refine ⟨hrest, fun name hname => ⟨?_, hall name hname⟩⟩
        rintro rfl
        exact hfirst hname

/-- A name that is found repeated was seen before, or comes twice. -/
theorem mem_of_firstRepeated? (h : firstRepeated? seen names = some name) :
    name ∈ names ∧ (name ∈ seen ∨ List.Duplicate name names) := by
  induction names generalizing seen with
  | nil => cases h
  | cons first rest ih =>
    by_cases hseen : first ∈ seen
    · rw [firstRepeated?_of_mem hseen] at h
      cases h
      exact ⟨List.mem_cons_self, .inl hseen⟩
    · rw [firstRepeated?_of_notMem hseen] at h
      obtain ⟨hmem, hname⟩ := ih h
      refine ⟨List.mem_cons_of_mem _ hmem, ?_⟩
      rcases hname with hname | hduplicate
      · rcases List.mem_cons.1 hname with rfl | hname
        · exact .inr (List.Mem.duplicate_cons_self hmem)
        · exact .inl hname
      · exact .inr (hduplicate.duplicate_cons _)

end Repeated

namespace RuleSet

/-- A method is documented under the name. -/
def Documents (rules : RuleSet) (name : String) : Prop := ∃ m ∈ rules.methods, m.name = name

/-- The parts of a rule set fit together, if these texts are patterns. -/
structure IsConsistent (IsPattern : String → Prop) (rules : RuleSet) : Prop where
  /-- No two methods are documented under one name. -/
  distinct : rules.methods.Pairwise fun m m' => m.name ≠ m'.name
  /-- Every required method is documented. -/
  required : ∀ name ∈ rules.requiredMethods, rules.Documents name
  /-- Every method that is looked for by a pattern is documented. -/
  searched : ∀ p ∈ rules.methodPatterns, rules.Documents p.method
  /-- It is looked for by what is a pattern. -/
  readable : ∀ p ∈ rules.methodPatterns, IsPattern p.pattern
  /-- An initializer that has to be called has a parameter that has to be given. -/
  asks : rules.initialization.required = true →
    ∃ p ∈ rules.initialization.parameters, p.required = true

/-- A rule set has a fault, for a notation of patterns that tells why it refuses texts. -/
inductive Shows (refusal? : String → Option String) (rules : RuleSet) : RuleDefect → Prop where
  /-- Two methods are documented under one name. -/
  | duplicate {name : String} (h : List.Duplicate name rules.methodNames) :
    Shows refusal? rules (.duplicateMethod rules.name name)
  /-- A required method is not documented. -/
  | required {name : String} (hmem : name ∈ rules.requiredMethods) (h : ¬rules.Documents name) :
    Shows refusal? rules (.undocumentedRequired rules.name name)
  /-- A method that is looked for by a pattern is not documented. -/
  | searched {p : MethodPattern} (hmem : p ∈ rules.methodPatterns) (h : ¬rules.Documents p.method) :
    Shows refusal? rules (.undocumentedPattern rules.name p.method)
  /-- A text by which a method is looked for is no pattern. -/
  | unreadable {p : MethodPattern} {reason : String} (hmem : p ∈ rules.methodPatterns)
    (h : refusal? p.pattern = some reason) :
    Shows refusal? rules (.unreadablePattern rules.name p.pattern reason)
  /-- The initializer has to be called, but no parameter has to be given. -/
  | silent (h : rules.initialization.required = true)
    (hnone : ∀ p ∈ rules.initialization.parameters, p.required = false) :
    Shows refusal? rules (.noRequiredParameter rules.name)

variable {refusal? : String → Option String} {rules : RuleSet} {d : RuleDefect}

/-! ### The parts of the check -/

theorem mem_methodNames_iff {name : String} : name ∈ rules.methodNames ↔ rules.Documents name :=
  List.mem_map

theorem nodup_methodNames_iff :
    rules.methodNames.Nodup ↔ rules.methods.Pairwise fun m m' => m.name ≠ m'.name :=
  List.pairwise_map

theorem find?_requiredMethods_eq_none_iff :
    rules.requiredMethods.find? (!rules.methodNames.contains ·) = none ↔
      ∀ name ∈ rules.requiredMethods, rules.Documents name := by
  simp [← mem_methodNames_iff]

theorem patternDefect?_eq_none_iff {p : MethodPattern} : rules.patternDefect? refusal? p = none ↔
    rules.Documents p.method ∧ refusal? p.pattern = none := by
  rw [← mem_methodNames_iff]
  by_cases hname : p.method ∈ rules.methodNames <;> simp [patternDefect?, hname]

theorem shows_of_patternDefect? {p : MethodPattern} (hmem : p ∈ rules.methodPatterns)
    (h : rules.patternDefect? refusal? p = some d) : rules.Shows refusal? d := by
  by_cases hname : p.method ∈ rules.methodNames
  · have hrefused :
        (refusal? p.pattern).map (.unreadablePattern rules.name p.pattern) = some d := by
      simpa [patternDefect?, hname] using h
    obtain ⟨reason, hreason, rfl⟩ := Option.map_eq_some_iff.1 hrefused
    exact .unreadable hmem hreason
  · have hd : RuleDefect.undocumentedPattern rules.name p.method = d := by
      simpa [patternDefect?, hname] using h
    rw [← hd]
    exact .searched hmem fun hdocuments => hname (mem_methodNames_iff.2 hdocuments)

theorem requiredParameters_eq_nil_iff {i : Initialization} :
    i.requiredParameters = [] ↔ ∀ p ∈ i.parameters, p.required = false := by
  simp [Initialization.requiredParameters]

/-! ### The whole check -/

/-- Nothing is wrong with a rule set if no part of the check finds anything. -/
theorem defect?_eq_none_iff :
    rules.defect? refusal? = none ↔ rules.IsConsistent (refusal? · = none) := by
  have hasks : (¬(rules.initialization.required ∧ rules.initialization.requiredParameters = [])) ↔
      (rules.initialization.required = true →
        ∃ p ∈ rules.initialization.parameters, p.required = true) := by
    simp [requiredParameters_eq_nil_iff]
  simp only [defect?, Option.orElse_eq_orElse, Option.orElse_eq_or, Option.or_eq_none_iff,
    Option.map_eq_none_iff, firstRepeated?_eq_none_iff, nodup_methodNames_iff, List.not_mem_nil,
    not_false_eq_true, implies_true, and_true, find?_requiredMethods_eq_none_iff,
    List.findSome?_eq_none_iff, patternDefect?_eq_none_iff, ite_eq_right_iff, reduceCtorEq,
    imp_false, hasks]
  constructor
  · rintro ⟨hdistinct, hrequired, hpatterns, hasks⟩
    exact ⟨hdistinct, hrequired, fun p hp => (hpatterns p hp).1, fun p hp => (hpatterns p hp).2,
      hasks⟩
  · intro h
    exact ⟨h.distinct, h.required, fun p hp => ⟨h.searched p hp, h.readable p hp⟩, h.asks⟩

/-- What is found wrong with a rule set is wrong with it. -/
theorem shows_of_defect? (h : rules.defect? refusal? = some d) : rules.Shows refusal? d := by
  simp only [defect?, Option.orElse_eq_orElse, Option.orElse_eq_or, Option.or_eq_some_iff] at h
  rcases h with hrepeated | ⟨-, hrequired | ⟨-, hpattern | ⟨-, hsilent⟩⟩⟩
  · obtain ⟨name, hname, rfl⟩ := Option.map_eq_some_iff.1 hrepeated
    have hduplicate := (mem_of_firstRepeated? hname).2
    exact .duplicate (hduplicate.resolve_left List.not_mem_nil)
  · obtain ⟨name, hname, rfl⟩ := Option.map_eq_some_iff.1 hrequired
    have hdocuments : ¬rules.Documents name := by
      simpa [mem_methodNames_iff] using List.find?_some hname
    exact .required (List.mem_of_find?_eq_some hname) hdocuments
  · obtain ⟨p, hp, hd⟩ := List.exists_of_findSome?_eq_some hpattern
    exact shows_of_patternDefect? hp hd
  · obtain ⟨⟨hcalled, hnone⟩, hd⟩ := Option.ite_none_right_eq_some.1 hsilent
    cases hd
    exact .silent hcalled (requiredParameters_eq_nil_iff.1 hnone)

/-- **Exactly the consistent rule sets are accepted.** -/
theorem checkWith_eq_ok_iff :
    rules.checkWith refusal? = .ok () ↔ rules.IsConsistent (refusal? · = none) := by
  rw [← defect?_eq_none_iff]
  cases h : rules.defect? refusal? <;> simp [checkWith, h]

/-- **A fault that is reported is there.** -/
theorem shows_of_checkWith (h : rules.checkWith refusal? = .error d) : rules.Shows refusal? d := by
  refine shows_of_defect? ?_
  cases hdefect : rules.defect? refusal? with
  | none => simp [checkWith, hdefect] at h
  | some d' => simpa [checkWith, hdefect] using h

end RuleSet

/-- Every entry of the catalogue is consistent. -/
theorem Catalogue.isConsistent (technology : Technology) :
    (ruleSet technology).IsConsistent (Pattern.refusal? · = none) := by
  rw [← RuleSet.checkWith_eq_ok_iff]
  cases technology <;> decide +kernel

end SdkAudit
