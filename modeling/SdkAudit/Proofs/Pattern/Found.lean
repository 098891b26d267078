import Mathlib
import SdkAudit.Compliance

/-!
# Methods that are found by their patterns

A pattern can only occur where the characters stand that it takes one by one at its start.  Every
pattern of the catalogue starts with the name of the facade, but for the one of Flutter's
initializer.

* `Pattern.literal` — the characters that steps take one by one at their start;
* `Pattern.exists_literal_infix` — **a pattern is found only where its characters stand**;
* `Scan.matchedMethods`, `Scan.mem_foundMethods_iff` — the methods that are found are those whose
  patterns occur in the text;
* `Scan.facadeRoot_infix_or_initializer` — where a method is found there is the facade, or else
  Flutter's initializer is all that is found;
* `RuleSet.degradedFindings_foundMethods` — the findings do not depend on the order of the methods.
-/

namespace SdkAudit

namespace Pattern

/-! ### The characters of a pattern -/

/-- The characters that steps take one by one at their start. -/
def literal : List PatternStep → List Char
  | .boundary _ :: steps => literal steps
  | .take (.only c) .once :: steps => c :: literal steps
  | _ => []

theorem literal_isPrefix {steps : List PatternStep} {before : Option Char} {text : List Char}
    (h : matchesHere steps before text = true) : literal steps <+: text := by
  induction steps using literal.induct generalizing before text with
  | case1 present steps ih =>
    rw [matchesHere, Bool.and_eq_true] at h
    exact ih h.2
  | case2 c steps ih =>
    cases text with
    | nil => simp [matchesHere] at h
    | cons d text =>
      simp only [matchesHere, CharClass.has, Bool.and_eq_true, beq_iff_eq] at h
      obtain ⟨rfl, hmore⟩ := h
      exact List.cons_prefix_cons.2 ⟨rfl, ih hmore⟩
  | case3 steps hboundary htake =>
    rw [literal.eq_3 _ hboundary htake]
    exact List.nil_prefix

/-- **A pattern is found only where its characters stand.** -/
theorem exists_literal_infix {p : Pattern} {text : List Char} (h : p.foundIn text = true) :
    ∃ steps ∈ p.alternatives, literal steps <:+: text := by
  have hfrom : ∀ (text : List Char) (before : Option Char), p.foundFrom before text = true →
      ∃ steps ∈ p.alternatives, literal steps <:+: text := by
    intro text
    induction text with
    | nil =>
      intro before h
      rw [foundFrom, List.any_eq_true] at h
      obtain ⟨steps, hsteps, hhere⟩ := h
      exact ⟨steps, hsteps, (literal_isPrefix hhere).isInfix⟩
    | cons c text ih =>
      intro before h
      rw [foundFrom, Bool.or_eq_true, List.any_eq_true] at h
      rcases h with ⟨steps, hsteps, hhere⟩ | hlater
      · exact ⟨steps, hsteps, (literal_isPrefix hhere).isInfix⟩
      · obtain ⟨steps, hsteps, hinfix⟩ := ih _ hlater
        exact ⟨steps, hsteps, List.infix_cons hinfix⟩
  exact hfrom text none h

end Pattern

/-! ### The methods that are found -/

theorem mem_sortedNames {names : List String} {name : String} :
    name ∈ sortedNames names ↔ name ∈ names := by
  simp [sortedNames]

theorem sortedNames_eq_singleton {names : List String} {name : String} (hne : names ≠ [])
    (hall : ∀ other ∈ names, other = name) : sortedNames names = [name] := by
  unfold sortedNames
  have hsorted : ∀ other ∈ names.mergeSort fun a b => !decide (b < a), other = name := by
    intro other hother
    exact hall other (List.mem_mergeSort.1 hother)
  have hnonempty : names.mergeSort (fun a b => !decide (b < a)) ≠ [] := by
    intro hnil
    have hlength := congrArg List.length hnil
    rw [List.length_mergeSort] at hlength
    exact hne (List.length_eq_zero_iff.1 hlength)
  obtain ⟨first, rest, hsplit⟩ := List.exists_cons_of_ne_nil hnonempty
  rw [hsplit] at hsorted ⊢
  obtain ⟨rfl, hrest⟩ := List.forall_mem_cons.1 hsorted
  have hsame : rest.filter (fun other => !other == first) = [] := by
    rw [List.filter_eq_nil_iff]
    intro other hother
    simp [hrest other hother]
  rw [List.eraseDups_cons, hsame, List.eraseDups_nil]

namespace Scan

variable {technology : Technology} {source : String} {name : String}

/-- The methods whose patterns occur in the text, in the order of the patterns. -/
def matchedMethods (technology : Technology) (source : String) : List String :=
  (Catalogue.ruleSet technology).methodPatterns.filterMap fun p =>
    match Pattern.read? p.pattern with
    | some pattern => if pattern.foundIn source.toList then some p.method else none
    | none => none

theorem mem_foundMethods_iff :
    name ∈ foundMethods technology source ↔ name ∈ matchedMethods technology source :=
  mem_sortedNames

theorem exists_pattern_of_mem_matchedMethods (h : name ∈ matchedMethods technology source) :
    ∃ p ∈ (Catalogue.ruleSet technology).methodPatterns, p.method = name ∧
      ∃ pattern, Pattern.read? p.pattern = some pattern ∧
        pattern.foundIn source.toList = true := by
  obtain ⟨p, hp, hmatch⟩ := List.mem_filterMap.1 h
  split at hmatch
  case h_1 pattern hread =>
    split_ifs at hmatch with hfound
    exact ⟨p, hp, Option.some.inj hmatch, pattern, hread, hfound⟩
  case h_2 => cases hmatch

/-- The patterns of the catalogue start with the facade, but for that of Flutter's initializer. -/
theorem literals_of_catalogue (technology : Technology) :
    (Catalogue.ruleSet technology).methodPatterns.all (fun p =>
      (Pattern.read? p.pattern).all fun pattern => pattern.alternatives.all fun steps =>
        Text.holds (Catalogue.ruleSet technology).facadeRoot.toList (Pattern.literal steps) ||
          (technology == .flutter &&
            p.method == (Catalogue.ruleSet technology).initialization.method &&
            Text.holds (Catalogue.ruleSet technology).initialization.method.toList
              (Pattern.literal steps))) = true := by
  cases technology <;> decide +kernel

theorem facadeRoot_infix_or_of_mem (h : name ∈ matchedMethods technology source) :
    (Catalogue.ruleSet technology).facadeRoot.toList <:+: source.toList ∨
      technology = .flutter ∧ name = (Catalogue.ruleSet technology).initialization.method ∧
        (Catalogue.ruleSet technology).initialization.method.toList <:+: source.toList := by
  obtain ⟨p, hp, rfl, pattern, hread, hfound⟩ := exists_pattern_of_mem_matchedMethods h
  obtain ⟨steps, hsteps, hinfix⟩ := Pattern.exists_literal_infix hfound
  have hliterals := List.all_eq_true.1 (literals_of_catalogue technology) p hp
  rw [hread, Option.all_some, List.all_eq_true] at hliterals
  have hshown := hliterals steps hsteps
  simp only [Bool.or_eq_true, Bool.and_eq_true, beq_iff_eq, Text.holds_iff] at hshown
  rcases hshown with hroot | ⟨⟨htechnology, hmethod⟩, hmethodInfix⟩
  · exact .inl (hroot.trans hinfix)
  · exact .inr ⟨htechnology, hmethod, hmethodInfix.trans hinfix⟩

/-- **Where a method is found there is the facade**, or else Flutter's initializer is all that is
found. -/
theorem facadeRoot_infix_or_initializer (h : foundMethods technology source ≠ []) :
    (Catalogue.ruleSet technology).facadeRoot.toList <:+: source.toList ∨
      technology = .flutter ∧
        foundMethods technology source = [(Catalogue.ruleSet technology).initialization.method] ∧
        (Catalogue.ruleSet technology).initialization.method.toList <:+: source.toList := by
  by_cases hroot : (Catalogue.ruleSet technology).facadeRoot.toList <:+: source.toList
  · exact .inl hroot
  · right
    obtain ⟨name, hname⟩ := List.exists_mem_of_ne_nil _ h
    rw [mem_foundMethods_iff] at hname
    obtain ⟨htechnology, -, hinfix⟩ := (facadeRoot_infix_or_of_mem hname).resolve_left hroot
    refine ⟨htechnology, ?_, hinfix⟩
    refine sortedNames_eq_singleton (List.ne_nil_of_mem hname) fun other hother => ?_
    exact ((facadeRoot_infix_or_of_mem hother).resolve_left hroot).2.1

end Scan

/-- The findings about a text depend only on which methods were found. -/
theorem RuleSet.degradedFindings_foundMethods (rules : RuleSet) (technology : Technology)
    (source : String) :
    rules.degradedFindings (Scan.foundMethods technology source)
      = rules.degradedFindings (Scan.matchedMethods technology source) := by
  have hcontains : ∀ name, (Scan.foundMethods technology source).contains name
      = (Scan.matchedMethods technology source).contains name := by
    intro name
    rw [Bool.eq_iff_iff, List.contains_iff_mem, List.contains_iff_mem, Scan.mem_foundMethods_iff]
  simp only [degradedFindings, hcontains]

end SdkAudit
