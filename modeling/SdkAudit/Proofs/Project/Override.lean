import SdkAudit.Proofs.Project.Isolation
import SdkAudit.Proofs.Project.Listing

/-!
# Runs with a forced technology

Where a technology is forced, every file is checked for it, and the usual technology of the settings
should not matter.  It does not matter if some file is analyzed: the dominant technology of the
project is the forced one then.  Where no file is analyzed, the finding about the project is made by
the rules of the usual technology all the same, and suggests its code.

* `Audit.technologyOf_forced`, `Audit.candidates_forced` — files are checked for the forced
  technology;
* `Audit.projectTechnology_forced` — **so is the project, if some file is analyzed**;
* `Audit.runIn_forced` — so the usual technology does not matter;
* `Audit.eq_usual_of_project` — what it decides if no file is analyzed;
* `Audit.run_forced_eq_iff` — **when runs with a forced technology are the same**;
* `Audit.run_forced_without_code` — a run whose suggestion is not for the forced technology.
-/

namespace SdkAudit

/-- The report without the code that its findings about the project suggest. -/
def Report.withoutSuggestions (r : Report) : Report :=
  { r with project := r.project.map fun d => { d with suggestion := none } }

namespace Audit

variable {technology usual usual' : Technology} {store : Store}

/-! ### What is forced -/

theorem technologyOf_forced (path : String) :
    (Audit.mk usual (some technology)).technologyOf path = technology := rfl

/-- Which files are analyzed does not depend on the usual technology. -/
theorem candidates_forced (usual usual' : Technology) :
    (Audit.mk usual (some technology)).candidates store
      = (Audit.mk usual' (some technology)).candidates store := rfl

/-- **The project is judged by the forced technology, if some file is analyzed.** -/
theorem projectTechnology_forced {files : List (String × String)} (h : files ≠ []) :
    (Audit.mk usual (some technology)).projectTechnology files = technology := by
  have hsame : (files.map fun file => (Audit.mk usual (some technology)).technologyOf file.1)
      = List.replicate files.length technology := by
    simp only [technologyOf_forced, List.map_const']
  rw [projectTechnology, hsame]
  cases hmost : mostFrequent? (List.replicate files.length technology) with
  | none =>
    have hnil := mostFrequent?_eq_none hmost
    rw [List.replicate_eq_nil_iff, List.length_eq_zero_iff] at hnil
    exact absurd hnil h
  | some most => exact List.eq_of_mem_replicate (isDominant_of_mostFrequent? hmost).occurs

/-- It is judged by the usual technology, if no file is analyzed. -/
theorem projectTechnology_nil (audit : Audit) : audit.projectTechnology [] = audit.usual := rfl

/-! ### Runs that are the same -/

/-- **The usual technology does not matter if some file is analyzed**, whatever effects the advisor
has. -/
theorem runIn_forced {m : Type → Type} [Monad m] (advisor : Option (AdvisorIn m))
    (h : (Audit.mk usual (some technology)).candidates store ≠ []) :
    (Audit.mk usual (some technology)).runIn advisor store
      = (Audit.mk usual' (some technology)).runIn advisor store := by
  have hproject : (Audit.mk usual (some technology)).projectTechnology
        ((Audit.mk usual (some technology)).candidates store)
      = (Audit.mk usual' (some technology)).projectTechnology
        ((Audit.mk usual' (some technology)).candidates store) := by
    rw [projectTechnology_forced h, projectTechnology_forced (candidates_forced usual usual' ▸ h)]
  simp only [runIn, hproject]
  rfl

/-- What is put to the advisor does not depend on the usual technology. -/
theorem prompt?_forced : (Audit.mk usual (some technology)).prompt? store
    = (Audit.mk usual' (some technology)).prompt? store := by
  rw [prompt?_eq, prompt?_eq, candidates_forced usual usual']
  split_ifs with h
  · rfl
  · rw [projectRules, projectRules, candidates_forced usual usual',
      projectTechnology_forced h, projectTechnology_forced h]

/-! ### Projects without code of the SDK -/

/-- The finding about a project in which no file is analyzed. -/
def noCodeFinding (rules : RuleSet) : Diagnostic :=
  .of .error .missingInitialization .origin "No Mapp SDK code found in the project"
    (some rules.initialization.sample)

/-- The finding is made by the rules of the usual technology. -/
theorem project_of_none {audit : Audit} (h : audit.candidates store = []) :
    (audit.run none store).project = [noCodeFinding (Catalogue.ruleSet audit.usual)] := by
  show (projectFinding? (Catalogue.ruleSet (audit.projectTechnology (audit.candidates store)))
    ((audit.candidates store).map _)).toList = _
  rw [h, projectTechnology_nil]
  rfl

/-- Every technology suggests code of its own. -/
theorem sample_injective :
    Function.Injective fun technology => (Catalogue.ruleSet technology).initialization.sample := by
  intro first second
  cases first <;> cases second <;> decide +kernel

/-- Projects in which no file is analyzed have the same finding only by the rules of the same
technology. -/
theorem eq_usual_of_project (h : (Audit.mk usual (some technology)).candidates store = [])
    (hproject : ((Audit.mk usual (some technology)).run none store).project
      = ((Audit.mk usual' (some technology)).run none store).project) : usual = usual' := by
  have h' : (Audit.mk usual' (some technology)).candidates store = [] := h
  rw [project_of_none h, project_of_none h'] at hproject
  have hsuggestion := congrArg Diagnostic.suggestion (List.cons.inj hproject).1
  exact sample_injective (Option.some.inj hsuggestion)

/-- Without its suggestion, the finding is the same by all rules. -/
theorem noCodeFinding_withoutSuggestion (rules : RuleSet) :
    ({ noCodeFinding rules with suggestion := none } : Diagnostic)
      = .of .error .missingInitialization .origin "No Mapp SDK code found in the project" none :=
  rfl

/-- Where no file is analyzed an advisor is not asked. -/
theorem advisory_of_none {audit : Audit} (h : audit.candidates store = []) {σ : Type}
    (advisor : Option (AdvisorIn (StateM σ))) (s : σ) :
    ((audit.runIn advisor store).run s).1.advisory = advisor.map (fun _ =>
        .ofCritical "No Mapp SDK implementation found in the project") ∧
      ((audit.runIn advisor store).run s).2 = s := by
  cases advisor with
  | none => exact ⟨rfl, rfl⟩
  | some advisor =>
    rw [runIn_state, prompt?_eq, if_pos h]
    exact ⟨rfl, rfl⟩

/-- Without its suggestions, the report does not depend on the usual technology. -/
theorem withoutSuggestions_forced {σ : Type} (advisor : Option (AdvisorIn (StateM σ))) (s : σ) :
    (((Audit.mk usual (some technology)).runIn advisor store).run s).1.withoutSuggestions
        = (((Audit.mk usual' (some technology)).runIn advisor store).run s).1.withoutSuggestions ∧
      (((Audit.mk usual (some technology)).runIn advisor store).run s).2
        = (((Audit.mk usual' (some technology)).runIn advisor store).run s).2 := by
  by_cases h : (Audit.mk usual (some technology)).candidates store = []
  · have h' : (Audit.mk usual' (some technology)).candidates store = [] := h
    obtain ⟨hadvisory, hstate⟩ := advisory_of_none h advisor s
    obtain ⟨hadvisory', hstate'⟩ := advisory_of_none h' advisor s
    refine ⟨?_, hstate.trans hstate'.symm⟩
    have hleft := sameVerdict_runIn (Audit.mk usual (some technology)) advisor store s
    have hright := sameVerdict_runIn (Audit.mk usual' (some technology)) advisor store s
    simp only [Report.withoutSuggestions, hleft.files, hright.files, hleft.project, hright.project,
      hleft.scanned, hright.scanned, hadvisory, hadvisory', files_run_eq_map, project_of_none h,
      project_of_none h', h, h', List.map_cons, List.map_nil, noCodeFinding_withoutSuggestion,
      scanned_run]
  · rw [runIn_forced advisor h]
    exact ⟨rfl, rfl⟩

/-! ### When runs are the same -/

/-- What the usual technology decides in runs with a forced technology: nothing, unless no file is
analyzed, and then what the finding about the project suggests. -/
structure Masking (left right : Audit) (store : Store) : Prop where
  /-- The reports, and what becomes of the advisor, are the same exactly if some file is analyzed or
  the usual technologies are the same. -/
  same : ∀ {σ : Type} (advisor : Option (AdvisorIn (StateM σ))) (s : σ),
    (left.runIn advisor store).run s = (right.runIn advisor store).run s ↔
      left.candidates store ≠ [] ∨ left.usual = right.usual
  /-- So it is with an advisor that does nothing but answer. -/
  effectless : ∀ advisor : Option Advisor,
    left.run advisor store = right.run advisor store ↔
      left.candidates store ≠ [] ∨ left.usual = right.usual
  /-- The same is put to the advisor. -/
  prompted : left.prompt? store = right.prompt? store
  /-- Nothing but a suggestion is ever different. -/
  otherwise : ∀ {σ : Type} (advisor : Option (AdvisorIn (StateM σ))) (s : σ),
    ((left.runIn advisor store).run s).1.withoutSuggestions
        = ((right.runIn advisor store).run s).1.withoutSuggestions ∧
      ((left.runIn advisor store).run s).2 = ((right.runIn advisor store).run s).2

/-- **When runs with a forced technology are the same**, for settings that differ in the usual
technology. -/
theorem run_forced_eq_iff (settings : Settings) (usual technology : Technology) (store : Store) :
    (ofSettings settings (some technology)).Masking
      (ofSettings { settings with technology := usual } (some technology)) store where
  same := by
    intro σ advisor s
    refine ⟨fun hsame => or_iff_not_imp_left.2 fun hnone => ?_, ?_⟩
    · have hleft := sameVerdict_runIn (ofSettings settings (some technology)) advisor store s
      have hright := sameVerdict_runIn (ofSettings { settings with technology := usual }
        (some technology)) advisor store s
      have hproject := hright.project
      rw [← hsame, hleft.project] at hproject
      exact eq_usual_of_project (not_not.1 hnone) hproject
    · rintro (hsome | husual)
      · exact congrArg (·.run s) (runIn_forced advisor hsome)
      · obtain rfl : settings.technology = usual := husual
        rfl
  effectless := by
    intro advisor
    refine ⟨fun hsame => or_iff_not_imp_left.2 fun hnone => ?_, ?_⟩
    · refine eq_usual_of_project (not_not.1 hnone) ?_
      have hproject := congrArg Report.project hsame
      cases advisor <;> exact hproject
    · rintro (hsome | husual)
      · exact congrArg Id.run (runIn_forced _ hsome)
      · obtain rfl : settings.technology = usual := husual
        rfl
  prompted := prompt?_forced
  otherwise := fun advisor s => withoutSuggestions_forced advisor s

/-- **A run whose suggestion is not for the forced technology**: in a project without code of the
SDK it is for the usual one, so another usual technology makes another report. -/
theorem run_forced_without_code :
    ((ofSettings { technology := .iosSwift } (some .flutter)).run none
        (.ofFiles [("lib/util.dart", some "int add(int a, int b) => a + b;")])).project.map
          (·.suggestion) = [some (Catalogue.ruleSet .iosSwift).initialization.sample] ∧
      (ofSettings { technology := .iosSwift } (some .flutter)).run none
          (.ofFiles [("lib/util.dart", some "int add(int a, int b) => a + b;")])
        ≠ (ofSettings { technology := .flutter } (some .flutter)).run none
          (.ofFiles [("lib/util.dart", some "int add(int a, int b) => a + b;")]) := by
  refine ⟨?_, ?_⟩
  · decide +kernel
  · decide +kernel

end Audit

end SdkAudit
