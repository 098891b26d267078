import SdkAudit.Project
import SdkAudit.Proofs.Compliance.Accounting

/-!
# The verdict on a project

A project whose report has no error calls the initializer, and calls it right.  The finding about
the project as a whole stands back where a file says the same, so an error is never reported twice
and never lost.

* `projectFinding?_isSome_iff` — when there is a finding about the project as a whole;
* `RuleSet.acceptsInitializer_of_no_error` — a file without an error initializes the SDK right;
* `Audit.Verdict` — what the report on a project says of its initialization;
* `Audit.verdict_run` — **no project passes that does not initialize the SDK**.
-/

namespace SdkAudit

/-! ### Findings about a project -/

/-- No file calls the initializer. -/
def NoneInitialized (files : List FileReport) : Prop := ∀ f ∈ files, f.initialized = false

/-- No file has the finding that it misses the initialization. -/
def NoneMissing (files : List FileReport) : Prop :=
  ∀ f ∈ files, ∀ d ∈ f.diagnostics, d.category ≠ .missingInitialization

/-- There is a finding about the project exactly if no file calls the initializer and none has the
finding itself. -/
theorem projectFinding?_isSome_iff (rules : RuleSet) (files : List FileReport) :
    (projectFinding? rules files).isSome = true ↔ NoneInitialized files ∧ NoneMissing files := by
  have hmissing : files.any (·.diagnostics.any (·.category == .missingInitialization)) = false ↔
      NoneMissing files := by
    simp [NoneMissing]
  have hinitialized : files.any (·.initialized) = false ↔ NoneInitialized files := by
    simp [NoneInitialized]
  rw [← hmissing, ← hinitialized]
  unfold projectFinding?
  cases files.any (·.diagnostics.any (·.category == .missingInitialization)) <;>
    cases files.any (·.initialized) <;> simp

/-- The finding about a project is an error, of the same kind as that about a file. -/
theorem grave_of_projectFinding? {rules : RuleSet} {files : List FileReport} {d : Diagnostic}
    (h : projectFinding? rules files = some d) :
    d.category = .missingInitialization ∧ d.severity = .error := by
  unfold projectFinding? at h
  split_ifs at h <;> cases h <;> exact ⟨rfl, rfl⟩

/-! ### Errors of a file -/

namespace RuleSet

variable {rules : RuleSet} {scan : Scan} {d : Diagnostic}

/-- Every finding is as grave as findings of its kind are. -/
theorem severity_of_mem_diagnostics (h : d ∈ rules.diagnostics scan) :
    d.severity = d.category.usualSeverity := by
  cases scan with
  | structured o => exact (kinds_of_mem_outlineFindings (mem_inFileOrder.1 h)).1
  | degraded found =>
    have hmem : d ∈ rules.degradedFindings found := mem_inFileOrder.1 h
    obtain ⟨name, -, rfl⟩ := List.mem_map.1 hmem
    rfl

/-- An outline without an error has no initializer call that is not accepted. -/
theorem acceptsInitializer_of_no_error {o : Outline} {call : Call}
    (hcall : o.initializerCall? rules.initialization.method = some call)
    (herror : ∀ d ∈ rules.diagnostics (.structured o), d.severity ≠ .error) :
    rules.acceptsInitializer call = true := by
  by_contra haccepts
  have hinvalid := invalid_iff.2 ⟨call, hcall, Bool.eq_false_of_not_eq_true haccepts, rfl⟩
  exact herror _ hinvalid.1 rfl

end RuleSet

/-! ### Errors of a report -/

namespace Report

variable {r : Report}

theorem hasErrors_eq_false_iff : r.hasErrors = false ↔
    (∀ d ∈ r.project, d.severity ≠ .error) ∧
      ∀ f ∈ r.files, ∀ d ∈ f.diagnostics, d.severity ≠ .error := by
  simp only [hasErrors, diagnostics, List.any_append, List.any_flatMap, Bool.or_eq_false_iff,
    List.any_eq_false, beq_iff_eq, ne_eq, Bool.not_eq_true]

end Report

/-! ### The verdict -/

namespace Audit

/-- What the report on a project says of its initialization. -/
structure Verdict (audit : Audit) (store : Store) (report : Report) : Prop where
  /-- The files of the report are those that are analyzed. -/
  files : report.files = (audit.candidates store).map fun file => audit.analyze file.1 file.2
  /-- There is at most one finding about the project, which is that it misses the initialization. -/
  project : report.project.length ≤ 1 ∧
    ∀ d ∈ report.project, d.category = .missingInitialization ∧ d.severity = .error
  /-- There is one exactly if no file calls the initializer and none has the finding itself. -/
  present : report.project ≠ [] ↔ NoneInitialized report.files ∧ NoneMissing report.files
  /-- A project in which no file calls the initializer has an error. -/
  failing : NoneInitialized report.files → report.hasErrors = true
  /-- In a project without an error some file calls the initializer. -/
  initialized : report.hasErrors = false → ∃ f ∈ report.files, f.initialized = true
  /-- In a project without an error every file with an outline that calls the initializer calls it
  right. -/
  accepted : report.hasErrors = false → ∀ path text, (path, text) ∈ audit.candidates store →
    (audit.analyze path text).initialized = true →
      ∀ o, Scan.ofFile (audit.rulesOf path) path text = .structured o →
        ∃ call, o.initializerCall? (audit.rulesOf path).initialization.method = some call ∧
          (audit.rulesOf path).acceptsInitializer call = true

theorem hasErrors_of_noneInitialized (audit : Audit) (advisor : Option Advisor) (store : Store)
    (h : NoneInitialized (audit.run advisor store).files) :
    (audit.run advisor store).hasErrors = true := by
  by_contra herrors
  obtain ⟨hproject, hfiles⟩ :=
    Report.hasErrors_eq_false_iff.1 (Bool.eq_false_of_not_eq_true herrors)
  -- a file that misses the initialization says so as an error, and else the project does
  by_cases hmissing : NoneMissing (audit.run advisor store).files
  · have hsome := (projectFinding?_isSome_iff
      (Catalogue.ruleSet (audit.projectTechnology (audit.candidates store))) _).2 ⟨h, hmissing⟩
    obtain ⟨d, hd⟩ := Option.isSome_iff_exists.1 hsome
    exact hproject d (Option.mem_toList.2 hd) (grave_of_projectFinding? hd).2
  · simp only [NoneMissing, not_forall, not_not] at hmissing
    obtain ⟨f, hf, d, hd, hcategory⟩ := hmissing
    obtain ⟨file, -, rfl⟩ := List.mem_map.1 hf
    have hseverity : d.severity = d.category.usualSeverity :=
      RuleSet.severity_of_mem_diagnostics hd
    rw [hcategory] at hseverity
    exact hfiles _ hf d hd hseverity

/-- **No project passes that does not initialize the SDK**, with whatever settings, technology and
advisor, and whatever the files are. -/
theorem verdict_run (settings : Settings) (forced : Option Technology) (advisor : Option Advisor)
    (store : Store) :
    (ofSettings settings forced).Verdict store
      ((ofSettings settings forced).run advisor store) := by
  generalize ofSettings settings forced = audit
  exact {
    files := rfl
    project := by
      refine ⟨Option.length_toList_le, fun d hd => ?_⟩
      exact grave_of_projectFinding? (Option.mem_toList.1 hd)
    present := by
      rw [← projectFinding?_isSome_iff
        (Catalogue.ruleSet (audit.projectTechnology (audit.candidates store)))]
      show (projectFinding? _ _).toList ≠ [] ↔ (projectFinding? _ _).isSome = true
      rw [ne_eq, Option.toList_eq_nil_iff]
      exact Option.isSome_iff_ne_none.symm
    failing := hasErrors_of_noneInitialized audit advisor store
    initialized := by
      intro hpass
      by_contra hnone
      have : NoneInitialized (audit.run advisor store).files := by
        simpa [NoneInitialized] using hnone
      rw [hasErrors_of_noneInitialized audit advisor store this] at hpass
      cases hpass
    accepted := by
      intro hpass path text hfile hinitialized o hscan
      obtain ⟨-, hfiles⟩ := Report.hasErrors_eq_false_iff.1 hpass
      have hclean := hfiles _ (List.mem_map.2 ⟨(path, text), hfile, rfl⟩)
      simp only [analyze, RuleSet.analyzeFile, hscan, RuleSet.analyze, RuleSet.initializes]
        at hinitialized hclean
      obtain ⟨call, hcall⟩ := Option.isSome_iff_exists.1 hinitialized
      exact ⟨call, hcall, RuleSet.acceptsInitializer_of_no_error hcall hclean⟩ }

/-- For instance for a project that passes, with its only file. -/
theorem verdict_run_passing :
    ((ofSettings {} none).run none (.ofFiles [("lib/main.dart", some
        "void main() { try { MappSdk.engage(k, p, s, a, t); } catch (e) {} }")])).hasErrors = false ∧
      ∃ f ∈ ((ofSettings {} none).run none (.ofFiles [("lib/main.dart", some
          "void main() { try { MappSdk.engage(k, p, s, a, t); } catch (e) {} }")])).files,
        f.initialized = true := by
  have hpass : ((ofSettings {} none).run none (.ofFiles [("lib/main.dart", some
      "void main() { try { MappSdk.engage(k, p, s, a, t); } catch (e) {} }")])).hasErrors
        = false := by
    decide +kernel
  exact ⟨hpass, (verdict_run {} none none _).initialized hpass⟩

end Audit

end SdkAudit
