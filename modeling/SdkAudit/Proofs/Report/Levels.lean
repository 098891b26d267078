import SdkAudit.Proofs.Project.Isolation
import SdkAudit.Proofs.Project.Verdict
import SdkAudit.Proofs.Report.Renderings

/-!
# Findings have the level that their rule announces

How grave a finding is, is said where the finding is made, in nine places.  The log of a report
lists the kinds of findings as rules, each with the level that its findings usually have, and it
takes these levels from a table.  This module shows that the table is right about every finding,
whoever made it, so that a reader of the log may go by the rules.

* `Diagnostic.IsUsual` — a finding is as grave as the table says of its kind;
* `RuleSet.isUsual_of_mem_diagnostics`, `isUsual_of_projectFinding?`,
  `Findings.isUsual_of_mem_diagnostics` — everything that makes findings makes usual ones;
* `Json.ruleLevels?`, `Json.resultLevels?` — what a log tells of levels, of rules and of results;
* `Report.LevelsAgree` — the results of a log have the levels of the rules that they name;
* `Audit.exists_levelsAgree` — **in the log of every run they have**.
-/

namespace SdkAudit

/-- A finding is as grave as findings of its kind usually are. -/
def Diagnostic.IsUsual (d : Diagnostic) : Prop := d.severity = d.category.usualSeverity

/-! ### Those who make findings -/

theorem RuleSet.isUsual_of_mem_diagnostics {rules : RuleSet} {scan : Scan} {d : Diagnostic}
    (h : d ∈ rules.diagnostics scan) : d.IsUsual :=
  severity_of_mem_diagnostics h

theorem isUsual_of_projectFinding? {rules : RuleSet} {files : List FileReport} {d : Diagnostic}
    (h : projectFinding? rules files = some d) : d.IsUsual := by
  obtain ⟨hcategory, hseverity⟩ := grave_of_projectFinding? h
  rw [Diagnostic.IsUsual, hseverity, hcategory]
  rfl

theorem Findings.isUsual_of_mem_diagnostics {f : Findings} {d : Diagnostic}
    (h : d ∈ f.diagnostics) : d.IsUsual := by
  rcases List.mem_append.1 h with hcritical | hmissing
  · obtain ⟨entry, -, rfl⟩ := List.mem_map.1 hcritical
    rfl
  · obtain ⟨entry, -, rfl⟩ := List.mem_map.1 hmissing
    rfl

/-! ### Levels in a log -/

namespace Json

/-- The identifier of a rule of a log, and the level that is its default. -/
def ruleLevel? (rule : Json) : Option (String × String) := do
  let id ← (← rule.member? "id").string?
  let level ← (← (← rule.member? "defaultConfiguration").member? "level").string?
  return (id, level)

/-- The identifier of the rule that a result of a log names, and the level of the result. -/
def resultLevel? (result : Json) : Option (String × String) := do
  let id ← (← result.member? "ruleId").string?
  let level ← (← result.member? "level").string?
  return (id, level)

/-- The rules that a log lists for its tool, with their default levels. -/
def ruleLevels? (log : Json) : Option (List (String × String)) := do
  let run ← (← log.member? "runs").only?
  let driver ← (← run.member? "tool").member? "driver"
  (← (← driver.member? "rules").items?).mapM ruleLevel?

/-- The rules that the results of a log name, with the levels of the results. -/
def resultLevels? (log : Json) : Option (List (String × String)) := do
  let run ← (← log.member? "runs").only?
  (← (← run.member? "results").items?).mapM resultLevel?

end Json

/-- The identifier of a kind of finding, and the level that findings of the kind usually have. -/
def Category.announced (c : Category) : String × String := (c.id, c.usualSeverity.sarifLevel)

/-- The identifier of the kind of a finding, and the level of the finding itself. -/
def Diagnostic.levelled (d : Diagnostic) : String × String :=
  (d.category.id, d.severity.sarifLevel)

theorem Json.ruleLevel?_sarifRule (c : Category) : c.sarifRule.ruleLevel? = some c.announced := by
  simp only [ruleLevel?, Category.sarifRule, member?_cons, string?, Option.bind_eq_bind,
    Option.bind_some, Option.pure_def, String.reduceEq, if_true, if_false]
  rfl

theorem Json.resultLevel?_sarifResult (path : String) (d : Diagnostic) :
    (d.sarifResult path).resultLevel? = some d.levelled := by
  simp only [resultLevel?, Diagnostic.sarifResult, member?_cons, string?, Option.bind_eq_bind,
    Option.bind_some, Option.pure_def, String.reduceEq, if_true, if_false]
  rfl

theorem Category.mem_all (c : Category) : c ∈ all := by
  cases c <;> decide

/-- No two kinds of findings have the same identifier. -/
theorem Category.nodup_announced : ((all.map announced).map Prod.fst).Nodup := by
  decide +kernel

/-- A key without a double is looked up to what stands with it. -/
theorem lookup_of_mem_of_nodup {pairs : List (String × String)} {key value : String}
    (hnodup : (pairs.map Prod.fst).Nodup) (h : (key, value) ∈ pairs) :
    pairs.lookup key = some value := by
  induction pairs with
  | nil => cases h
  | cons pair pairs ih =>
    obtain ⟨first, other⟩ := pair
    rw [List.map_cons, List.nodup_cons] at hnodup
    rcases List.mem_cons.1 h with heq | hrest
    · obtain ⟨rfl, rfl⟩ := Prod.mk.inj heq
      exact List.lookup_cons_self
    · have hne : (key == first) = false := by
        rw [beq_eq_false_iff_ne]
        intro heq
        exact hnodup.1 (List.mem_map.2 ⟨(key, value), hrest, heq⟩)
      rw [List.lookup_cons, hne]
      exact ih hnodup.2 hrest

namespace Report

/-- The results of the log of a report on a path have the levels that the rules announce. -/
structure LevelsAgree (path : String) (r : Report) (rules results : List (String × String)) :
    Prop where
  /-- These are the rules that the log lists, and the rules and levels of its results. -/
  read : (r.sarif path).ruleLevels? = some rules ∧ (r.sarif path).resultLevels? = some results
  /-- There is a result for every finding: those about files, those about the project and the
  advisory ones. -/
  findings : results = (r.files.flatMap (·.diagnostics) ++ r.project ++ r.advisoryDiagnostics).map
    Diagnostic.levelled
  /-- No rule is listed twice. -/
  nodup : (rules.map Prod.fst).Nodup
  /-- The rule that a result names is listed, with the level of the result as its default. -/
  agree : ∀ id level, (id, level) ∈ results → rules.lookup id = some level

variable {path : String} {r : Report}

theorem ruleLevels?_sarif (path : String) (r : Report) :
    (r.sarif path).ruleLevels? = some (Category.all.map Category.announced) :=
  mapM_map_eq_some Json.ruleLevel?_sarifRule _

theorem resultLevels?_sarif (path : String) (r : Report) :
    (r.sarif path).resultLevels? = some ((r.located path).map fun (_, d) => d.levelled) :=
  mapM_map_eq_some (fun (place, d) => Json.resultLevel?_sarifResult place d) _

/-- **Where all findings are usual, results have the levels of their rules.** -/
theorem exists_levelsAgree (hfiles : ∀ f ∈ r.files, ∀ d ∈ f.diagnostics, d.IsUsual)
    (hproject : ∀ d ∈ r.project, d.IsUsual) (hadvisory : ∀ d ∈ r.advisoryDiagnostics, d.IsUsual) :
    ∃ rules results, r.LevelsAgree path rules results := by
  have hfindings : (r.located path).map (fun (_, d) => d.levelled)
      = (r.files.flatMap (·.diagnostics) ++ r.project ++ r.advisoryDiagnostics).map
        Diagnostic.levelled := by
    simp [located, pathDiagnostics, List.map_flatMap, Function.comp_def]
  refine ⟨_, _, ⟨ruleLevels?_sarif path r, resultLevels?_sarif path r⟩, hfindings,
    Category.nodup_announced, ?_⟩
  intro id level hresult
  rw [hfindings] at hresult
  obtain ⟨d, hd, heq⟩ := List.mem_map.1 hresult
  have husual : d.IsUsual := by
    rcases List.mem_append.1 hd with hd | hd
    · rcases List.mem_append.1 hd with hd | hd
      · obtain ⟨f, hf, hd⟩ := List.mem_flatMap.1 hd
        exact hfiles f hf d hd
      · exact hproject d hd
    · exact hadvisory d hd
  -- a usual finding has the level that its kind announces
  have hannounced : d.category.announced = (id, level) := by
    rw [← heq, Diagnostic.levelled, husual]
    rfl
  refine lookup_of_mem_of_nodup Category.nodup_announced ?_
  rw [← hannounced]
  exact List.mem_map_of_mem d.category.mem_all

end Report

/-! ### Runs -/

theorem Report.isUsual_of_mem_advisoryDiagnostics {r : Report} {d : Diagnostic}
    (h : d ∈ r.advisoryDiagnostics) : d.IsUsual := by
  unfold advisoryDiagnostics at h
  split at h
  · exact Findings.isUsual_of_mem_diagnostics h
  · cases h

/-- What a run says of files and of the project is usual, whatever an advisor adds. -/
theorem Audit.exists_levelsAgree (audit : Audit) (store : Store) (path : String) {r : Report}
    (h : r.SameVerdict (audit.run none store)) :
    ∃ rules results, r.LevelsAgree path rules results := by
  refine Report.exists_levelsAgree ?_ ?_ fun d => Report.isUsual_of_mem_advisoryDiagnostics
  · rw [h.files]
    intro f hf d hd
    obtain ⟨file, -, rfl⟩ := List.mem_map.1 hf
    exact RuleSet.isUsual_of_mem_diagnostics hd
  · rw [h.project]
    intro d hd
    exact isUsual_of_projectFinding? (Option.mem_toList.1 hd)

/-- Severities keep to the kinds of findings, wherever findings are made and wherever they are
shown. -/
structure SeveritiesKept : Prop where
  /-- Of whatever a scan came to, with an outline or without. -/
  scan : ∀ (rules : RuleSet) (scan : Scan), ∀ d ∈ rules.diagnostics scan, d.IsUsual
  /-- Of the text of a file. -/
  file : ∀ (rules : RuleSet) (path source : String),
    ∀ d ∈ (rules.analyzeFile path source).diagnostics, d.IsUsual
  /-- Of a project. -/
  project : ∀ (rules : RuleSet) (files : List FileReport) (d : Diagnostic),
    projectFinding? rules files = some d → d.IsUsual
  /-- Of advisory findings, whatever they are. -/
  advisory : ∀ findings : Findings, ∀ d ∈ findings.diagnostics, d.IsUsual
  /-- In the log of a run. -/
  run : ∀ (settings : Settings) (forced : Option Technology) (advisor : Option Advisor)
    (store : Store) (path : String), ∃ rules results,
      ((Audit.ofSettings settings forced).run advisor store).LevelsAgree path rules results
  /-- In the log of a run with an advisor that has a state. -/
  runIn : ∀ {σ : Type} (settings : Settings) (forced : Option Technology)
    (advisor : Option (AdvisorIn (StateM σ))) (store : Store) (s : σ) (path : String),
    ∃ rules results, (((Audit.ofSettings settings forced).runIn advisor store).run s).1.LevelsAgree
      path rules results

/-- **Severities never leave their kinds.** -/
theorem severitiesKept : SeveritiesKept where
  scan := fun _ _ _ hd => RuleSet.isUsual_of_mem_diagnostics hd
  file := fun _ _ _ _ hd => RuleSet.isUsual_of_mem_diagnostics hd
  project := fun _ _ _ hd => isUsual_of_projectFinding? hd
  advisory := fun _ _ hd => Findings.isUsual_of_mem_diagnostics hd
  run := by
    intro settings forced advisor store path
    refine Audit.exists_levelsAgree (Audit.ofSettings settings forced) store path ?_
    cases advisor <;> exact .of_files rfl rfl rfl
  runIn := by
    intro σ settings forced advisor store s path
    exact Audit.exists_levelsAgree _ store path (Audit.sameVerdict_runIn _ advisor store s)

end SdkAudit
