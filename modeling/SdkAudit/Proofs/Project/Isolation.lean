import Mathlib
import SdkAudit.Project
import SdkAudit.Proofs.Advisory.Entries

/-!
# Runs with an advisor

An advisor may answer anything, fail, and change a state of its own while it answers.  What a report
says of the files and of the project does not depend on it: its findings are only added, and no
diagnostic from them is an error.

* `Report.SameVerdict` — reports that agree on everything but the advisory findings;
* `recorded` — an advisor that records the prompts that are put to it;
* `Audit.prompt?_eq` — there is a prompt exactly if some file is analyzed;
* `Audit.runIn_state` — what an advisor adds to a report, and what becomes of its state;
* `Audit.isolation_run` — **the advisor is asked once at most, and decides nothing**.
-/

namespace SdkAudit

/-! ### Findings of an exchange -/

theorem Findings.entries_filled_ne_nil (f : Findings) (s : Section) : f.filled.entries s ≠ [] := by
  rw [Findings.entries_filled]
  split_ifs with h
  · exact List.cons_ne_nil _ _
  · exact h

namespace Advisor

/-- Whatever an answer is, it amounts to findings without empty lists. -/
theorem exists_filled (rules : RuleSet) (reply : Except AdvisorError String) :
    ∃ f : Findings, findings rules reply = f.filled := by
  cases reply with
  | error e => exact ⟨_, rfl⟩
  | ok text =>
    rw [findings]
    split_ifs
    · exact ⟨_, rfl⟩
    · exact ⟨_, rfl⟩

end Advisor

theorem Findings.severity_of_mem_diagnostics {f : Findings} {d : Diagnostic}
    (h : d ∈ f.diagnostics) : d.severity ≠ .error := by
  rcases List.mem_append.1 h with hd | hd
  · obtain ⟨entry, -, rfl⟩ := List.mem_map.1 hd
    exact Severity.noConfusion
  · obtain ⟨entry, -, rfl⟩ := List.mem_map.1 hd
    exact Severity.noConfusion

/-! ### Reports -/

/-- The reports agree on everything but the advisory findings. -/
structure Report.SameVerdict (r r' : Report) : Prop where
  files : r.files = r'.files
  project : r.project = r'.project
  scanned : r.scanned = r'.scanned
  hasErrors : r.hasErrors = r'.hasErrors
  total : r.total = r'.total
  count : ∀ severity, r.count severity = r'.count severity

/-- It is enough that they agree on the files, the project and the number of files. -/
theorem Report.SameVerdict.of_files {r r' : Report} (hfiles : r.files = r'.files)
    (hproject : r.project = r'.project) (hscanned : r.scanned = r'.scanned) :
    r.SameVerdict r' := by
  have hdiagnostics : r.diagnostics = r'.diagnostics := by
    rw [diagnostics, diagnostics, hfiles, hproject]
  exact {
    files := hfiles
    project := hproject
    scanned := hscanned
    hasErrors := by rw [Report.hasErrors, Report.hasErrors, hdiagnostics]
    total := by rw [Report.total, Report.total, hdiagnostics]
    count := fun severity => by rw [Report.count, Report.count, hdiagnostics] }

theorem Report.SameVerdict.symm {r r' : Report} (h : r.SameVerdict r') : r'.SameVerdict r :=
  .of_files h.files.symm h.project.symm h.scanned.symm

theorem Report.SameVerdict.trans {r r' r'' : Report} (h : r.SameVerdict r')
    (h' : r'.SameVerdict r'') : r.SameVerdict r'' :=
  .of_files (h.files.trans h'.files) (h.project.trans h'.project) (h.scanned.trans h'.scanned)

/-! ### Prompts -/

/-- An advisor that records the prompts that are put to it. -/
def recorded {σ : Type} (advisor : AdvisorIn (StateM σ)) :
    AdvisorIn (StateM (σ × List Prompt)) := fun prompt state =>
  let answer := (advisor prompt).run state.1
  (answer.1, answer.2, state.2 ++ [prompt])

namespace Audit

variable {σ : Type}

/-- The code of a project is blank only if there is none: every file has a line with its path. -/
theorem isBlankText_projectCode (files : List (String × String)) :
    Text.isBlankText (projectCode files).toList = files.isEmpty := by
  cases files with
  | nil => decide +kernel
  | cons file files =>
    have hslash : '/' ∈ (projectCode (file :: files)).toList := by
      have hpath : '/' ∈ (fileCode file).toList := by
        simp [fileCode]
      rw [projectCode, List.map_cons, String.join_cons, String.toList_append]
      exact List.mem_append_left _ hpath
    refine Bool.eq_false_of_not_eq_true fun hblank => ?_
    have := List.all_eq_true.1 hblank '/' hslash
    revert this
    decide

/-- The rules by which a project as a whole is judged. -/
def projectRules (audit : Audit) (store : Store) : RuleSet :=
  Catalogue.ruleSet (audit.projectTechnology (audit.candidates store))

/-- There is a prompt exactly if some file is analyzed. -/
theorem prompt?_eq (audit : Audit) (store : Store) : audit.prompt? store =
    if audit.candidates store = [] then none
      else some ((audit.projectRules store).prompt (projectCode (audit.candidates store))) := by
  show (if Text.isBlankText (projectCode (audit.candidates store)).toList = true then none
    else some ((audit.projectRules store).prompt (projectCode (audit.candidates store)))) = _
  rw [isBlankText_projectCode]
  simp only [List.isEmpty_iff]

theorem consultIn_state (advisor : AdvisorIn (StateM σ)) (rules : RuleSet) (code : String)
    (s : σ) : (Advisor.consultIn advisor rules code).run s =
      match Advisor.prompt? rules code with
      | none => (.ofCritical "No Mapp SDK implementation found in the project", s)
      | some prompt =>
        (Advisor.findings rules ((advisor prompt).run s).1, ((advisor prompt).run s).2) := by
  unfold Advisor.consultIn
  cases Advisor.prompt? rules code with
  | none => rfl
  | some prompt => rfl

/-- An advisor that does nothing but answer is consulted as one without effects. -/
theorem consultIn_pure (advisor : Advisor) (rules : RuleSet) (code : String) (s : σ) :
    ((Advisor.consultIn (fun prompt => (pure (advisor prompt) : StateM σ _)) rules code).run s).1
      = advisor.consult rules code := by
  unfold Advisor.consult Advisor.consultIn
  cases Advisor.prompt? rules code with
  | none => rfl
  | some prompt => rfl

/-- What an advisor adds to a report, and what becomes of its state: nothing but its answer to the
one prompt, if there is one. -/
theorem runIn_state (audit : Audit) (advisor : AdvisorIn (StateM σ)) (store : Store) (s : σ) :
    (audit.runIn (some advisor) store).run s =
      match audit.prompt? store with
      | none => ({ audit.run none store with
          advisory := some (.ofCritical "No Mapp SDK implementation found in the project") }, s)
      | some prompt => ({ audit.run none store with
          advisory := some (Advisor.findings (audit.projectRules store)
            ((advisor prompt).run s).1) }, ((advisor prompt).run s).2) := by
  -- the exchange is the only step of a run that touches the state
  show (let answer := (Advisor.consultIn advisor (audit.projectRules store)
      (projectCode (audit.candidates store))).run s
    ({ audit.run none store with advisory := some answer.1 }, answer.2)) = _
  rw [consultIn_state]
  show (let answer := match audit.prompt? store with
      | none => (Findings.ofCritical "No Mapp SDK implementation found in the project", s)
      | some prompt => (Advisor.findings (audit.projectRules store) ((advisor prompt).run s).1,
          ((advisor prompt).run s).2)
    (({ audit.run none store with advisory := some answer.1 } : Report), answer.2)) = _
  cases audit.prompt? store with
  | none => rfl
  | some prompt => rfl

/-- An advisor, if there is one, changes nothing but the advisory findings. -/
theorem sameVerdict_runIn (audit : Audit) (advisor : Option (AdvisorIn (StateM σ)))
    (store : Store) (s : σ) :
    ((audit.runIn advisor store).run s).1.SameVerdict (audit.run none store) := by
  cases advisor with
  | none => exact .of_files rfl rfl rfl
  | some advisor =>
    rw [runIn_state]
    cases audit.prompt? store with
    | none => exact .of_files rfl rfl rfl
    | some prompt => exact .of_files rfl rfl rfl

/-- An advisor adds findings without empty lists. -/
theorem exists_advisory_filled (audit : Audit) (advisor : AdvisorIn (StateM σ)) (store : Store)
    (s : σ) : ∃ f : Findings,
      ((audit.runIn (some advisor) store).run s).1.advisory = some f.filled := by
  rw [runIn_state]
  cases audit.prompt? store with
  | none => exact ⟨_, rfl⟩
  | some prompt =>
    obtain ⟨f, hf⟩ :=
      Advisor.exists_filled (audit.projectRules store) ((advisor prompt).run s).1
    exact ⟨f, congrArg some hf⟩

/-! ### Isolation -/

/-- What a report with an advisor is like, whatever the advisor does. -/
structure Isolation (audit : Audit) (store : Store) : Prop where
  /-- Reports agree on everything but the advisory findings, whatever advisors are attached, if any,
  and whatever states these are in. -/
  verdict : ∀ {σ τ : Type} (a : Option (AdvisorIn (StateM σ))) (b : Option (AdvisorIn (StateM τ)))
    (s : σ) (t : τ), ((audit.runIn a store).run s).1.SameVerdict ((audit.runIn b store).run t).1
  /-- An advisor that does nothing but answer is run as one that leaves its state as it is. -/
  effectless : ∀ {σ : Type} (a : Option Advisor) (s : σ),
    ((audit.runIn (a.map fun advisor prompt => (pure (advisor prompt) : StateM σ _)) store).run s).1
      = audit.run a store
  /-- The advisor is asked once if some file is analyzed, and never otherwise. -/
  asked : ∀ {σ : Type} (a : AdvisorIn (StateM σ)) (s : σ),
    ((audit.runIn (some (recorded a)) store).run (s, [])).2.2.length
      = if audit.candidates store = [] then 0 else 1
  /-- Recording what it is asked changes nothing. -/
  recording : ∀ {σ : Type} (a : AdvisorIn (StateM σ)) (s : σ),
    ((audit.runIn (some (recorded a)) store).run (s, [])).1 = ((audit.runIn (some a) store).run s).1
  /-- There are advisory findings, and no list of them is empty. -/
  advised : ∀ {σ : Type} (a : AdvisorIn (StateM σ)) (s : σ), ∃ f,
    ((audit.runIn (some a) store).run s).1.advisory = some f ∧ ∀ t, f.entries t ≠ []
  /-- A failure of the advisor is the only critical finding. -/
  failed : ∀ {σ : Type} (a : AdvisorIn (StateM σ)) (s : σ) (prompt : Prompt) (e : AdvisorError),
    audit.prompt? store = some prompt → ((a prompt).run s).1 = .error e → ∃ f,
      ((audit.runIn (some a) store).run s).1.advisory = some f ∧
        f.critical = ["Analysis failed: " ++ e.message]
  /-- So is a blank answer. -/
  silent : ∀ {σ : Type} (a : AdvisorIn (StateM σ)) (s : σ) (prompt : Prompt) (text : String),
    audit.prompt? store = some prompt → ((a prompt).run s).1 = .ok text →
      Text.isBlankText text.toList = true → ∃ f,
        ((audit.runIn (some a) store).run s).1.advisory = some f ∧
          f.critical = ["AI analysis failed to provide results"]
  /-- No diagnostic from the advisory findings is an error. -/
  harmless : ∀ {σ : Type} (a : Option (AdvisorIn (StateM σ))) (s : σ),
    ∀ d ∈ ((audit.runIn a store).run s).1.advisoryDiagnostics, d.severity ≠ .error

/-- **The advisor is asked once at most, and decides nothing**, whatever the settings, the
technology and the files are, and whatever it answers. -/
theorem isolation_run (settings : Settings) (forced : Option Technology) (store : Store) :
    (ofSettings settings forced).Isolation store := by
  generalize ofSettings settings forced = audit
  exact {
    verdict := fun a b s t =>
      (sameVerdict_runIn audit a store s).trans (sameVerdict_runIn audit b store t).symm
    effectless := by
      intro σ a s
      cases a with
      | none => rfl
      | some a =>
        exact congrArg (fun f => { audit.run none store with advisory := some f })
          (consultIn_pure a (audit.projectRules store) _ s)
    asked := by
      intro σ a s
      rw [runIn_state, prompt?_eq]
      split_ifs <;> rfl
    recording := by
      intro σ a s
      rw [runIn_state, runIn_state]
      cases audit.prompt? store <;> rfl
    advised := by
      intro σ a s
      obtain ⟨f, hf⟩ := exists_advisory_filled audit a store s
      exact ⟨_, hf, f.entries_filled_ne_nil⟩
    failed := by
      intro σ a s prompt e hprompt hanswer
      rw [runIn_state, hprompt]
      exact ⟨_, congrArg (some ∘ Advisor.findings (audit.projectRules store)) hanswer, rfl⟩
    silent := by
      intro σ a s prompt text hprompt hanswer hblank
      rw [runIn_state, hprompt]
      refine ⟨_, congrArg (some ∘ Advisor.findings (audit.projectRules store)) hanswer, ?_⟩
      rw [Advisor.findings, if_pos hblank]
      rfl
    harmless := by
      intro σ a s d hd
      unfold Report.advisoryDiagnostics at hd
      split at hd
      case h_1 => exact Findings.severity_of_mem_diagnostics hd
      case h_2 => exact absurd hd List.not_mem_nil }

end Audit

end SdkAudit
