import Mathlib
import SdkAudit.Project

/-!
# What a report owes to the listing

A project is listed file by file, but its report is about the files that are analyzed.  Listed in
another order they are reported in that order, with the same verdict; files that cannot be read
leave no trace, and files that are passed over are only counted.  The rules for the project as a
whole are those of its dominant technology, which does not depend on the order either.

* `IsDominant` — the technology that occurs most often, the earliest one among equals;
* `Audit.isDominant_of_mostFrequent?` — **the most frequent technology is the dominant one**;
* `Store.relist` — the same files with another listing;
* `Audit.fileReport?`, `Audit.files_run` — every listed file is reported on by itself;
* `Report.Reordered`, `Audit.reordered_run` — **a report depends on the files that are analyzed, and
  on their order only in the list of files**;
* `Audit.Independence`, `Audit.independence_run` — **what a report owes to the listing**.
-/

namespace SdkAudit

/-! ### The dominant technology -/

/-- The technology occurs most often, and more often than those that come before it in the
registry. -/
structure IsDominant (technologies : List Technology) (technology : Technology) : Prop where
  occurs : technology ∈ technologies
  most : ∀ other, technologies.count other ≤ technologies.count technology
  first : ∀ other, Technology.all.idxOf other < Technology.all.idxOf technology →
    technologies.count other < technologies.count technology

theorem Technology.mem_all (technology : Technology) : technology ∈ Technology.all := by
  cases technology <;> decide

theorem Technology.nodup_all : Technology.all.Nodup := by decide

namespace Audit

/-- The search for the best score keeps the first of the best ones, and nothing that scores
zero. -/
theorem foldl_best (score : Technology → Nat) (order : List Technology) :
    match order.foldl (fun best technology =>
        if (best.map score).getD 0 < score technology then some technology else best) none with
    | none => ∀ t ∈ order, score t = 0
    | some best => ∃ before after, order = before ++ best :: after ∧ 0 < score best ∧
        (∀ t ∈ before, score t < score best) ∧ ∀ t ∈ after, score t ≤ score best := by
  induction order using List.reverseRecOn with
  | nil => simp
  | append_singleton order last ih =>
    rw [List.foldl_append]
    simp only [List.foldl_cons, List.foldl_nil]
    generalize order.foldl _ none = best at ih
    cases best with
    | none =>
      simp only [Option.map_none, Option.getD_none] at ih ⊢
      split_ifs with hlast
      · exact ⟨order, [], rfl, hlast, fun t ht => by rw [ih t ht]; exact hlast, by simp⟩
      · intro t ht
        rcases List.mem_append.1 ht with ht | ht
        · exact ih t ht
        · rw [List.mem_singleton.1 ht]
          omega
    | some best =>
      obtain ⟨before, after, rfl, hpos, hbefore, hafter⟩ := ih
      simp only [Option.map_some, Option.getD_some]
      split_ifs with hlast
      · refine ⟨before ++ best :: after, [], rfl, by omega, fun t ht => ?_, by simp⟩
        rcases List.mem_append.1 ht with ht | ht
        · exact (hbefore t ht).trans hlast
        · rcases List.mem_cons.1 ht with rfl | ht
          · exact hlast
          · exact (hafter t ht).trans_lt hlast
      · refine ⟨before, after ++ [last], by simp, hpos, hbefore, fun t ht => ?_⟩
        rcases List.mem_append.1 ht with ht | ht
        · exact hafter t ht
        · rw [List.mem_singleton.1 ht]
          omega

/-- **The most frequent technology is the dominant one.** -/
theorem isDominant_of_mostFrequent? {technologies : List Technology} {technology : Technology}
    (h : mostFrequent? technologies = some technology) : IsDominant technologies technology := by
  have hbest := foldl_best (technologies.count ·) Technology.all
  unfold mostFrequent? at h
  rw [h] at hbest
  obtain ⟨before, after, hall, hpos, hbefore, hafter⟩ := hbest
  have hnew : technology ∉ before := by
    have hnodup := hall ▸ Technology.nodup_all
    intro hmem
    exact (List.nodup_append.1 hnodup).2.2 technology hmem technology List.mem_cons_self rfl
  have hplace : ∀ other, other ∈ before ∨ other = technology ∨ other ∈ after := by
    intro other
    have hmem := hall ▸ other.mem_all
    simpa using hmem
  exact {
    occurs := List.count_pos_iff.1 hpos
    most := by
      intro other
      rcases hplace other with hother | rfl | hother
      · exact (hbefore other hother).le
      · exact le_rfl
      · exact hafter other hother
    first := by
      intro other hearlier
      -- what stands earlier than the technology is among those before it
      refine hbefore other ?_
      by_contra hother
      rw [hall, List.idxOf_append_of_notMem hnew, List.idxOf_append_of_notMem hother,
        List.idxOf_cons_self] at hearlier
      omega }

theorem mostFrequent?_eq_none {technologies : List Technology}
    (h : mostFrequent? technologies = none) : technologies = [] := by
  have hbest := foldl_best (technologies.count ·) Technology.all
  unfold mostFrequent? at h
  rw [h] at hbest
  refine List.eq_nil_iff_forall_not_mem.2 fun technology hmem => ?_
  exact (List.count_pos_iff.2 hmem).ne' (hbest technology technology.mem_all)

theorem mostFrequent?_perm {technologies others : List Technology}
    (h : technologies.Perm others) : mostFrequent? technologies = mostFrequent? others := by
  simp only [mostFrequent?, h.count_eq]

end Audit

/-! ### Listings -/

/-- The same files with another listing. -/
def Store.relist (store : Store) (paths : List String) : Store := { store with paths }

namespace Audit

variable {audit : Audit} {advisor : Option Advisor} {store store' : Store} {paths : List String}

/-- The report on a file of a store, if the file is analyzed. -/
def fileReport? (audit : Audit) (store : Store) (path : String) : Option FileReport :=
  (store.text? path).bind fun text =>
    if isCandidate (audit.rulesOf (store.label path)) text then
      some (audit.analyze (store.label path) text)
    else none

theorem files_run_eq_map : (audit.run advisor store).files
    = (audit.candidates store).map fun file => audit.analyze file.1 file.2 := by
  cases advisor <;> rfl

/-- **The report on a project has the reports on its files**, in the order of the listing. -/
theorem files_run : (audit.run advisor store).files
    = store.paths.filterMap (audit.fileReport? store) := by
  rw [files_run_eq_map, candidates, readable, List.filter_filterMap, List.map_filterMap]
  refine List.filterMap_congr fun path _ => ?_
  unfold fileReport?
  cases store.text? path with
  | none => rfl
  | some text =>
    simp only [Option.map_some, Option.bind_some, Option.filter_some]
    split <;> rfl

/-- The finding about a project is made by the rules of its dominant technology, or of the usual one
where no file is analyzed. -/
theorem exists_dominant (audit : Audit) (advisor : Option Advisor) (store : Store) :
    ∃ technology,
      (audit.run advisor store).project = (projectFinding? (Catalogue.ruleSet technology)
        (audit.run advisor store).files).toList ∧
      ((audit.run advisor store).files = [] → technology = audit.usual) ∧
      ((audit.run advisor store).files ≠ [] →
        IsDominant ((audit.run advisor store).files.map (·.technology)) technology) := by
  have hproject : ∀ advisor, (audit.run advisor store).project
      = (projectFinding? (Catalogue.ruleSet (audit.projectTechnology (audit.candidates store)))
          (audit.run advisor store).files).toList := by
    rintro (_ | _) <;> rfl
  have htechnologies : (audit.run advisor store).files.map (·.technology)
      = (audit.candidates store).map fun file => audit.technologyOf file.1 := by
    rw [files_run_eq_map, List.map_map]
    rfl
  refine ⟨_, hproject advisor, fun hnone => ?_, fun hsome => ?_⟩
  · rw [projectTechnology, ← htechnologies, hnone]
    rfl
  · rw [projectTechnology, ← htechnologies]
    cases hmost : mostFrequent? ((audit.run advisor store).files.map (·.technology)) with
    | none => exact absurd (List.map_eq_nil_iff.1 (mostFrequent?_eq_none hmost)) hsome
    | some technology => exact isDominant_of_mostFrequent? hmost

end Audit

/-! ### Reports in another order -/

/-- The reports agree on everything but the order of the files, the number of files that were read
and the advisory findings. -/
structure Report.Reordered (r r' : Report) : Prop where
  files : r.files.Perm r'.files
  project : r.project = r'.project
  hasErrors : r.hasErrors = r'.hasErrors
  total : r.total = r'.total
  count : ∀ severity, r.count severity = r'.count severity

/-- It is enough that they agree on the project, and on the files up to their order. -/
theorem Report.Reordered.of_files {r r' : Report} (hfiles : r.files.Perm r'.files)
    (hproject : r.project = r'.project) : r.Reordered r' := by
  have hdiagnostics : r.diagnostics.Perm r'.diagnostics := by
    rw [diagnostics, diagnostics, hproject]
    exact (hfiles.flatMap_right _).append_left _
  exact {
    files := hfiles
    project := hproject
    hasErrors := by
      rw [Report.hasErrors, Report.hasErrors, Bool.eq_iff_iff, List.any_eq_true, List.any_eq_true]
      simp only [hdiagnostics.mem_iff]
    total := hdiagnostics.length_eq
    count := fun severity => (hdiagnostics.filter _).length_eq }

/-- The finding about a project does not depend on the order of its files. -/
theorem projectFinding?_perm (rules : RuleSet) {files files' : List FileReport}
    (h : files.Perm files') : projectFinding? rules files = projectFinding? rules files' := by
  have hany : ∀ p : FileReport → Bool, files.any p = files'.any p := by
    intro p
    rw [Bool.eq_iff_iff, List.any_eq_true, List.any_eq_true]
    simp only [h.mem_iff]
  have hempty : files.isEmpty = files'.isEmpty := by
    rw [Bool.eq_iff_iff, List.isEmpty_iff, List.isEmpty_iff, ← List.length_eq_zero_iff,
      ← List.length_eq_zero_iff, h.length_eq]
  rw [projectFinding?, projectFinding?, hany, hany, hempty]

namespace Audit

variable {audit : Audit} {advisor : Option Advisor} {store store' : Store} {paths : List String}

/-- **A report depends on the files that are analyzed, and on their order only in the list of
files.** -/
theorem reordered_run (h : (audit.candidates store).Perm (audit.candidates store')) :
    (audit.run none store).Reordered (audit.run none store') := by
  have hfiles : (audit.run none store).files.Perm (audit.run none store').files := h.map _
  refine .of_files hfiles ?_
  have htechnology : audit.projectTechnology (audit.candidates store)
      = audit.projectTechnology (audit.candidates store') := by
    rw [projectTechnology, projectTechnology, mostFrequent?_perm (h.map _)]
  show (projectFinding? _ (audit.run none store).files).toList
    = (projectFinding? _ (audit.run none store').files).toList
  rw [htechnology, projectFinding?_perm _ hfiles]

/-- Stores with the same files to analyze have the same report, but for the number of files. -/
theorem run_of_candidates (h : audit.candidates store = audit.candidates store') :
    audit.run advisor store
      = { audit.run advisor store' with scanned := (readable store).length } := by
  cases advisor <;> simp only [run, runIn, h] <;> rfl

/-! ### What a report owes to the listing -/

/-- What a report owes to the listing of a store, and what it does not. -/
structure Independence (audit : Audit) (store : Store) : Prop where
  /-- Whatever listing the files have, each is reported on in its place and by itself. -/
  listed : ∀ paths, (audit.run none (store.relist paths)).files
    = paths.filterMap (audit.fileReport? store)
  /-- Files in another order are reported in another order, and nothing else changes. -/
  permuted : ∀ paths, paths.Perm store.paths →
    (audit.run none (store.relist paths)).Reordered (audit.run none store) ∧
      (audit.run none (store.relist paths)).scanned = (audit.run none store).scanned
  /-- Files that cannot be read leave no trace. -/
  unread : ∀ advisor, audit.run advisor
    (store.relist (store.paths.filter fun path => (store.text? path).isSome))
      = audit.run advisor store
  /-- A file that is read and passed over is counted, and leaves no other trace. -/
  passedOver : ∀ advisor before path after text, store.paths = before ++ path :: after →
    store.text? path = some text →
    isCandidate (audit.rulesOf (store.label path)) text = false →
    audit.run advisor store = { audit.run advisor (store.relist (before ++ after)) with
      scanned := (audit.run advisor (store.relist (before ++ after))).scanned + 1 }
  /-- Other stores with the same files to analyze have the same report, but for the number of files
  and their order. -/
  analyzed : ∀ store' : Store, (audit.candidates store').Perm (audit.candidates store) →
    (audit.run none store').Reordered (audit.run none store)
  /-- The finding about the project is made by the rules of its dominant technology, or of the usual
  one where no file is analyzed. -/
  dominant : ∃ technology,
    (audit.run none store).project = (projectFinding? (Catalogue.ruleSet technology)
      (audit.run none store).files).toList ∧
    ((audit.run none store).files = [] → technology = audit.usual) ∧
    ((audit.run none store).files ≠ [] →
      IsDominant ((audit.run none store).files.map (·.technology)) technology)

theorem scanned_run : (audit.run advisor store).scanned = (readable store).length := by
  cases advisor <;> rfl

theorem readable_filter_isSome (store : Store) :
    readable (store.relist (store.paths.filter fun path => (store.text? path).isSome))
      = readable store := by
  show (store.paths.filter fun path => (store.text? path).isSome).filterMap
      (fun path => (store.text? path).map fun text => (store.label path, text))
    = store.paths.filterMap fun path => (store.text? path).map fun text => (store.label path, text)
  rw [List.filterMap_filter]
  refine List.filterMap_congr fun path _ => ?_
  cases store.text? path <;> rfl

/-- **What a report owes to the listing**, with whatever settings and technology. -/
theorem independence_run (settings : Settings) (forced : Option Technology) (store : Store) :
    (ofSettings settings forced).Independence store := by
  generalize ofSettings settings forced = audit
  exact {
    listed := fun paths => files_run
    permuted := by
      intro paths hpaths
      have hreadable : (readable (store.relist paths)).Perm (readable store) :=
        hpaths.filterMap _
      refine ⟨reordered_run (hreadable.filter _), ?_⟩
      rw [scanned_run, scanned_run, hreadable.length_eq]
    unread := by
      intro advisor
      have hreadable := readable_filter_isSome store
      have hcandidates : audit.candidates
          (store.relist (store.paths.filter fun path => (store.text? path).isSome))
          = audit.candidates store := by
        rw [candidates, candidates, hreadable]
      have hscanned : (audit.run advisor store).scanned = (readable store).length := scanned_run
      rw [run_of_candidates hcandidates, hreadable, ← hscanned]
    passedOver := by
      intro advisor before path after text hpaths htext hcandidate
      have hreadable : readable store = readable (store.relist before) ++
          (store.label path, text) :: readable (store.relist after) := by
        rw [readable, hpaths, List.filterMap_append, List.filterMap_cons_some (by rw [htext]; rfl)]
        rfl
      have hrest : readable (store.relist (before ++ after))
          = readable (store.relist before) ++ readable (store.relist after) :=
        List.filterMap_append
      have hcandidates : audit.candidates store
          = audit.candidates (store.relist (before ++ after)) := by
        simp [candidates, hreadable, hrest, hcandidate]
      rw [run_of_candidates hcandidates, scanned_run, hreadable, hrest]
      simp [Nat.add_assoc]
    analyzed := fun store' h => reordered_run h
    dominant := exists_dominant audit none store }

end Audit

end SdkAudit
