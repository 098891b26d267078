import SdkAudit.Proofs.Pattern.Found
import SdkAudit.Report.Editor
import SdkAudit.Report.Listing
import SdkAudit.Report.Sarif

/-!
# The renderings of a report agree

A report is rendered as a log, as editor diagnostics and as a listing, each made from the report
anew: the log one finding after the other, the editor diagnostics by file, and the listing with
counts.  To compare them, each document is read back: what a reader learns of the findings is the
same from the log and from the editor diagnostics, and the counts of the listing are theirs.

* `Told`, `Diagnostic.told` — what is told of a finding;
* `Told.ofResult?`, `Json.results?` — what is read in a log;
* `Told.ofEditor?`, `Json.groups?` — what is read in editor diagnostics;
* `Counts.ofListing?` — what is read in a listing;
* `flatMap_filter_perm` — grouping by key loses nothing;
* `Report.filedUnder_eq` — what is filed under a path is what is located there, in order;
* `Report.Agree` — what it means that the three agree;
* `Report.renderings_agree` — **the renderings of every report agree**.
-/

namespace SdkAudit

/-! ### Reading documents -/

namespace Json

def member? (key : String) : Json → Option Json
  | .object members => members.lookup key
  | _ => none

@[simp] theorem member?_cons (key name : String) (value : Json) (members : List (String × Json)) :
    member? key (.object ((name, value) :: members))
      = if key = name then some value else member? key (.object members) := by
  by_cases h : key = name
  · simp [member?, h]
  · simp [member?, List.lookup_cons, h, beq_eq_false_iff_ne.2 h]

@[simp] theorem member?_nil (key : String) : member? key (.object []) = none := rfl

def string? : Json → Option String
  | .string s => some s
  | _ => none

def number? : Json → Option Nat
  | .number n => some n
  | _ => none

def bool? : Json → Option Bool
  | .bool b => some b
  | _ => none

def items? : Json → Option (List Json)
  | .array items => some items
  | _ => none

def members? : Json → Option (List (String × Json))
  | .object members => some members
  | _ => none

/-- The item of a list of one item. -/
def only? : Json → Option Json
  | .array [item] => some item
  | _ => none

end Json

/-- What is told of a finding. -/
structure Told where
  code : String
  message : String
  severity : Severity
  line : Nat
  column : Nat
deriving DecidableEq, Repr

def Severity.ofSarifLevel? (level : String) : Option Severity :=
  [error, warning, info].find? (·.sarifLevel == level)

/-- The severity that an editor knows by a number. -/
def Severity.ofEditorCode? (number : Nat) : Option Severity :=
  [error, warning, info].find? (·.editorCode == number)

namespace Told

/-- The same with lines and columns that count from one. -/
def fromOne (t : Told) : Told := { t with line := t.line + 1, column := t.column + 1 }

/-- What a result of a log tells: the place of a file, and what is told of the finding. -/
def ofResult? (result : Json) : Option (String × Told) := do
  let code ← (← result.member? "ruleId").string?
  let severity ← Severity.ofSarifLevel? (← (← result.member? "level").string?)
  let message ← (← (← result.member? "message").member? "text").string?
  let place ← (← (← result.member? "locations").only?).member? "physicalLocation"
  let uri ← (← (← place.member? "artifactLocation").member? "uri").string?
  let region ← place.member? "region"
  let line ← (← region.member? "startLine").number?
  let column ← (← region.member? "startColumn").number?
  return (uri, { code, message, severity, line, column })

/-- What an editor diagnostic tells. -/
def ofEditor? (entry : Json) : Option Told := do
  let code ← (← entry.member? "code").string?
  let severity ← Severity.ofEditorCode? (← (← entry.member? "severity").number?)
  let message ← (← entry.member? "message").string?
  let start ← (← entry.member? "range").member? "start"
  let line ← (← start.member? "line").number?
  let column ← (← start.member? "character").number?
  return { code, message, severity, line, column }

end Told

/-- What a log tells, result by result. -/
def Json.results? (log : Json) : Option (List (String × Told)) := do
  let results ← (← (← (← log.member? "runs").only?).member? "results").items?
  results.mapM Told.ofResult?

/-- What editor diagnostics tell, path by path. -/
def Json.groups? (document : Json) : Option (List (String × List Told)) := do
  (← document.members?).mapM fun (key, entries) => do
    return (key, ← (← entries.items?).mapM Told.ofEditor?)

/-- The counts of a listing. -/
structure Counts where
  passed : Bool
  errors : Nat
  warnings : Nat
  infos : Nat
  /-- The number of the advisory diagnostics. -/
  advisory : Nat
deriving DecidableEq, Repr

/-- The counts that a listing gives, and the number of the advisory diagnostics that it lists; these
are none if it has no advisory part. -/
def Counts.ofListing? (listing : Json) : Option Counts := do
  let passed ← (← listing.member? "passed").bool?
  let errors ← (← listing.member? "errors").number?
  let warnings ← (← listing.member? "warnings").number?
  let infos ← (← listing.member? "infos").number?
  let advisory := ((listing.member? "advisory").bind (·.member? "diagnostics")).bind (·.items?)
  return { passed, errors, warnings, infos, advisory := (advisory.getD []).length }

/-! ### What the documents of a finding tell -/

/-- What there is to tell of a finding. -/
def Diagnostic.told (d : Diagnostic) : Told where
  code := d.category.id
  message := d.message
  severity := d.severity
  line := d.position.line
  column := d.position.column

@[simp] theorem Severity.ofSarifLevel?_sarifLevel (severity : Severity) :
    ofSarifLevel? severity.sarifLevel = some severity := by
  cases severity <;> decide

@[simp] theorem Severity.ofEditorCode?_editorCode (severity : Severity) :
    ofEditorCode? severity.editorCode = some severity := by
  cases severity <;> decide

theorem slashed_of_notMem {path : String} (h : '\\' ∉ path.toList) : slashed path = path := by
  rw [slashed, String.ext_iff, String.toList_map]
  refine (List.map_congr_left fun c hc => ?_).trans (List.map_id _)
  have hne : c ≠ '\\' := fun heq => h (heq ▸ hc)
  exact if_neg hne

theorem Told.ofResult?_sarifResult (path : String) (d : Diagnostic) :
    ofResult? (d.sarifResult path) = some (slashed path, d.told.fromOne) := by
  simp only [ofResult?, Diagnostic.sarifResult, Json.member?_cons, Json.string?, Json.number?,
    Json.only?, Severity.ofSarifLevel?_sarifLevel, Option.bind_eq_bind, Option.bind_some,
    Option.pure_def, String.reduceEq, if_true, if_false]
  rfl

theorem Told.ofEditor?_editorJson (d : Diagnostic) : ofEditor? d.editorJson = some d.told := by
  simp only [ofEditor?, Diagnostic.editorJson, Position.editorJson, Json.member?_cons,
    Json.string?, Json.number?, Severity.ofEditorCode?_editorCode, Option.bind_eq_bind,
    Option.bind_some, Option.pure_def, String.reduceEq, if_true, if_false]
  rfl

/-- What is written item by item is read item by item. -/
theorem mapM_map_eq_some {α β γ : Type} {write : α → β} {read : β → Option γ} {tell : α → γ}
    (h : ∀ x, read (write x) = some (tell x)) (xs : List α) :
    (xs.map write).mapM read = some (xs.map tell) := by
  induction xs with
  | nil => rfl
  | cons x xs ih => simp [h, ih]

/-! ### Grouping by key -/

theorem nodup_sortedNames (names : List String) : (sortedNames names).Nodup := by
  rw [sortedNames]
  induction names.mergeSort fun a b => !decide (b < a) using List.reverseRecOn with
  | nil => exact .nil
  | append_singleton names name ih =>
    rw [List.eraseDups_append]
    by_cases h : name ∈ names
    · simpa [List.removeAll, h] using ih
    · have hnew : ∀ other ∈ names, other ≠ name := fun other hother heq => h (heq ▸ hother)
      simpa [List.removeAll, h, List.nodup_append, List.eraseDups_cons] using ⟨ih, hnew⟩

/-- Grouping by key loses nothing and doubles nothing. -/
theorem flatMap_filter_perm {α : Type} {key : α → String} {keys : List String}
    (hnodup : keys.Nodup) {items : List α} (hkeys : ∀ item ∈ items, key item ∈ keys) :
    (keys.flatMap fun k => items.filter (key · == k)).Perm items := by
  induction keys generalizing items with
  | nil =>
    have hnil : items = [] := List.eq_nil_iff_forall_not_mem.2 fun item hitem => by
      simpa using hkeys item hitem
    rw [hnil]
    exact .refl _
  | cons k keys ih =>
    obtain ⟨hk, hnodup⟩ := List.nodup_cons.1 hnodup
    have hother : ∀ k' ∈ keys, items.filter (key · == k')
        = (items.filter fun item => !(key item == k)).filter (key · == k') := by
      intro k' hk'
      rw [List.filter_filter]
      refine List.filter_congr fun item _ => ?_
      by_cases hitem : key item = k'
      · have hne : k' ≠ k := fun heq => hk (heq ▸ hk')
        simp [hitem, hne]
      · simp [hitem]
    have hrest : ∀ item ∈ items.filter fun item => !(key item == k), key item ∈ keys := by
      intro item hitem
      obtain ⟨hmem, hne⟩ := List.mem_filter.1 hitem
      rcases List.mem_cons.1 (hkeys item hmem) with hkey | hkey
      · simp [hkey] at hne
      · exact hkey
    rw [List.flatMap_cons, List.flatMap_congr hother]
    exact ((ih hnodup hrest).append_left _).trans (List.filter_append_perm _ _)

namespace Report

variable {path : String} {r : Report}

theorem mem_editorKeys {key : String} : key ∈ r.editorKeys path ↔
    (∃ file ∈ r.files, file.path = key) ∨ (key = path ∧ r.pathDiagnostics ≠ []) := by
  rw [editorKeys, mem_sortedNames, List.mem_append, List.mem_map]
  refine or_congr_right ?_
  by_cases h : r.pathDiagnostics = []
  · simp [h]
  · simp [h, List.isEmpty_iff]

/-- What is filed under a path is what is located there, in order. -/
theorem filedUnder_eq (path : String) (r : Report) (key : String) :
    r.filedUnder path key = ((r.located path).filter (·.1 == key)).map (·.2) := by
  have hfile : ∀ file : FileReport,
      ((file.diagnostics.map fun d => (file.path, d)).filter (·.1 == key)).map (·.2)
        = if file.path == key then file.diagnostics else [] := by
    intro file
    by_cases h : file.path = key <;> simp [List.filter_map, Function.comp_def, h]
  have hfiles : ∀ files : List FileReport, (files.filter (·.path == key)).flatMap (·.diagnostics)
      = files.flatMap fun file => if file.path == key then file.diagnostics else [] := by
    intro files
    induction files with
    | nil => rfl
    | cons file files ih =>
      by_cases h : file.path = key <;> simp [h, ih]
  have hpath : ((r.pathDiagnostics.map fun d => (path, d)).filter (·.1 == key)).map (·.2)
      = if key = path then r.pathDiagnostics else [] := by
    by_cases h : key = path
    · simp [List.filter_map, Function.comp_def, h]
    · simp [List.filter_map, Function.comp_def, h, Ne.symm h]
  rw [filedUnder, hfiles, located, List.filter_append, List.map_append, List.filter_flatMap,
    List.map_flatMap, hpath]
  simp only [hfile]

/-- What is located somewhere is located under a path that is listed. -/
theorem mem_editorKeys_of_located {item : String × Diagnostic} (h : item ∈ r.located path) :
    item.1 ∈ r.editorKeys path := by
  rw [mem_editorKeys]
  rcases List.mem_append.1 h with hfile | hpath
  · obtain ⟨file, hmem, hitem⟩ := List.mem_flatMap.1 hfile
    obtain ⟨d, -, rfl⟩ := List.mem_map.1 hitem
    exact .inl ⟨file, hmem, rfl⟩
  · obtain ⟨d, hd, rfl⟩ := List.mem_map.1 hpath
    exact .inr ⟨rfl, List.ne_nil_of_mem hd⟩

/-! ### The counts -/

/-- Every finding has one of three severities. -/
theorem count_add_count_add_count (r : Report) :
    r.count .error + r.count .warning + r.count .info = r.total := by
  rw [total]
  simp only [count]
  induction r.diagnostics with
  | nil => rfl
  | cons d ds ih =>
    rw [List.length_cons, ← ih]
    cases hseverity : d.severity <;> simp [hseverity] <;> omega

theorem hasErrors_eq_false_iff_count : r.hasErrors = false ↔ r.count .error = 0 := by
  rw [hasErrors, count, List.any_eq_false, List.length_eq_zero_iff, List.filter_eq_nil_iff]

theorem length_located (path : String) (r : Report) :
    (r.located path).length = r.total + r.advisoryDiagnostics.length := by
  simp [located, total, diagnostics, pathDiagnostics, List.length_flatMap]
  omega

/-! ### What the documents of a report tell -/

theorem results?_sarif (path : String) (r : Report) : (r.sarif path).results?
    = some ((r.located path).map fun (place, d) => (slashed place, d.told.fromOne)) :=
  mapM_map_eq_some (fun (place, d) => Told.ofResult?_sarifResult place d) _

theorem groups?_editorJson (path : String) (r : Report) : (r.editorJson path).groups?
    = some ((r.editorKeys path).map fun key => (key, (r.filedUnder path key).map (·.told))) := by
  refine mapM_map_eq_some (fun key => ?_) _
  simp only [Json.items?, Option.bind_eq_bind, Option.bind_some,
    mapM_map_eq_some Told.ofEditor?_editorJson]
  rfl

/-- What is filed, path by path, is what is located, whatever is made of each entry. -/
theorem entries_perm {α : Type} (path : String) (r : Report) (tell : String → Told → α) :
    (((r.editorKeys path).map fun key =>
      (key, (r.filedUnder path key).map (·.told))).flatMap fun (key, entries) =>
        entries.map (tell key)).Perm
      ((r.located path).map fun (place, d) => tell place d.told) := by
  have hgrouped : ((r.editorKeys path).flatMap fun key =>
      (r.located path).filter (·.1 == key)).Perm (r.located path) :=
    flatMap_filter_perm (nodup_sortedNames _) fun _ => mem_editorKeys_of_located
  have hentries : ∀ key, ((r.filedUnder path key).map (·.told)).map (tell key)
      = ((r.located path).filter (·.1 == key)).map fun (place, d) => tell place d.told := by
    intro key
    rw [filedUnder_eq, List.map_map, List.map_map]
    refine List.map_congr_left fun item hitem => ?_
    rw [← (beq_iff_eq.1 (List.mem_filter.1 hitem).2)]
    rfl
  rw [List.flatMap_map]
  simp only [hentries]
  rw [← List.map_flatMap]
  exact hgrouped.map _

theorem ofListing?_listing (path : String) (r : Report) : Counts.ofListing? (r.listing path)
    = some {
        passed := !r.hasErrors, errors := r.count .error, warnings := r.count .warning,
        infos := r.count .info, advisory := r.advisoryDiagnostics.length } := by
  cases hadvisory : r.advisory <;>
    simp [Counts.ofListing?, listing, Json.field?, Json.bool?, Json.number?, Json.items?,
      advisoryDiagnostics, hadvisory]

/-- What is read in the log, in the editor diagnostics and in the listing of a report on a path is
about the same findings. -/
structure Agree (path : String) (r : Report) (results : List (String × Told))
    (groups : List (String × List Told)) (counts : Counts) : Prop where
  /-- The log has a result for each finding about a file, then for each finding about the project,
  then for each advisory one; the latter two are placed at the checked path. -/
  log : results
    = (r.files.flatMap fun file => file.diagnostics.map fun d =>
        (slashed file.path, d.told.fromOne)) ++
      (r.project.map fun d => (slashed path, d.told.fromOne)) ++
      r.advisoryDiagnostics.map fun d => (slashed path, d.told.fromOne)
  /-- A path without backslashes is written in the log as it is. -/
  places : (∀ place ∈ path :: r.files.map (·.path), '\\' ∉ place.toList) →
    results = (r.located path).map fun (place, d) => (place, d.told.fromOne)
  /-- No path is listed twice for the editor. -/
  nodup : (groups.map (·.1)).Nodup
  /-- Every file is listed, and the checked path if something is filed under it. -/
  keys : ∀ key, key ∈ groups.map (·.1) ↔
    (∃ file ∈ r.files, file.path = key) ∨ (key = path ∧ r.pathDiagnostics ≠ [])
  /-- What is filed under a path is what is found there, in the same order. -/
  filed : ∀ group ∈ groups,
    group.2 = ((r.located path).filter (·.1 = group.1)).map (·.2.told)
  /-- Everything is filed once. -/
  once : (groups.flatMap fun (key, entries) => entries.map fun told => (key, told)).Perm
    ((r.located path).map fun (place, d) => (place, d.told))
  /-- The editor and the log tell the same, but that the log counts lines and columns from one. -/
  same : (groups.flatMap fun (key, entries) => entries.map fun told =>
    (slashed key, told.fromOne)).Perm results
  /-- The counts of the listing make up the number of findings that are not advisory. -/
  total : counts.errors + counts.warnings + counts.infos = r.total
  /-- The check is passed exactly if no error is counted. -/
  passed : counts.passed = true ↔ counts.errors = 0
  /-- The log has as many results as there are findings, with the advisory ones. -/
  length : results.length = r.total + counts.advisory

/-- **The renderings of every report agree.** -/
theorem renderings_agree (path : String) (r : Report) :
    ∃ results groups counts, (r.sarif path).results? = some results ∧
      (r.editorJson path).groups? = some groups ∧
      Counts.ofListing? (r.listing path) = some counts ∧ r.Agree path results groups counts := by
  refine ⟨_, _, _, results?_sarif path r, groups?_editorJson path r, ofListing?_listing path r, ?_⟩
  have hkeys : ((r.editorKeys path).map fun key =>
      (key, (r.filedUnder path key).map (·.told))).map (·.1) = r.editorKeys path := by
    simp [Function.comp_def]
  exact {
    log := by simp [located, pathDiagnostics, List.map_flatMap, Function.comp_def]
    places := by
      intro hplaces
      refine List.map_congr_left fun (place, d) hitem => ?_
      have hplace : place ∈ path :: r.files.map (·.path) := by
        rcases mem_editorKeys.1 (mem_editorKeys_of_located hitem) with ⟨file, hfile, rfl⟩ | ⟨rfl, -⟩
        · exact List.mem_cons_of_mem _ (List.mem_map_of_mem hfile)
        · exact List.mem_cons_self
      show (slashed place, d.told.fromOne) = (place, d.told.fromOne)
      rw [slashed_of_notMem (hplaces place hplace)]
    nodup := by
      rw [hkeys]
      exact nodup_sortedNames _
    keys := fun key => by rw [hkeys, mem_editorKeys]
    filed := by
      intro group hgroup
      obtain ⟨key, -, rfl⟩ := List.mem_map.1 hgroup
      simp [filedUnder_eq, Function.comp_def, beq_eq_decide]
    once := entries_perm path r fun key told => (key, told)
    same := entries_perm path r fun key told => (slashed key, told.fromOne)
    total := r.count_add_count_add_count
    passed := by simp [hasErrors_eq_false_iff_count]
    length := by rw [List.length_map, length_located] }

end Report

end SdkAudit
