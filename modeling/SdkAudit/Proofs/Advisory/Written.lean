import Mathlib
import SdkAudit.Advisory.Prompt
import SdkAudit.Proofs.Advisory.Entries

/-!
# Findings in the form that is asked for

An advisor is asked to answer in four sections, each a heading with a bullet for every finding, with
a blank line after each section but the last.  Findings that are written so are read back.

* `Findings.written` — the form that is asked for;
* `Narrative.IsEntry` — what can be written as one bullet;
* `Narrative.blocks_written` — the sections are the blocks;
* `Narrative.contributions_written` — the bullets are what is added;
* `Narrative.read_written` — **what is written is read back**, with the entry for the initializer if
  a bullet reports it.
-/

namespace SdkAudit

/-- Every section, in the order in which they are asked for. -/
def Section.all : List Section := [.critical, .missing, .improvements, .security]

/-- The heading of a section in the form that is asked for. -/
def Section.title : Section → String
  | .critical => "Critical Issues:"
  | .missing => "Missing Implementations:"
  | .improvements => "Improvements Needed:"
  | .security => "Security Concerns:"

theorem Section.mem_all (s : Section) : s ∈ Section.all := by
  cases s <;> decide

namespace Findings

/-- The lines of a section: its heading, and a bullet for each entry. -/
def sectionLines (f : Findings) (s : Section) : List String :=
  s.title :: (f.entries s).map ("- " ++ ·)

/-- The lines of findings, with blank lines between the sections. -/
def writtenLines (f : Findings) : List String :=
  f.sectionLines .critical ++ "" :: (f.sectionLines .missing ++ "" ::
    (f.sectionLines .improvements ++ "" :: f.sectionLines .security))

/-- Findings in the form that is asked for. -/
def written (f : Findings) : String := "\n".intercalate f.writtenLines

end Findings

/-- It is the form of the prompt. -/
example : ∃ before behind, RuleSet.answerForm = before ++ (Findings.written
      ⟨["<list each critical issue>"], ["<list missing required methods>"],
        ["<list suggested improvements>"], ["<list security issues>"]⟩ ++ behind) :=
  ⟨"4. Error Handling:\n- Check for try-catch blocks around SDK calls\n" ++
      "- Verify proper error handling patterns\n\nFORMAT YOUR RESPONSE AS FOLLOWS:\n",
    "\n\nUse exact method names and parameters from the documentation.\n" ++
      "Flag ANY deviation from the documentation as an issue.\n", by decide +kernel⟩

namespace Narrative

open Text

/-- What can be written as one bullet: a line without white space at its ends, which is neither
empty nor made of dashes only. -/
structure IsEntry (entry : String) : Prop where
  line : '\n' ∉ entry.toList
  trimmed : trim entry.toList = entry.toList
  solid : entry.toList.all (· = '-') = false

instance (entry : String) : Decidable (IsEntry entry) :=
  decidable_of_iff ('\n' ∉ entry.toList ∧ trim entry.toList = entry.toList ∧
      entry.toList.all (· = '-') = false)
    ⟨fun h => ⟨h.1, h.2.1, h.2.2⟩, fun h => ⟨h.line, h.trimmed, h.solid⟩⟩

def bulletOf (entry : String) : List Char := '-' :: ' ' :: entry.toList

theorem toList_bulletOf (entry : String) : ("- " ++ entry).toList = bulletOf entry := by
  rw [String.toList_append]
  rfl

/-! ### Bullets and headings that are written -/

variable {entry : String}

theorem IsEntry.exists_ne_dash (h : IsEntry entry) : ∃ c ∈ entry.toList, c ≠ '-' := by
  simpa using h.solid

theorem IsEntry.ne_nil (h : IsEntry entry) : entry.toList ≠ [] := by
  obtain ⟨c, hc, -⟩ := h.exists_ne_dash
  exact List.ne_nil_of_mem hc

theorem IsEntry.trim_bulletOf (h : IsEntry entry) : trim (bulletOf entry) = bulletOf entry := by
  refine trim_eq_self_iff.2 ⟨?_, fun c hc => ?_⟩
  · rintro c ⟨⟩
    decide
  · have hlast := (trim_eq_self_iff.1 h.trimmed).2
    rw [bulletOf, List.getLast?_cons_of_ne_nil (List.cons_ne_nil _ _),
      List.getLast?_cons_of_ne_nil h.ne_nil] at hc
    exact hlast c hc

/-- The blank behind the sign of a bullet does not belong to its content. -/
theorem IsEntry.bullet?_bulletOf (h : IsEntry entry) :
    bullet? (bulletOf entry) = some entry.toList := by
  have htrim : trim (' ' :: entry.toList) = trim entry.toList := by
    rw [trim, trimStart, List.dropWhile_cons_of_pos (by decide)]
    rfl
  exact bullet?_eq_some_iff.2 ⟨_, rfl, htrim.trans h.trimmed, h.exists_ne_dash⟩

theorem IsEntry.newline_notMem (h : IsEntry entry) : '\n' ∉ bulletOf entry := by
  simp [bulletOf, h.line]

theorem trim_title (s : Section) : trim s.title.toList = s.title.toList := by
  cases s <;> decide +kernel

theorem newline_notMem_title (s : Section) : '\n' ∉ s.title.toList := by
  cases s <;> decide +kernel

theorem bullet?_title (s : Section) : bullet? s.title.toList = none := by
  cases s <;> rfl

/-- Every section has its own heading. -/
theorem heading?_title (s : Section) : heading? s.title.toList = some s := by
  cases s <;> decide +kernel

/-! ### Sections that are written -/

variable {f : Findings}

def sectionBlock (f : Findings) (s : Section) : List (List Char) :=
  s.title.toList :: (f.entries s).map bulletOf

theorem map_toList_sectionLines (f : Findings) (s : Section) :
    (f.sectionLines s).map String.toList = sectionBlock f s := by
  rw [Findings.sectionLines, List.map_cons, List.map_map, sectionBlock]
  exact congrArg _ (List.map_congr_left fun entry _ => toList_bulletOf entry)

theorem forall_sectionBlock (h : ∀ s, ∀ entry ∈ f.entries s, IsEntry entry) (s : Section) :
    ∀ line ∈ sectionBlock f s, trim line = line ∧ line ≠ [] ∧ '\n' ∉ line := by
  intro line hline
  rcases List.mem_cons.1 hline with rfl | hbullet
  · exact ⟨trim_title s, by cases s <;> decide, newline_notMem_title s⟩
  · obtain ⟨entry, hentry, rfl⟩ := List.mem_map.1 hbullet
    exact ⟨(h s entry hentry).trim_bulletOf, List.cons_ne_nil _ _,
      (h s entry hentry).newline_notMem⟩

theorem blocksOf_sectionBlock (h : ∀ s, ∀ entry ∈ f.entries s, IsEntry entry) (s : Section) :
    blocksOf (sectionBlock f s) = [sectionBlock f s] := by
  have hlines := forall_sectionBlock h s
  exact blocksOf_of_trimmed (List.cons_ne_nil _ _) fun line hline =>
    ⟨(hlines line hline).1, (hlines line hline).2.1⟩

/-- The sections are the blocks. -/
theorem blocks_written (h : ∀ s, ∀ entry ∈ f.entries s, IsEntry entry) :
    blocks f.written.toList = Section.all.map (sectionBlock f) := by
  have hlines : f.writtenLines.map String.toList = sectionBlock f .critical ++ [] ::
      (sectionBlock f .missing ++ [] ::
        (sectionBlock f .improvements ++ [] :: sectionBlock f .security)) := by
    simp only [Findings.writtenLines, List.map_append, List.map_cons, map_toList_sectionLines]
    rfl
  have hnewline : ∀ line ∈ f.writtenLines.map String.toList, '\n' ∉ line := by
    have hsection := fun s line hline => (forall_sectionBlock h s line hline).2.2
    rw [hlines]
    simp only [List.forall_mem_append, List.forall_mem_cons]
    exact ⟨hsection _, List.not_mem_nil, hsection _, List.not_mem_nil, hsection _,
      List.not_mem_nil, hsection _⟩
  have hsplit : f.written.toList.splitOn '\n' = f.writtenLines.map String.toList :=
    Text.splitOn_intercalate rfl (fun line hline => hnewline _ (List.mem_map_of_mem hline))
      (by simp [Findings.writtenLines])
  rw [blocks_eq, hsplit, hlines]
  iterate 3 rw [blocksOf_append_blank trim_nil]
  simp only [blocksOf_sectionBlock h, List.singleton_append]
  rfl

/-- The heading of a section names it, and each bullet adds its entry. -/
theorem blockEntries_sectionBlock (h : ∀ s, ∀ entry ∈ f.entries s, IsEntry entry) (s : Section) :
    blockEntries (sectionBlock f s) = (f.entries s).map (s, ·) := by
  have hsection : sectionOf? (sectionBlock f s) = some s := by
    simp [sectionOf?, sectionBlock, bullet?_title, heading?_title]
  have htitle : contribution? (some s) s.title.toList = none := by
    simp [contribution?, isHeading, bullet?_title, heading?_title]
  rw [blockEntries, hsection, sectionBlock, List.filterMap_cons_none htitle, List.filterMap_map]
  rw [← List.filterMap_eq_map]
  refine List.filterMap_congr fun entry hentry => ?_
  have hbullet := (h s entry hentry).bullet?_bulletOf
  refine contribution?_eq_some_iff.2 ⟨.inl ⟨by simp [hbullet], rfl⟩, ?_⟩
  rw [content, hbullet]
  exact String.ofList_toList

/-- **The bullets are what is added**, section by section. -/
theorem contributions_written (h : ∀ s, ∀ entry ∈ f.entries s, IsEntry entry) :
    contributions f.written.toList =
      Section.all.flatMap fun s => (f.entries s).map fun entry => (s, entry) := by
  rw [contributions, blocks_written h, List.flatMap_map]
  exact List.flatMap_congr fun s _ => blockEntries_sectionBlock h s

theorem entries_of_contributions_written (h : ∀ s, ∀ entry ∈ f.entries s, IsEntry entry)
    (s : Section) :
    ((contributions f.written.toList).filter (·.1 = s)).map (·.2) = f.entries s := by
  have hfilter (t : Section) : (((f.entries t).map (t, ·)).filter (·.1 = s)).map (·.2)
      = if t = s then f.entries t else [] := by
    by_cases ht : t = s <;> simp [List.filter_map, Function.comp_def, ht]
  rw [contributions_written h, List.filter_flatMap, List.map_flatMap]
  simp only [hfilter]
  cases s <;> simp [Section.all]

/-! ### Reading what is written -/

/-- A bullet of the findings reports that the initializer is missing. -/
def ReportsMissing (f : Findings) (initializer : String) : Prop :=
  ∃ s, ∃ entry ∈ f.entries s,
    missingTag <:+: entry.toList ∧ initializer.toList <:+: ("- " ++ entry).toList

theorem reportsInitializer_written (h : ∀ s, ∀ entry ∈ f.entries s, IsEntry entry)
    (initializer : String) :
    ReportsInitializer initializer f.written.toList ↔ ReportsMissing f initializer := by
  have hbullet (s : Section) (entry : String) (hentry : entry ∈ f.entries s) :
      reportsInitializer initializer (bulletOf entry) = true ↔
        missingTag <:+: entry.toList ∧ initializer.toList <:+: ("- " ++ entry).toList := by
    have hcontent : content (bulletOf entry) = entry.toList := by
      rw [content, (h s entry hentry).bullet?_bulletOf, Option.getD_some]
    have hheading : isHeading (bulletOf entry) = false := by
      simp [isHeading, (h s entry hentry).bullet?_bulletOf]
    rw [reportsInitializer_iff, toList_bulletOf, ← isTaggedMissing_content, hcontent,
      isTaggedMissing, holds_iff]
    exact and_iff_right hheading
  have htitle (s : Section) : reportsInitializer initializer s.title.toList = false := by
    simp [reportsInitializer, isHeading, bullet?_title, heading?_title]
  have hsection (s : Section) :
      (∃ line ∈ sectionBlock f s, reportsInitializer initializer line = true) ↔
        ∃ entry ∈ f.entries s,
          missingTag <:+: entry.toList ∧ initializer.toList <:+: ("- " ++ entry).toList := by
    simp only [sectionBlock, List.mem_cons, List.mem_map, exists_eq_or_imp, htitle,
      Bool.false_eq_true, false_or, exists_exists_and_eq_and]
    exact exists_congr fun entry => and_congr_right fun hentry => hbullet s entry hentry
  rw [reportsInitializer_iff_blocks, blocks_written h, ReportsMissing]
  simp only [List.mem_map, Section.mem_all, true_and, exists_exists_eq_and, hsection]

open Classical in
theorem gather_written (h : ∀ s, ∀ entry ∈ f.entries s, IsEntry entry) (initializer : String) :
    gather initializer f.written.toList =
      if ReportsMissing f initializer then f.add .critical (missingInitializerEntry initializer)
        else f := by
  refine Findings.eq_of_entries fun s => ?_
  rw [entries_gather, entries_of_contributions_written h, reportsInitializer_written h]
  by_cases hreports : ReportsMissing f initializer
  · rw [if_pos hreports, Findings.entries_add]
    simp [hreports, eq_comm]
  · simp [hreports]

/-- **What is written is read back**, whether the last line is ended or not: the findings with the
fixed entry in every empty list, and with the entry for the initializer exactly if a bullet reports
it.  For an initializer that begins with neither a dash nor a blank that is the case exactly if an
entry holds both the tag and the initializer. -/
theorem read_written (initializer : String) (f : Findings)
    (h : ∀ s, ∀ entry ∈ f.entries s, IsEntry entry) :
    (∀ ending ∈ ["", "\n"],
      (ReportsMissing f initializer → read initializer (f.written ++ ending)
          = (f.add .critical (missingInitializerEntry initializer)).filled) ∧
        (¬ ReportsMissing f initializer → read initializer (f.written ++ ending) = f.filled)) ∧
      ((∀ c ∈ initializer.toList.head?, c ≠ '-' ∧ c ≠ ' ') →
        (ReportsMissing f initializer ↔ ∃ s, ∃ entry ∈ f.entries s,
          missingTag <:+: entry.toList ∧ initializer.toList <:+: entry.toList)) := by
  have hread (ending : String) (hending : ending ∈ ["", "\n"]) :
      read initializer (f.written ++ ending) = (gather initializer f.written.toList).filled := by
    have hblocks : blocks (f.written ++ ending).toList = blocks f.written.toList := by
      rw [String.toList_append]
      simp only [List.mem_cons, List.not_mem_nil, or_false] at hending
      rcases hending with rfl | rfl
      · rw [String.toList_empty, List.append_nil]
      · exact blocks_append_newline _
    rw [read, gather, gather, hblocks]
  refine ⟨fun ending hending => ?_, fun hhead => ?_⟩
  · rw [hread ending hending, gather_written h]
    exact ⟨fun hreports => by rw [if_pos hreports], fun hreports => by rw [if_neg hreports]⟩
  · have hbullet (entry : String) : initializer.toList <:+: ("- " ++ entry).toList ↔
        initializer.toList <:+: entry.toList := by
      rw [String.toList_append, infix_append_left_iff]
      intro c hc
      obtain ⟨hdash, hblank⟩ := hhead c hc
      have hsign : "- ".toList = ['-', ' '] := rfl
      simp [hsign, hdash, hblank]
    simp only [ReportsMissing, hbullet]

/-- For instance where an entry looks like a heading. -/
theorem read_written_heading_entry :
    (∀ s, ∀ entry ∈ (Findings.mk ["Security Concerns: • x"] ["[MISSING] MappSdk.engage()"] []
        []).entries s, IsEntry entry) ∧
      read "MappSdk.engage" (Findings.written ⟨["Security Concerns: • x"],
          ["[MISSING] MappSdk.engage()"], [], []⟩ ++ "\n")
        = (Findings.mk ["Security Concerns: • x",
            "Missing SDK initialization: MappSdk.engage() not found"]
          ["[MISSING] MappSdk.engage()"] [] []).filled := by
  have hentries : ∀ s, ∀ entry ∈ (Findings.mk ["Security Concerns: • x"]
      ["[MISSING] MappSdk.engage()"] [] []).entries s, IsEntry entry := by
    intro s
    cases s <;> decide +kernel
  have hreports : ReportsMissing ⟨["Security Concerns: • x"], ["[MISSING] MappSdk.engage()"], [],
      []⟩ "MappSdk.engage" :=
    ⟨.missing, _, List.mem_singleton_self _, holds_iff.1 (by decide +kernel),
      holds_iff.1 (by decide +kernel)⟩
  exact ⟨hentries, ((read_written _ _ hentries).1 "\n" (by simp)).1 hreports⟩

/-- The sign of a bullet and the blank behind it belong to its line: an initializer that begins with
them can be reported though no entry holds it. -/
theorem read_written_initializer_blank :
    (∀ s, ∀ entry ∈ (Findings.mk ["a[MISSING]"] [] [] []).entries s,
        IsEntry entry ∧ ¬ " ".toList <:+: entry.toList) ∧
      (read " " (Findings.written ⟨["a[MISSING]"], [], [], []⟩)).critical
        = ["a[MISSING]", "Missing SDK initialization:  () not found"] := by
  refine ⟨fun s => ?_, by decide +kernel⟩
  simp only [← holds_iff]
  cases s <;> decide +kernel

end Narrative

end SdkAudit
