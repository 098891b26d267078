import Mathlib
import SdkAudit.Proofs.Advisory.Entries

/-!
# Methods that are told to be missing or found

An advisor tags the methods that it looked for as missing or as found.  What is tagged as missing
ends up in some list, unless it stands on the heading of a section, which is dropped with its tag.
What is only tagged as found is passed over, unless it stands in a bullet of a section, whose tags
are not looked at.

* `Narrative.exists_contribution` — a line that is tagged as missing is collected if it is no
  heading;
* `Narrative.keepsGaps_iff` — **a reported gap is lost exactly if it stands on a heading only**;
* `Narrative.omitsFound_iff` — **what is only found is collected exactly if it stands in a bullet of
  a section**;
* `Narrative.keepsGaps_heading`, `Narrative.omitsFound_bullet` — an answer of each kind.
-/

namespace SdkAudit.Narrative

open Text

variable {initializer text : String} {line : List Char}

/-! ### Tags -/

def foundTag : List Char := "[FOUND]".toList

theorem infix_foundTag_content_iff : foundTag <:+: content line ↔ foundTag <:+: line := by
  have htrim : trim foundTag = foundTag := by decide +kernel
  have hhead : foundTag.head? = some '[' := rfl
  refine infix_content_iff htrim ?_
  rw [hhead]
  rintro c ⟨⟩
  decide

theorem infix_missingTag_content_iff : missingTag <:+: content line ↔ missingTag <:+: line := by
  rw [← holds_iff, ← holds_iff]
  exact iff_of_eq (congrArg (· = true) (isTaggedMissing_content line))

theorem toList_missingInitializerEntry (initializer : String) :
    (missingInitializerEntry initializer).toList = 'M' :: "issing SDK initialization: ".toList ++
      initializer.toList ++ "() not found".toList := by
  have hlist (a b c : String) : (a ++ b ++ c).toList = a.toList ++ b.toList ++ c.toList := by
    rw [String.toList_append, String.toList_append]
  have hfirst :
      "Missing SDK initialization: ".toList = 'M' :: "issing SDK initialization: ".toList := rfl
  rw [← hfirst]
  exact hlist _ _ _

/-- A tag lies in the entry for the initializer only if it lies in the name of the initializer. -/
theorem infix_missingInitializerEntry_iff {tag : List Char} (hhead : tag.head? = some '[')
    (hlast : tag.getLast? = some ']') :
    tag <:+: (missingInitializerEntry initializer).toList ↔ tag <:+: initializer.toList := by
  have hbefore : '[' ∉ 'M' :: "issing SDK initialization: ".toList := by decide +kernel
  have hbehind : ']' ∉ "() not found".toList := by decide +kernel
  have hleft : ∀ c ∈ tag.head?, c ∉ 'M' :: "issing SDK initialization: ".toList := by
    rw [hhead]
    rintro c ⟨⟩
    exact hbefore
  have hright : ∀ c ∈ tag.getLast?, c ∉ "() not found".toList := by
    rw [hlast]
    rintro c ⟨⟩
    exact hbehind
  rw [toList_missingInitializerEntry]
  exact (infix_append_right_iff hright).trans (infix_append_left_iff hleft)

/-- The fixed entries of empty lists hold no tag. -/
theorem not_infix_emptyEntry (s : Section) :
    ¬ missingTag <:+: s.emptyEntry.toList ∧ ¬ foundTag <:+: s.emptyEntry.toList := by
  simp only [← holds_iff]
  cases s <;> decide +kernel

theorem missingInitializerEntry_ne_emptyEntry (s : Section) :
    missingInitializerEntry initializer ≠ s.emptyEntry := by
  have hentry : (missingInitializerEntry initializer).toList.head? = some 'M' :=
    congrArg List.head? (toList_missingInitializerEntry initializer)
  have hempty : s.emptyEntry.toList.head? ≠ some 'M' := by cases s <;> decide +kernel
  intro h
  rw [h] at hentry
  exact hempty hentry

/-! ### What is missing -/

/-- No reported gap is lost. -/
structure KeepsGaps (initializer text : String) : Prop where
  /-- Every line that is tagged as missing has its content in some list. -/
  listed : ∀ line ∈ trimmedLines text.toList, isTaggedMissing line = true →
    ∃ s, String.ofList (content line) ∈ (read initializer text).entries s
  /-- If one of them holds the initializer, the entry for the initializer is a critical one. -/
  initializer : (∃ line ∈ trimmedLines text.toList, isTaggedMissing line = true ∧
      initializer.toList <:+: line) →
    missingInitializerEntry initializer ∈ (read initializer text).critical

/-- What headings report as missing is reported elsewhere too. -/
structure RepeatsHeadings (initializer text : String) : Prop where
  /-- A heading that is tagged as missing is the content of a bullet, or in the wording of the entry
  for the initializer, which is added. -/
  listed : ∀ line ∈ trimmedLines text.toList, isHeading line = true → isTaggedMissing line = true →
    (∃ other ∈ trimmedLines text.toList, bullet? other = some line) ∨
      ReportsInitializer initializer text.toList ∧
        String.ofList line = missingInitializerEntry initializer
  /-- If one of them holds the initializer, so does a line that is tagged as missing and no heading,
  or a bullet among the critical ones is the entry for the initializer. -/
  initializer : (∃ line ∈ trimmedLines text.toList, isHeading line = true ∧
      isTaggedMissing line = true ∧ initializer.toList <:+: line) →
    ReportsInitializer initializer text.toList ∨
      ∃ block ∈ blocks text.toList, sectionOf? block = some .critical ∧
        ∃ line ∈ block, bullet? line = some (missingInitializerEntry initializer).toList

theorem content_of_bullet?_eq_none (h : bullet? line = none) : content line = line := by
  rw [content, h, Option.getD_none]

/-- A line that is tagged as missing is collected if it is no heading. -/
theorem exists_contribution (hline : line ∈ trimmedLines text.toList)
    (htag : isTaggedMissing line = true) (hheading : isHeading line = false) :
    ∃ s, (s, String.ofList (content line)) ∈ contributions text.toList := by
  obtain ⟨block, hblock, hmem⟩ := exists_block_of_isTaggedMissing hline htag
  have hadds (s : Section) (h : contribution? (sectionOf? block) line
      = some (s, String.ofList (content line))) :
      ∃ s, (s, String.ofList (content line)) ∈ contributions text.toList :=
    ⟨s, mem_contributions.2 ⟨block, hblock, line, hmem, h⟩⟩
  cases hbullet : bullet? line with
  | none =>
    have hnone : heading? line = none := by
      simpa [isHeading, hbullet] using hheading
    exact hadds .missing (contribution?_eq_some_iff.2
      ⟨.inr ⟨.inr ⟨hbullet, hnone⟩, htag, rfl⟩, rfl⟩)
  | some item =>
    have hne : bullet? line ≠ none := by simp [hbullet]
    cases hsection : sectionOf? block with
    | none =>
      exact hadds .missing (contribution?_eq_some_iff.2
        ⟨.inr ⟨.inl ⟨hne, hsection⟩, htag, rfl⟩, rfl⟩)
    | some s => exact hadds s (contribution?_eq_some_iff.2 ⟨.inl ⟨hne, hsection⟩, rfl⟩)

/-- What is collected from a text in the words of a heading is a bullet. -/
theorem exists_bullet_of_contribution {s : Section} (hheading : isHeading line = true)
    (h : (s, String.ofList line) ∈ contributions text.toList) :
    ∃ other ∈ trimmedLines text.toList, bullet? other = some line := by
  obtain ⟨block, hblock, other, hother, hadds⟩ := mem_contributions.1 h
  obtain ⟨hkind, hcontent⟩ := contribution?_eq_some_iff.1 hadds
  refine ⟨other, (mem_blocks_iff.1 ⟨block, hblock, hother⟩).1, ?_⟩
  have hline : content other = line := String.ofList_injective hcontent
  cases hbullet : bullet? other with
  | some item =>
    rw [content, hbullet, Option.getD_some] at hline
    rw [hline]
  | none =>
    -- a line that is collected without being a bullet is no heading
    rw [content_of_bullet?_eq_none hbullet] at hline
    rw [hline] at hkind hbullet
    have hnone : heading? line ≠ none := (isHeading_iff.1 hheading).2
    simp [hbullet, hnone] at hkind

theorem mem_entries_heading_iff (hheading : isHeading line = true)
    (htag : isTaggedMissing line = true) :
    (∃ s, String.ofList line ∈ (read initializer text).entries s) ↔
      (∃ other ∈ trimmedLines text.toList, bullet? other = some line) ∨
        ReportsInitializer initializer text.toList ∧
          String.ofList line = missingInitializerEntry initializer := by
  constructor
  · rintro ⟨s, hs⟩
    rcases mem_entries_read.1 hs with hadds | ⟨-, hreports, hentry⟩ | ⟨-, hentry⟩
    · exact .inl (exists_bullet_of_contribution hheading hadds)
    · exact .inr ⟨hreports, hentry⟩
    · refine absurd (holds_iff.1 htag) ?_
      rw [← String.toList_ofList (l := line), hentry]
      exact (not_infix_emptyEntry s).1
  · rintro (⟨other, hother, hbullet⟩ | ⟨hreports, hentry⟩)
    · have hcontent : content other = line := by rw [content, hbullet, Option.getD_some]
      have hother_tag : isTaggedMissing other = true := by
        rw [← isTaggedMissing_content, hcontent]
        exact htag
      have hother_heading : isHeading other = false := by simp [isHeading, hbullet]
      obtain ⟨s, hs⟩ := exists_contribution hother hother_tag hother_heading
      rw [hcontent] at hs
      exact ⟨s, mem_entries_read.2 (.inl hs)⟩
    · exact ⟨.critical, mem_entries_read.2 (.inr (.inl ⟨rfl, hreports, hentry⟩))⟩

/-- The entry for the initializer is a critical one if a line reports it, or in its own words. -/
theorem mem_critical_iff : missingInitializerEntry initializer ∈ (read initializer text).critical ↔
    ReportsInitializer initializer text.toList ∨
      ∃ block ∈ blocks text.toList, sectionOf? block = some .critical ∧
        ∃ line ∈ block, bullet? line = some (missingInitializerEntry initializer).toList := by
  have hcritical : (Section.critical, missingInitializerEntry initializer)
      ∈ contributions text.toList ↔ ∃ block ∈ blocks text.toList,
        sectionOf? block = some .critical ∧
          ∃ line ∈ block, bullet? line = some (missingInitializerEntry initializer).toList := by
    rw [mem_contributions]
    refine exists_congr fun block => and_congr_right fun _ => ?_
    simp only [contribution?_eq_some_iff]
    constructor
    · rintro ⟨line, hline, ⟨hbullet, hsection⟩ | ⟨-, -, hmissing⟩, hcontent⟩
      · obtain ⟨item, hitem⟩ := Option.ne_none_iff_exists'.1 hbullet
        rw [content, hitem, Option.getD_some] at hcontent
        exact ⟨hsection, line, hline, by rw [hitem, ← hcontent, String.toList_ofList]⟩
      · cases hmissing
    · rintro ⟨hsection, line, hline, hbullet⟩
      refine ⟨line, hline, .inl ⟨by simp [hbullet], hsection⟩, ?_⟩
      rw [content, hbullet, Option.getD_some, String.ofList_toList]
  rw [← hcritical, or_comm]
  show missingInitializerEntry initializer ∈ (read initializer text).entries .critical ↔ _
  rw [mem_entries_read]
  simp [missingInitializerEntry_ne_emptyEntry]

/-- **A reported gap is lost exactly if it stands on a heading only**: every line that is tagged as
missing and is no heading is collected, and no gap is lost exactly if those on headings are reported
elsewhere too. -/
theorem keepsGaps_iff (initializer text : String) :
    (∀ line ∈ trimmedLines text.toList, isHeading line = false → isTaggedMissing line = true →
      (∃ s, String.ofList (content line) ∈ (read initializer text).entries s) ∧
        (initializer.toList <:+: line →
          missingInitializerEntry initializer ∈ (read initializer text).critical)) ∧
      (KeepsGaps initializer text ↔ RepeatsHeadings initializer text) := by
  have hkept : ∀ line ∈ trimmedLines text.toList, isHeading line = false →
      isTaggedMissing line = true →
      (∃ s, String.ofList (content line) ∈ (read initializer text).entries s) ∧
        (initializer.toList <:+: line →
          missingInitializerEntry initializer ∈ (read initializer text).critical) := by
    intro line hline hheading htag
    obtain ⟨s, hs⟩ := exists_contribution hline htag hheading
    refine ⟨⟨s, mem_entries_read.2 (.inl hs)⟩, fun hholds => mem_critical_iff.2 (.inl ?_)⟩
    exact ⟨line, hline, reportsInitializer_iff.2 ⟨hheading, htag, hholds⟩⟩
  have hcontent {line : List Char} (hheading : isHeading line = true) : content line = line :=
    content_of_bullet?_eq_none (isHeading_iff.1 hheading).1
  refine ⟨hkept, fun h => ⟨?_, ?_⟩, fun h => ⟨?_, ?_⟩⟩
  · intro line hline hheading htag
    have hlisted := h.listed line hline htag
    rw [hcontent hheading] at hlisted
    exact (mem_entries_heading_iff hheading htag).1 hlisted
  · rintro ⟨line, hline, -, htag, hholds⟩
    exact mem_critical_iff.1 (h.initializer ⟨line, hline, htag, hholds⟩)
  · intro line hline htag
    cases hheading : isHeading line with
    | false => exact (hkept line hline hheading htag).1
    | true =>
      rw [hcontent hheading]
      exact (mem_entries_heading_iff hheading htag).2 (h.listed line hline hheading htag)
  · rintro ⟨line, hline, htag, hholds⟩
    cases hheading : isHeading line with
    | false => exact (hkept line hline hheading htag).2 hholds
    | true => exact mem_critical_iff.2 (h.initializer ⟨line, hline, hheading, htag, hholds⟩)

/-- For instance where a gap is told right behind a heading. -/
theorem keepsGaps_heading :
    (∃ line ∈ trimmedLines "Critical Issues: [MISSING] MappSdk.engage()".toList,
        isTaggedMissing line = true ∧ "MappSdk.engage".toList <:+: line) ∧
      read "MappSdk.engage" "Critical Issues: [MISSING] MappSdk.engage()"
        = ({} : Findings).filled := by
  refine ⟨⟨_, List.mem_singleton_self _, ?_, ?_⟩, ?_⟩
  · decide +kernel
  · rw [← holds_iff]
    decide +kernel
  · decide +kernel

/-! ### What is found -/

/-- Nothing that is tagged as found only is collected. -/
structure OmitsFound (initializer text : String) : Prop where
  listed : ∀ s, ∀ entry ∈ (read initializer text).entries s,
    foundTag <:+: entry.toList → missingTag <:+: entry.toList
  diagnosed : ∀ d ∈ (read initializer text).diagnostics,
    foundTag <:+: d.message.toList → missingTag <:+: d.message.toList

/-- No bullet of a section is tagged as found only, and no initializer is named so. -/
structure TellsFoundApart (initializer text : String) : Prop where
  bullets : ∀ block ∈ blocks text.toList, sectionOf? block ≠ none → ∀ line ∈ block,
    bullet? line ≠ none → foundTag <:+: line → missingTag <:+: line
  initializer : ReportsInitializer initializer text.toList →
    foundTag <:+: initializer.toList → missingTag <:+: initializer.toList

/-- What findings say as diagnostics is in their lists. -/
theorem exists_entry_of_mem_diagnostics {f : Findings} {d : Diagnostic} (h : d ∈ f.diagnostics) :
    ∃ s, d.message ∈ f.entries s := by
  rcases List.mem_append.1 h with hd | hd
  · obtain ⟨entry, hentry, rfl⟩ := List.mem_map.1 hd
    exact ⟨.critical, (List.mem_filter.1 hentry).1⟩
  · obtain ⟨entry, hentry, rfl⟩ := List.mem_map.1 hd
    exact ⟨.missing, (List.mem_filter.1 hentry).1⟩

/-- **What is only found is collected exactly if it stands in a bullet of a section**, or is the
name of an initializer that is missing. -/
theorem omitsFound_iff (initializer text : String) :
    OmitsFound initializer text ↔ TellsFoundApart initializer text := by
  have hmissing : missingTag <:+: (missingInitializerEntry initializer).toList ↔
      missingTag <:+: initializer.toList := infix_missingInitializerEntry_iff rfl rfl
  have hfoundEntry : foundTag <:+: (missingInitializerEntry initializer).toList ↔
      foundTag <:+: initializer.toList := infix_missingInitializerEntry_iff rfl rfl
  constructor
  · intro h
    constructor
    · intro block hblock hsection line hline hbullet hfound
      obtain ⟨s, hs⟩ := Option.ne_none_iff_exists'.1 hsection
      have hadds : (s, String.ofList (content line)) ∈ contributions text.toList :=
        mem_contributions.2 ⟨block, hblock, line, hline,
          contribution?_eq_some_iff.2 ⟨.inl ⟨hbullet, hs⟩, rfl⟩⟩
      have hentry := h.listed s _ (mem_entries_read.2 (.inl hadds))
      rw [String.toList_ofList, infix_foundTag_content_iff, infix_missingTag_content_iff] at hentry
      exact hentry hfound
    · intro hreports hfound
      have hentry := h.listed .critical _ (mem_entries_read.2 (.inr (.inl ⟨rfl, hreports, rfl⟩)))
      rw [hmissing, hfoundEntry] at hentry
      exact hentry hfound
  · intro h
    have hlisted : ∀ s, ∀ entry ∈ (read initializer text).entries s,
        foundTag <:+: entry.toList → missingTag <:+: entry.toList := by
      intro s entry hentry hfound
      rcases mem_entries_read.1 hentry with hadds | ⟨-, hreports, rfl⟩ | ⟨-, rfl⟩
      · obtain ⟨block, hblock, line, hline, hadds⟩ := mem_contributions.1 hadds
        obtain ⟨hkind, rfl⟩ := contribution?_eq_some_iff.1 hadds
        rw [String.toList_ofList] at hfound ⊢
        rw [infix_foundTag_content_iff] at hfound
        rw [infix_missingTag_content_iff]
        rcases hkind with ⟨hbullet, hsection⟩ | ⟨-, htag, -⟩
        · exact h.bullets block hblock (by simp [hsection]) line hline hbullet hfound
        · exact holds_iff.1 htag
      · rw [hfoundEntry] at hfound
        rw [hmissing]
        exact h.initializer hreports hfound
      · exact absurd hfound (not_infix_emptyEntry s).2
    refine ⟨hlisted, fun d hd => ?_⟩
    obtain ⟨s, hs⟩ := exists_entry_of_mem_diagnostics hd
    exact hlisted s _ hs

/-- For instance where the status of a method is told under the heading of what is missing. -/
theorem omitsFound_bullet :
    (read "MappSdk.engage" "Missing Implementations:\n- [FOUND] MappSdk.engage()").missing
        = ["[FOUND] MappSdk.engage()"] ∧
      foundTag <:+: "[FOUND] MappSdk.engage()".toList ∧
      ¬ missingTag <:+: "[FOUND] MappSdk.engage()".toList := by
  simp only [← holds_iff]
  decide +kernel

end SdkAudit.Narrative
