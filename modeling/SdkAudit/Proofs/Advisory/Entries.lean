import Mathlib
import SdkAudit.Proofs.Advisory.Blocks

/-!
# Entries of a narrative

Every line of a block adds at most one entry to the findings: a bullet its content, to the section
of its block or, outside any section, to what is missing if it is tagged so; any other line itself,
if it is tagged as missing and is no heading.  The entries of a section stand in the order of their
lines.

* `Narrative.bullet?_eq_some_iff` — what a bullet is;
* `Narrative.infix_content_iff` — **the content of a line holds the words of the line**;
* `Narrative.contribution?_eq_some_iff` — what a line adds;
* `Narrative.entries_gather` — **the entries of a section are what its lines add, in order**;
* `Narrative.mem_entries_read` — where the entries of findings come from.
-/

namespace SdkAudit

/-! ### Lists of findings -/

namespace Findings

theorem entries_add (f : Findings) (s t : Section) (entry : String) :
    (f.add t entry).entries s = f.entries s ++ if t = s then [entry] else [] := by
  cases s <;> cases t <;> simp [add, entries]

theorem entries_filled (f : Findings) (s : Section) :
    f.filled.entries s = if f.entries s = [] then [s.emptyEntry] else f.entries s := by
  have hfilled : f.filled.entries s = f.filledEntries s := by cases s <;> rfl
  rw [hfilled, filledEntries]
  simp only [List.isEmpty_iff]

theorem mem_entries_filled {f : Findings} {s : Section} {entry : String} :
    entry ∈ f.filled.entries s ↔
      entry ∈ f.entries s ∨ f.entries s = [] ∧ entry = s.emptyEntry := by
  rw [entries_filled]
  split_ifs with h
  · simp [h]
  · simp [h]

/-- Entries that are added one by one stand in their section in that order. -/
theorem entries_foldl_add (l : List (Section × String)) (f : Findings) (s : Section) :
    (l.foldl (fun f e => f.add e.1 e.2) f).entries s
      = f.entries s ++ (l.filter (·.1 = s)).map (·.2) := by
  induction l generalizing f with
  | nil => simp
  | cons e l ih =>
    rw [List.foldl_cons, ih, entries_add, List.append_assoc]
    by_cases h : e.1 = s <;> simp [h]

theorem eq_of_entries {f g : Findings} (h : ∀ s, f.entries s = g.entries s) : f = g := by
  have hcritical := h .critical
  have hmissing := h .missing
  have himprovements := h .improvements
  have hsecurity := h .security
  cases f
  cases g
  simp_all [entries]

end Findings

namespace Narrative

open Text

/-! ### Bullets -/

theorem afterBullet?_eq_some_iff {line rest : List Char} : afterBullet? line = some rest ↔
    ∃ sign ∈ [['-'], ['*', ' '], ['•']], line = sign ++ rest := by
  unfold afterBullet?
  split <;> simp_all

/-- A bullet is a sign with a text that is not made of dashes only; its content is that text. -/
theorem bullet?_eq_some_iff {line item : List Char} : bullet? line = some item ↔
    ∃ rest, afterBullet? line = some rest ∧ trim rest = item ∧ ∃ c ∈ item, c ≠ '-' := by
  unfold bullet?
  cases afterBullet? line with
  | none => simp
  | some rest =>
    have hdashes : (trim rest).all (· = '-') = true ↔ ¬ ∃ c ∈ trim rest, c ≠ '-' := by simp
    simp only [hdashes, Option.some.injEq, exists_eq_left']
    split_ifs with h
    · refine Option.some_inj.trans ⟨?_, fun hitem => hitem.1⟩
      rintro rfl
      exact ⟨rfl, h⟩
    · refine ⟨False.elim, ?_⟩
      rintro ⟨rfl, hitem⟩
      exact absurd hitem h

/-- The content of a line: that of the bullet if it is one, or else the line. -/
def content (line : List Char) : List Char := (bullet? line).getD line

/-- **The content of a line holds the words of the line**, but for those that may begin with the
sign of a bullet or are not trimmed. -/
theorem infix_content_iff {word line : List Char} (htrim : trim word = word)
    (hsign : ∀ c ∈ word.head?, c ≠ '-' ∧ c ≠ '*' ∧ c ≠ '•') :
    word <:+: content line ↔ word <:+: line := by
  unfold content
  cases hbullet : bullet? line with
  | none => rfl
  | some item =>
    obtain ⟨rest, hrest, rfl, -⟩ := bullet?_eq_some_iff.1 hbullet
    obtain ⟨sign, hmem, rfl⟩ := afterBullet?_eq_some_iff.1 hrest
    rw [Option.getD_some, infix_trim_iff htrim, infix_append_left_iff]
    intro c hc
    have hblank : c ≠ ' ' := by
      rintro rfl
      cases (trim_eq_self_iff.1 htrim).1 ' ' hc
    obtain ⟨hdash, hstar, hdot⟩ := hsign c hc
    simp only [List.mem_cons, List.not_mem_nil, or_false] at hmem
    rcases hmem with rfl | rfl | rfl
    · simpa using hdash
    · simp [hstar, hblank]
    · simpa using hdot

theorem isTaggedMissing_content (line : List Char) :
    isTaggedMissing (content line) = isTaggedMissing line := by
  have htrim : trim missingTag = missingTag := by decide +kernel
  have hhead : missingTag.head? = some '[' := rfl
  have hsign : ∀ c ∈ missingTag.head?, c ≠ '-' ∧ c ≠ '*' ∧ c ≠ '•' := by
    rw [hhead]
    rintro c ⟨⟩
    decide
  rw [Bool.eq_iff_iff, isTaggedMissing, isTaggedMissing, holds_iff, holds_iff]
  exact infix_content_iff htrim hsign

/-! ### What a line adds -/

theorem isHeading_iff {line : List Char} :
    isHeading line = true ↔ bullet? line = none ∧ heading? line ≠ none := by
  rw [isHeading, Bool.and_eq_true, Option.isNone_iff_eq_none, Option.isSome_iff_ne_none]

/-- What a line adds is its content: to the section of its block if it is a bullet there, and if not
to what is missing, where it is tagged so and is no heading. -/
theorem contribution?_eq_some_iff {inSection : Option Section} {line : List Char} {s : Section}
    {entry : String} : contribution? inSection line = some (s, entry) ↔
      ((bullet? line ≠ none ∧ inSection = some s) ∨
          (bullet? line ≠ none ∧ inSection = none ∨ bullet? line = none ∧ heading? line = none) ∧
            isTaggedMissing line = true ∧ .missing = s) ∧
        String.ofList (content line) = entry := by
  unfold contribution? content isHeading
  cases bullet? line with
  | none =>
    cases heading? line with
    | none => cases isTaggedMissing line <;> simp
    | some _ => simp
  | some item =>
    cases inSection with
    | none => cases isTaggedMissing line <;> simp
    | some t => simp

/-! ### What a text adds -/

/-- What the lines of a text add, in order. -/
def contributions (text : List Char) : List (Section × String) := (blocks text).flatMap blockEntries

/-- Some line of a text reports that the initializer is missing. -/
def ReportsInitializer (initializer : String) (text : List Char) : Prop :=
  ∃ line ∈ trimmedLines text, reportsInitializer initializer line = true

theorem mem_contributions {text : List Char} {e : Section × String} : e ∈ contributions text ↔
    ∃ block ∈ blocks text, ∃ line ∈ block, contribution? (sectionOf? block) line = some e := by
  simp only [contributions, List.mem_flatMap, blockEntries, List.mem_filterMap]

theorem reportsInitializer_iff {initializer : String} {line : List Char} :
    reportsInitializer initializer line = true ↔ isHeading line = false ∧
      isTaggedMissing line = true ∧ initializer.toList <:+: line := by
  rw [reportsInitializer, Bool.and_eq_true, Bool.and_eq_true, Bool.not_eq_true', holds_iff,
    and_assoc]

theorem ne_nil_of_isTaggedMissing {line : List Char} (h : isTaggedMissing line = true) :
    line ≠ [] := by
  rintro rfl
  cases h

/-- A line that is tagged as missing lies in a block. -/
theorem exists_block_of_isTaggedMissing {text line : List Char} (hline : line ∈ trimmedLines text)
    (h : isTaggedMissing line = true) : ∃ block ∈ blocks text, line ∈ block :=
  mem_blocks_iff.2 ⟨hline, ne_nil_of_isTaggedMissing h⟩

theorem reportsInitializer_iff_blocks {initializer : String} {text : List Char} :
    ReportsInitializer initializer text ↔
      ∃ block ∈ blocks text, ∃ line ∈ block, reportsInitializer initializer line = true := by
  constructor
  · rintro ⟨line, hline, h⟩
    obtain ⟨block, hblock, hmem⟩ :=
      exists_block_of_isTaggedMissing hline (reportsInitializer_iff.1 h).2.1
    exact ⟨block, hblock, line, hmem, h⟩
  · rintro ⟨block, hblock, line, hline, h⟩
    exact ⟨line, (mem_blocks_iff.1 ⟨block, hblock, hline⟩).1, h⟩

open Classical in
/-- **The entries of a section are what its lines add, in order**, and after the critical ones that
for the initializer if some line reports it. -/
theorem entries_gather (initializer : String) (text : List Char) (s : Section) :
    (gather initializer text).entries s = ((contributions text).filter (·.1 = s)).map (·.2) ++
      if s = .critical ∧ ReportsInitializer initializer text
        then [missingInitializerEntry initializer] else [] := by
  have hlines : (((contributions text).foldl (fun f e => f.add e.1 e.2) {} : Findings).entries s)
      = ((contributions text).filter (·.1 = s)).map (·.2) := by
    rw [Findings.entries_foldl_add]
    cases s <;> rfl
  have hany : (blocks text).any (·.any (reportsInitializer initializer)) = true ↔
      ReportsInitializer initializer text := by
    simp only [reportsInitializer_iff_blocks, List.any_eq_true]
  unfold gather
  simp only [hany]
  split_ifs with hreports hboth hboth
  · rw [Findings.entries_add, if_pos hboth.1.symm]
    exact congrArg (· ++ _) hlines
  · rw [Findings.entries_add, if_neg fun h => hboth ⟨h.symm, hreports⟩]
    exact congrArg (· ++ _) hlines
  · exact absurd hboth.2 hreports
  · rw [List.append_nil]
    exact hlines

/-- An entry of findings comes from a line, or stands for the initializer or for an empty list. -/
theorem mem_entries_read {initializer text entry : String} {s : Section} :
    entry ∈ (read initializer text).entries s ↔
      (s, entry) ∈ contributions text.toList ∨
        (s = .critical ∧ ReportsInitializer initializer text.toList ∧
          entry = missingInitializerEntry initializer) ∨
        ((gather initializer text.toList).entries s = [] ∧ entry = s.emptyEntry) := by
  rw [read, Findings.mem_entries_filled, ← or_assoc]
  refine or_congr_left ?_
  rw [entries_gather, List.mem_append]
  refine or_congr (by simp) ?_
  split_ifs with h
  · simp [h]
  · simpa using fun hs hreports => absurd ⟨hs, hreports⟩ h

end Narrative

end SdkAudit
