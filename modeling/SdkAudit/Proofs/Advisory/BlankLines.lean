import Mathlib
import SdkAudit.Proofs.Advisory.Entries

/-!
# Narratives with a blank line between them

A blank line ends a block, so what stands behind it is read afresh: a text tells what its blocks
tell, each as a text of its own.  Only the entry for the initializer belongs to the text as a whole.
It is added once and last, wherever the initializer is reported.

* `Findings.ofContributions_append` — entries that are added later stand later;
* `Narrative.told`, `Narrative.reports` — the entries of the lines of a text, and whether the entry
  for the initializer comes behind them;
* `Narrative.blocks_parted` — the blocks of two texts are not mixed;
* `Narrative.blocks_ofBlock` — a block is the only block of its own text;
* `Narrative.gather_parted` — **texts with a blank line between them tell what each of them tells**.
-/

namespace SdkAudit

/-! ### Findings one after the other -/

namespace Findings

/-- The entries of findings, and behind them, list by list, those of others. -/
def append (f g : Findings) : Findings where
  critical := f.critical ++ g.critical
  missing := f.missing ++ g.missing
  improvements := f.improvements ++ g.improvements
  security := f.security ++ g.security

instance : Append Findings := ⟨append⟩

@[simp] theorem entries_append (f g : Findings) (s : Section) :
    (f ++ g).entries s = f.entries s ++ g.entries s := by
  cases s <;> rfl

/-- The findings that entries make, added in their order. -/
def ofContributions (added : List (Section × String)) : Findings :=
  added.foldl (fun f e => f.add e.1 e.2) {}

@[simp] theorem entries_ofContributions (added : List (Section × String)) (s : Section) :
    (ofContributions added).entries s = (added.filter (·.1 = s)).map (·.2) := by
  rw [ofContributions, entries_foldl_add]
  cases s <;> rfl

/-- **Entries that are added later stand later.** -/
theorem ofContributions_append (added more : List (Section × String)) :
    ofContributions (added ++ more) = ofContributions added ++ ofContributions more := by
  refine eq_of_entries fun s => ?_
  simp only [entries_append, entries_ofContributions, List.filter_append, List.map_append]

theorem ofContributions_flatMap {α : Type} (adds : α → List (Section × String)) (parts : List α) :
    ofContributions (parts.flatMap adds)
      = (parts.map fun part => ofContributions (adds part)).foldr (· ++ ·) {} := by
  induction parts with
  | nil => rfl
  | cons part parts ih =>
    rw [List.flatMap_cons, ofContributions_append, ih]
    rfl

end Findings

namespace Narrative

open Text

/-! ### What a text tells -/

/-- The entries of the lines of a text. -/
def told (text : List Char) : Findings := .ofContributions (contributions text)

/-- Whether some line of a text reports that the initializer is missing. -/
def reports (initializer : String) (text : List Char) : Bool :=
  (blocks text).any (·.any (reportsInitializer initializer))

/-- The entries of lines, with the entry for the initializer as the last critical one if it is
reported. -/
def concluded (initializer : String) (reported : Bool) (f : Findings) : Findings :=
  if reported then f.add .critical (missingInitializerEntry initializer) else f

/-- Two texts with a blank line between them. -/
def parted (first second : List Char) : List Char := first ++ "\n\n".toList ++ second

/-- The text of a block by itself. -/
def ofBlock (block : List (List Char)) : List Char := ['\n'].intercalate block

theorem gather_eq (initializer : String) (text : List Char) :
    gather initializer text = concluded initializer (reports initializer text) (told text) := rfl

/-! ### Blocks of parted texts -/

/-- **A blank line keeps the blocks of two texts apart.** -/
theorem blocks_parted (first second : List Char) :
    blocks (parted first second) = blocks first ++ blocks second := by
  have htext : parted first second = first ++ '\n' :: ([] ++ '\n' :: second) :=
    List.append_assoc first ['\n', '\n'] second
  have hsplit : (parted first second).splitOn '\n'
      = first.splitOn '\n' ++ [] :: second.splitOn '\n' := by
    rw [htext, List.splitOn_append_cons_self, List.splitOn_append_cons_self, List.splitOn_nil]
    rfl
  rw [blocks_eq, blocks_eq, blocks_eq, hsplit, blocksOf_append_blank trim_nil]

/-- The lines of a block are trimmed, not empty, and without line feeds. -/
theorem lines_of_mem_blocks {text line : List Char} {block : List (List Char)}
    (hblock : block ∈ blocks text) (hline : line ∈ block) :
    trim line = line ∧ line ≠ [] ∧ '\n' ∉ line := by
  rw [blocks_eq] at hblock
  have hmem : line ∈ (blocksOf (text.splitOn '\n')).flatten := List.mem_flatten.2 ⟨_, hblock, hline⟩
  rw [flatten_blocksOf, List.mem_filter] at hmem
  obtain ⟨⟨piece, hpiece, rfl⟩, hne⟩ := List.mem_map.1 hmem.1, hmem.2
  refine ⟨trim_trim piece, by simpa using hne, fun hfeed => ?_⟩
  exact newline_notMem_of_mem_splitOn hpiece ((trim_isInfix piece).subset hfeed)

/-- **A block is the only block of its own text.** -/
theorem blocks_ofBlock {text : List Char} {block : List (List Char)} (h : block ∈ blocks text) :
    blocks (ofBlock block) = [block] := by
  have hlines : ∀ line ∈ block, trim line = line ∧ line ≠ [] ∧ '\n' ∉ line := fun _ hline =>
    lines_of_mem_blocks h hline
  have hne : block ≠ [] := by
    simpa using (List.mem_filter.1 h).2
  have hsplit : (ofBlock block).splitOn '\n' = block :=
    List.splitOn_intercalate _ (fun line hline => (hlines line hline).2.2) hne
  rw [blocks_eq, hsplit]
  exact blocksOf_of_trimmed hne fun line hline => ⟨(hlines line hline).1, (hlines line hline).2.1⟩

/-! ### What parted texts tell -/

/-- A text tells what its blocks tell, each as a text of its own. -/
structure ToldByBlocks (initializer : String) (text : List Char) : Prop where
  /-- What is gathered is what the text tells, and behind the critical issues the entry for the
  initializer exactly if it is reported. -/
  gathered : gather initializer text
    = concluded initializer (reports initializer text) (told text)
  told : told text = ((blocks text).map fun block => told (ofBlock block)).foldr (· ++ ·) {}
  reported : reports initializer text = (blocks text).any fun block =>
    reports initializer (ofBlock block)

theorem contributions_ofBlock {text : List Char} {block : List (List Char)}
    (h : block ∈ blocks text) : contributions (ofBlock block) = blockEntries block := by
  rw [contributions, blocks_ofBlock h, List.flatMap_singleton]

theorem reports_ofBlock {text : List Char} {block : List (List Char)} (h : block ∈ blocks text)
    (initializer : String) :
    reports initializer (ofBlock block) = block.any (reportsInitializer initializer) := by
  rw [reports, blocks_ofBlock h, List.any_cons, List.any_nil, Bool.or_false]

theorem toldByBlocks (initializer : String) (text : List Char) :
    ToldByBlocks initializer text := by
  refine ⟨gather_eq initializer text, ?_, ?_⟩
  · have hparts : ((blocks text).map fun block => told (ofBlock block))
        = (blocks text).map fun block => .ofContributions (blockEntries block) :=
      List.map_congr_left fun block hblock => by rw [told, contributions_ofBlock hblock]
    rw [told, contributions, Findings.ofContributions_flatMap, hparts]
  · rw [reports, Bool.eq_iff_iff, List.any_eq_true, List.any_eq_true]
    refine exists_congr fun block => and_congr_right fun hblock => ?_
    rw [reports_ofBlock hblock]

/-- **Texts with a blank line between them tell what each of them tells**, list by list and in that
order, and the entry for the initializer stands behind all of it, once, exactly if one of them
reports it. -/
theorem gather_parted (initializer : String) (first second : List Char) :
    (∀ text, ToldByBlocks initializer text) ∧
      told (parted first second) = told first ++ told second ∧
      reports initializer (parted first second)
        = (reports initializer first || reports initializer second) ∧
      gather initializer (parted first second)
        = concluded initializer (reports initializer first || reports initializer second)
            (told first ++ told second) := by
  have htold : told (parted first second) = told first ++ told second := by
    rw [told, contributions, blocks_parted, List.flatMap_append, Findings.ofContributions_append]
    rfl
  have hreports : reports initializer (parted first second)
      = (reports initializer first || reports initializer second) := by
    rw [reports, blocks_parted, List.any_append]
    rfl
  refine ⟨toldByBlocks initializer, htold, hreports, ?_⟩
  rw [gather_eq, htold, hreports]

/-- A heading says nothing of lines that stand behind a blank line. -/
example : told (parted "Security Concerns:\n- a".toList "- b\n- c [MISSING]".toList)
    = { security := ["a"], missing := ["c [MISSING]"] } := by decide +kernel

end Narrative

end SdkAudit
