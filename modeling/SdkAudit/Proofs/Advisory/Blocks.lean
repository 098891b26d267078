import Mathlib
import SdkAudit.Advisory.Narrative
import SdkAudit.Proofs.Text.Trim

/-!
# Blocks of a text

Blank lines cut a text into blocks.  What is in the blocks are the other lines, each trimmed, in
order; how lines end, and whether the last one does, makes no difference.

* `Narrative.blocksOf_append_blank` — **a blank line parts what is before it from what is behind**;
* `Narrative.blocks_eq` — the blocks are those of the pieces between the line feeds;
* `Narrative.flatten_blocks` — **no line is lost**.
-/

namespace SdkAudit.Narrative

open Text

def trimmedLines (text : List Char) : List (List Char) := (Text.lines text).map trim

/-! ### Runs of lines -/

theorem blocksOf_eq (lines : List (List Char)) :
    blocksOf lines = ((lines.map trim).splitOnP (·.isEmpty)).filter (!·.isEmpty) := by
  rw [blocksOf, cutAt_eq_splitOnP]

theorem blocksOf_nil : blocksOf [] = [] := rfl

/-- **A blank line parts what is before it from what is behind.** -/
theorem blocksOf_append_blank {blank : List Char} (h : trim blank = [])
    (before behind : List (List Char)) :
    blocksOf (before ++ blank :: behind) = blocksOf before ++ blocksOf behind := by
  simp only [blocksOf_eq, List.map_append, List.map_cons, h]
  rw [List.splitOnP_append_cons _ _ List.isEmpty_nil, List.filter_append]

/-- Trimmed lines of which none is empty are one block. -/
theorem blocksOf_of_trimmed {block : List (List Char)} (hne : block ≠ [])
    (h : ∀ line ∈ block, trim line = line ∧ line ≠ []) : blocksOf block = [block] := by
  have htrim : block.map trim = block := by
    rw [List.map_congr_left fun line hline => (h line hline).1, List.map_id']
  rw [blocksOf_eq, htrim, List.splitOnP_eq_singleton]
  · simpa using hne
  · exact fun line hline => by simpa using (h line hline).2

/-- Cutting loses nothing but the marks. -/
theorem flatten_splitOnP {α : Type} (isMark : α → Bool) (l : List α) :
    (l.splitOnP isMark).flatten = l.filter (!isMark ·) := by
  induction l with
  | nil => rw [List.splitOnP_nil]; rfl
  | cons x l ih =>
    rw [List.splitOnP_cons_eq_if_modifyHead]
    obtain ⟨piece, pieces, hpieces⟩ := List.exists_cons_of_ne_nil (List.splitOnP_ne_nil isMark l)
    rw [hpieces] at ih ⊢
    cases hx : isMark x with
    | true => simp [hx, ← ih]
    | false => simp [hx, ← ih]

/-- There are no marks in what is cut. -/
theorem newline_notMem_of_mem_splitOn {text piece : List Char} (h : piece ∈ text.splitOn '\n') :
    '\n' ∉ piece := by
  intro hmem
  have hflat : '\n' ∈ (text.splitOn '\n').flatten := List.mem_flatten.2 ⟨piece, h, hmem⟩
  rw [List.splitOn, flatten_splitOnP, List.mem_filter] at hflat
  simp at hflat

theorem flatten_blocksOf (lines : List (List Char)) :
    (blocksOf lines).flatten = (lines.map trim).filter (!·.isEmpty) := by
  rw [blocksOf_eq, List.flatten_filter_not_isEmpty, flatten_splitOnP]

/-! ### Texts -/

/-- **No line is lost**: the blocks hold the lines that are not blank, in order. -/
theorem flatten_blocks (text : List Char) :
    (blocks text).flatten = (trimmedLines text).filter (!·.isEmpty) :=
  flatten_blocksOf _

theorem mem_blocks_iff {text line : List Char} :
    (∃ block ∈ blocks text, line ∈ block) ↔ line ∈ trimmedLines text ∧ line ≠ [] := by
  rw [← List.mem_flatten, flatten_blocks, List.mem_filter]
  simp

/-- The blocks are those of the pieces between the line feeds. -/
theorem blocks_eq (text : List Char) : blocks text = blocksOf (text.splitOn '\n') := by
  obtain ⟨front, last, hsplit, hlines⟩ := exists_lines text
  have hfront : (front.map lines.dropReturn).map trim = front.map trim := by
    rw [List.map_map]
    exact List.map_congr_left fun line _ => trim_dropReturn line
  rw [blocks, hsplit, hlines]
  split_ifs with hlast
  · -- behind a last line feed there is one more piece, which is a blank line
    subst hlast
    rw [blocksOf_append_blank trim_nil, blocksOf_nil, List.append_nil, List.append_nil]
    rw [blocksOf_eq, blocksOf_eq, hfront]
  · rw [blocksOf_eq, blocksOf_eq, List.map_append, List.map_append, hfront]

/-- A line feed at the end makes no difference. -/
theorem blocks_append_newline (text : List Char) : blocks (text ++ ['\n']) = blocks text := by
  have hsplit : (text ++ ['\n']).splitOn '\n' = text.splitOn '\n' ++ [[]] :=
    List.splitOnP_append_cons _ _ (beq_self_eq_true _)
  rw [blocks_eq, blocks_eq, hsplit, blocksOf_append_blank trim_nil, blocksOf_nil, List.append_nil]

end SdkAudit.Narrative
