import Mathlib
import SdkAudit.Text.Character
import SdkAudit.Text.Search

/-!
# Words in trimmed texts

Trimming takes white space off both ends of a text.  A word that begins and ends with other
characters lies in a text exactly if it lies in the trimmed text, and the same holds of any other
characters that are taken off the ends and that the word does not begin or end with.

* `Text.infix_append_left_iff`, `Text.infix_append_right_iff` — a word lies behind a part that does
  not hold its first character, and before a part that does not hold its last one;
* `Text.trim_eq_self_iff` — a text is trimmed if it neither begins nor ends with white space;
* `Text.infix_trim_iff` — **trimming loses no trimmed word**;
* `Text.splitOn_intercalate`, `Text.intercalate_inj` — what is joined can be taken apart;
* `Text.cutAt_eq_splitOnP` — cutting at marks is that of the standard library.
-/

namespace SdkAudit.Text

/-! ### Words at the ends of a text -/

/-- A word lies behind a part that does not hold its first character. -/
theorem infix_append_left_iff {word a s : List Char} (h : ∀ c ∈ word.head?, c ∉ a) :
    word <:+: a ++ s ↔ word <:+: s := by
  induction a with
  | nil => rw [List.nil_append]
  | cons d a ih =>
    rw [List.cons_append, List.infix_cons_iff, ih fun c hc hmem => h c hc (.tail d hmem)]
    refine or_iff_right_of_imp fun hprefix => ?_
    cases word with
    | nil => exact List.nil_infix
    | cons c word =>
      obtain rfl := (List.cons_prefix_cons.1 hprefix).1
      exact absurd List.mem_cons_self (h c rfl)

/-- A word lies before a part that does not hold its last character. -/
theorem infix_append_right_iff {word s b : List Char} (h : ∀ c ∈ word.getLast?, c ∉ b) :
    word <:+: s ++ b ↔ word <:+: s := by
  rw [← List.reverse_infix, List.reverse_append,
    infix_append_left_iff (by simpa using h), List.reverse_infix]

/-! ### Trimming -/

theorem trim_nil : trim [] = [] := rfl

/-- What trimming takes off is white space. -/
theorem exists_trim (s : List Char) : ∃ a b, s = a ++ trim s ++ b ∧
    (∀ c ∈ a, isBlank c = true) ∧ ∀ c ∈ b, isBlank c = true := by
  refine ⟨s.takeWhile isBlank, (trimStart s).rtakeWhile isBlank, ?_, ?_, ?_⟩
  · have hend : trim s ++ (trimStart s).rtakeWhile isBlank = trimStart s :=
      List.rdropWhile_append_rtakeWhile
    rw [List.append_assoc, hend]
    exact List.takeWhile_append_dropWhile.symm
  · intro c hc
    exact List.mem_takeWhile_imp hc
  · intro c hc
    exact List.mem_rtakeWhile_imp hc

/-- A text is trimmed if it neither begins nor ends with white space. -/
theorem trim_eq_self_iff {s : List Char} : trim s = s ↔
    (∀ c ∈ s.head?, isBlank c = false) ∧ ∀ c ∈ s.getLast?, isBlank c = false := by
  have hstart : trimStart s = s ↔ ∀ c ∈ s.head?, isBlank c = false := by
    cases s with
    | nil => simp [trimStart]
    | cons c s => simp [trimStart, List.dropWhile_eq_self_iff]
  have hend : trimEnd s = s ↔ ∀ c ∈ s.getLast?, isBlank c = false := by
    refine List.rdropWhile_eq_self_iff.trans ⟨fun h c hc => ?_, fun h hne => ?_⟩
    · obtain ⟨hne, rfl⟩ := List.mem_getLast?_eq_getLast hc
      exact Bool.eq_false_of_not_eq_true (h hne)
    · rw [h _ (List.getLast?_eq_some_getLast hne)]
      exact Bool.false_ne_true
  rw [← hstart, ← hend]
  constructor
  · intro h
    -- nothing is taken off at either end, since nothing is taken off at both
    have hsuffix : trimStart s <:+ s := List.dropWhile_suffix _
    have hprefix : trim s <+: trimStart s := List.rdropWhile_prefix isBlank _
    rw [h] at hprefix
    have hs : trimStart s = s := hsuffix.eq_of_length_le hprefix.length_le
    exact ⟨hs, by rwa [trim, hs] at h⟩
  · rintro ⟨hs, he⟩
    rw [trim, hs, he]

theorem trim_isInfix (s : List Char) : trim s <:+: s :=
  (List.rdropWhile_prefix isBlank _).isInfix.trans (List.dropWhile_suffix _).isInfix

/-- What is left is trimmed. -/
theorem trim_trim (s : List Char) : trim (trim s) = trim s := by
  refine trim_eq_self_iff.2 ⟨fun c hc => ?_, fun c hc => ?_⟩
  · have hprefix : trim s <+: trimStart s := List.rdropWhile_prefix isBlank _
    obtain ⟨more, hmore⟩ := hprefix
    have hhead : (trimStart s).head? = some c := by
      rw [← hmore, List.head?_append, Option.mem_def.1 hc, Option.some_or]
    have hnot := List.head?_dropWhile_not isBlank s
    rw [trimStart] at hhead
    simpa only [hhead] using hnot
  · obtain ⟨hne, rfl⟩ := List.mem_getLast?_eq_getLast hc
    exact Bool.eq_false_of_not_eq_true (List.rdropWhile_last_not isBlank _ hne)

/-- **Trimming loses no trimmed word.** -/
theorem infix_trim_iff {word s : List Char} (h : trim word = word) :
    word <:+: trim s ↔ word <:+: s := by
  obtain ⟨hhead, hlast⟩ := trim_eq_self_iff.1 h
  obtain ⟨a, b, hs, ha, hb⟩ := exists_trim s
  conv_rhs => rw [hs]
  rw [infix_append_right_iff fun c hc hmem => by simpa [hlast c hc] using hb c hmem,
    infix_append_left_iff fun c hc hmem => by simpa [hhead c hc] using ha c hmem]

/-- White space at the end does not matter. -/
theorem trim_append_blank {s : List Char} {c : Char} (hc : isBlank c = true) :
    trim (s ++ [c]) = trim s := by
  unfold trim trimStart
  rw [List.dropWhile_append]
  split_ifs with hs
  · rw [List.isEmpty_iff.1 hs]
    simp [hc]
  · exact List.rdropWhile_concat_pos _ _ _ hc

/-! ### Pieces that are joined -/

/-- What is joined with a character that no piece holds can be taken apart. -/
theorem splitOn_intercalate {separator : String} {mark : Char} {pieces : List String}
    (hseparator : separator.toList = [mark]) (hpieces : ∀ piece ∈ pieces, mark ∉ piece.toList)
    (hne : pieces ≠ []) :
    (separator.intercalate pieces).toList.splitOn mark = pieces.map String.toList := by
  rw [String.toList_intercalate, hseparator]
  exact List.splitOn_intercalate mark (by simpa using hpieces) (by simpa using hne)

/-- **Pieces that no mark is in can be told from what they are joined to.** -/
theorem intercalate_inj {separator : String} {mark : Char} {pieces pieces' : List String}
    (hseparator : separator.toList = [mark]) (hpieces : ∀ piece ∈ pieces, mark ∉ piece.toList)
    (hpieces' : ∀ piece ∈ pieces', mark ∉ piece.toList) (hne : pieces ≠ []) (hne' : pieces' ≠ [])
    (h : separator.intercalate pieces = separator.intercalate pieces') : pieces = pieces' := by
  have hlists : pieces.map String.toList = pieces'.map String.toList := by
    rw [← splitOn_intercalate hseparator hpieces hne, h,
      splitOn_intercalate hseparator hpieces' hne']
  exact List.map_injective_iff.2 (fun _ _ => String.toList_injective) hlists

/-! ### Lines -/

/-- Cutting at marks is that of the standard library. -/
theorem cutAt_eq_splitOnP {α : Type} (isMark : α → Bool) (l : List α) :
    cutAt isMark l = l.splitOnP isMark := by
  induction l with
  | nil => exact List.splitOnP_nil.symm
  | cons x l ih =>
    rw [List.splitOnP_cons_eq_if_modifyHead, cutAt, ih]
    obtain ⟨piece, pieces, h⟩ := List.exists_cons_of_ne_nil (List.splitOnP_ne_nil isMark l)
    rw [h]
    rfl

/-- The lines of a text are its pieces between the line feeds, but for an empty piece behind the
last one. -/
theorem exists_lines (text : List Char) : ∃ front last,
    text.splitOn '\n' = front ++ [last] ∧
      lines text = front.map lines.dropReturn ++ if last = [] then [] else [last] := by
  obtain ⟨front, last, h⟩ : ∃ front last, text.splitOn '\n' = front ++ [last] :=
    (List.eq_nil_or_concat' _).resolve_left (List.splitOnP_ne_nil _ _)
  have hcut : cutAt (· = '\n') text = front ++ [last] := by
    rw [cutAt_eq_splitOnP, ← h]
    rfl
  refine ⟨front, last, h, ?_⟩
  unfold lines
  rw [hcut, List.reverse_append]
  simp

theorem trim_dropReturn (line : List Char) : trim (lines.dropReturn line) = trim line := by
  unfold lines.dropReturn
  split_ifs with h
  · obtain ⟨front, rfl⟩ := List.getLast?_eq_some_iff.1 h
    rw [List.dropLast_concat, trim_append_blank (by decide)]
  · rfl

end SdkAudit.Text
