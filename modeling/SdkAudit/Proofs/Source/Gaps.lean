import SdkAudit.Proofs.Source.DescentTokens
import SdkAudit.Proofs.Source.LiteralGrammar

/-!
# Gaps

Between tokens stand white space and comments.  Comments between their signs may hold comments; a
comment of the other kind goes on to the end of its line.

* `IsLineComment`, `IsBlockComment` — comments;
* `Descent.blockComment_of_rest`, `Descent.rest_of_blockComment` — the descent gets over comments,
  and what it gets over is one;
* `Gap` — white space and comments;
* `Gap.read` — **a gap is read over**.
-/

namespace SdkAudit

/-! ### Comments -/

/-- A comment up to the end of its line. -/
def IsLineComment (w : List Char) : Prop := ∃ x, w = '/' :: '/' :: x ∧ '\n' ∉ x

/-- The rest of a comment behind its opening sign, where so many more comments are open. -/
inductive CommentRest : Nat → List Char → Prop
  | close : CommentRest 0 ['*', '/']
  | closeInner {depth : Nat} {x : List Char} :
      CommentRest depth x → CommentRest (depth + 1) ('*' :: '/' :: x)
  | openInner {depth : Nat} {x : List Char} :
      CommentRest (depth + 1) x → CommentRest depth ('/' :: '*' :: x)
  | char {depth : Nat} {c : Char} {x : List Char} :
      ¬ (c = '/' ∧ x.head? = some '*') → ¬ (c = '*' ∧ x.head? = some '/') →
      CommentRest depth x → CommentRest depth (c :: x)

/-- A comment between its signs, with the comments that it holds. -/
def IsBlockComment (w : List Char) : Prop := ∃ x, w = '/' :: '*' :: x ∧ CommentRest 0 x

theorem CommentRest.ne_nil {depth : Nat} {x : List Char} (h : CommentRest depth x) : x ≠ [] := by
  cases h <;> simp

/-- The descent gets over a comment. -/
theorem Descent.blockComment_of_rest {depth : Nat} {x : List Char} (h : CommentRest depth x)
    (here : Place) (rest : List Char) :
    Descent.blockComment (depth + 1) here (x ++ rest) = .ok ⟨here.along x, rest⟩ := by
  induction h generalizing here with
  | close => rfl
  | @closeInner depth x _ ih =>
    show Descent.blockComment (depth + 1 + 1) here ('*' :: '/' :: (x ++ rest)) = _
    rw [Descent.blockComment, if_neg (by decide), if_pos ⟨rfl, rfl⟩, Checked.lower_succ,
      Checked.ok_bind, if_neg (Nat.succ_ne_zero depth), ih]
    rfl
  | @openInner depth x _ ih =>
    show Descent.blockComment (depth + 1) here ('/' :: '*' :: (x ++ rest)) = _
    rw [Descent.blockComment, if_pos ⟨rfl, rfl⟩, ih]
    rfl
  | @char depth c x hopen hclose hx ih =>
    obtain ⟨d, x, rfl⟩ := List.exists_cons_of_ne_nil hx.ne_nil
    have hopen : ¬ (c = '/' ∧ d = '*') := by simpa using hopen
    have hclose : ¬ (c = '*' ∧ d = '/') := by simpa using hclose
    show Descent.blockComment (depth + 1) here (c :: d :: (x ++ rest)) = _
    rw [Descent.blockComment, if_neg hopen, if_neg hclose]
    exact ih (here.after c)

/-- What the descent gets over is a comment. -/
theorem Descent.rest_of_blockComment {depth : Nat} {here : Place} {text : List Char} {next : Cursor}
    (h : Descent.blockComment (depth + 1) here text = .ok next) :
    ∃ x, text = x ++ next.rest ∧ next.here = here.along x ∧ CommentRest depth x := by
  induction hlength : text.length using Nat.strong_induction_on generalizing depth here text with
  | h length ih =>
    subst hlength
    rcases text with _ | ⟨c, _ | ⟨d, rest⟩⟩
    · cases h
    · cases h
    rw [Descent.blockComment] at h
    split at h
    case isTrue hopen =>
      obtain ⟨rfl, rfl⟩ := hopen
      obtain ⟨x, rfl, hhere, hx⟩ := ih rest.length (by simp) h rfl
      exact ⟨'/' :: '*' :: x, rfl, hhere, .openInner hx⟩
    case isFalse hopen =>
    split at h
    case isTrue hclose =>
      obtain ⟨rfl, rfl⟩ := hclose
      rw [Checked.lower_succ, Checked.ok_bind] at h
      split at h
      case isTrue hzero =>
        cases h
        subst hzero
        exact ⟨['*', '/'], rfl, rfl, .close⟩
      case isFalse hdepth =>
        obtain ⟨less, rfl⟩ := Nat.exists_eq_succ_of_ne_zero hdepth
        obtain ⟨x, rfl, hhere, hx⟩ := ih rest.length (by simp) h rfl
        exact ⟨'*' :: '/' :: x, rfl, hhere, .closeInner hx⟩
    case isFalse hclose =>
      obtain ⟨x, hx, hhere, hrest⟩ := ih (d :: rest).length (by simp) h rfl
      obtain ⟨d', x, rfl⟩ := List.exists_cons_of_ne_nil hrest.ne_nil
      obtain ⟨rfl, rfl⟩ : d = d' ∧ rest = x ++ next.rest := by simpa using hx
      exact ⟨c :: d :: x, rfl, hhere, .char (by simpa using hopen) (by simpa using hclose) hrest⟩

/-! ### Gaps -/

/-- Parts of a text that are known between tokens, and not known in interpolations. -/
inductive Unseen where
  | comment
  | rawText
  | quotedName

/-- White space and comments, of which some are allowed. -/
inductive Gap (allows : Unseen → List Char → Prop) : List Char → Prop
  | nil : Gap allows []
  | blank {c : Char} {x : List Char} :
      Text.isBlank c = true → Gap allows x → Gap allows (c :: x)
  | line {w x : List Char} :
      IsLineComment w → allows .comment w → Gap allows x → Gap allows (w ++ '\n' :: x)
  | block {w x : List Char} :
      IsBlockComment w → allows .comment w → Gap allows x → Gap allows (w ++ x)

variable {allows : Unseen → List Char → Prop} {flavor : Flavor}

theorem Gap.append {x y : List Char} (h : Gap allows x) (h' : Gap allows y) :
    Gap allows (x ++ y) := by
  induction h with
  | nil => exact h'
  | blank hc _ ih => exact .blank hc ih
  | line hw hallows _ ih =>
    rw [List.append_assoc]
    exact .line hw hallows ih
  | block hw hallows _ ih =>
    rw [List.append_assoc]
    exact .block hw hallows ih

/-! ### Reading over gaps -/

/-- What is got over ends where a character follows that is no such character. -/
theorem Descent.past_append {isSuch : Char → Bool} {w rest : List Char} (here : Place)
    (hw : ∀ c ∈ w, isSuch c = true) (hrest : ∀ c ∈ rest.head?, isSuch c = false) :
    Descent.past isSuch here (w ++ rest) = ⟨here.along w, rest⟩ := by
  have hnone : rest.takeWhile isSuch = [] ∧ rest.dropWhile isSuch = rest := by
    cases rest with
    | nil => exact ⟨rfl, rfl⟩
    | cons c rest =>
      have hc : isSuch c = false := hrest c rfl
      simp [hc]
  rw [Descent.past, List.takeWhile_append_of_pos hw, List.dropWhile_append_of_pos hw, hnone.1,
    hnone.2, List.append_nil]

theorem IsLineComment.ne_lineFeed {w : List Char} (h : IsLineComment w) :
    ∀ c ∈ w, (c != '\n') = true := by
  obtain ⟨x, rfl, hx⟩ := h
  intro c hc
  rw [bne_iff_ne]
  rintro rfl
  simp [hx] at hc

/-- **A comment up to the end of its line is read over.** -/
theorem IsLineComment.read {w rest : List Char} (h : IsLineComment w)
    (hrest : ∀ c ∈ rest.head?, c = '\n') (p : Place) :
    Mode.blank.read flavor p (w ++ rest) = Mode.blank.read flavor (p.along w) rest := by
  have hpast : Descent.past (· != '\n') p (w ++ rest) = ⟨p.along w, rest⟩ :=
    Descent.past_append p h.ne_lineFeed fun c hc => by simp [hrest c hc]
  obtain ⟨x, rfl, -⟩ := h
  have hread : Mode.blank.read flavor p ('/' :: '/' :: (x ++ rest)) = _ :=
    Mode.read_lineComment_start
  exact hread.trans (by rw [← List.cons_append, ← List.cons_append, hpast])

/-- **A comment between its signs is read over.** -/
theorem IsBlockComment.read {w : List Char} (h : IsBlockComment w) (p : Place) (rest : List Char) :
    Mode.blank.read flavor p (w ++ rest) = Mode.blank.read flavor (p.along w) rest := by
  obtain ⟨x, rfl, hx⟩ := h
  have hfollows : ((Mode.blockComment p 0 .neither).read flavor ((p.after '/').after '*')
      (x ++ rest)).Follows _ _ := Descent.agrees_blockComment p 0 _ _
  rw [Descent.blockComment_of_rest hx] at hfollows
  exact Mode.read_blockComment_start.trans hfollows

/-- **A gap is read over.** -/
theorem Gap.read {gap : List Char} (h : Gap allows gap) (p : Place) (rest : List Char) :
    Mode.blank.read flavor p (gap ++ rest) = Mode.blank.read flavor (p.along gap) rest := by
  induction h generalizing p with
  | nil => rfl
  | blank hc _ ih =>
    rw [List.cons_append, Mode.read_blank hc, ih]
    rfl
  | line hw _ _ ih =>
    rw [List.append_assoc, hw.read (by simp), List.cons_append, Mode.read_blank (by decide), ih]
    simp
  | block hw _ _ ih =>
    rw [List.append_assoc, hw.read, ih]
    simp

end SdkAudit
