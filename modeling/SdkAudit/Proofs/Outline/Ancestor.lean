import Mathlib
import SdkAudit.Outline.Basic

/-!
# Scopes around scopes

Every scope of an outline but the file has a parent.  The search for a guarded scope goes from
parent to parent, and a scope is guarded exactly if a way leads to one that handles errors.

* `Outline.Answers`, `Outline.guardSearch_eq_some_iff` — **the search from scope to scope**, and
  that it comes to an answer in finitely many steps or not at all;
* `Outline.isGuarded_eq` — whether a scope is guarded is what the search answers;
* `Outline.isGuarded_of_root`, `Outline.isGuarded_of_parent` — what the search does at one scope;
* `Outline.GuardPath`, `Outline.isGuarded_iff_exists_path` — **the search is exact**: it finds a
  guarded scope if a way leads there, also where parents go round in circles;
* `Outline.Ancestry`, `Outline.isGuarded_iff` — the scopes from one on to the outermost one around
  it, and that the search goes through all of them.
-/

namespace SdkAudit.Outline

variable {o : Outline} {id : Nat} {ids : List Nat}

/-- The scopes from one on to the outermost one around it. -/
inductive Ancestry (o : Outline) : ScopeId → List ScopeId → Prop
  | root {id : ScopeId} {kind : ScopeKind} : o.scopes[id]? = some ⟨kind, none⟩ → Ancestry o id [id]
  | step {id parent : ScopeId} {kind : ScopeKind} {rest : List ScopeId} :
      o.scopes[id]? = some ⟨kind, some parent⟩ → Ancestry o parent rest → Ancestry o id (id :: rest)

/-- The scope handles the errors that are raised in it. -/
def IsGuard (o : Outline) (id : ScopeId) : Prop := ∃ parent, o.scopes[id]? = some ⟨.guarded, parent⟩

/-- The parent of every scope was added before it. -/
def ParentsFirst (o : Outline) : Prop :=
  ∀ (id : Nat) (scope : Scope) (parent : Nat),
    o.scopes[id]? = some scope → scope.parent = some parent → parent < id

theorem Ancestry.lt_size (h : o.Ancestry id ids) : id < o.scopes.size := by
  cases h with
  | root h => exact (Array.getElem?_eq_some_iff.1 h).1
  | step h _ => exact (Array.getElem?_eq_some_iff.1 h).1

/-! ### The search -/

/-- The search for a guarded scope comes to an answer, one scope after the other. -/
inductive Answers (o : Outline) : ScopeId → Bool → Prop
  | missing {id : ScopeId} : o.scopes[id]? = none → Answers o id false
  | guard {id : ScopeId} : o.IsGuard id → Answers o id true
  | root {id : ScopeId} {kind : ScopeKind} :
      o.scopes[id]? = some ⟨kind, none⟩ → kind ≠ .guarded → Answers o id false
  | up {id parent : ScopeId} {kind : ScopeKind} {answer : Bool} :
      o.scopes[id]? = some ⟨kind, some parent⟩ → kind ≠ .guarded → Answers o parent answer →
      Answers o id answer

theorem guardSearch_of_isGuard (h : o.IsGuard id) : o.guardSearch id = some true := by
  obtain ⟨parent, hget⟩ := h
  rw [guardSearch, hget]
  rfl

theorem guardSearch_of_parent {kind : ScopeKind} {parent : ScopeId}
    (h : o.scopes[id]? = some ⟨kind, some parent⟩) (hkind : kind ≠ .guarded) :
    o.guardSearch id = o.guardSearch parent := by
  rw [guardSearch, h]
  exact if_neg hkind

/-- **The search comes to an answer in finitely many steps**, or it has none. -/
theorem guardSearch_eq_some_iff {answer : Bool} :
    o.guardSearch id = some answer ↔ o.Answers id answer := by
  constructor
  · refine guardSearch.partial_correctness o o.Answers (fun search hsearch id answer h => ?_) id
      answer
    rcases hget : o.scopes[id]? with _ | ⟨kind, parent⟩
    · rw [hget] at h
      cases h
      exact .missing hget
    · simp only [hget] at h
      split_ifs at h with hkind
      · cases h
        exact .guard ⟨parent, hkind ▸ hget⟩
      · cases parent with
        | none =>
          cases h
          exact .root hget hkind
        | some parent => exact .up hget hkind (hsearch parent answer h)
  · intro h
    induction h with
    | missing hget => rw [guardSearch, hget]
    | guard hguard => exact guardSearch_of_isGuard hguard
    | root hget hkind =>
      rw [guardSearch, hget]
      exact if_neg hkind
    | up hget hkind _ ih => rw [guardSearch_of_parent hget hkind, ih]

/-- The search is the same however many steps are taken first. -/
theorem guardedWithin_eq (o : Outline) (steps : Nat) (id : ScopeId) :
    o.guardedWithin steps id = (o.guardSearch id == some true) := by
  induction steps generalizing id with
  | zero =>
    rw [guardedWithin, guardSearch]
    rcases o.scopes[id]? with _ | ⟨kind, _ | parent⟩
    · rfl
    · by_cases hkind : kind = .guarded <;> simp [hkind]
    · by_cases hkind : kind = .guarded <;> simp [hkind]
  | succ steps ih =>
    rw [guardedWithin, guardSearch]
    rcases o.scopes[id]? with _ | ⟨kind, _ | parent⟩
    · rfl
    · by_cases hkind : kind = .guarded <;> simp [hkind]
    · by_cases hkind : kind = .guarded <;> simp [hkind, ih]

/-- **Whether a scope is guarded is what the search answers.** -/
theorem isGuarded_eq (o : Outline) (id : ScopeId) :
    o.isGuarded id = (o.guardSearch id == some true) :=
  guardedWithin_eq o _ id

/-- A scope is guarded if the search answers so. -/
theorem isGuarded_iff_guardSearch : o.isGuarded id = true ↔ o.guardSearch id = some true := by
  rw [isGuarded_eq, beq_iff_eq]

/-- What is guarded depends on the scopes alone. -/
theorem isGuarded_congr {p : Outline} (h : p.scopes = o.scopes) (id : ScopeId) :
    p.isGuarded id = o.isGuarded id := by
  have hanswers : ∀ {o p : Outline} {answer : Bool}, p.scopes = o.scopes → p.Answers id answer →
      o.Answers id answer := by
    intro o p answer h hp
    induction hp with
    | missing hget => exact .missing (h ▸ hget)
    | guard hguard => exact .guard (by rwa [IsGuard, h] at hguard)
    | root hget hkind => exact .root (h ▸ hget) hkind
    | up hget hkind _ ih => exact .up (h ▸ hget) hkind ih
  rw [Bool.eq_iff_iff, isGuarded_iff_guardSearch, isGuarded_iff_guardSearch,
    guardSearch_eq_some_iff, guardSearch_eq_some_iff]
  exact ⟨hanswers h, hanswers h.symm⟩

/-- A scope without a parent is guarded if it is one that handles errors. -/
theorem isGuarded_of_root {kind : ScopeKind} (h : o.scopes[id]? = some ⟨kind, none⟩) :
    o.isGuarded id = true ↔ kind = .guarded := by
  rw [isGuarded_iff_guardSearch]
  by_cases hkind : kind = .guarded
  · simp [guardSearch_of_isGuard ⟨none, hkind ▸ h⟩, hkind]
  · simp [guardSearch_eq_some_iff.2 (.root h hkind), hkind]

/-- A scope with a parent is guarded if it is one that handles errors, or if its parent is. -/
theorem isGuarded_of_parent {kind : ScopeKind} {parent : ScopeId}
    (h : o.scopes[id]? = some ⟨kind, some parent⟩) :
    o.isGuarded id = true ↔ kind = .guarded ∨ o.isGuarded parent = true := by
  rw [isGuarded_iff_guardSearch, isGuarded_iff_guardSearch]
  by_cases hkind : kind = .guarded
  · simp [guardSearch_of_isGuard ⟨some parent, hkind ▸ h⟩, hkind]
  · simp [guardSearch_of_parent h hkind, hkind]

/-! ### Ways to a guarded scope -/

/-- A way from a scope to a guarded one, from parent to parent. -/
inductive GuardPath (o : Outline) : ScopeId → List ScopeId → Prop
  | here {id : ScopeId} : o.IsGuard id → GuardPath o id [id]
  | step {id parent : ScopeId} {kind : ScopeKind} {rest : List ScopeId} :
      o.scopes[id]? = some ⟨kind, some parent⟩ → GuardPath o parent rest →
      GuardPath o id (id :: rest)

/-- **The search is exact wherever parents lead**: it finds a guarded scope if a way leads there. -/
theorem isGuarded_iff_exists_path : o.isGuarded id = true ↔ ∃ ids, o.GuardPath id ids := by
  constructor
  · intro h
    rw [isGuarded_iff_guardSearch, guardSearch_eq_some_iff] at h
    -- only an answer that is yes is followed down
    generalize hanswer : true = answer at h
    induction h with
    | missing _ | root _ _ => cases hanswer
    | guard hguard => exact ⟨_, .here hguard⟩
    | up hget _ _ ih =>
      obtain ⟨ids, hpath⟩ := ih hanswer
      exact ⟨_, .step hget hpath⟩
  · rintro ⟨ids, hpath⟩
    induction hpath with
    | here hguard => exact isGuarded_iff_guardSearch.2 (guardSearch_of_isGuard hguard)
    | step hget _ ih => exact (isGuarded_of_parent hget).2 (.inr ih)

/-- **The search goes through the whole ancestry.** -/
theorem isGuarded_iff (h : o.Ancestry id ids) : o.isGuarded id = true ↔ ∃ s ∈ ids, o.IsGuard s := by
  induction h with
  | root hroot => simp [isGuarded_of_root hroot, IsGuard, hroot]
  | step hget _ ih => simp [isGuarded_of_parent hget, ih, IsGuard, hget]

end SdkAudit.Outline
