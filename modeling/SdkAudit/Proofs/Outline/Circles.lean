import SdkAudit.Proofs.Outline.Ancestor

/-!
# Circles of parents

A scope can be added inside any number: that of a scope, that of no scope, that of a scope which is
added later, and its own.  So following parents can lead round in a circle.  Whatever the parents
are, the search for a guarded scope finds one exactly if there is one on the way.  If there is none,
the way ends and so does the search, or the way leads into a circle and the search goes on for ever.

* `Outline.built` — an outline with scopes added one after the other;
* `Outline.ReachesGuard`, `Outline.GoesRound` — where following parents leads;
* `Outline.goesRound_of_no_answer` — **a search without an answer goes round**;
* `Outline.SearchesExactly`, `Outline.search_built` — **what the search answers**, and that it
  always answers where parents come before their children or stay missing;
* `Outline.guardSearch_own_parent` — a scope that is its own parent is searched for ever.
-/

namespace SdkAudit.Outline

variable {o : Outline} {id : ScopeId}

/-! ### Following parents -/

def IsParent (o : Outline) (id parent : ScopeId) : Prop :=
  ∃ kind, o.scopes[id]? = some ⟨kind, some parent⟩

/-- Following parents from the scope leads to one that handles errors. -/
def ReachesGuard (o : Outline) (id : ScopeId) : Prop :=
  ∃ s, Relation.ReflTransGen o.IsParent id s ∧ o.IsGuard s

/-- Following parents from the scope leads into a circle, that is to a scope which is an ancestor of
itself. -/
def GoesRound (o : Outline) (id : ScopeId) : Prop :=
  ∃ s, Relation.ReflTransGen o.IsParent id s ∧ Relation.TransGen o.IsParent s s

theorem IsParent.unique {parent parent' : ScopeId} (h : o.IsParent id parent)
    (h' : o.IsParent id parent') : parent = parent' := by
  obtain ⟨kind, hget⟩ := h
  obtain ⟨kind', hget'⟩ := h'
  rw [hget] at hget'
  cases hget'
  rfl

/-- The ways of `GuardPath` are those that follow parents. -/
theorem reachesGuard_iff_exists_path : o.ReachesGuard id ↔ ∃ ids, o.GuardPath id ids := by
  constructor
  · rintro ⟨s, hway, hguard⟩
    induction hway using Relation.ReflTransGen.head_induction_on with
    | refl => exact ⟨_, .here hguard⟩
    | head hparent _ ih =>
      obtain ⟨kind, hget⟩ := hparent
      obtain ⟨ids, hpath⟩ := ih
      exact ⟨_, .step hget hpath⟩
  · rintro ⟨ids, hpath⟩
    induction hpath with
    | here hguard => exact ⟨_, .refl, hguard⟩
    | step hget _ ih =>
      obtain ⟨s, hway, hguard⟩ := ih
      exact ⟨s, .head ⟨_, hget⟩ hway, hguard⟩

/-- A way that goes round passes the parent of the scope it starts from. -/
theorem GoesRound.exists_parent (h : o.GoesRound id) :
    ∃ parent, o.IsParent id parent ∧ o.GoesRound parent := by
  obtain ⟨s, hway, hcircle⟩ := h
  rcases hway.cases_head with rfl | ⟨parent, hparent, hrest⟩
  · obtain ⟨parent, hparent, hback⟩ := Relation.TransGen.head'_iff.1 hcircle
    exact ⟨parent, hparent, id, hback, hcircle⟩
  · exact ⟨parent, hparent, s, hrest, hcircle⟩

/-- No way goes round from a scope without a parent. -/
theorem not_goesRound_of_root (h : ∀ parent, ¬ o.IsParent id parent) : ¬ o.GoesRound id := by
  intro hround
  obtain ⟨parent, hparent, -⟩ := hround.exists_parent
  exact h parent hparent

/-! ### Searches without an answer -/

/-- Where a way goes round, the search does not come to answer that nothing is guarded. -/
theorem not_goesRound_of_answers (h : o.Answers id false) : ¬ o.GoesRound id := by
  generalize hanswer : false = answer at h
  induction h with
  | missing hget => exact not_goesRound_of_root (by simp [IsParent, hget])
  | guard _ => cases hanswer
  | root hget _ => exact not_goesRound_of_root (by simp [IsParent, hget])
  | up hget _ _ ih =>
    intro hround
    obtain ⟨parent, hparent, hrest⟩ := hround.exists_parent
    obtain rfl := hparent.unique ⟨_, hget⟩
    exact ih hanswer hrest

/-- A search without an answer goes on at a parent, and has no answer from there. -/
theorem exists_parent_of_no_answer (h : o.guardSearch id = none) :
    ∃ parent, o.IsParent id parent ∧ o.guardSearch parent = none := by
  rw [guardSearch] at h
  rcases hget : o.scopes[id]? with _ | ⟨kind, _ | parent⟩
  · simp [hget] at h
  · simp only [hget] at h
    split_ifs at h
  · simp only [hget] at h
    split_ifs at h
    exact ⟨parent, ⟨kind, hget⟩, h⟩

/-- Where the search has no answer, a way goes on for ever. -/
theorem exists_endless_way (h : o.guardSearch id = none) :
    ∃ way : ℕ → ScopeId, way 0 = id ∧ ∀ n, o.IsParent (way n) (way (n + 1)) := by
  have hgoesOn : ∀ s, o.guardSearch s = none →
      ∃ parent, o.IsParent s parent ∧ o.guardSearch parent = none :=
    fun s => exists_parent_of_no_answer
  choose! next hnext using hgoesOn
  have hnone : ∀ n, o.guardSearch (next^[n] id) = none := by
    intro n
    induction n with
    | zero => exact h
    | succ n ih =>
      rw [Function.iterate_succ_apply']
      exact (hnext _ ih).2
  refine ⟨fun n => next^[n] id, rfl, fun n => ?_⟩
  show o.IsParent (next^[n] id) (next^[n + 1] id)
  rw [Function.iterate_succ_apply']
  exact (hnext _ (hnone n)).1

/-- A way that goes on for ever goes round, since it has more steps than there are scopes. -/
theorem goesRound_of_endless_way {way : ℕ → ScopeId}
    (hstep : ∀ n, o.IsParent (way n) (way (n + 1))) : o.GoesRound (way 0) := by
  have hlt : ∀ n, way n < o.scopes.size := by
    intro n
    obtain ⟨kind, hget⟩ := hstep n
    exact (Array.getElem?_eq_some_iff.1 hget).1
  have hreach : ∀ n, Relation.ReflTransGen o.IsParent (way 0) (way n) := by
    intro n
    induction n with
    | zero => exact .refl
    | succ n ih => exact ih.tail (hstep n)
  have hlater : ∀ {m n : ℕ}, m < n → Relation.TransGen o.IsParent (way m) (way n) := by
    intro m n hmn
    induction hmn with
    | refl => exact .single (hstep m)
    | step _ ih => exact ih.tail (hstep _)
  -- two of its steps come to the same scope
  obtain ⟨m, n, hne, hsame⟩ :=
    Finite.exists_ne_map_eq_of_infinite fun n => (⟨way n, hlt n⟩ : Fin o.scopes.size)
  have hmeet : way m = way n := congrArg Fin.val hsame
  rcases Nat.lt_or_gt_of_ne hne with hlt | hgt
  · exact ⟨way m, hreach m, by simpa [hmeet] using hlater hlt⟩
  · exact ⟨way n, hreach n, by simpa [hmeet] using hlater hgt⟩

/-- **A search without an answer goes round.** -/
theorem goesRound_of_no_answer (h : o.guardSearch id = none) : o.GoesRound id := by
  obtain ⟨way, rfl, hstep⟩ := exists_endless_way h
  exact goesRound_of_endless_way hstep

/-! ### What the search answers -/

/-- What the search for a guarded scope answers is told by where following parents leads. -/
structure SearchesExactly (o : Outline) (id : ScopeId) : Prop where
  /-- The search finds a guarded scope exactly if a way leads there. -/
  yes : o.guardSearch id = some true ↔ o.ReachesGuard id
  /-- It ends without one exactly if no way leads there and none goes round. -/
  no : o.guardSearch id = some false ↔ ¬ o.ReachesGuard id ∧ ¬ o.GoesRound id
  /-- It does not end exactly if the way goes round and meets no guarded scope. -/
  never : o.guardSearch id = none ↔ ¬ o.ReachesGuard id ∧ o.GoesRound id
  /-- A scope is taken for guarded exactly if a way leads to a guarded one. -/
  isGuarded : o.isGuarded id = true ↔ o.ReachesGuard id

theorem searchesExactly (o : Outline) (id : ScopeId) : o.SearchesExactly id := by
  have hguarded : o.isGuarded id = true ↔ o.ReachesGuard id :=
    isGuarded_iff_exists_path.trans reachesGuard_iff_exists_path.symm
  have hyes : o.guardSearch id = some true ↔ o.ReachesGuard id :=
    isGuarded_iff_guardSearch.symm.trans hguarded
  have hno : o.guardSearch id = some false → ¬ o.GoesRound id := fun h =>
    not_goesRound_of_answers (guardSearch_eq_some_iff.1 h)
  have hround : o.guardSearch id = none → o.GoesRound id := goesRound_of_no_answer
  refine ⟨hyes, ?_, ?_, hguarded⟩
  · rw [← hyes]
    rcases hsearch : o.guardSearch id with _ | _ | _
    · simpa using hround hsearch
    · simpa using hno hsearch
    · simp
  · rw [← hyes]
    rcases hsearch : o.guardSearch id with _ | _ | _
    · simpa using hround hsearch
    · simpa using hno hsearch
    · simp

/-! ### Outlines as they are built -/

/-- The outline in which these scopes have been added one after the other, each with its kind inside
the scope with a number. -/
def built (additions : List (ScopeKind × ScopeId)) : Outline :=
  additions.foldl (fun o addition => o.addScope addition.1 addition.2) {}

/-- The scopes are the file and those that have been added. -/
theorem scopes_built (additions : List (ScopeKind × ScopeId)) :
    (built additions).scopes.toList
      = ⟨.file, none⟩ :: additions.map fun addition => ⟨addition.1, some addition.2⟩ := by
  have hfold : ∀ o : Outline,
      (additions.foldl (fun o addition => o.addScope addition.1 addition.2) o).scopes.toList
        = o.scopes.toList ++ additions.map fun addition => ⟨addition.1, some addition.2⟩ := by
    induction additions with
    | nil => simp
    | cons addition additions ih =>
      intro o
      rw [List.foldl_cons, ih]
      simp [addScope]
  exact hfold {}

/-- Every scope has been added inside one that was there already, or inside a number that no scope
gets. -/
def Orderly (additions : List (ScopeKind × ScopeId)) : Prop :=
  ∀ (i : Nat) (kind : ScopeKind) (parent : ScopeId), additions[i]? = some (kind, parent) →
    parent ≤ i ∨ additions.length < parent

/-- In an orderly outline a parent comes first, or is missing. -/
theorem Orderly.lt_or_missing {additions : List (ScopeKind × ScopeId)} (h : Orderly additions)
    {parent : ScopeId} (hparent : (built additions).IsParent id parent) :
    parent < id ∨ (built additions).scopes[parent]? = none := by
  obtain ⟨kind, hget⟩ := hparent
  rw [← Array.getElem?_toList, scopes_built] at hget
  cases id with
  | zero => simp at hget
  | succ i =>
    simp only [List.getElem?_cons_succ, List.getElem?_map, Option.map_eq_some_iff] at hget
    obtain ⟨⟨kind', parent'⟩, hadded, hscope⟩ := hget
    cases hscope
    refine (h i _ _ hadded).imp Nat.lt_succ_of_le fun hgt => ?_
    rw [← Array.getElem?_toList, scopes_built, List.getElem?_eq_none_iff]
    simpa using hgt

theorem Orderly.answers {additions : List (ScopeKind × ScopeId)} (h : Orderly additions)
    (id : ScopeId) : (built additions).guardSearch id ≠ none := by
  induction id using Nat.strong_induction_on with
  | h id ih =>
    intro hnone
    obtain ⟨parent, hparent, hrest⟩ := exists_parent_of_no_answer hnone
    rcases h.lt_or_missing hparent with hlt | hmissing
    · exact ih parent hlt hrest
    · rw [guardSearch_eq_some_iff.2 (.missing hmissing)] at hrest
      cases hrest

/-- **What the search answers**, whatever scopes have been added, inside whatever numbers.  It
always comes to an answer where parents come first or stay missing. -/
theorem search_built (additions : List (ScopeKind × ScopeId)) (id : ScopeId) :
    (built additions).SearchesExactly id ∧
      (Orderly additions → ∃ answer, (built additions).guardSearch id = some answer) :=
  ⟨searchesExactly _ id, fun h => Option.ne_none_iff_exists'.1 (h.answers id)⟩

/-- For instance in a region of a guarded scope, beside one whose parent is missing. -/
theorem search_built_region :
    Orderly [(.guarded, 0), (.block, 1), (.block, 9)] ∧
      (built [(.guarded, 0), (.block, 1), (.block, 9)]).ReachesGuard 2 ∧
      ∃ answer, (built [(.guarded, 0), (.block, 1), (.block, 9)]).guardSearch 3 = some answer := by
  have horderly : Orderly [(.guarded, 0), (.block, 1), (.block, 9)] := by
    intro i kind parent h
    rcases i with _ | _ | _ | i
    · cases h
      exact .inl le_rfl
    · cases h
      exact .inl le_rfl
    · cases h
      exact .inr (by decide)
    · cases h
  exact ⟨horderly, (search_built _ 2).1.isGuarded.1 (by decide), (search_built _ 3).2 horderly⟩

/-- **A scope that is its own parent is searched for ever**, although no guarded scope is on the
way. -/
theorem guardSearch_own_parent :
    (built [(.block, 1)]).guardSearch 1 = none ∧ ¬ (built [(.block, 1)]).ReachesGuard 1 := by
  have hparent : (built [(.block, 1)]).IsParent 1 1 := ⟨.block, rfl⟩
  have hround : (built [(.block, 1)]).GoesRound 1 := ⟨1, .refl, .single hparent⟩
  have hguard : ¬ (built [(.block, 1)]).ReachesGuard 1 := by
    rintro ⟨s, hway, hguard⟩
    have hsame : 1 = s := by
      clear hguard
      induction hway with
      | refl => rfl
      | tail _ hnext ih => exact hparent.unique (ih ▸ hnext)
    subst hsame
    obtain ⟨parent, hget⟩ := hguard
    cases hget
  exact ⟨(searchesExactly _ 1).never.2 ⟨hguard, hround⟩, hguard⟩

end SdkAudit.Outline
