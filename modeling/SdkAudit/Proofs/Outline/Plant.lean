import SdkAudit.Proofs.Outline.Arena

/-!
# Outlines inside outlines

What a nesting adds to an outline does not depend on what is there already, except that scopes go on
to be numbered from there.  So it is the outline that the nesting has by itself, planted in the
scope in which the nesting stands: this scope is in the place of the file, and the other scopes get
the next numbers.

* `Outline.seat`, `Outline.plant` — an outline planted in a scope of another;
* `Outline.addNesting_eq_plant` — **a nesting adds the outline that it has by itself**;
* `Outline.isGuarded_plant_left` — planting guards no scope that was there;
* `Outline.isGuarded_plant_seat` — **a planted scope is guarded by its own outline, or where that is
  planted**.
-/

namespace SdkAudit

/-- The scope with its parent under another number. -/
def Scope.reseat (seat : ScopeId → ScopeId) (s : Scope) : Scope :=
  { s with parent := s.parent.map seat }

/-- The call with its scope under another number. -/
def Call.reseat (seat : ScopeId → ScopeId) (call : Call) : Call :=
  { call with scope := seat call.scope }

namespace Outline

variable {flavor : Flavor} {o p : Outline} {scope id : Nat}

/-- The number that a scope gets when its outline is planted in a scope of another. -/
def seat (o : Outline) (scope : ScopeId) : ScopeId → ScopeId
  | 0 => scope
  | id + 1 => o.scopes.size + id

/-- An outline planted in a scope of another. -/
def plant (o : Outline) (scope : ScopeId) (p : Outline) : Outline where
  scopes := o.scopes ++ (p.scopes.toList.tail.map (Scope.reseat (o.seat scope))).toArray
  calls := o.calls ++ p.calls.map (Call.reseat (o.seat scope))

theorem nextScope_plant (hp : 0 < p.scopes.size) :
    (o.plant scope p).nextScope = o.seat scope p.nextScope := by
  obtain ⟨size, hsize⟩ : ∃ size, p.scopes.size = size + 1 := ⟨p.scopes.size - 1, by omega⟩
  simp [nextScope, plant, hsize, seat]

theorem addScope_plant (hp : 0 < p.scopes.size) (kind : ScopeKind) (id : ScopeId) :
    (o.plant scope p).addScope kind (o.seat scope id) = o.plant scope (p.addScope kind id) := by
  have hne : p.scopes.toList ≠ [] := by
    rw [← List.length_pos_iff, Array.length_toList]
    exact hp
  have htail : (p.scopes.toList ++ [Scope.mk kind (some id)]).tail
      = p.scopes.toList.tail ++ [⟨kind, some id⟩] := List.tail_append_of_ne_nil hne
  simp [plant, addScope, htail, Scope.reseat]

theorem addCall_plant (call : Call) :
    (o.plant scope p).addCall (call.reseat (o.seat scope)) = o.plant scope (p.addCall call) := by
  simp [plant, addCall]

/-- A call is handed the scope that it lies in. -/
theorem callAt?_reseat (seat : ScopeId → ScopeId) (before inner : Nesting) (after : List Token)
    (id : ScopeId) : callAt? flavor before inner after (seat id)
      = (callAt? flavor before inner after id).map (Call.reseat seat) := by
  unfold callAt?
  cases chainEnding? before with
  | none => rfl
  | some chain =>
    simp only
    split_ifs <;> rfl

/-- A nesting takes no scope away. -/
theorem size_le_addNesting (flavor : Flavor) (scope : ScopeId) (o : Outline) (after : List Token)
    (n : Nesting) : o.scopes.size ≤ (addNesting flavor scope o after n).scopes.size := by
  induction n generalizing scope o after with
  | empty => exact le_rfl
  | token before t ih => exact ih scope o (t :: after)
  | group before kind opener inner closer ihb ihi =>
    refine (ihb scope o [opener]).trans ?_
    cases kind with
    | square => exact ihi scope _ []
    | curly =>
      refine le_trans ?_ (ihi _ _ [])
      simp [addScope]
    | round =>
      simp only [addNesting]
      cases callAt? flavor before inner after scope with
      | none => exact ihi scope _ []
      | some call => exact ihi scope ((addNesting flavor scope o [opener] before).addCall call) []

/-- **A nesting adds to a planted outline what it adds to the outline.** -/
theorem addNesting_plant (hp : 0 < p.scopes.size) (id : ScopeId) (after : List Token)
    (n : Nesting) :
    addNesting flavor (o.seat scope id) (o.plant scope p) after n
      = o.plant scope (addNesting flavor id p after n) := by
  induction n generalizing id p after with
  | empty => rfl
  | token before t ih => exact ih hp id (t :: after)
  | group before kind opener inner closer ihb ihi =>
    have hsize := hp.trans_le (size_le_addNesting flavor id p [opener] before)
    simp only [addNesting, ihb hp id [opener]]
    cases kind with
    | square => exact ihi hsize id []
    | curly =>
      simp only
      rw [addScope_plant hsize, nextScope_plant hsize]
      refine ihi ?_ _ []
      simp [addScope]
    | round =>
      simp only [callAt?_reseat]
      cases callAt? flavor before inner after id with
      | none => exact ihi hsize id []
      | some call =>
        have hadd : 0 < ((addNesting flavor id p [opener] before).addCall call).scopes.size := hsize
        simp only [Option.map_some, addCall_plant]
        exact ihi hadd id []

/-- **A nesting adds the outline that it has by itself**, planted in the scope where it stands. -/
theorem addNesting_eq_plant (scope : ScopeId) (o : Outline) (after : List Token) (n : Nesting) :
    addNesting flavor scope o after n = o.plant scope (addNesting flavor fileScope {} after n) := by
  have hnone : o.plant scope {} = o := by simp [plant]
  have hplant : addNesting flavor (o.seat scope fileScope) (o.plant scope {}) after n = _ :=
    addNesting_plant (by simp) fileScope after n
  rwa [hnone] at hplant

/-! ### Guarded scopes -/

/-- Only the file has no parent, and parents come first. -/
structure IsTree (o : Outline) : Prop where
  root : o.scopes[0]? = some ⟨.file, none⟩
  parent : ∀ (id : Nat) (scope : Scope), o.scopes[id + 1]? = some scope →
    ∃ parent ≤ id, scope.parent = some parent

theorem isTree_ofNesting {n : Nesting} (hn : n.IsProper) : (ofNesting flavor n).IsTree where
  root := scopes_getElem?_zero hn
  parent := by
    intro id scope hget
    obtain ⟨g, hg, hk, hscope, heq⟩ := exists_group_of_scope hn hget
    have hlt := Nesting.scopeWithin_lt hn hg
    rw [Nesting.Group.scope?, if_pos hk] at heq
    cases heq
    exact ⟨_, by omega, rfl⟩

theorem isGuarded_fileScope (ho : o.IsTree) : o.isGuarded fileScope = false := by
  have hfile : o.isGuarded fileScope = true ↔ ScopeKind.file = .guarded := isGuarded_of_root ho.root
  rw [← Bool.not_eq_true, hfile]
  exact fun h => nomatch h

theorem getElem?_plant_left (hid : id < o.scopes.size) :
    (o.plant scope p).scopes[id]? = o.scopes[id]? := by
  rw [plant, Array.getElem?_append_left hid]

theorem getElem?_plant_seat (k : Nat) :
    (o.plant scope p).scopes[o.seat scope (k + 1)]?
      = p.scopes[k + 1]?.map (Scope.reseat (o.seat scope)) := by
  rw [plant, seat, Array.getElem?_append_right (Nat.le_add_right _ _), Nat.add_sub_cancel_left,
    List.getElem?_toArray, List.getElem?_map, List.getElem?_tail, Array.getElem?_toList]

/-- Planting guards no scope that was there. -/
theorem isGuarded_plant_left (ho : o.IsTree) (hid : id < o.scopes.size) :
    (o.plant scope p).isGuarded id = o.isGuarded id := by
  induction id using Nat.strong_induction_on with
  | h id ih =>
    have hsame : (o.plant scope p).scopes[id]? = _ := getElem?_plant_left hid
    rw [Bool.eq_iff_iff]
    cases id with
    | zero => rw [isGuarded_of_root (hsame.trans ho.root), isGuarded_of_root ho.root]
    | succ id =>
      obtain ⟨⟨kind, parent?⟩, hget⟩ : ∃ s, o.scopes[id + 1]? = some s :=
        ⟨_, Array.getElem?_eq_getElem hid⟩
      obtain ⟨parent, hle, rfl⟩ := ho.parent id _ hget
      rw [isGuarded_of_parent (hsame.trans hget), isGuarded_of_parent hget,
        ih parent (by omega) (by omega)]

/-- **A planted scope is guarded by its own outline, or where that is planted.** -/
theorem isGuarded_plant_seat (ho : o.IsTree) (hp : p.IsTree) (hscope : scope < o.scopes.size)
    (hid : id < p.scopes.size) : (o.plant scope p).isGuarded (o.seat scope id)
      = (p.isGuarded id || o.isGuarded scope) := by
  induction id using Nat.strong_induction_on with
  | h id ih =>
    cases id with
    | zero =>
      have hfile : p.isGuarded 0 = false := isGuarded_fileScope hp
      rw [hfile, Bool.false_or]
      exact isGuarded_plant_left ho hscope
    | succ id =>
      obtain ⟨⟨kind, parent?⟩, hget⟩ : ∃ s, p.scopes[id + 1]? = some s :=
        ⟨_, Array.getElem?_eq_getElem hid⟩
      obtain ⟨parent, hle, rfl⟩ := hp.parent id _ hget
      have hplanted : (o.plant scope p).scopes[o.seat scope (id + 1)]? = _ := getElem?_plant_seat id
      rw [hget] at hplanted
      have hparent := ih parent (by omega) (by omega)
      rw [Bool.eq_iff_iff, isGuarded_of_parent hplanted, hparent, Bool.or_eq_true, Bool.or_eq_true,
        isGuarded_of_parent hget, or_assoc]

/-- More scopes leave guarded ones guarded. -/
theorem isGuarded_addScope {kind : ScopeKind} {parent : ScopeId} (h : o.isGuarded id = true) :
    (o.addScope kind parent).isGuarded id = true := by
  have hget : ∀ {id : Nat} {s : Scope}, o.scopes[id]? = some s →
      (o.addScope kind parent).scopes[id]? = some s := by
    intro id s hs
    have hlt := (Array.getElem?_eq_some_iff.1 hs).1
    rw [addScope, Array.getElem?_push_lt hlt, ← hs, Array.getElem?_eq_getElem hlt]
  obtain ⟨ids, hpath⟩ := isGuarded_iff_exists_path.1 h
  refine isGuarded_iff_exists_path.2 ⟨ids, ?_⟩
  clear h
  induction hpath with
  | here hguard => exact .here (hguard.imp fun _ => hget)
  | step hs _ ih => exact .step (hget hs) ih

/-- A call lies in a scope of its outline. -/
theorem scope_lt_of_mem_calls {n : Nesting} (hn : n.IsProper) {call : Call}
    (hcall : call ∈ (ofNesting flavor n).calls) :
    call.scope < (ofNesting flavor n).scopes.size := by
  rw [← Array.mem_toList_iff, calls_ofNesting hn] at hcall
  obtain ⟨g, hg, hsome⟩ := List.mem_filterMap.1 hcall
  rw [(Nesting.Group.call?_eq_some hsome).2]
  exact (ancestry_of_mem_groups hn hg).lt_size

end Outline

end SdkAudit
