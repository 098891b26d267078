import SdkAudit.Outline.OfForest
import SdkAudit.Proofs.Outline.Ancestor
import SdkAudit.Proofs.Outline.Callee

/-!
# Scopes of nodes

The nodes around a call that form scopes are made scopes from the outermost one on, and those that
an earlier call has met are met again.  Whatever the calls are and in whatever order they come, each
of these nodes gets one scope, inside the scope of the next one around it.

* `SyntaxTree.nearest?`, `SyntaxTree.nearest_induction` — from node to node that forms a scope;
* `Lowering.Mirrors` — what ties the scopes to the nodes, as long as calls are added;
* `Lowering.Grows`, `Lowering.grows_enter`, `Lowering.grows_enclosingScope` — what one node and what
  one call add to the scopes;
* `Lowering.Mirrors.isGuarded_iff` — whether a scope is guarded is told from the tree;
* `LowersExactly`, `lowersExactly` — **the scopes of every tree**, for calls in every order;
* `isGuarded_of_mem_calls_ofForest` — so it is in the outlines of forests.
-/

namespace SdkAudit.Outline

variable {ν : Type} {tree : SyntaxTree ν} {node around : ν} {kind : ScopeKind}

/-! ### From node to node -/

namespace SyntaxTree

/-- The innermost of the nodes around a node that form scopes. -/
def nearest? (tree : SyntaxTree ν) (node : ν) : Option ν :=
  (tree.ancestors node).find? fun n => (tree.scope? n).isSome

/-- The node is around another and forms a scope. -/
def Forms (tree : SyntaxTree ν) (around node : ν) : Prop :=
  around ∈ tree.ancestors node ∧ (tree.scope? around).isSome = true

/-- What comes behind a node among those around another is around it. -/
theorem ancestors_of_append {inner outer : List ν}
    (h : tree.ancestors node = inner ++ around :: outer) : outer = tree.ancestors around := by
  induction inner generalizing node with
  | nil =>
    rw [tree.ancestors_eq] at h
    cases hparent : tree.parent? node with
    | none => simp [hparent] at h
    | some parent =>
      rw [hparent] at h
      obtain ⟨rfl, rfl⟩ := List.cons.inj h
      rfl
  | cons n inner ih =>
    rw [tree.ancestors_eq] at h
    cases hparent : tree.parent? node with
    | none => simp [hparent] at h
    | some parent =>
      rw [hparent] at h
      exact ih (List.cons.inj h).2

/-- Up to the nearest node that forms a scope, none does. -/
theorem exists_inner_of_nearest? (h : tree.nearest? node = some around) :
    ∃ inner, tree.ancestors node = inner ++ around :: tree.ancestors around ∧
      (∀ n ∈ inner, tree.scope? n = none) ∧ (tree.scope? around).isSome = true := by
  obtain ⟨hscope, inner, outer, heq, hinner⟩ := List.find?_eq_some_iff_append.1 h
  rw [ancestors_of_append heq] at heq
  exact ⟨inner, heq, fun n hn => by simpa using hinner n hn, hscope⟩

theorem scope?_of_nearest?_eq_none (h : tree.nearest? node = none) :
    ∀ n ∈ tree.ancestors node, tree.scope? n = none := fun n hn => by
  simpa using List.find?_eq_none.1 h n hn

/-- Induction from a node to the nearest one around it that forms a scope. -/
theorem nearest_induction {motive : ν → Prop}
    (outermost : ∀ node, tree.nearest? node = none → motive node)
    (inside : ∀ node around, tree.nearest? node = some around → motive around → motive node)
    (node : ν) : motive node := by
  induction hlength : (tree.ancestors node).length using Nat.strong_induction_on
    generalizing node with
  | h length ih =>
    cases hnearest : tree.nearest? node with
    | none => exact outermost node hnearest
    | some around =>
      obtain ⟨inner, heq, -, -⟩ := exists_inner_of_nearest? hnearest
      have hless : (tree.ancestors around).length < length := by
        rw [← hlength, heq, List.length_append, List.length_cons]
        omega
      exact inside node around hnearest (ih _ hless around rfl)

theorem forms_of_nearest? (h : tree.nearest? node = some around) {n : ν} :
    tree.Forms n node ↔ n = around ∨ tree.Forms n around := by
  obtain ⟨inner, heq, hinner, hscope⟩ := exists_inner_of_nearest? h
  unfold Forms
  rw [heq, List.mem_append, List.mem_cons]
  constructor
  · rintro ⟨hmem | rfl | hmem, hsome⟩
    · simp [hinner n hmem] at hsome
    · exact .inl rfl
    · exact .inr ⟨hmem, hsome⟩
  · rintro (rfl | ⟨hmem, hsome⟩)
    · exact ⟨.inr (.inl rfl), hscope⟩
    · exact ⟨.inr (.inr hmem), hsome⟩

theorem not_forms_of_nearest?_eq_none (h : tree.nearest? node = none) {n : ν} :
    ¬ tree.Forms n node := fun hforms => by
  simpa [scope?_of_nearest?_eq_none h n hforms.1] using hforms.2

/-- Something of a kind is around a node exactly if it is the nearest node that forms a scope or is
around that. -/
theorem exists_kind_iff_of_nearest? (h : tree.nearest? node = some around) :
    (∃ n ∈ tree.ancestors node, tree.scope? n = some kind) ↔
      tree.scope? around = some kind ∨
        ∃ n ∈ tree.ancestors around, tree.scope? n = some kind := by
  obtain ⟨inner, heq, hinner, -⟩ := exists_inner_of_nearest? h
  rw [heq]
  constructor
  · rintro ⟨n, hmem, hkind⟩
    rcases List.mem_append.1 hmem with hmem | hmem
    · simp [hinner n hmem] at hkind
    · rcases List.mem_cons.1 hmem with rfl | hmem
      · exact .inl hkind
      · exact .inr ⟨n, hmem, hkind⟩
  · rintro (hkind | ⟨n, hmem, hkind⟩)
    · exact ⟨around, by simp, hkind⟩
    · exact ⟨n, by simp [hmem], hkind⟩

theorem chain_of_nearest?_eq_none (h : tree.nearest? node = none) : tree.chain node = [] := by
  rw [chain, List.reverse_eq_nil_iff, List.filterMap_eq_nil_iff]
  intro n hn
  rw [scope?_of_nearest?_eq_none h n hn]
  rfl

theorem chain_of_nearest? (h : tree.nearest? node = some around)
    (hkind : tree.scope? around = some kind) :
    tree.chain node = tree.chain around ++ [(around, kind)] := by
  obtain ⟨inner, heq, hinner, -⟩ := exists_inner_of_nearest? h
  have hnone : inner.filterMap (fun n => (tree.scope? n).map (n, ·)) = [] := by
    rw [List.filterMap_eq_nil_iff]
    intro n hn
    rw [hinner n hn]
    rfl
  rw [chain, heq, List.filterMap_append, hnone, List.nil_append,
    List.filterMap_cons_some (by rw [hkind]; rfl), List.reverse_cons, chain]

end SyntaxTree

/-! ### Scopes and nodes -/

namespace Lowering

variable [DecidableEq ν] {l l' l'' : Lowering ν} {id parent : ScopeId}

/-- The scope that a node is in is that of the nearest node around it that forms one, or the file if
there is none. -/
def IsScopeOf (l : Lowering ν) (tree : SyntaxTree ν) (node : ν) (id : ScopeId) : Prop :=
  match tree.nearest? node with
  | none => id = fileScope
  | some around => l.scopes.lookup around = some id

theorem isScopeOf_of_nearest?_eq_none (h : tree.nearest? node = none) :
    l.IsScopeOf tree node id ↔ id = fileScope := by
  rw [IsScopeOf, h]

theorem isScopeOf_of_nearest? (h : tree.nearest? node = some around) :
    l.IsScopeOf tree node id ↔ l.scopes.lookup around = some id := by
  rw [IsScopeOf, h]

theorem IsScopeOf.mono (h : l.IsScopeOf tree node id)
    (hkeeps : ∀ n id, l.scopes.lookup n = some id → l'.scopes.lookup n = some id) :
    l'.IsScopeOf tree node id := by
  cases hnearest : tree.nearest? node with
  | none =>
    rw [isScopeOf_of_nearest?_eq_none hnearest] at h ⊢
    exact h
  | some around =>
    rw [isScopeOf_of_nearest? hnearest] at h ⊢
    exact hkeeps _ _ h

/-- The scopes of an outline in the making mirror the nodes that have been met. -/
structure Mirrors (tree : SyntaxTree ν) (l : Lowering ν) : Prop where
  file : l.outline.scopes[fileScope]? = some ⟨.file, none⟩
  /-- There is one more for each node that has been met, and each of these has been met once. -/
  size : l.outline.scopes.size = (l.scopes.map Prod.fst).length + 1
  distinct : (l.scopes.map Prod.fst).Nodup
  /-- Each scope but the file is that of one node, -/
  injective : ∀ m n id, l.scopes.lookup m = some id → l.scopes.lookup n = some id → m = n
  /-- and all these scopes are. -/
  onto : ∀ id, (∃ n, l.scopes.lookup n = some id) ↔
    fileScope < id ∧ id < l.outline.scopes.size
  /-- It is of the kind that the node forms, inside the scope that the node is in, which was there
  before. -/
  scope : ∀ n id, l.scopes.lookup n = some id → ∃ kind parent, tree.scope? n = some kind ∧
    l.outline.scopes[id]? = some ⟨kind, some parent⟩ ∧ parent < id ∧ l.IsScopeOf tree n parent

theorem mirrors_empty (tree : SyntaxTree ν) : Mirrors tree {} where
  file := rfl
  size := rfl
  distinct := .nil
  injective _ _ _ hm := by cases hm
  onto id := by
    constructor
    · rintro ⟨n, hn⟩
      cases hn
    · rintro ⟨hpos, hlt⟩
      exact absurd (Nat.le_of_lt_succ hlt) (Nat.not_le_of_lt hpos)
  scope _ _ hn := by cases hn

/-- One outline in the making goes on from another: it mirrors the tree, all scopes stay with their
nodes, and these nodes get scopes besides. -/
structure Grows (tree : SyntaxTree ν) (l l' : Lowering ν) (added : ν → Prop) : Prop where
  mirrors : Mirrors tree l'
  keeps : ∀ n id, l.scopes.lookup n = some id → l'.scopes.lookup n = some id
  nodes : ∀ n, (l'.scopes.lookup n).isSome = true ↔ (l.scopes.lookup n).isSome = true ∨ added n

namespace Grows

variable {added more : ν → Prop}

theorem refl (h : Mirrors tree l) (hadded : ∀ n, ¬ added n) : Grows tree l l added where
  mirrors := h
  keeps _ _ hn := hn
  nodes n := by simp [hadded n]

theorem trans (h : Grows tree l l' added) (h' : Grows tree l' l'' more) :
    Grows tree l l'' fun n => added n ∨ more n where
  mirrors := h'.mirrors
  keeps n id hn := h'.keeps n id (h.keeps n id hn)
  nodes n := by rw [h'.nodes, h.nodes, or_assoc]

theorem congr (h : Grows tree l l' added) (heq : ∀ n, added n ↔ more n) : Grows tree l l' more where
  mirrors := h.mirrors
  keeps := h.keeps
  nodes n := by rw [h.nodes, heq]

/-- A node stays in the scope that it is in. -/
theorem isScopeOf (h : Grows tree l l' added) (hscope : l.IsScopeOf tree node id) :
    l'.IsScopeOf tree node id :=
  hscope.mono h.keeps

end Grows

/-- The scope that a node is in has a number that is given. -/
theorem Mirrors.lt_size (h : Mirrors tree l) (hscope : l.IsScopeOf tree node id) :
    id < l.outline.scopes.size := by
  cases hnearest : tree.nearest? node with
  | none =>
    rw [(isScopeOf_of_nearest?_eq_none hnearest).1 hscope]
    exact (Array.getElem?_eq_some_iff.1 h.file).1
  | some around =>
    exact ((h.onto id).1 ⟨around, (isScopeOf_of_nearest? hnearest).1 hscope⟩).2

theorem enter_of_lookup (h : l.scopes.lookup node = some id) :
    l.enter parent node kind = (l, id) := by
  rw [enter, h]

theorem enter_of_lookup_eq_none (h : l.scopes.lookup node = none) :
    l.enter parent node kind
      = (⟨l.outline.addScope kind parent, (node, l.outline.scopes.size) :: l.scopes⟩,
        l.outline.scopes.size) := by
  rw [enter, h]
  rfl

theorem lookup_cons {n : ν} {scopes : List (ν × ScopeId)} :
    ((node, id) :: scopes).lookup n = if n = node then some id else scopes.lookup n := by
  rw [List.lookup_cons]
  by_cases hn : n = node
  · simp [hn]
  · rw [beq_false_of_ne hn, if_neg hn]

/-- A node that is new hides none that has been met. -/
theorem lookup_cons_of_new {n : ν} {other : ScopeId} {scopes : List (ν × ScopeId)}
    (hnew : scopes.lookup node = none) (hn : scopes.lookup n = some other) :
    ((node, id) :: scopes).lookup n = some other := by
  rw [lookup_cons, if_neg, hn]
  rintro rfl
  rw [hnew] at hn
  cases hn

theorem mem_keys_iff {n : ν} {scopes : List (ν × ScopeId)} :
    n ∈ scopes.map Prod.fst ↔ (scopes.lookup n).isSome = true := by
  induction scopes with
  | nil => simp
  | cons first scopes ih =>
    rw [List.map_cons, List.mem_cons, ih, lookup_cons]
    by_cases hn : n = first.1 <;> simp [hn]

theorem getElem?_addScope {o : Outline} :
    (o.addScope kind parent).scopes[id]?
      = if id = o.scopes.size then some ⟨kind, some parent⟩ else o.scopes[id]? :=
  Array.getElem?_push

/-- A node that has not been met is added with the next number. -/
theorem mirrors_cons (h : Mirrors tree l) (hkind : tree.scope? node = some kind)
    (hparent : l.IsScopeOf tree node parent) (hlookup : l.scopes.lookup node = none) :
    Mirrors tree
      ⟨l.outline.addScope kind parent, (node, l.outline.scopes.size) :: l.scopes⟩ := by
  have hlt : ∀ n id, l.scopes.lookup n = some id →
      fileScope < id ∧ id < l.outline.scopes.size := fun n id hn => (h.onto id).1 ⟨n, hn⟩
  have hkeeps : ∀ n id, l.scopes.lookup n = some id →
      ((node, l.outline.scopes.size) :: l.scopes).lookup n = some id :=
    fun n id hn => lookup_cons_of_new hlookup hn
  have hfile : fileScope < l.outline.scopes.size := (Array.getElem?_eq_some_iff.1 h.file).1
  have hsize : (l.outline.addScope kind parent).scopes.size = l.outline.scopes.size + 1 :=
    Array.size_push _
  exact
    { file := by rw [getElem?_addScope, if_neg hfile.ne, h.file]
      size := by rw [hsize, h.size, List.map_cons, List.length_cons]
      distinct := by
        rw [List.map_cons, List.nodup_cons, mem_keys_iff, hlookup]
        exact ⟨by simp, h.distinct⟩
      injective := by
        intro m n id hm hn
        rw [lookup_cons] at hm hn
        split_ifs at hm hn with hmnode hnnode hnnode
        · rw [hmnode, hnnode]
        · cases hm
          exact absurd (hlt n _ hn).2 (lt_irrefl _)
        · cases hn
          exact absurd (hlt m _ hm).2 (lt_irrefl _)
        · exact h.injective m n id hm hn
      onto := by
        intro id
        rw [hsize]
        constructor
        · rintro ⟨n, hn⟩
          rw [lookup_cons] at hn
          split_ifs at hn
          · cases hn
            exact ⟨hfile, Nat.lt_succ_self _⟩
          · exact ⟨(hlt n id hn).1, Nat.lt_succ_of_lt (hlt n id hn).2⟩
        · rintro ⟨hpos, hid⟩
          rcases Nat.lt_succ_iff_lt_or_eq.1 hid with hid | rfl
          · obtain ⟨n, hn⟩ := (h.onto id).2 ⟨hpos, hid⟩
            exact ⟨n, hkeeps n id hn⟩
          · exact ⟨node, by rw [lookup_cons, if_pos rfl]⟩
      scope := by
        intro n id hn
        rw [lookup_cons] at hn
        split_ifs at hn with hnode
        · cases hn
          subst hnode
          exact ⟨kind, parent, hkind, by rw [getElem?_addScope, if_pos rfl], h.lt_size hparent,
            hparent.mono hkeeps⟩
        · obtain ⟨kind', parent', hkind', hget, hless, hscope⟩ := h.scope n id hn
          have hne : id ≠ l.outline.scopes.size := (hlt n id hn).2.ne
          exact ⟨kind', parent', hkind', by rw [getElem?_addScope, if_neg hne, hget], hless,
            hscope.mono hkeeps⟩ }

/-- **What entering a node adds to the scopes**: one for the node, unless it has one. -/
theorem grows_enter (h : Mirrors tree l) (hkind : tree.scope? node = some kind)
    (hparent : l.IsScopeOf tree node parent) :
    Grows tree l (l.enter parent node kind).1 (· = node) ∧
      (l.enter parent node kind).1.scopes.lookup node = some (l.enter parent node kind).2 := by
  cases hlookup : l.scopes.lookup node with
  | some id =>
    rw [enter_of_lookup hlookup]
    refine ⟨⟨h, fun _ _ hn => hn, fun n => ?_⟩, hlookup⟩
    constructor
    · exact .inl
    · rintro (hn | rfl)
      · exact hn
      · rw [hlookup]
        rfl
  | none =>
    rw [enter_of_lookup_eq_none hlookup]
    refine ⟨⟨mirrors_cons h hkind hparent hlookup, fun n id hn => lookup_cons_of_new hlookup hn,
      fun n => ?_⟩, ?_⟩
    · rw [lookup_cons]
      by_cases hn : n = node <;> simp [hn]
    · rw [lookup_cons, if_pos rfl]

/-! ### The scope of a call -/

theorem enclosingScope_of_nearest?_eq_none (h : tree.nearest? node = none) :
    l.enclosingScope tree node = (l, fileScope) := by
  rw [enclosingScope, SyntaxTree.chain_of_nearest?_eq_none h]
  rfl

theorem enclosingScope_of_nearest? (h : tree.nearest? node = some around)
    (hkind : tree.scope? around = some kind) :
    l.enclosingScope tree node
      = (l.enclosingScope tree around).1.enter (l.enclosingScope tree around).2 around kind := by
  rw [enclosingScope, SyntaxTree.chain_of_nearest? h hkind, List.foldl_append]
  rfl

/-- **What one call adds to the scopes**: one for each node around it that forms one and has none
yet. -/
theorem grows_enclosingScope (h : Mirrors tree l) (node : ν) :
    Grows tree l (l.enclosingScope tree node).1 (tree.Forms · node) ∧
      (l.enclosingScope tree node).1.IsScopeOf tree node (l.enclosingScope tree node).2 := by
  induction node using tree.nearest_induction with
  | outermost node hnearest =>
    rw [enclosingScope_of_nearest?_eq_none hnearest, isScopeOf_of_nearest?_eq_none hnearest]
    exact ⟨.refl h fun n => SyntaxTree.not_forms_of_nearest?_eq_none hnearest, rfl⟩
  | inside node around hnearest ih =>
    obtain ⟨-, -, -, hscope⟩ := SyntaxTree.exists_inner_of_nearest? hnearest
    obtain ⟨kind, hkind⟩ := Option.isSome_iff_exists.1 hscope
    obtain ⟨hgrows, hparent⟩ := ih
    obtain ⟨hentered, hlookup⟩ := grows_enter hgrows.mirrors hkind hparent
    rw [enclosingScope_of_nearest? hnearest hkind, isScopeOf_of_nearest? hnearest]
    refine ⟨(hgrows.trans hentered).congr fun n => ?_, hlookup⟩
    rw [SyntaxTree.forms_of_nearest? hnearest, or_comm]

/-- **Whether a scope is guarded is told from the tree**: something that handles errors is around
the node. -/
theorem Mirrors.isGuarded_iff (h : Mirrors tree l) (hscope : l.IsScopeOf tree node id) :
    l.outline.isGuarded id = true ↔
      ∃ n ∈ tree.ancestors node, tree.scope? n = some .guarded := by
  induction node using tree.nearest_induction generalizing id with
  | outermost node hnearest =>
    rw [isScopeOf_of_nearest?_eq_none hnearest] at hscope
    rw [hscope, isGuarded_of_root h.file]
    constructor
    · intro hkind
      cases hkind
    · rintro ⟨n, hn, hguarded⟩
      simp [SyntaxTree.scope?_of_nearest?_eq_none hnearest n hn] at hguarded
  | inside node around hnearest ih =>
    rw [isScopeOf_of_nearest? hnearest] at hscope
    obtain ⟨kind, parent, hkind, hget, -, hparent⟩ := h.scope around id hscope
    rw [isGuarded_of_parent hget, ih hparent, SyntaxTree.exists_kind_iff_of_nearest? hnearest,
      hkind, Option.some.injEq]

/-- A call is added as it is found, in the scope that its node is in. -/
structure Places (tree : SyntaxTree ν) (l : Lowering ν) (site : Site ν) (call : Call) : Prop where
  callee : call.callee = site.callee
  arguments : call.arguments = site.arguments
  position : call.position = site.position
  scope : l.IsScopeOf tree site.node call.scope

theorem Places.mono {added : ν → Prop} {site : Site ν} {call : Call}
    (h : Places tree l site call) (hgrows : Grows tree l l' added) :
    Places tree l' site call where
  callee := h.callee
  arguments := h.arguments
  position := h.position
  scope := hgrows.isScopeOf h.scope

/-- What one more call adds. -/
theorem grows_addSite (h : Mirrors tree l) (site : Site ν) :
    Grows tree l (l.addSite tree site) (tree.Forms · site.node) ∧
      ∃ call, (l.addSite tree site).outline.calls.toList = l.outline.calls.toList ++ [call] ∧
        Places tree (l.addSite tree site) site call := by
  obtain ⟨hgrows, hscope⟩ := grows_enclosingScope h site.node
  let call : Call := {
    callee := site.callee
    arguments := site.arguments
    position := site.position
    scope := (l.enclosingScope tree site.node).2 }
  refine ⟨{ hgrows with mirrors := { hgrows.mirrors with } }, call, ?_, ⟨rfl, rfl, rfl, hscope⟩⟩
  simp only [addSite, addCall, calls_enclosingScope, Array.toList_push, call]

/-- **What all calls add**, one after the other. -/
theorem grows_foldl_addSite (h : Mirrors tree l) (found : List (Site ν)) :
    Grows tree l (found.foldl (addSite tree) l) (fun n => ∃ site ∈ found, tree.Forms n site.node) ∧
      ∃ calls, (found.foldl (addSite tree) l).outline.calls.toList
          = l.outline.calls.toList ++ calls ∧
        List.Forall₂ (Places tree (found.foldl (addSite tree) l)) found calls := by
  induction found generalizing l with
  | nil => exact ⟨.refl h (by simp), [], by simp, .nil⟩
  | cons site found ih =>
    obtain ⟨hfirst, call, hcall, hplaces⟩ := grows_addSite h site
    obtain ⟨hrest, calls, hcalls, hall⟩ := ih hfirst.mirrors
    rw [List.foldl_cons]
    refine ⟨(hfirst.trans hrest).congr fun n => by simp, call :: calls, ?_,
      .cons (hplaces.mono hrest) hall⟩
    rw [hcalls, hcall, List.append_assoc]
    rfl

end Lowering

/-! ### Whole trees -/

section

variable [DecidableEq ν]

open Lowering

/-- The scopes of a tree are exact, where these calls have been added one after the other. -/
structure LowersExactly (tree : SyntaxTree ν) (found : List (Site ν)) (l : Lowering ν) : Prop
    extends Mirrors tree l where
  /-- The nodes that have scopes are those around the calls that form scopes. -/
  nodes : ∀ n, (∃ id, l.scopes.lookup n = some id) ↔
    ∃ site ∈ found, n ∈ tree.ancestors site.node ∧ (tree.scope? n).isSome = true
  /-- Each call is in the scope of the nearest of these nodes. -/
  calls : List.Forall₂ (Places tree l) found l.outline.calls.toList
  /-- That scope is guarded exactly if a node around the call handles errors. -/
  guarded : List.Forall₂ (fun site call => l.outline.isGuarded call.scope = true ↔
    ∃ n ∈ tree.ancestors site.node, tree.scope? n = some .guarded) found l.outline.calls.toList

theorem lowersExactly_foldl (tree : SyntaxTree ν) (found : List (Site ν)) :
    LowersExactly tree found (found.foldl (addSite tree) {}) := by
  obtain ⟨hgrows, calls, hcalls, hplaces⟩ := grows_foldl_addSite (mirrors_empty tree) found
  have hall : List.Forall₂ (Places tree (found.foldl (addSite tree) {})) found
      (found.foldl (addSite tree) {}).outline.calls.toList := by
    rw [hcalls]
    exact hplaces
  exact
    { hgrows.mirrors with
      nodes := fun n => by
        rw [← Option.isSome_iff_exists, hgrows.nodes]
        simp [SyntaxTree.Forms]
      calls := hall
      guarded := hall.imp fun _ _ hplace => hgrows.mirrors.isGuarded_iff hplace.scope }

/-- **The scopes of every tree are exact, whatever calls are added and in whatever order**: the same
nodes have scopes, as many in all. -/
theorem lowersExactly (tree : SyntaxTree ν) (found : List (Site ν)) :
    LowersExactly tree found (found.foldl (addSite tree) {}) ∧
      ∀ found' : List (Site ν), found'.Perm found →
        (∀ n, (∃ id, (found'.foldl (addSite tree) {}).scopes.lookup n = some id) ↔
          ∃ id, (found.foldl (addSite tree) {}).scopes.lookup n = some id) ∧
        (found'.foldl (addSite tree) {}).outline.scopes.size
          = (found.foldl (addSite tree) {}).outline.scopes.size := by
  have hexact := lowersExactly_foldl tree found
  refine ⟨hexact, fun found' hperm => ?_⟩
  have hexact' := lowersExactly_foldl tree found'
  have hnodes : ∀ n, (∃ id, (found'.foldl (addSite tree) {}).scopes.lookup n = some id) ↔
      ∃ id, (found.foldl (addSite tree) {}).scopes.lookup n = some id := by
    intro n
    rw [hexact'.nodes, hexact.nodes]
    simp only [hperm.mem_iff]
  refine ⟨hnodes, ?_⟩
  have hkeys : ((found'.foldl (addSite tree) {}).scopes.map Prod.fst).Perm
      ((found.foldl (addSite tree) {}).scopes.map Prod.fst) := by
    refine (List.perm_ext_iff_of_nodup hexact'.distinct hexact.distinct).2 fun n => ?_
    rw [mem_keys_iff, mem_keys_iff, Option.isSome_iff_exists, Option.isSome_iff_exists, hnodes]
  rw [hexact'.size, hexact.size, hkeys.length_eq]

end

/-- **The scopes of forests are exact**: a call is guarded exactly if a region that handles errors
is around it. -/
theorem isGuarded_of_mem_calls_ofForest {source : List Char} {forest : Forest} {call : Call}
    (h : call ∈ (ofForest source forest).calls) :
    ∃ site ∈ sites source [] forest, Lowering.Places spots
        ((sites source [] forest).foldl (Lowering.addSite spots) {}) site call ∧
      ((ofForest source forest).isGuarded call.scope = true ↔
        ∃ spot ∈ Spot.ancestors site.node, Spot.scope? spot = some .guarded) := by
  have hexact := lowersExactly_foldl spots (sites source [] forest)
  simp only [ofForest, sorted, List.mem_toArray, List.mem_mergeSort] at h
  obtain ⟨i, hi, rfl⟩ := List.mem_iff_getElem.1 h
  have hlength := hexact.calls.length_eq
  have hsame : ∀ id, (ofForest source forest).isGuarded id
      = ((sites source [] forest).foldl (Lowering.addSite spots) {}).outline.isGuarded id :=
    isGuarded_congr rfl
  refine ⟨(sites source [] forest)[i], List.getElem_mem _, hexact.calls.get (by omega) hi, ?_⟩
  rw [hsame]
  exact hexact.guarded.get (by omega) hi

end SdkAudit.Outline
