import SdkAudit.Proofs.Compliance.Accounting
import SdkAudit.Proofs.Outline.Callee
import SdkAudit.Proofs.Outline.Plant
import SdkAudit.Proofs.Outline.Relocation

/-!
# Findings follow their calls

What is found about a call depends on what it says, on what the other calls say and on whether it is
guarded.  Its place and the number of its scope are only handed on.  So if the calls of an outline
are found in another one, at other places and in other scopes, the findings are found there too.
The finding that a text misses the initialization belongs to no call and stays where it is.

* `Outline.HasCallsOf` — an outline has the calls of another, somewhere else;
* `Diagnostic.follow` — the finding where its call is somewhere else;
* `RuleSet.outlineFindings_follow` — **findings follow their calls**, up to what is guarded;
* `RuleSet.inFileOrder_follow` — **and stay in order**, if the calls do.
-/

namespace SdkAudit

open Outline

/-- The call somewhere else and in another scope. -/
def Call.move (r : Relocation) (seat : ScopeId → ScopeId) (call : Call) : Call :=
  (call.relocate r).reseat seat

/-- The outline has the calls of another, somewhere else and in other scopes. -/
def Outline.HasCallsOf (o' : Outline) (r : Relocation) (seat : ScopeId → ScopeId) (o : Outline) :
    Prop :=
  o'.calls = o.calls.map (Call.move r seat)

def Diagnostic.relocate (r : Relocation) (d : Diagnostic) : Diagnostic :=
  { d with position := r.position d.position }

/-- The finding where its call is somewhere else.  One that belongs to no call stays. -/
def Diagnostic.follow (r : Relocation) (d : Diagnostic) : Diagnostic :=
  if d.category = .missingInitialization then d else d.relocate r

theorem Diagnostic.follow_of_ne {r : Relocation} {d : Diagnostic}
    (h : d.category ≠ .missingInitialization) : d.follow r = d.relocate r :=
  if_neg h

variable {r : Relocation} {seat : ScopeId → ScopeId} {rules : RuleSet} {o o' : Outline}

theorem Outline.mem_calls_of_mem_facadeCalls {call : Call} (h : call ∈ o.facadeCalls) :
    call ∈ o.calls :=
  Array.mem_toList_iff.1 (List.mem_filter.1 h).1

namespace Outline.HasCallsOf

theorem toList_calls (h : o'.HasCallsOf r seat o) :
    o'.calls.toList = o.calls.toList.map (Call.move r seat) := by
  rw [h, Array.toList_map]

theorem classify (h : o'.HasCallsOf r seat o) (rules : RuleSet) :
    (o'.classify rules).HasCallsOf r seat (o.classify rules) := by
  unfold HasCallsOf Outline.classify
  rw [h, Array.map_map, Array.map_map]
  rfl

theorem initializerCall? (h : o'.HasCallsOf r seat o) (initializer : String) :
    o'.initializerCall? initializer = (o.initializerCall? initializer).map (Call.move r seat) := by
  have hfind : ∀ kind : CallKind, o'.calls.toList.find? (·.kind = kind)
      = (o.calls.toList.find? (·.kind = kind)).map (Call.move r seat) := by
    intro kind
    rw [h.toList_calls, List.find?_map]
    rfl
  rw [Outline.initializerCall?, hfind, hfind, Outline.initializerCall?]
  cases o.calls.toList.find? (·.kind = .initializer) <;> rfl

theorem facadeCalls (h : o'.HasCallsOf r seat o) :
    o'.facadeCalls = o.facadeCalls.map (Call.move r seat) := by
  rw [Outline.facadeCalls, h.toList_calls, List.filter_map]
  rfl

end Outline.HasCallsOf

namespace RuleSet

/-! ### What is found about calls -/

theorem arityFinding?_move (call : Call) : rules.arityFinding? (call.move r seat)
    = (rules.arityFinding? call).map (Diagnostic.follow r) := by
  have hsame : rules.undersupplied? (call.move r seat) = rules.undersupplied? call := rfl
  rw [arityFinding?_eq, arityFinding?_eq, hsame, Option.map_map]
  congr 1

theorem unguardedFinding?_move {call : Call}
    (h : o'.isGuarded (seat call.scope) = o.isGuarded call.scope) :
    rules.unguardedFinding? o' (call.move r seat)
      = (rules.unguardedFinding? o call).map (Diagnostic.follow r) := by
  have hscope : o'.isGuarded (call.move r seat).scope = o.isGuarded call.scope := h
  rw [unguardedFinding?, hscope, unguardedFinding?]
  split_ifs <;> rfl

/-- What is found about the initialization is found where its call is. -/
theorem initializationFinding?_follow (h : o'.HasCallsOf r seat o) :
    rules.initializationFinding? o'
      = (rules.initializationFinding? o).map (Diagnostic.follow r) := by
  rw [initializationFinding?, h.initializerCall?, h.facadeCalls, initializationFinding?]
  cases o.initializerCall? rules.initialization.method with
  | some call =>
    have haccepts : rules.acceptsInitializer (call.move r seat) = rules.acceptsInitializer call :=
      rfl
    simp only [Option.map_some, haccepts]
    split_ifs <;> rfl
  | none =>
    have hneeds : rules.needsInitialization ∘ Call.move r seat = rules.needsInitialization := rfl
    simp only [Option.map_none, List.isEmpty_map, List.find?_map, hneeds]
    split_ifs
    · rfl
    · cases o.facadeCalls.find? rules.needsInitialization <;> rfl

/-- **Findings follow their calls**, up to what is guarded. -/
theorem outlineFindings_follow (h : o'.HasCallsOf r seat o) : rules.outlineFindings o'
    = (rules.initializationFinding? o).toList.map (Diagnostic.follow r) ++
      o.facadeCalls.flatMap fun call =>
        (rules.arityFinding? call).toList.map (Diagnostic.follow r) ++
          (rules.unguardedFinding? o' (call.move r seat)).toList := by
  rw [outlineFindings, initializationFinding?_follow h, h.facadeCalls, List.flatMap_map]
  congr 1
  · cases rules.initializationFinding? o <;> rfl
  · congr 1
    funext call
    rw [callFindings_eq, arityFinding?_move]
    cases rules.arityFinding? call <;> rfl

/-- Where calls are guarded as before, the findings are the same. -/
theorem outlineFindings_follow_of_same (h : o'.HasCallsOf r seat o)
    (hguarded : ∀ call ∈ o.calls, o'.isGuarded (seat call.scope) = o.isGuarded call.scope) :
    rules.outlineFindings o' = (rules.outlineFindings o).map (Diagnostic.follow r) := by
  rw [outlineFindings_follow h, outlineFindings, List.map_append, List.map_flatMap]
  congr 1
  refine List.flatMap_congr fun call hcall => ?_
  have hmem := mem_calls_of_mem_facadeCalls hcall
  rw [unguardedFinding?_move (hguarded call hmem), callFindings_eq, List.map_append]
  congr 1
  cases rules.unguardedFinding? o call <;> rfl

/-- Where all calls are guarded, the findings are the same without those about errors. -/
theorem outlineFindings_follow_of_guarded (h : o'.HasCallsOf r seat o)
    (hguarded : ∀ call ∈ o.calls, o'.isGuarded (seat call.scope) = true) :
    rules.outlineFindings o'
      = ((rules.outlineFindings o).filter (fun d => d.category ≠ .errorHandling)).map
          (Diagnostic.follow r) := by
  have hkeep : ∀ c : Category, c.aboutInitialization = true →
      decide (c ≠ .errorHandling) = true := by
    intro c hc
    cases c <;> first | rfl | cases hc
  rw [outlineFindings_follow h, filter_outlineFindings rules o _ true hkeep, List.map_append,
    List.map_flatMap]
  congr 1
  refine List.flatMap_congr fun call hcall => ?_
  have hmem := mem_calls_of_mem_facadeCalls hcall
  have hnone : rules.unguardedFinding? o' (call.move r seat) = none := if_pos (hguarded call hmem)
  simp [hnone]

/-! ### Where findings stand -/

/-- The outline has no call that is about the SDK. -/
def Misses (rules : RuleSet) (o : Outline) : Prop :=
  o.initializerCall? rules.initialization.method = none ∧ o.facadeCalls = []

theorem outlineFindings_of_misses (h : rules.Misses o) :
    rules.outlineFindings o = [rules.missingInitialization] := by
  simp [outlineFindings, missingInitialization_of_none h.1 h.2, h.2]

/-- Every finding stands where a call stands, if there are calls that are about the SDK. -/
theorem exists_call_of_mem_outlineFindings (h : ¬ rules.Misses o) {d : Diagnostic}
    (hd : d ∈ rules.outlineFindings o) :
    d.category ≠ .missingInitialization ∧ ∃ call ∈ o.calls, call.position = d.position := by
  rcases List.mem_append.1 hd with hd | hd
  · obtain ⟨call, hcall, -, rfl⟩ | ⟨hcall, hnil, rfl⟩ | ⟨-, call, hfind, rfl⟩ :=
      initializationFinding?_eq_some (Option.mem_toList.1 hd)
    · exact ⟨nofun, call, (initializerCall?_eq_some hcall).1, rfl⟩
    · exact (h ⟨hcall, hnil⟩).elim
    · exact ⟨nofun, call, mem_calls_of_mem_facadeCalls (List.mem_of_find?_eq_some hfind), rfl⟩
  · obtain ⟨call, hcall, hd⟩ := List.mem_flatMap.1 hd
    rw [callFindings_eq, List.mem_append, Option.mem_toList, Option.mem_toList] at hd
    rcases hd with hd | hd
    · obtain ⟨_, _, rfl⟩ := eq_methodArity_of_arityFinding? hd
      exact ⟨nofun, call, mem_calls_of_mem_facadeCalls hcall, rfl⟩
    · rw [eq_errorHandlingFinding hd]
      exact ⟨nofun, call, mem_calls_of_mem_facadeCalls hcall, rfl⟩

/-- **Findings stay in order** if the calls do. -/
theorem inFileOrder_follow {part : List Diagnostic}
    (hpart : ∀ d ∈ part, d ∈ rules.outlineFindings o)
    (hkeep : ∀ c ∈ o.calls, ∀ d ∈ o.calls,
      (r.position c.position).notAfter (r.position d.position) = c.position.notAfter d.position) :
    inFileOrder (part.map (Diagnostic.follow r))
      = (inFileOrder part).map (Diagnostic.follow r) := by
  refine (map_inFileOrder _ _ fun a ha b hb => ?_).symm
  have ha := hpart a ha
  have hb := hpart b hb
  by_cases hmisses : rules.Misses o
  · rw [outlineFindings_of_misses hmisses, List.mem_singleton] at ha hb
    subst ha hb
    rfl
  · obtain ⟨hcategory, c, hc, hposition⟩ := exists_call_of_mem_outlineFindings hmisses ha
    obtain ⟨hcategory', d, hd, hposition'⟩ := exists_call_of_mem_outlineFindings hmisses hb
    have hsame := hkeep c hc d hd
    rw [hposition, hposition'] at hsame
    rw [Diagnostic.follow_of_ne hcategory, Diagnostic.follow_of_ne hcategory']
    exact hsame.symm

end RuleSet

end SdkAudit
