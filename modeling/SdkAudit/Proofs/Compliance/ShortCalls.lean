import SdkAudit.Proofs.Compliance.Accounting
import SdkAudit.Proofs.Outline.Braces
import SdkAudit.Proofs.Outline.Callee

/-!
# Calls with too few arguments

A call of a documented method is to supply as many arguments as the method has parameters.  For most
methods the arity check sees to that, call by call.  Calls of the initializer are left to the check
of the initialization, and that looks at one of them only: where a text calls the initializer more
than once, the other calls are checked by neither.

* `RuleSet.FallsShort` — a call through the facade supplies too few arguments;
* `RuleSet.hasErrorAt_iff` — **where errors stand**;
* `RuleSet.ReportsShortCalls`, `RuleSet.reportsShortCalls_iff` — **short calls are reported exactly
  if** every short initializer call is the one that is looked at, or shares its position with
  something that is reported;
* `RuleSet.not_reportsShortCalls_second` — a second initializer call goes by.
-/

namespace SdkAudit

namespace RuleSet

/-- A call of a documented method through the facade supplies too few arguments. -/
def FallsShort (rules : RuleSet) (call : Call) : Prop :=
  ∃ name method, call.facadeMethod? = some name ∧ rules.method? name = some method ∧
    call.arguments.length < method.arity

/-- A call of the initializer through the facade does not supply what it has to. -/
def IsRejectedInitializer (rules : RuleSet) (call : Call) : Prop :=
  call.facadeMethod? = some rules.initialization.method ∧ rules.acceptsInitializer call = false

/-- There is an error at the position. -/
def HasErrorAt (findings : List Diagnostic) (p : Position) : Prop :=
  ∃ d ∈ findings, d.severity = .error ∧ d.position = p

/-- Every call that falls short has an error at its position, unless it is an initializer call that
supplies what it has to. -/
def ReportsShortCalls (rules : RuleSet) (o : Outline) : Prop :=
  ∀ call ∈ o.facadeCalls, rules.FallsShort call →
    HasErrorAt (rules.diagnostics (.structured o)) call.position ∨
      call.facadeMethod? = some rules.initialization.method ∧ rules.acceptsInitializer call = true

/-- The initializer call that is looked at stands here, and does not supply what it has to. -/
def RejectsInitializerAt (rules : RuleSet) (o : Outline) (p : Position) : Prop :=
  ∃ call, o.initializerCall? rules.initialization.method = some call ∧
    rules.acceptsInitializer call = false ∧ call.position = p

/-- A call of another method than the initializer stands here, and falls short. -/
def FallsShortAt (rules : RuleSet) (o : Outline) (p : Position) : Prop :=
  ∃ call ∈ o.facadeCalls, rules.FallsShort call ∧
    call.facadeMethod? ≠ some rules.initialization.method ∧ call.position = p

variable {rules : RuleSet} {o : Outline} {call : Call} {d : Diagnostic} {p : Position}

/-- The arity check finds the calls of other methods than the initializer that fall short. -/
theorem isSome_arityFinding? : (rules.arityFinding? call).isSome = true ↔
    rules.FallsShort call ∧ call.facadeMethod? ≠ some rules.initialization.method := by
  unfold arityFinding? FallsShort
  cases hname : call.facadeMethod? with
  | none => simp
  | some name =>
    by_cases hinitializer : name = rules.initialization.method
    · simp [hinitializer]
    · cases hmethod : rules.method? name with
      | none => simp [hinitializer, hmethod]
      | some method =>
        by_cases hless : call.arguments.length < method.arity <;>
          simp [hinitializer, hmethod, hless]

/-- The arity check finds an error where the call stands. -/
theorem error_of_arityFinding? (h : rules.arityFinding? call = some d) :
    d.severity = .error ∧ d.position = call.position := by
  obtain ⟨name, method, rfl⟩ := eq_methodArity_of_arityFinding? h
  exact ⟨rfl, rfl⟩

/-- An error of the check of the initialization is that of a rejected call, or that there is no call
at all. -/
theorem error_of_initializationFinding? (h : rules.initializationFinding? o = some d)
    (herror : d.severity = .error) :
    rules.RejectsInitializerAt o d.position ∨ o.facadeCalls = [] := by
  obtain ⟨call, hcall, hrejects, rfl⟩ | ⟨-, hfacade, -⟩ | ⟨-, call, -, rfl⟩ :=
    initializationFinding?_eq_some h
  · exact .inl ⟨call, hcall, hrejects, rfl⟩
  · exact .inr hfacade
  · cases herror

/-- **Where errors stand**, in an outline that has calls through the facade: at the initializer call
that is looked at, and at calls of other methods that fall short. -/
theorem hasErrorAt_iff (hfacade : o.facadeCalls ≠ []) :
    HasErrorAt (rules.diagnostics (.structured o)) p ↔
      rules.RejectsInitializerAt o p ∨ rules.FallsShortAt o p := by
  unfold HasErrorAt
  simp only [diagnostics_structured, mem_inFileOrder, outlineFindings, List.mem_append,
    Option.mem_toList, List.mem_flatMap]
  constructor
  · rintro ⟨d, hinitialization | ⟨call, hcall, hd⟩, herror, rfl⟩
    · exact (error_of_initializationFinding? hinitialization herror).imp_right (absurd · hfacade)
    · rw [callFindings_eq, List.mem_append, Option.mem_toList, Option.mem_toList] at hd
      rcases hd with harity | hguard
      · have hshort := isSome_arityFinding?.1 (Option.isSome_of_eq_some harity)
        exact .inr ⟨call, hcall, hshort.1, hshort.2, (error_of_arityFinding? harity).2.symm⟩
      · rw [eq_errorHandlingFinding hguard] at herror
        cases herror
  · rintro (⟨call, hcall, hrejects, rfl⟩ | ⟨call, hcall, hshort, hother, rfl⟩)
    · exact ⟨_, .inl (invalidInitialization_of_call hcall hrejects), rfl, rfl⟩
    · obtain ⟨d, hd⟩ := Option.isSome_iff_exists.1 (isSome_arityFinding?.2 ⟨hshort, hother⟩)
      refine ⟨d, .inr ⟨call, hcall, ?_⟩, error_of_arityFinding? hd⟩
      rw [callFindings_eq, hd]
      simp

/-- Short calls are reported exactly if something is reported at every rejected initializer call
that is short. -/
theorem reported_iff_at_position : rules.ReportsShortCalls o ↔
    ∀ call ∈ o.facadeCalls, rules.FallsShort call → rules.IsRejectedInitializer call →
      rules.RejectsInitializerAt o call.position ∨ rules.FallsShortAt o call.position := by
  constructor
  · intro h call hcall hshort hrejected
    rcases h call hcall hshort with herror | ⟨-, haccepts⟩
    · exact (hasErrorAt_iff (List.ne_nil_of_mem hcall)).1 herror
    · rw [hrejected.2] at haccepts
      cases haccepts
  · intro h call hcall hshort
    rw [hasErrorAt_iff (List.ne_nil_of_mem hcall)]
    by_cases hname : call.facadeMethod? = some rules.initialization.method
    · cases haccepts : rules.acceptsInitializer call with
      | true => exact .inr ⟨hname, rfl⟩
      | false => exact .inl (h call hcall hshort ⟨hname, haccepts⟩)
    · exact .inl (.inr ⟨call, hcall, hshort, hname, rfl⟩)

/-- **Short calls are reported exactly if** every short initializer call is the one that is looked
at, or shares its position with something that is reported.  Where every call has a position of its
own there is nothing to share, so a short initializer call has to be the one that is looked at. -/
theorem reportsShortCalls_iff (rules : RuleSet) (o : Outline) :
    (rules.ReportsShortCalls o ↔ ∀ call ∈ o.facadeCalls, rules.FallsShort call →
      rules.IsRejectedInitializer call →
        rules.RejectsInitializerAt o call.position ∨ rules.FallsShortAt o call.position) ∧
    ((o.calls.toList.map (·.position)).Nodup →
      (rules.ReportsShortCalls o ↔ ∀ call ∈ o.facadeCalls, rules.FallsShort call →
        rules.IsRejectedInitializer call →
          o.initializerCall? rules.initialization.method = some call)) := by
  refine ⟨reported_iff_at_position, fun hnodup => reported_iff_at_position.trans ?_⟩
  -- calls that share a position are one call
  have hsame : ∀ c ∈ o.calls.toList, ∀ e ∈ o.calls.toList, c.position = e.position → c = e :=
    fun c hc e he => List.inj_on_of_nodup_map hnodup hc he
  constructor
  · intro h call hcall hshort hrejected
    have hmem : call ∈ o.calls.toList := List.mem_of_mem_filter hcall
    rcases h call hcall hshort hrejected with ⟨first, hfirst, -, hp⟩ | ⟨other, hother, -, hne, hp⟩
    · have hfound := Array.mem_toList_iff.2 (Outline.initializerCall?_eq_some hfirst).1
      rwa [hsame first hfound call hmem hp] at hfirst
    · rw [hsame other (List.mem_of_mem_filter hother) call hmem hp] at hne
      exact absurd hrejected.1 hne
  · intro h call hcall hshort hrejected
    exact .inl ⟨call, h call hcall hshort hrejected, hrejected.2, rfl⟩

/-- **A second initializer call goes by**: it supplies nothing, and nothing is found. -/
theorem not_reportsShortCalls_second :
    ∃ o, Scan.tokenOutline .dart
        "try \x7b engage(1, 2, 3, 4, 5); MappSdk.engage(); \x7d catch (e) \x7b\x7d" = .ok o ∧
      (Catalogue.ruleSet .flutter).diagnostics
        (.structured (o.classify (Catalogue.ruleSet .flutter))) = [] ∧
      ¬ (Catalogue.ruleSet .flutter).ReportsShortCalls
        (o.classify (Catalogue.ruleSet .flutter)) := by
  have hcheck : (Scan.tokenOutline .dart
      "try \x7b engage(1, 2, 3, 4, 5); MappSdk.engage(); \x7d catch (e) \x7b\x7d").toOption.any
      (fun o =>
        (Catalogue.ruleSet .flutter).diagnostics
            (.structured (o.classify (Catalogue.ruleSet .flutter))) = [] ∧
          (o.classify (Catalogue.ruleSet .flutter)).facadeCalls.any fun call =>
            call.facadeMethod? = some "engage" ∧ call.arguments.length = 0 ∧
              (Catalogue.ruleSet .flutter).acceptsInitializer call = false) = true := by
    decide +kernel
  have hmethod : ((Catalogue.ruleSet .flutter).method? "engage").any (0 < ·.arity) = true := by
    decide +kernel
  simp only [Option.any_eq_true, List.any_eq_true, decide_eq_true_eq] at hcheck hmethod
  obtain ⟨o, houtline, hnone, call, hcall, hname, harguments, hrejects⟩ := hcheck
  obtain ⟨method, hmethod, harity⟩ := hmethod
  refine ⟨o, toOption_eq_some_iff.1 houtline, hnone, fun h => ?_⟩
  have hshort : (Catalogue.ruleSet .flutter).FallsShort call :=
    ⟨_, method, hname, hmethod, harguments ▸ harity⟩
  rcases h call hcall hshort with ⟨d, hd, -⟩ | ⟨-, haccepts⟩
  · rw [hnone] at hd
    cases hd
  · rw [hrejects] at haccepts
    cases haccepts

end RuleSet

end SdkAudit
