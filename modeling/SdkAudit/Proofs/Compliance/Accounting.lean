import SdkAudit.Proofs.Compliance.FileOrder
import SdkAudit.Proofs.Outline.Ancestor

/-!
# Every call is accounted for

The three checks of an outline share one pass over its calls and sort what they find.  None of their
findings is lost or made twice, whatever the calls and the scopes are: the findings of each kind are
those of the calls that deserve them, one each.

* `RuleSet.undersupplied?` — the documented method that a call supplies too few arguments to;
* `RuleSet.Accounts` — what it means that findings account for the calls of an outline;
* `RuleSet.filter_aboutInitialization`, `RuleSet.filter_methodArity`,
  `RuleSet.filter_errorHandling` — the findings of each kind;
* `RuleSet.accounts_diagnostics` — **the findings of every outline account for its calls**.
-/

namespace SdkAudit

/-- Whether findings of a kind are about the initialization of a text. -/
def Category.aboutInitialization : Category → Bool
  | .missingInitialization | .invalidInitialization | .initializationOrder => true
  | _ => false

namespace RuleSet

/-- The documented method, with its name, that a call through the facade supplies too few arguments
to.  Calls of the initializer are not meant, since they are checked for its required parameters. -/
def undersupplied? (rules : RuleSet) (call : Call) : Option (String × Method) :=
  call.facadeMethod?.bind fun name =>
    ((rules.method? name).filter fun method =>
      name ≠ rules.initialization.method ∧ call.arguments.length < method.arity).map (name, ·)

/-- Findings account for the calls of an outline. -/
structure Accounts (rules : RuleSet) (o : Outline) (findings : List Diagnostic) : Prop where
  /-- Every finding is of one of the three checks, and as grave as findings of its kind are. -/
  kinds : ∀ d ∈ findings, d.severity = d.category.usualSeverity ∧
    (d.category.aboutInitialization = true ∨ d.category = .methodArity ∨
      d.category = .errorHandling)
  /-- There is one warning for each call through the facade that no scope guards. -/
  errors : (findings.filter (·.category = .errorHandling)).Perm
    ((o.facadeCalls.filter (!o.isGuarded ·.scope)).map rules.errorHandlingFinding)
  /-- There is one error for each call through the facade with too few arguments. -/
  arities : (findings.filter (·.category = .methodArity)).Perm
    (o.facadeCalls.filterMap fun call =>
      (rules.undersupplied? call).map fun (name, method) => methodArity call method name)
  /-- There is at most one finding about the initialization. -/
  atMostOne : (findings.filter (·.category.aboutInitialization)).length ≤ 1
  /-- The initializer call is invalid exactly if there is one that is not accepted. -/
  invalid : ∀ d, d ∈ findings ∧ d.category = .invalidInitialization ↔
    ∃ call, o.initializerCall? rules.initialization.method = some call ∧
      rules.acceptsInitializer call = false ∧ d = rules.invalidInitialization call
  /-- The initialization is missing exactly if neither the initializer is called nor the facade. -/
  missing : ∀ d, d ∈ findings ∧ d.category = .missingInitialization ↔
    o.initializerCall? rules.initialization.method = none ∧ o.facadeCalls = [] ∧
      d = rules.missingInitialization
  /-- The order is in question exactly if there is no initializer call, but a first call that needs
  one. -/
  order : ∀ d, d ∈ findings ∧ d.category = .initializationOrder ↔
    o.initializerCall? rules.initialization.method = none ∧
      ∃ call, o.facadeCalls.find? rules.needsInitialization = some call ∧
        d = rules.initializationOrder call
  /-- Findings come in file order. -/
  sorted : InFileOrder findings
  /-- At each position the finding about the initialization comes first, and then call by call the
  error before the warning. -/
  ties : ∀ p, findings.filter (·.position = p)
    = findings.filter (fun d => d.position = p ∧ d.category.aboutInitialization = true) ++
      (o.facadeCalls.filter (·.position = p)).flatMap fun call =>
        ((rules.undersupplied? call).map fun (name, method) => methodArity call method name).toList
          ++ if o.isGuarded call.scope then [] else [rules.errorHandlingFinding call]

variable {rules : RuleSet} {o : Outline} {call : Call} {d : Diagnostic}

/-! ### What each check finds -/

theorem arityFinding?_eq (rules : RuleSet) (call : Call) : rules.arityFinding? call
    = (rules.undersupplied? call).map fun (name, method) => methodArity call method name := by
  unfold arityFinding? undersupplied?
  cases call.facadeMethod? with
  | none => rfl
  | some name =>
    by_cases hname : name = rules.initialization.method
    · simp [hname]
    · cases hmethod : rules.method? name with
      | none => simp [hname, hmethod]
      | some method =>
        by_cases hless : call.arguments.length < method.arity <;>
          simp [hname, hmethod, hless, Option.filter]

theorem eq_methodArity_of_arityFinding? (h : rules.arityFinding? call = some d) :
    ∃ name method, d = methodArity call method name := by
  rw [arityFinding?_eq, Option.map_eq_some_iff] at h
  obtain ⟨⟨name, method⟩, -, rfl⟩ := h
  exact ⟨name, method, rfl⟩

/-- The finding about the initialization says which of three cases there is. -/
theorem initializationFinding?_eq_some (h : rules.initializationFinding? o = some d) :
    (∃ call, o.initializerCall? rules.initialization.method = some call ∧
        rules.acceptsInitializer call = false ∧ d = rules.invalidInitialization call) ∨
      (o.initializerCall? rules.initialization.method = none ∧ o.facadeCalls = [] ∧
        d = rules.missingInitialization) ∨
      (o.initializerCall? rules.initialization.method = none ∧
        ∃ call, o.facadeCalls.find? rules.needsInitialization = some call ∧
          d = rules.initializationOrder call) := by
  unfold initializationFinding? at h
  cases hcall : o.initializerCall? rules.initialization.method with
  | some call =>
    simp only [hcall] at h
    split_ifs at h with haccepts
    cases h
    exact .inl ⟨call, rfl, Bool.eq_false_of_not_eq_true haccepts, rfl⟩
  | none =>
    simp only [hcall] at h
    split_ifs at h with hempty
    · cases h
      exact .inr (.inl ⟨rfl, List.isEmpty_iff.1 hempty, rfl⟩)
    · obtain ⟨call, hfind, rfl⟩ := Option.map_eq_some_iff.1 h
      exact .inr (.inr ⟨rfl, call, hfind, rfl⟩)

theorem aboutInitialization_of_finding (h : rules.initializationFinding? o = some d) :
    d.category.aboutInitialization = true := by
  obtain ⟨_, -, -, rfl⟩ | ⟨-, -, rfl⟩ | ⟨-, _, -, rfl⟩ := initializationFinding?_eq_some h <;> rfl

theorem invalidInitialization_of_call
    (hcall : o.initializerCall? rules.initialization.method = some call)
    (haccepts : rules.acceptsInitializer call = false) :
    rules.initializationFinding? o = some (rules.invalidInitialization call) := by
  simp [initializationFinding?, hcall, haccepts]

theorem missingInitialization_of_none
    (hcall : o.initializerCall? rules.initialization.method = none) (hfacade : o.facadeCalls = []) :
    rules.initializationFinding? o = some rules.missingInitialization := by
  simp [initializationFinding?, hcall, hfacade]

theorem initializationOrder_of_find
    (hcall : o.initializerCall? rules.initialization.method = none)
    (hfind : o.facadeCalls.find? rules.needsInitialization = some call) :
    rules.initializationFinding? o = some (rules.initializationOrder call) := by
  have hfacade : o.facadeCalls ≠ [] := by
    intro hnil
    simp [hnil] at hfind
  simp [initializationFinding?, hcall, hfacade, hfind]

/-- The finding that no scope around a call handles its errors, if there is none that does. -/
def unguardedFinding? (rules : RuleSet) (o : Outline) (call : Call) : Option Diagnostic :=
  if o.isGuarded call.scope then none else some (rules.errorHandlingFinding call)

theorem eq_errorHandlingFinding (h : rules.unguardedFinding? o call = some d) :
    d = rules.errorHandlingFinding call := by
  unfold unguardedFinding? at h
  split_ifs at h
  exact (Option.some.inj h).symm

theorem callFindings_eq (rules : RuleSet) (o : Outline) (call : Call) : rules.callFindings o call
    = (rules.arityFinding? call).toList ++ (rules.unguardedFinding? o call).toList := by
  unfold callFindings unguardedFinding?
  split_ifs <;> rfl

theorem filterMap_unguardedFinding? (rules : RuleSet) (o : Outline) (calls : List Call) :
    calls.filterMap (rules.unguardedFinding? o)
      = (calls.filter (!o.isGuarded ·.scope)).map rules.errorHandlingFinding := by
  induction calls with
  | nil => rfl
  | cons call calls ih =>
    by_cases hguarded : o.isGuarded call.scope = true <;>
      simp [unguardedFinding?, hguarded, ← ih]

/-! ### The findings of each kind -/

/-- Findings that are kept or left out alike. -/
theorem filter_toList_of_forall {keep : Diagnostic → Bool} {found : Option Diagnostic} {b : Bool}
    (h : ∀ d, found = some d → keep d = b) :
    found.toList.filter keep = if b then found.toList else [] := by
  cases found with
  | none => cases b <;> rfl
  | some d => cases b <;> simp [h d rfl]

/-- The findings about a call are kept or left out by kind. -/
theorem filter_callFindings {keep : Diagnostic → Bool} {b c : Bool}
    (harity : ∀ method name, keep (methodArity call method name) = b)
    (herror : keep (rules.errorHandlingFinding call) = c) :
    (rules.callFindings o call).filter keep
      = (if b then (rules.arityFinding? call).toList else []) ++
        if c then (rules.unguardedFinding? o call).toList else [] := by
  rw [callFindings_eq, List.filter_append]
  congr 1
  · refine filter_toList_of_forall fun d hd => ?_
    obtain ⟨name, method, rfl⟩ := eq_methodArity_of_arityFinding? hd
    exact harity method name
  · refine filter_toList_of_forall fun d hd => ?_
    rw [eq_errorHandlingFinding hd]
    exact herror

/-- **The findings of some kinds** are those of the checks that find them.  Kinds that are about the
initialization are kept or left out together. -/
theorem filter_outlineFindings (rules : RuleSet) (o : Outline) (keep : Category → Bool) (b : Bool)
    (hkeep : ∀ c : Category, c.aboutInitialization = true → keep c = b) :
    (rules.outlineFindings o).filter (fun d => keep d.category)
      = (if b then (rules.initializationFinding? o).toList else []) ++
        o.facadeCalls.flatMap fun call =>
          (if keep .methodArity then (rules.arityFinding? call).toList else []) ++
            if keep .errorHandling then (rules.unguardedFinding? o call).toList else [] := by
  have hinitialization : (rules.initializationFinding? o).toList.filter (fun d => keep d.category)
      = if b then (rules.initializationFinding? o).toList else [] :=
    filter_toList_of_forall fun d hd => hkeep _ (aboutInitialization_of_finding hd)
  rw [outlineFindings, List.filter_append, hinitialization, List.filter_flatMap]
  congr 2
  funext call
  exact filter_callFindings (fun _ _ => rfl) rfl

theorem filter_aboutInitialization (rules : RuleSet) (o : Outline) :
    (rules.outlineFindings o).filter (fun d => d.category.aboutInitialization)
      = (rules.initializationFinding? o).toList := by
  rw [filter_outlineFindings rules o Category.aboutInitialization true fun _ h => h]
  simp [Category.aboutInitialization]

/-- The other kinds of finding are not about the initialization. -/
theorem decide_eq_false_of_aboutInitialization {kind c : Category}
    (hkind : kind.aboutInitialization = false) (hc : c.aboutInitialization = true) :
    decide (c = kind) = false := by
  refine decide_eq_false fun heq => ?_
  rw [heq, hkind] at hc
  cases hc

theorem filter_methodArity (rules : RuleSet) (o : Outline) :
    (rules.outlineFindings o).filter (fun d => decide (d.category = .methodArity))
      = o.facadeCalls.filterMap rules.arityFinding? := by
  rw [filter_outlineFindings rules o (fun c => decide (c = .methodArity)) false
    fun _ => decide_eq_false_of_aboutInitialization rfl, List.filterMap_eq_flatMap_toList]
  simp

theorem filter_errorHandling (rules : RuleSet) (o : Outline) :
    (rules.outlineFindings o).filter (fun d => decide (d.category = .errorHandling))
      = o.facadeCalls.filterMap (rules.unguardedFinding? o) := by
  rw [filter_outlineFindings rules o (fun c => decide (c = .errorHandling)) false
    fun _ => decide_eq_false_of_aboutInitialization rfl, List.filterMap_eq_flatMap_toList]
  simp

/-- What is found at a position. -/
theorem filter_position (rules : RuleSet) (o : Outline) (p : Position) :
    (rules.outlineFindings o).filter (·.position = p)
      = (rules.initializationFinding? o).toList.filter (·.position = p) ++
        (o.facadeCalls.filter (·.position = p)).flatMap (rules.callFindings o) := by
  rw [outlineFindings, List.filter_append, List.filter_flatMap]
  congr 1
  induction o.facadeCalls with
  | nil => rfl
  | cons call calls ih =>
    -- whatever is found about a call stands where the call stands
    have hsame : ∀ b : Bool, decide (call.position = p) = b →
        (rules.callFindings o call).filter (·.position = p)
          = if b then rules.callFindings o call else [] := by
      intro b hb
      rw [filter_callFindings (fun _ _ => hb) hb, callFindings_eq]
      cases b <;> rfl
    rw [List.flatMap_cons, ih, hsame _ rfl, List.filter_cons]
    split_ifs <;> rfl

/-! ### The account -/

theorem mem_diagnostics_iff_of_about {category : Category}
    (hcategory : category.aboutInitialization = true) :
    (d ∈ rules.diagnostics (.structured o) ∧ d.category = category) ↔
      rules.initializationFinding? o = some d ∧ d.category = category := by
  rw [diagnostics_structured, mem_inFileOrder]
  refine and_congr_left fun heq => ?_
  have hfilter := filter_aboutInitialization rules o
  have hmem : d ∈ (rules.outlineFindings o).filter (fun d => d.category.aboutInitialization) ↔
      d ∈ rules.outlineFindings o := by
    rw [List.mem_filter, heq, hcategory, and_iff_left rfl]
  rw [← hmem, hfilter, Option.mem_toList]

theorem kinds_of_mem_outlineFindings (h : d ∈ rules.outlineFindings o) :
    d.severity = d.category.usualSeverity ∧ (d.category.aboutInitialization = true ∨
      d.category = .methodArity ∨ d.category = .errorHandling) := by
  rcases List.mem_append.1 h with hd | hd
  · rw [Option.mem_toList] at hd
    refine ⟨?_, .inl (aboutInitialization_of_finding hd)⟩
    obtain ⟨_, -, -, rfl⟩ | ⟨-, -, rfl⟩ | ⟨-, _, -, rfl⟩ := initializationFinding?_eq_some hd
    all_goals rfl
  · obtain ⟨call, -, hd⟩ := List.mem_flatMap.1 hd
    rw [callFindings_eq, List.mem_append, Option.mem_toList, Option.mem_toList] at hd
    rcases hd with hd | hd
    · obtain ⟨_, _, rfl⟩ := eq_methodArity_of_arityFinding? hd
      exact ⟨rfl, .inr (.inl rfl)⟩
    · rw [eq_errorHandlingFinding hd]
      exact ⟨rfl, .inr (.inr rfl)⟩

theorem invalid_iff :
    (d ∈ rules.diagnostics (.structured o) ∧ d.category = .invalidInitialization) ↔
      ∃ call, o.initializerCall? rules.initialization.method = some call ∧
        rules.acceptsInitializer call = false ∧ d = rules.invalidInitialization call := by
  rw [mem_diagnostics_iff_of_about rfl]
  constructor
  · rintro ⟨hd, hcategory⟩
    obtain hinvalid | ⟨-, -, rfl⟩ | ⟨-, _, -, rfl⟩ := initializationFinding?_eq_some hd
    · exact hinvalid
    · cases hcategory
    · cases hcategory
  · rintro ⟨call, hcall, haccepts, rfl⟩
    exact ⟨invalidInitialization_of_call hcall haccepts, rfl⟩

theorem missing_iff :
    (d ∈ rules.diagnostics (.structured o) ∧ d.category = .missingInitialization) ↔
      o.initializerCall? rules.initialization.method = none ∧ o.facadeCalls = [] ∧
        d = rules.missingInitialization := by
  rw [mem_diagnostics_iff_of_about rfl]
  constructor
  · rintro ⟨hd, hcategory⟩
    obtain ⟨_, -, -, rfl⟩ | hmissing | ⟨-, _, -, rfl⟩ := initializationFinding?_eq_some hd
    · cases hcategory
    · exact hmissing
    · cases hcategory
  · rintro ⟨hcall, hfacade, rfl⟩
    exact ⟨missingInitialization_of_none hcall hfacade, rfl⟩

theorem order_iff :
    (d ∈ rules.diagnostics (.structured o) ∧ d.category = .initializationOrder) ↔
      o.initializerCall? rules.initialization.method = none ∧
        ∃ call, o.facadeCalls.find? rules.needsInitialization = some call ∧
          d = rules.initializationOrder call := by
  rw [mem_diagnostics_iff_of_about rfl]
  constructor
  · rintro ⟨hd, hcategory⟩
    obtain ⟨_, -, -, rfl⟩ | ⟨-, -, rfl⟩ | horder := initializationFinding?_eq_some hd
    · cases hcategory
    · cases hcategory
    · exact horder
  · rintro ⟨hcall, call, hfind, rfl⟩
    exact ⟨initializationOrder_of_find hcall hfind, rfl⟩

theorem ties_of_diagnostics (rules : RuleSet) (o : Outline) (p : Position) :
    (rules.diagnostics (.structured o)).filter (·.position = p)
      = (rules.diagnostics (.structured o)).filter
          (fun d => d.position = p ∧ d.category.aboutInitialization = true) ++
        (o.facadeCalls.filter (·.position = p)).flatMap (rules.callFindings o) := by
  have hboth : (rules.diagnostics (.structured o)).filter
      (fun d => d.position = p ∧ d.category.aboutInitialization = true)
        = (rules.initializationFinding? o).toList.filter (·.position = p) := by
    have hsplit : ∀ l : List Diagnostic,
        l.filter (fun d => d.position = p ∧ d.category.aboutInitialization = true)
          = (l.filter (·.position = p)).filter (·.category.aboutInitialization) := by
      intro l
      simp [List.filter_filter, Bool.and_comm]
    rw [hsplit, diagnostics_structured, filter_position_inFileOrder, ← filter_aboutInitialization,
      List.filter_comm]
  rw [hboth, diagnostics_structured, filter_position_inFileOrder, filter_position]

/-- Under a rule set, the calls through the facade are those whose receiver is the facade. -/
theorem facadeMethod?_kindUnder (rules : RuleSet) (call : Call) :
    Call.facadeMethod? { call with kind := call.kindUnder rules }
      = if call.receiver? = some rules.facade then some call.member else none := by
  unfold Call.facadeMethod? Call.kindUnder
  cases hreceiver : call.receiver? with
  | none => by_cases hname : call.callee = rules.initialization.method <;> simp [hname]
  | some receiver => by_cases hfacade : receiver = rules.facade <;> simp [hfacade]

/-- **The findings of every outline account for its calls.**  A scope is guarded if a way from
parent to parent leads to one that handles errors, and in an outline that is classified under the
rules the calls through the facade are those whose receiver is the facade. -/
theorem accounts_diagnostics (rules : RuleSet) (o : Outline) :
    rules.Accounts o (rules.diagnostics (.structured o)) ∧
      (∀ id, o.isGuarded id = true ↔ ∃ ids, o.GuardPath id ids) ∧
      ∀ plain : Outline, o = plain.classify rules → ∀ call ∈ o.calls,
        call.facadeMethod?
          = if call.receiver? = some rules.facade then some call.member else none := by
  refine ⟨?_, fun id => Outline.isGuarded_iff_exists_path, ?_⟩
  · have hperm := inFileOrder_perm (rules.outlineFindings o)
    exact {
      kinds := fun d hd => kinds_of_mem_outlineFindings (mem_inFileOrder.1 hd)
      errors := by
        rw [← filterMap_unguardedFinding?, ← filter_errorHandling]
        exact hperm.filter _
      arities := by
        rw [← funext (arityFinding?_eq rules), ← filter_methodArity]
        exact hperm.filter _
      atMostOne := by
        have hlength := (hperm.filter (·.category.aboutInitialization)).length_eq
        rw [filter_aboutInitialization] at hlength
        rw [diagnostics_structured, hlength]
        cases rules.initializationFinding? o <;> simp
      invalid := fun _ => invalid_iff
      missing := fun _ => missing_iff
      order := fun _ => order_iff
      sorted := inFileOrder_sorted _
      ties := fun p => by
        simp only [← arityFinding?_eq]
        exact ties_of_diagnostics rules o p }
  · rintro plain rfl call hcall
    obtain ⟨c, -, rfl⟩ := Array.mem_map.1 hcall
    exact facadeMethod?_kindUnder rules c

/-- For instance for a call at the start of a file, which nothing guards. -/
theorem accounts_diagnostics_file_call :
    ∃ o : Outline, (∃ call ∈ o.calls, call.facadeMethod? = some "isReady") ∧
      (((Catalogue.ruleSet .flutter).diagnostics (.structured o)).filter
        (·.category = .errorHandling)).length = 1 := by
  let call : Call := ⟨"MappSdk.isReady", .unrecognized, [], .origin, Outline.fileScope⟩
  let plain : Outline := { calls := #[call] }
  obtain ⟨haccounts, -, hfacade⟩ :=
    accounts_diagnostics (Catalogue.ruleSet .flutter) (plain.classify (Catalogue.ruleSet .flutter))
  have hcall : { call with kind := call.kindUnder (Catalogue.ruleSet .flutter) } ∈
      (plain.classify (Catalogue.ruleSet .flutter)).calls := by
    simp [Outline.classify, plain]
  refine ⟨plain.classify (Catalogue.ruleSet .flutter), ⟨_, hcall, ?_⟩, ?_⟩
  · exact (hfacade plain rfl _ hcall).trans (by decide +kernel)
  · exact haccounts.errors.length_eq.trans (by decide +kernel)

end RuleSet

end SdkAudit
