import SdkAudit.Proofs.Compliance.Accounting
import SdkAudit.Proofs.Outline.Callee
import SdkAudit.Proofs.Outline.CallTokens
import SdkAudit.Proofs.Source.TokenStarts

/-!
# Calls in file order

A call is found at its bracket and stands where its chain starts, far to the left perhaps.  Still
the calls of a text come in the order of their positions, no two at one position, because a chain
reaches over no bracket.  So the first call of a sort in the outline is the first in the text, and
the findings come call by call.

* `IsFirst`, `find?_eq_some_iff_isFirst` — the first call of a sort;
* `RuleSet.findingsAbout` — the findings about one call;
* `RuleSet.diagnostics_eq_flatMap` — **findings come call by call**;
* `CallsInOrder`, `callsInOrder` — **the calls of every text come in file order**.
-/

namespace SdkAudit

open Nesting Outline

/-- The calls come one after the other in the text. -/
def Increasing (calls : List Call) : Prop :=
  calls.Pairwise fun c d => c.position.Before d.position

/-- Among these calls, all others of the sort stand later than this one. -/
structure IsFirst (calls : List Call) (sort : Call → Prop) (call : Call) : Prop where
  mem : call ∈ calls
  isOne : sort call
  first : ∀ other ∈ calls, sort other → other = call ∨ call.position.Before other.position

variable {calls : List Call} {call : Call} {o : Outline} {rules : RuleSet} {d : Diagnostic}

theorem Position.Before.asymm {p q : Position} (h : p.Before q) : ¬ q.Before p :=
  fun h' => (h.trans h').ne rfl

/-- Where calls come in file order, the first one that is found is the first in the file. -/
theorem find?_eq_some_iff_isFirst (h : Increasing calls) {sort : Call → Bool} :
    calls.find? sort = some call ↔ IsFirst calls (sort · = true) call := by
  have hfound : ∀ {c : Call}, calls.find? sort = some c → IsFirst calls (sort · = true) c := by
    intro c hc
    obtain ⟨hsort, before, behind, rfl, hbefore⟩ := List.find?_eq_some_iff_append.1 hc
    refine ⟨by simp, hsort, fun other hother hothersort => ?_⟩
    rw [List.mem_append, List.mem_cons] at hother
    rcases hother with hother | rfl | hother
    · have hnot := hbefore other hother
      rw [hothersort] at hnot
      cases hnot
    · exact .inl rfl
    · exact .inr ((List.pairwise_cons.1 (List.pairwise_append.1 h).2.1).1 other hother)
  refine ⟨hfound, fun hfirst => ?_⟩
  obtain ⟨c, hc⟩ := Option.isSome_iff_exists.1
    (List.find?_isSome.2 ⟨call, hfirst.mem, hfirst.isOne⟩)
  rw [hc]
  have hc' := hfound hc
  rcases hfirst.first c hc'.mem hc'.isOne with rfl | hbefore
  · rfl
  · rcases hc'.first call hfirst.mem hfirst.isOne with rfl | hafter
    · rfl
    · exact absurd hafter hbefore.asymm

/-- At each position there is at most one call. -/
theorem filter_position_of_increasing (h : Increasing calls) (p : Position) :
    calls.filter (·.position = p) = [] ∨
      ∃ c, calls.filter (·.position = p) = [c] ∧ c ∈ calls ∧ c.position = p := by
  cases hfilter : calls.filter (·.position = p) with
  | nil => exact .inl rfl
  | cons c rest =>
    have hc := List.mem_filter.1 (hfilter ▸ List.mem_cons_self : c ∈ calls.filter _)
    have hposition : c.position = p := by simpa using hc.2
    cases rest with
    | nil => exact .inr ⟨c, rfl, hc.1, hposition⟩
    | cons e rest =>
      have he := List.mem_filter.1
        (hfilter ▸ List.mem_cons_of_mem _ List.mem_cons_self : e ∈ calls.filter _)
      have hsorted : Increasing (c :: e :: rest) := hfilter ▸ h.filter _
      have hbefore := (List.pairwise_cons.1 hsorted).1 e List.mem_cons_self
      rw [hposition, of_decide_eq_true he.2] at hbefore
      exact absurd rfl hbefore.ne

namespace RuleSet

/-! ### The findings about one call -/

/-- The call that the finding about the initialization is about, unless it is about the text. -/
def initializationSubject? (rules : RuleSet) (o : Outline) : Option Call :=
  o.initializerCall? rules.initialization.method <|>
    o.facadeCalls.find? rules.needsInitialization

/-- The findings about a call, the one about the initialization first. -/
def findingsAbout (rules : RuleSet) (o : Outline) (call : Call) : List Diagnostic :=
  (if rules.initializationSubject? o = some call then (rules.initializationFinding? o).toList
    else []) ++
  if call.facadeMethod?.isSome then rules.callFindings o call else []

/-- The findings about the text as a whole: it may miss the initialization. -/
def findingsAboutText (rules : RuleSet) (o : Outline) : List Diagnostic :=
  if o.initializerCall? rules.initialization.method = none ∧ o.facadeCalls = [] then
    [rules.missingInitialization]
  else []

theorem mem_calls_of_initializationSubject? (h : rules.initializationSubject? o = some call) :
    call ∈ o.calls.toList := by
  rw [initializationSubject?, Option.orElse_eq_some] at h
  rcases h with hcall | ⟨-, hfind⟩
  · exact Array.mem_toList_iff.2 (initializerCall?_eq_some hcall).1
  · exact List.mem_of_mem_filter (List.mem_of_find?_eq_some hfind)

/-- Where nothing initializes and nothing goes through the facade, no call is the subject. -/
theorem initializationSubject?_of_missing
    (hcall : o.initializerCall? rules.initialization.method = none) (hfacade : o.facadeCalls = []) :
    rules.initializationSubject? o = none := by
  rw [initializationSubject?, hcall, hfacade]
  rfl

/-- What is found about the initialization is found about a call and stands where it does, or it is
found about the text. -/
theorem subject_or_missing_of_initializationFinding? (h : rules.initializationFinding? o = some d) :
    (∃ call, rules.initializationSubject? o = some call ∧ d.position = call.position) ∨
      o.initializerCall? rules.initialization.method = none ∧ o.facadeCalls = [] := by
  obtain ⟨c, hc, -, rfl⟩ | ⟨hc, hnone, -⟩ | ⟨hc, c, hfind, rfl⟩ := initializationFinding?_eq_some h
  · exact .inl ⟨c, by rw [initializationSubject?, hc]; rfl, rfl⟩
  · exact .inr ⟨hc, hnone⟩
  · exact .inl ⟨c, by rw [initializationSubject?, hc, hfind]; rfl, rfl⟩

/-- The finding about the initialization stands where its call does. -/
theorem position_of_initializationFinding? (h : rules.initializationFinding? o = some d)
    (hcall : rules.initializationSubject? o = some call) : d.position = call.position := by
  rcases subject_or_missing_of_initializationFinding? h with ⟨c, hc, hposition⟩ | ⟨hnone, hfacade⟩
  · obtain rfl : c = call := Option.some.inj (hc.symm.trans hcall)
    exact hposition
  · rw [initializationSubject?_of_missing hnone hfacade] at hcall
    cases hcall

theorem position_of_mem_callFindings (h : d ∈ rules.callFindings o call) :
    d.position = call.position := by
  rw [callFindings_eq, List.mem_append, Option.mem_toList, Option.mem_toList] at h
  rcases h with harity | herror
  · obtain ⟨name, method, rfl⟩ := eq_methodArity_of_arityFinding? harity
    rfl
  · rw [eq_errorHandlingFinding herror]
    rfl

/-- The findings about a call stand where it does. -/
theorem position_of_mem_findingsAbout (h : d ∈ rules.findingsAbout o call) :
    d.position = call.position := by
  rw [findingsAbout, List.mem_append] at h
  rcases h with h | h
  · split_ifs at h with hsubject
    · exact position_of_initializationFinding? (Option.mem_toList.1 h) hsubject
    · cases h
  · split_ifs at h
    · exact position_of_mem_callFindings h
    · cases h

/-! ### Findings call by call -/

/-- Where something is found about the text as a whole, nothing is found about its calls. -/
theorem flatMap_findingsAbout_of_missing
    (hcall : o.initializerCall? rules.initialization.method = none) (hfacade : o.facadeCalls = []) :
    o.calls.toList.flatMap (rules.findingsAbout o) = [] := by
  rw [List.flatMap_eq_nil_iff]
  intro call hmem
  have hnone := initializationSubject?_of_missing hcall hfacade
  have hmethod : call.facadeMethod?.isSome = false := by
    refine Bool.eq_false_iff.2 fun hsome => ?_
    have hin : call ∈ o.facadeCalls := List.mem_filter.2 ⟨hmem, hsome⟩
    rw [hfacade] at hin
    cases hin
  simp [findingsAbout, hnone, hmethod]

/-- The finding about the initialization, if it stands at a position, is the one about the call
there. -/
theorem filter_initializationFinding? (h : Increasing o.calls.toList)
    (hcalls : ¬ (o.initializerCall? rules.initialization.method = none ∧ o.facadeCalls = []))
    (p : Position) :
    (rules.initializationFinding? o).toList.filter (·.position = p)
      = (o.calls.toList.filter (·.position = p)).flatMap fun call =>
          if rules.initializationSubject? o = some call then
            (rules.initializationFinding? o).toList
          else [] := by
  cases hfinding : rules.initializationFinding? o with
  | none => simp
  | some d =>
    obtain ⟨call, hsubject, hposition⟩ :=
      (subject_or_missing_of_initializationFinding? hfinding).resolve_right hcalls
    have hmem := mem_calls_of_initializationSubject? hsubject
    have hthere : d.position = p → call ∈ o.calls.toList.filter (·.position = p) := fun heq =>
      List.mem_filter.2 ⟨hmem, by simp [← hposition, heq]⟩
    rcases filter_position_of_increasing h p with hnone | ⟨c, hone, -, hp⟩
    · have hne : d.position ≠ p := fun heq => by simpa [hnone] using hthere heq
      simp [hnone, hne]
    · rw [hone]
      by_cases heq : d.position = p
      · have hcall : call = c := by simpa [hone] using hthere heq
        simp [heq, hsubject, hcall]
      · have hne : call ≠ c := by
          rintro rfl
          exact heq (hposition.trans hp)
        simp [heq, hsubject, hne]

theorem filter_facadeCalls (o : Outline) (p : Position) :
    o.facadeCalls.filter (·.position = p)
      = (o.calls.toList.filter (·.position = p)).filter (·.facadeMethod?.isSome) :=
  List.filter_comm _ _ _

/-- What is found at a position is what is found about the call there. -/
theorem filter_outlineFindings_of_increasing (h : Increasing o.calls.toList)
    (hcalls : ¬ (o.initializerCall? rules.initialization.method = none ∧ o.facadeCalls = []))
    (p : Position) :
    (rules.outlineFindings o).filter (·.position = p)
      = (o.calls.toList.filter (·.position = p)).flatMap (rules.findingsAbout o) := by
  rw [filter_position, filter_initializationFinding? h hcalls, filter_facadeCalls]
  rcases filter_position_of_increasing h p with hnone | ⟨c, hone, -, -⟩
  · simp [hnone]
  · rw [hone]
    by_cases hmethod : c.facadeMethod?.isSome = true <;> simp [findingsAbout, hmethod]

/-- Findings that are listed call by call are in file order. -/
theorem inFileOrder_flatMap_findingsAbout (h : Increasing calls) :
    InFileOrder (calls.flatMap (rules.findingsAbout o)) := by
  refine List.pairwise_flatMap.2 ⟨fun call _ => ?_, h.imp fun hbefore d hd e he => ?_⟩
  · refine List.pairwise_of_forall_mem_list fun d hd e he => Diagnostic.notAfter_of_eq ?_
    rw [position_of_mem_findingsAbout hd, position_of_mem_findingsAbout he]
  · rw [Diagnostic.notAfter, position_of_mem_findingsAbout hd, position_of_mem_findingsAbout he]
    exact hbefore.notAfter

/-- The findings at a position are those about the calls there. -/
theorem filter_flatMap_findingsAbout (calls : List Call) (p : Position) :
    (calls.flatMap (rules.findingsAbout o)).filter (·.position = p)
      = (calls.filter (·.position = p)).flatMap (rules.findingsAbout o) := by
  induction calls with
  | nil => rfl
  | cons call calls ih =>
    have hsame : ∀ d ∈ rules.findingsAbout o call,
        decide (d.position = p) = decide (call.position = p) := fun d hd => by
      rw [position_of_mem_findingsAbout hd]
    rw [List.flatMap_cons, List.filter_append, ih, List.filter_cons]
    by_cases hp : call.position = p
    · simp only [hp, decide_true] at hsame
      rw [List.filter_eq_self.2 hsame, if_pos (by simp [hp]), List.flatMap_cons]
    · simp only [hp, decide_false] at hsame
      rw [List.filter_eq_nil_iff.2 fun d hd => by simp [hsame d hd], if_neg (by simp [hp]),
        List.nil_append]

/-- **Findings come call by call**, where the calls come in file order: those about one call are
together, before those about every later call. -/
theorem diagnostics_eq_flatMap (h : Increasing o.calls.toList) :
    rules.diagnostics (.structured o)
      = rules.findingsAboutText o ++ o.calls.toList.flatMap (rules.findingsAbout o) := by
  rw [diagnostics_structured, findingsAboutText]
  split_ifs with hmissing
  · have hfindings : rules.outlineFindings o = [rules.missingInitialization] := by
      rw [outlineFindings, missingInitialization_of_none hmissing.1 hmissing.2, hmissing.2]
      rfl
    rw [flatMap_findingsAbout_of_missing hmissing.1 hmissing.2, hfindings]
    exact List.mergeSort_singleton _
  · rw [List.nil_append]
    refine eq_of_filter_position (inFileOrder_sorted _) (inFileOrder_flatMap_findingsAbout h)
      fun p => ?_
    rw [filter_position_inFileOrder, filter_outlineFindings_of_increasing h hmissing,
      filter_flatMap_findingsAbout]

end RuleSet

/-! ### Whole texts -/

/-- The calls of a text, with these tokens and this nesting, come in file order. -/
structure CallsInOrder (flavor : Flavor) (ts : List Token) (n : Nesting) (o : Outline) : Prop where
  /-- A call stands where the longest chain of names before its bracket has its first name. -/
  starts : ∀ k call, (k, call) ∈ n.sitedCalls flavor → ∃ front names t,
    CallsAt flavor ts k front names call.position ∧ call.callee = calleeBehind front names ∧
      ts[front.length]? = some t ∧ t.name? = names.head? ∧ t.position = call.position
  /-- Each call stands later than the one before it. -/
  increasing : Increasing o.calls.toList
  /-- The initializer call is the first bare call of the initializer, or if there is none, the first
  one through the facade. -/
  initializer : ∀ (rules : RuleSet) (call : Call),
    (o.classify rules).initializerCall? rules.initialization.method = some call ↔
      IsFirst (o.classify rules).calls.toList (·.kind = .initializer) call ∨
        (∀ c ∈ (o.classify rules).calls, c.kind ≠ .initializer) ∧
          IsFirst (o.classify rules).calls.toList
            (·.kind = .facade rules.initialization.method) call
  /-- It is found if there is one. -/
  found : ∀ rules : RuleSet,
    (o.classify rules).initializerCall? rules.initialization.method = none ↔
      ∀ c ∈ (o.classify rules).calls,
        c.kind ≠ .initializer ∧ c.kind ≠ .facade rules.initialization.method
  /-- The findings about one call are together, and come before those about every later call. -/
  findings : ∀ rules : RuleSet,
    rules.diagnostics (.structured (o.classify rules))
      = rules.findingsAboutText (o.classify rules) ++
        (o.classify rules).calls.toList.flatMap (rules.findingsAbout (o.classify rules))
  /-- They stand where the call does. -/
  positions : ∀ (rules : RuleSet) (call : Call),
    ∀ d ∈ rules.findingsAbout (o.classify rules) call, d.position = call.position

/-- Calls come in file order in the outline of a nesting. -/
theorem increasing_calls_ofNesting {flavor : Flavor} {n : Nesting} (hn : n.IsProper)
    (hts : n.tokens.Pairwise fun t u => t.position.Before u.position) :
    Increasing (ofNesting flavor n).calls.toList := by
  have hsites : (n.sitedCalls flavor).Pairwise fun c d => c.1 < d.1 := pairwise_sitedCalls
  rw [← map_sitedCalls hn]
  refine List.pairwise_map.2 (hsites.imp_of_mem ?_)
  rintro ⟨k, c⟩ ⟨k', d⟩ hc hd hlt
  obtain ⟨_, _, _, hcalls, -, rfl⟩ := exists_callsAt_of_mem hn hc
  obtain ⟨_, _, _, hcalls', -, rfl⟩ := exists_callsAt_of_mem hn hd
  exact hcalls.before_of_lt hcalls' hlt hts

theorem increasing_classify (h : Increasing o.calls.toList) (rules : RuleSet) :
    Increasing (o.classify rules).calls.toList := by
  rw [Outline.classify, Array.toList_map]
  exact List.pairwise_map.2 h

/-- **The initializer call is the first one in the text**, of the bare ones if there are any. -/
theorem initializerCall?_eq_some_iff (h : Increasing o.calls.toList) {initializer : String} :
    o.initializerCall? initializer = some call ↔
      IsFirst o.calls.toList (·.kind = .initializer) call ∨
        (∀ c ∈ o.calls, c.kind ≠ .initializer) ∧
          IsFirst o.calls.toList (·.kind = .facade initializer) call := by
  rw [initializerCall?, Option.orElse_eq_some, find?_eq_some_iff_isFirst h,
    find?_eq_some_iff_isFirst h, List.find?_eq_none]
  simp

theorem initializerCall?_eq_none_iff {initializer : String} :
    o.initializerCall? initializer = none ↔
      ∀ c ∈ o.calls, c.kind ≠ .initializer ∧ c.kind ≠ .facade initializer := by
  rw [initializerCall?, Option.orElse_eq_none, List.find?_eq_none, List.find?_eq_none]
  simp [forall_and]

/-- **The calls of every text come in file order.** -/
theorem callsInOrder {flavor : Flavor} {source : String}
    (h : Scan.tokenOutline flavor source = .ok o) :
    ∃ ts n, Lexer.tokens flavor source.toList = .ok ts ∧ Nesting.ofTokens ts = .ok n ∧
      (n.sitedCalls flavor).map Prod.snd = o.calls.toList ∧ CallsInOrder flavor ts n o := by
  obtain ⟨ts, n, hlex, hread, rfl⟩ := tokenOutline_eq_ok_iff.1 h
  obtain ⟨hn, rfl⟩ := ofTokens_eq_ok_iff.1 hread
  have hincreasing : Increasing (ofNesting flavor n).calls.toList :=
    increasing_calls_ofNesting hn (laid_of_tokens hlex).pairwise
  refine ⟨n.tokens, n, hlex, hread, map_sitedCalls hn, ?_⟩
  exact
    { starts := by
        intro k call hmem
        obtain ⟨front, names, _, hcalls, hcallee, rfl⟩ := exists_callsAt_of_mem hn hmem
        obtain ⟨t, ht, hname, hposition⟩ := hcalls.exists_first
        exact ⟨front, names, t, hcalls, hcallee, ht, hname, hposition⟩
      increasing := hincreasing
      initializer := fun rules _ =>
        initializerCall?_eq_some_iff (increasing_classify hincreasing rules)
      found := fun _ => initializerCall?_eq_none_iff
      findings := fun rules =>
        RuleSet.diagnostics_eq_flatMap (increasing_classify hincreasing rules)
      positions := fun _ _ _ hd => RuleSet.position_of_mem_findingsAbout hd }

/-- For instance where calls stand inside and behind other calls. -/
theorem callsInOrder_nested :
    ∃ o, Scan.tokenOutline .kotlin "f(g(x)).h(MappSdk?.engage(y))" = .ok o ∧
      Increasing o.calls.toList ∧
      o.calls.toList.map (·.callee) = ["f", "g", "<expr>.h", "MappSdk.engage"] ∧
      ∃ call, (o.classify (Catalogue.ruleSet .flutter)).initializerCall? "engage" = some call ∧
        call.position = ⟨0, 10⟩ := by
  have hcheck : (Scan.tokenOutline .kotlin "f(g(x)).h(MappSdk?.engage(y))").toOption.any (fun o =>
      decide (o.calls.toList.map (·.callee) = ["f", "g", "<expr>.h", "MappSdk.engage"]) &&
        ((o.classify (Catalogue.ruleSet .flutter)).initializerCall? "engage").any
          (decide <| ·.position = ⟨0, 10⟩)) = true := by
    decide +kernel
  simp only [Option.any_eq_true, Bool.and_eq_true, decide_eq_true_eq] at hcheck
  obtain ⟨o, ho, hcallees, hfound⟩ := hcheck
  have ho : Scan.tokenOutline .kotlin "f(g(x)).h(MappSdk?.engage(y))" = .ok o :=
    toOption_eq_some_iff.1 ho
  obtain ⟨_, _, -, -, -, horder⟩ := callsInOrder ho
  exact ⟨o, ho, horder.increasing, hcallees, hfound⟩

end SdkAudit
