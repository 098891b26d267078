import SdkAudit.Proofs.Outline.Callee
import SdkAudit.Proofs.Outline.CallTokens
import SdkAudit.Proofs.Source.TokenStarts

/-!
# Chains that name the facade

What a call is under a rule set is told from its callee, which is put together from the names of a
chain and taken apart again at its last dot.  No two chains of names without dots come to the same
callee, so a call is one of a method through the facade exactly if its chain has the names of the
facade and the name of the method, and nothing else.

* `RuleSet.HasFacade` — a facade that is written with dots;
* `eq_of_intercalate` — what is joined with dots can be taken apart;
* `CallsExactly` — a bracket calls a chain of these names, and nothing that ends with them;
* `CallsAt.kindUnder_eq_facade_iff`, `CallsAt.kindUnder_eq_initializer_iff` — what the call of a
  chain is;
* `RecognisesExactly`, `recognisesExactly` — **calls of the SDK are recognised exactly**.
-/

namespace SdkAudit

open Nesting Outline

/-! ### Names that dots join -/

/-- The facade is these names, joined by dots. -/
structure RuleSet.HasFacade (rules : RuleSet) (root : List String) : Prop where
  spelled : rules.facade = ".".intercalate root
  nonempty : root ≠ []
  plain : ∀ name ∈ root, isPlainName name.toList = true

/-- None of these names holds a dot. -/
def Dotless (names : List String) : Prop := ∀ name ∈ names, '.' ∉ name.toList

variable {flavor : Flavor} {ts us front : List Token} {n : Nesting} {k : Nat}
  {names root : List String} {position : Position} {call : Call} {rules : RuleSet} {m : String}

theorem RuleSet.HasFacade.dotless (h : rules.HasFacade root) : Dotless root := fun name hname =>
  notMem_of_isPlainName (h.plain name hname) (by decide)

/-- **What is joined with dots can be taken apart.** -/
theorem eq_of_intercalate {names names' : List String} (hdots : Dotless names)
    (hdots' : Dotless names') (hne : names ≠ []) (hne' : names' ≠ [])
    (h : ".".intercalate names = ".".intercalate names') : names = names' :=
  Text.intercalate_inj rfl hdots hdots' hne hne' h

namespace Call

/-- What a call is whose callee is made of names: behind others, the last one is a method if these
are the facade; the initializer stands alone. -/
theorem kindUnder_of_intercalate {init : List String} {last : String}
    (hcallee : call.callee = ".".intercalate (init ++ [last])) (hlast : '.' ∉ last.toList) :
    call.kindUnder rules
      = if init = [] then
          if last = rules.initialization.method then .initializer else .unrecognized
        else if ".".intercalate init = rules.facade then .facade last else .unrecognized := by
  by_cases hinit : init = []
  · have hsingle : call.callee = last := by
      rw [hcallee, hinit, List.nil_append, String.intercalate_singleton]
    simp only [kindUnder, receiver?, hsingle, Text.splitLast?_eq_none hlast, Option.map_none,
      if_pos hinit]
  · have hsplit : Text.splitLast? '.' call.callee.toList
        = some ((".".intercalate init).toList, last.toList) := by
      rw [hcallee, String.intercalate_append_of_ne_nil hinit (by simp),
        String.intercalate_singleton, String.toList_append, String.toList_append,
        List.append_assoc]
      exact Text.splitLast?_append hlast
    simp only [kindUnder, receiver?, member, hsplit, Option.map_some, String.ofList_toList,
      if_neg hinit]

/-- A call goes to a method through the facade exactly if its callee is the facade with the name of
the method behind it. -/
theorem kindUnder_eq_facade_iff (hroot : rules.HasFacade root)
    (hcallee : call.callee = ".".intercalate names) (hdots : Dotless names) (hne : names ≠ []) :
    call.kindUnder rules = .facade m ↔ names = root ++ [m] := by
  obtain ⟨init, last, rfl⟩ := List.eq_nil_or_concat' names |>.resolve_left hne
  rw [kindUnder_of_intercalate hcallee (hdots last (by simp)), hroot.spelled,
    List.append_singleton_inj]
  by_cases hinit : init = []
  · have hroot' : init ≠ root := hinit ▸ hroot.nonempty.symm
    rw [if_pos hinit]
    split_ifs <;> simp [hroot']
  · have hjoined : ".".intercalate init = ".".intercalate root ↔ init = root :=
      ⟨eq_of_intercalate (fun name hname => hdots name (by simp [hname])) hroot.dotless hinit
        hroot.nonempty, congrArg _⟩
    rw [if_neg hinit]
    split_ifs with hfacade
    · simp [hjoined.1 hfacade]
    · simp [hjoined.not.1 hfacade]

/-- A call is one of the initializer exactly if its callee is the name of the initializer. -/
theorem kindUnder_eq_initializer_iff (hcallee : call.callee = ".".intercalate names)
    (hdots : Dotless names) (hne : names ≠ []) :
    call.kindUnder rules = .initializer ↔ names = [rules.initialization.method] := by
  obtain ⟨init, last, rfl⟩ := List.eq_nil_or_concat' names |>.resolve_left hne
  rw [kindUnder_of_intercalate hcallee (hdots last (by simp)), List.append_eq_singleton_iff]
  split_ifs <;> simp_all

end Call

/-! ### Chains behind other tokens -/

/-- The names that a callee writes behind these tokens. -/
def writtenNames (front : List Token) (names : List String) : List String :=
  if endsInDot front then "<expr>" :: names else names

theorem calleeBehind_eq (hne : names ≠ []) :
    calleeBehind front names = ".".intercalate (writtenNames front names) := by
  unfold calleeBehind writtenNames
  split_ifs
  · rw [String.intercalate_cons_of_ne_nil hne]
    rfl
  · rfl

theorem Dotless.writtenNames (h : Dotless names) : Dotless (writtenNames front names) := by
  unfold SdkAudit.writtenNames
  split_ifs
  · intro name hname
    rcases List.mem_cons.1 hname with rfl | hname
    · decide
    · exact h name hname
  · exact h

theorem writtenNames_ne_nil (hne : names ≠ []) : writtenNames front names ≠ [] := by
  unfold writtenNames
  split_ifs
  · simp
  · exact hne

/-- The root of an expression is no part of the facade. -/
theorem RuleSet.HasFacade.writtenNames_eq_iff (h : rules.HasFacade root) :
    writtenNames front names = root ++ [m] ↔ endsInDot front = false ∧ names = root ++ [m] := by
  unfold writtenNames
  split_ifs with hdot
  · simp only [hdot, Bool.true_eq_false, false_and, iff_false]
    intro heq
    obtain ⟨first, rest, rfl⟩ := List.exists_cons_of_ne_nil h.nonempty
    obtain ⟨rfl, -⟩ := List.cons.inj heq
    exact absurd (h.plain "<expr>" (by simp)) (by decide)
  · simp [hdot]

theorem writtenNames_eq_singleton_iff (hne : names ≠ []) :
    writtenNames front names = [m] ↔ endsInDot front = false ∧ names = [m] := by
  unfold writtenNames
  split_ifs with hdot
  · simp [hdot, hne]
  · simp [hdot]

theorem ChainTokens.ne_nil (h : ChainTokens names position us) : names ≠ [] := by
  cases h <;> simp

theorem ChainTokens.exists_token_of_mem (h : ChainTokens names position us) {name : String}
    (hname : name ∈ names) : ∃ t ∈ us, t.name? = some name := by
  induction h with
  | last ht =>
    rw [List.mem_singleton.1 hname]
    exact ⟨_, by simp, ht⟩
  | link ht _ _ ih =>
    rcases List.mem_cons.1 hname with rfl | hname
    · exact ⟨_, by simp, ht⟩
    · obtain ⟨t, hmem, hname⟩ := ih hname
      exact ⟨t, by simp [hmem], hname⟩

/-- None of these tokens is a name that has to be quoted and holds a dot. -/
def NamesDotless (ts : List Token) : Prop :=
  ∀ t ∈ ts, ∀ name, t.name? = some name → isPlainName name.toList = false → '.' ∉ name.toList

/-- A bracket calls a chain of exactly these names: they stand right before it, joined by dots and
with no dot before the first one; the last is no word that is never called, and the chain declares
nothing. -/
structure CallsExactly (flavor : Flavor) (ts : List Token) (k : Nat) (names : List String) :
    Prop where
  bracket : SignAt ts k '('
  chain : ∃ front position, ChainBefore ts k front names position ∧ endsInDot front = false ∧
    ∀ j, Pairs ts k j → declaredBehind flavor front names.length (ts.drop (j + 1)) = false
  callable : names.getLast?.any (controlWords.contains ·) = false

theorem callsExactly_iff : CallsExactly flavor ts k names ↔
    ∃ front position, CallsAt flavor ts k front names position ∧ endsInDot front = false := by
  constructor
  · rintro ⟨hbracket, ⟨front, position, hchain, hdot, hundeclared⟩, hcallable⟩
    refine ⟨front, position, ?_, hdot⟩
    exact
      { bracket := hbracket
        chain := hchain
        longest := fun hlink => by simp [hlink.endsInDot] at hdot
        callable := hcallable
        undeclared := .inr hundeclared }
  · rintro ⟨front, position, h, hdot⟩
    refine ⟨h.bracket, ⟨front, position, h.chain, hdot, ?_⟩, h.callable⟩
    exact h.undeclared.resolve_left (by simp [hdot])

namespace CallsAt

theorem ne_nil (h : CallsAt flavor ts k front names position) : names ≠ [] := by
  obtain ⟨us, rest, -, -, hchain⟩ := h.chain
  exact hchain.ne_nil

theorem dotless (h : CallsAt flavor ts k front names position) (hts : NamesDotless ts) :
    Dotless names := by
  obtain ⟨us, rest, rfl, -, hchain⟩ := h.chain
  intro name hname
  obtain ⟨t, ht, hword⟩ := hchain.exists_token_of_mem hname
  cases hplain : isPlainName name.toList with
  | true => exact notMem_of_isPlainName hplain (by decide)
  | false => exact hts t (by simp [ht]) name hword hplain

/-- **What is called through the facade** is a chain of its names and one more. -/
theorem kindUnder_eq_facade_iff (h : CallsAt flavor ts k front names position)
    (hts : NamesDotless ts) (hroot : rules.HasFacade root)
    (hcallee : call.callee = calleeBehind front names) :
    call.kindUnder rules = .facade m ↔ endsInDot front = false ∧ names = root ++ [m] := by
  rw [calleeBehind_eq h.ne_nil] at hcallee
  rw [Call.kindUnder_eq_facade_iff hroot hcallee (h.dotless hts).writtenNames
    (writtenNames_ne_nil h.ne_nil), hroot.writtenNames_eq_iff]

/-- **What is a bare call of the initializer** is a chain of its name alone. -/
theorem kindUnder_eq_initializer_iff (h : CallsAt flavor ts k front names position)
    (hts : NamesDotless ts) (hcallee : call.callee = calleeBehind front names) :
    call.kindUnder rules = .initializer ↔
      endsInDot front = false ∧ names = [rules.initialization.method] := by
  rw [calleeBehind_eq h.ne_nil] at hcallee
  rw [Call.kindUnder_eq_initializer_iff hcallee (h.dotless hts).writtenNames
    (writtenNames_ne_nil h.ne_nil), writtenNames_eq_singleton_iff h.ne_nil]

end CallsAt

/-! ### Whole texts -/

/-- Calls of the SDK are recognised exactly, in these tokens and this nesting. -/
structure RecognisesExactly (flavor : Flavor) (ts : List Token) (n : Nesting) (rules : RuleSet)
    (root : List String) : Prop where
  /-- A bracket makes a call of a method through the facade exactly if it calls the names of the
  facade and the name of the method. -/
  facade : ∀ k m, (∃ call, (k, call) ∈ n.sitedCalls flavor ∧ call.kindUnder rules = .facade m) ↔
    CallsExactly flavor ts k (root ++ [m])
  /-- A bracket makes a bare call of the initializer exactly if it calls its name alone. -/
  initializer : ∀ k,
    (∃ call, (k, call) ∈ n.sitedCalls flavor ∧ call.kindUnder rules = .initializer) ↔
      CallsExactly flavor ts k [rules.initialization.method]
  /-- A chain that ends with the facade and a method, and has a dot before these names, is not
  recognised: neither a longer one nor one that hangs on an expression, as in a cascade. -/
  longer : ∀ k front m position call, ChainBefore ts k front (root ++ [m]) position →
    endsInDot front = true → (k, call) ∈ n.sitedCalls flavor → call.kindUnder rules = .unrecognized
  /-- No call that hangs on an expression is recognised. -/
  expression : ∀ k front names position call, CallsAt flavor ts k front names position →
    endsInDot front = true → (k, call) ∈ n.sitedCalls flavor → call.kindUnder rules = .unrecognized

/-- A bracket makes a call of a kind exactly if it calls certain names, where this is what the kind
of a call says. -/
theorem exists_call_iff_callsExactly (hn : n.IsProper) {kind : CallKind} {called : List String}
    (hkind : ∀ {front : List Token} {names : List String} {position : Position} {call : Call},
      CallsAt flavor n.tokens k front names position → call.callee = calleeBehind front names →
      (call.kindUnder rules = kind ↔ endsInDot front = false ∧ names = called)) :
    (∃ call, (k, call) ∈ n.sitedCalls flavor ∧ call.kindUnder rules = kind) ↔
      CallsExactly flavor n.tokens k called := by
  constructor
  · rintro ⟨call, hmem, hcall⟩
    obtain ⟨front, names, position, hcalls, hcallee, -⟩ := exists_callsAt_of_mem hn hmem
    obtain ⟨hdot, rfl⟩ := (hkind hcalls hcallee).1 hcall
    exact callsExactly_iff.2 ⟨front, position, hcalls, hdot⟩
  · intro hexact
    obtain ⟨front, position, hcalls, hdot⟩ := callsExactly_iff.1 hexact
    obtain ⟨call, hmem, hcallee, -⟩ := exists_call_of_callsAt hn hcalls
    exact ⟨call, hmem, (hkind hcalls hcallee).2 ⟨hdot, rfl⟩⟩

/-- A call is not recognised if its chain has a dot before it, or is longer than the facade with a
method. -/
theorem CallsAt.kindUnder_eq_unrecognized (h : CallsAt flavor ts k front names position)
    (hts : NamesDotless ts) (hroot : rules.HasFacade root)
    (hcallee : call.callee = calleeBehind front names)
    (hlonger : endsInDot front = true ∨ root.length + 1 < names.length) :
    call.kindUnder rules = .unrecognized := by
  cases hkind : call.kindUnder rules with
  | unrecognized => rfl
  | facade m =>
    obtain ⟨hdot, rfl⟩ := (h.kindUnder_eq_facade_iff hts hroot hcallee).1 hkind
    simp [hdot] at hlonger
  | initializer =>
    obtain ⟨hdot, rfl⟩ := (h.kindUnder_eq_initializer_iff hts hcallee).1 hkind
    simp [hdot] at hlonger

theorem recognisesExactly_of_isProper (hn : n.IsProper) (hts : NamesDotless n.tokens)
    (hroot : rules.HasFacade root) : RecognisesExactly flavor n.tokens n rules root where
  facade _ _ := exists_call_iff_callsExactly hn fun hcalls hcallee =>
    hcalls.kindUnder_eq_facade_iff hts hroot hcallee
  initializer _ := exists_call_iff_callsExactly hn fun hcalls hcallee =>
    hcalls.kindUnder_eq_initializer_iff hts hcallee
  longer k front m position call hchain hdot hmem := by
    obtain ⟨front', names, position', hcalls, hcallee, -⟩ := exists_callsAt_of_mem hn hmem
    refine hcalls.kindUnder_eq_unrecognized hts hroot hcallee ?_
    -- the call has the chain itself, with the dot before it, or a longer one
    obtain ⟨more, rfl, rfl | hmore⟩ := hcalls.exists_more hchain
    · exact .inl hdot
    · have hpos := List.length_pos_of_ne_nil hmore
      simp only [List.length_append, List.length_singleton]
      exact .inr (by omega)
  expression k front names position call hcalls hdot hmem := by
    obtain ⟨front', names', position', hcalls', hcallee, -⟩ := exists_callsAt_of_mem hn hmem
    obtain ⟨rfl, rfl⟩ := hcalls'.unique hcalls
    exact hcalls'.kindUnder_eq_unrecognized hts hroot hcallee (.inl hdot)

/-- **Calls of the SDK are recognised exactly**, in every text whose quoted names hold no dots and
under every rule set whose facade is made of names. -/
theorem recognisesExactly {source : String} {o : Outline}
    (h : Scan.tokenOutline flavor source = .ok o) :
    ∃ ts n, Lexer.tokens flavor source.toList = .ok ts ∧ Nesting.ofTokens ts = .ok n ∧
      (∀ rules, (o.classify rules).calls.toList
        = (n.sitedCalls flavor).map fun (_, call) => { call with kind := call.kindUnder rules }) ∧
      (NamesDotless ts → ∀ rules root, RuleSet.HasFacade rules root →
        RecognisesExactly flavor ts n rules root) := by
  obtain ⟨ts, n, hlex, hread, rfl⟩ := tokenOutline_eq_ok_iff.1 h
  obtain ⟨hn, rfl⟩ := ofTokens_eq_ok_iff.1 hread
  refine ⟨n.tokens, n, hlex, hread, fun rules => ?_, fun hts rules root hroot =>
    recognisesExactly_of_isProper hn hts hroot⟩
  rw [Outline.classify, Array.toList_map, ← map_sitedCalls hn, List.map_map]
  rfl

/-- For instance the facade and a method may be joined by a question mark and a dot. -/
theorem recognisesExactly_marked :
    ∃ ts n, Lexer.tokens .kotlin "MappSdk?.isReady(\x60x y\x60)".toList = .ok ts ∧
      Nesting.ofTokens ts = .ok n ∧ CallsExactly .kotlin ts 4 ["MappSdk", "isReady"] ∧
      ∃ call, (4, call) ∈ n.sitedCalls .kotlin ∧
        call.kindUnder (Catalogue.ruleSet .flutter) = .facade "isReady" := by
  have htokens : (Lexer.tokens .kotlin "MappSdk?.isReady(\x60x y\x60)".toList).toOption = some [
      ⟨.name "MappSdk", ⟨0, 0⟩, 0, 7⟩, ⟨.sign '?', ⟨0, 7⟩, 7, 8⟩, ⟨.sign '.', ⟨0, 8⟩, 8, 9⟩,
      ⟨.name "isReady", ⟨0, 9⟩, 9, 16⟩, ⟨.sign '(', ⟨0, 16⟩, 16, 17⟩,
      ⟨.name "x y", ⟨0, 17⟩, 17, 22⟩, ⟨.sign ')', ⟨0, 22⟩, 22, 23⟩] := by
    decide +kernel
  have hok : (Scan.tokenOutline .kotlin "MappSdk?.isReady(\x60x y\x60)").toOption.isSome := by
    decide +kernel
  obtain ⟨o, ho⟩ := Option.isSome_iff_exists.1 hok
  obtain ⟨ts, n, hlex, hread, -, hexactly⟩ := recognisesExactly (toOption_eq_some_iff.1 ho)
  rw [hlex] at htokens
  have hdotless : NamesDotless ts := by
    have hall : ts.all (fun t => t.name?.all fun name => !name.toList.contains '.') = true := by
      cases htokens
      decide +kernel
    intro t ht name hname _
    have hname' := List.all_eq_true.1 hall t ht
    simpa [hname] using hname'
  have hroot : (Catalogue.ruleSet .flutter).HasFacade ["MappSdk"] :=
    { spelled := by decide +kernel
      nonempty := by simp
      plain := by decide +kernel }
  have hcalls : CallsExactly .kotlin ts 4 ["MappSdk", "isReady"] := by
    cases htokens
    exact
      { bracket := ⟨_, rfl, rfl⟩
        chain := ⟨[], _, ⟨_ :: ([_, _] ++ [_]), _, rfl, rfl,
          .link rfl (.marked rfl rfl) (.last rfl)⟩, rfl, fun _ _ => rfl⟩
        callable := by decide +kernel }
  exact ⟨ts, n, hlex, hread, hcalls, ((hexactly hdotless _ _ hroot).facade 4 "isReady").2 hcalls⟩

end SdkAudit
