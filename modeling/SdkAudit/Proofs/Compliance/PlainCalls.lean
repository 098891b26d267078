import SdkAudit.Proofs.Outline.Braces
import SdkAudit.Proofs.Outline.Callee
import SdkAudit.Proofs.Outline.ChainTokens
import SdkAudit.Proofs.Pattern.Written
import SdkAudit.Proofs.Source.TokenStarts

/-!
# Calls that are found either way

A text is scanned from its tokens, or with patterns if it has no outline.  A call that is written
plainly is found either way: where the tokens make up a call of a method through the facade, and it
is written there without quotes, comments and white space in its names, the text spells the facade
and the method, and so the pattern of the method occurs in it, and in every text around it.

* `PlainCall`, `Call.WrittenAs` — a call as it is written, and a call that is written so;
* `PlainCall.exists_tokens` — the tokens of a call that is written plainly;
* `Call.exists_names_of_written` — **a call that is written so has the names that are written**;
* `Call.eq_of_written` — a call through the facade spells the facade and the method;
* `Scan.FindsAgain` — what it means that patterns find the call of an outline;
* `Scan.findsAgain_of_written` — **patterns find every call through the facade that is written
  plainly**.
-/

namespace SdkAudit

open Outline

/-! ### Calls as they are written -/

/-- A call as it is written plainly: a receiver and a member that are not quoted, right before and
behind a point, and nothing but white space before the bracket. -/
structure PlainCall where
  receiver : List Char
  member : List Char
  blanks : List Char
  isPlainName_receiver : isPlainName receiver = true
  isPlainName_member : isPlainName member = true
  isBlank_blanks : ∀ c ∈ blanks, Text.isBlank c = true

namespace PlainCall

/-- The text of a call up to its bracket. -/
def text (w : PlainCall) : List Char := w.receiver ++ '.' :: (w.member ++ (w.blanks ++ ['(']))

/-- The tokens of a call that is written plainly. -/
theorem exists_tokens (w : PlainCall) (flavor : Flavor) (here : Place) (after : List Char) :
    ∃ t point u bracket more, (Mode.blank.read flavor here (w.text ++ after)).tokens
        = t :: point :: u :: bracket :: more ∧
      t.position = here.position ∧ t.name? = some (String.ofList w.receiver) ∧
      point.lexeme = .sign '.' ∧ u.name? = some (String.ofList w.member) ∧
      bracket.lexeme = .sign '(' := by
  obtain ⟨c, rest, hrest, hpart, hdouble, hsingle⟩ : ∃ c rest,
      w.blanks ++ '(' :: after = c :: rest ∧ isNamePart c = false ∧ c ≠ '"' ∧ c ≠ '\'' := by
    cases hblanks : w.blanks with
    | nil => exact ⟨'(', after, rfl, by decide, by decide, by decide⟩
    | cons c blanks =>
      have hblank := w.isBlank_blanks c (by simp [hblanks])
      have hpart : isNamePart c = false := Bool.eq_false_iff.2 fun hpart => by
        rw [isBlank_of_isNamePart hpart] at hblank
        cases hblank
      have hne : ∀ d, Text.isBlank d = false → c ≠ d := by
        rintro d hd rfl
        rw [hd] at hblank
        cases hblank
      exact ⟨c, _, rfl, hpart, hne _ (by decide), hne _ (by decide)⟩
  have htext : w.text ++ after
      = w.receiver ++ '.' :: (w.member ++ (w.blanks ++ '(' :: after)) := by
    simp [text]
  rw [htext, Mode.read_name w.isPlainName_receiver (by decide) (by decide) (by decide),
    Mode.read_sign (by decide), hrest,
    Mode.read_name w.isPlainName_member hpart hdouble hsingle, ← hrest,
    Mode.read_white w.isBlank_blanks, Mode.read_sign (by decide)]
  exact ⟨_, _, _, _, _, rfl, rfl, rfl, rfl, rfl, rfl⟩

end PlainCall

/-- The call is written so where it stands in the text. -/
def Call.WrittenAs (call : Call) (w : PlainCall) (source : List Char) : Prop :=
  ∃ before after, source = before ++ (w.text ++ after) ∧
    call.position = (Place.origin.along before).position

/-! ### The names that are written -/

/-- **A call that is written so has the names that are written**, and no others. -/
theorem Call.exists_names_of_written {flavor : Flavor} {source : String} {o : Outline}
    {call : Call} {w : PlainCall} (ho : Scan.tokenOutline flavor source = .ok o)
    (hcall : call ∈ o.calls) (hwritten : call.WrittenAs w source.toList) :
    ∃ chain : Chain, call.callee = chain.callee ∧
      chain.names = [String.ofList w.receiver, String.ofList w.member] := by
  obtain ⟨ts, n, hlex, hread, rfl⟩ := tokenOutline_eq_ok_iff.1 ho
  obtain ⟨hn, rfl⟩ := Nesting.ofTokens_eq_ok_iff.1 hread
  obtain ⟨chain, front, us, bracket, later, htokens, hbracket, hchain, hcallee, hposition⟩ :=
    exists_chain_of_mem_calls hn hcall
  obtain ⟨before, after, hsource, hbefore⟩ := hwritten
  have hlaid := laid_of_tokens hlex
  -- the chain starts with a token, and that starts where the call is written
  obtain ⟨t, us', rfl, htposition⟩ := hchain.exists_first
  have ht : t ∈ n.tokens := by simp [htokens]
  obtain ⟨gap, body, rest, htext, -, -, hgap, hstart, -⟩ := hlaid.exists_place ht
  have hsame : gap = before := by
    have hposition' : (Place.origin.along gap).position = (Place.origin.along before).position := by
      rw [← hgap, htposition, ← hposition, hbefore]
    exact Place.eq_of_position (htext.symm.trans hsource) hposition'
  rw [hsame, Place.offset_along] at hstart
  rw [hsource] at hlex
  obtain ⟨front', hfront⟩ := tokens_of_start hlex ht (by simpa [Place.origin] using hstart)
  obtain ⟨t', point, u, bracket', more, hwritten, hplace, hname, hpoint, hmember, hbracket'⟩ :=
    w.exists_tokens flavor (Place.origin.along before) after
  rw [hwritten] at hfront
  have hrest : t :: (us' ++ bracket :: later) = t' :: point :: u :: bracket' :: more := by
    rw [htokens] at hlaid hfront
    exact hlaid.eq_of_position hfront (by rw [hplace, htposition, ← hposition, hbefore])
  exact ⟨chain, hcallee, hchain.eq_pair hname hpoint hmember hbracket' hbracket hrest⟩

/-! ### The facade and the method -/

/-- **A call through the facade spells the facade and the method.** -/
theorem Call.eq_of_written {rules : RuleSet} {call : Call} {chain : Chain} {w : PlainCall}
    {method : String} (hfacade : isPlainName rules.facade.toList = true)
    (hcallee : call.callee = chain.callee)
    (hnames : chain.names = [String.ofList w.receiver, String.ofList w.member])
    (hkind : call.kindUnder rules = .facade method) :
    w.receiver = rules.facade.toList ∧ w.member = method.toList := by
  have hmember : '.' ∉ w.member := notMem_of_isPlainName w.isPlainName_member (by decide)
  obtain ⟨front, hfront, hsplit⟩ : ∃ front,
      (front = "<expr>.".toList ++ w.receiver ∨ front = w.receiver) ∧
        call.callee.toList = front ++ '.' :: w.member := by
    rw [hcallee, Chain.callee, hnames]
    by_cases hexpr : chain.onExpression = true
    · exact ⟨_, .inl rfl, by simp [hexpr]⟩
    · exact ⟨_, .inr rfl, by simp [hexpr]⟩
  have hlast : Text.splitLast? '.' call.callee.toList = some (front, w.member) := by
    rw [hsplit, Text.splitLast?_append hmember]
  simp only [kindUnder, receiver?, member, hlast, Option.map_some] at hkind
  split_ifs at hkind with hreceiver
  have hroot : front = rules.facade.toList := by rw [← hreceiver, String.toList_ofList]
  refine ⟨?_, ?_⟩
  · rcases hfront with rfl | rfl
    · -- the facade would start with a sign
      have hsign : '<' ∉ rules.facade.toList := notMem_of_isPlainName hfacade (by decide)
      exact absurd (hroot ▸ by simp) hsign
    · exact hroot
  · cases hkind
    rw [String.toList_ofList]

namespace Scan

/-- What the patterns of a technology find of a method that is called in a text, where the call is
written in this way. -/
structure FindsAgain (technology : Technology) (source : String) (o : Outline) (method : String)
    (w : PlainCall) : Prop where
  /-- The method is found in every text in which the call is written. -/
  written : ∀ text : String, w.text <:+: text.toList → method ∈ foundMethods technology text
  /-- So it is found in the text itself, and in every text around it. -/
  around : ∀ text : String, source.toList <:+: text.toList → method ∈ foundMethods technology text
  /-- The initializer initializes the text. -/
  initializes : method = (Catalogue.ruleSet technology).initialization.method →
    ((Catalogue.ruleSet technology).analyze
      (.structured (o.classify (Catalogue.ruleSet technology)))).initialized = true
  /-- It initializes every file in which the call is written and that has no outline. -/
  initialized : method = (Catalogue.ruleSet technology).initialization.method →
    ∀ path text : String, w.text <:+: text.toList →
      (ofFile (Catalogue.ruleSet technology) path text).mode = .degraded →
        ((Catalogue.ruleSet technology).analyzeFile path text).initialized = true

/-- A call through the facade to the initializer initializes an outline. -/
theorem initializes_of_facade_call {rules : RuleSet} {o : Outline} {call : Call}
    (hcall : call ∈ o.calls) (hkind : call.kind = .facade rules.initialization.method) :
    rules.initializes (.structured o) = true := by
  have hfind : (o.calls.toList.find?
      (·.kind = .facade rules.initialization.method)).isSome = true :=
    List.find?_isSome.2 ⟨call, Array.mem_toList_iff.2 hcall, by simp [hkind]⟩
  simp only [RuleSet.initializes, Outline.initializerCall?]
  cases o.calls.toList.find? (·.kind = .initializer) with
  | none => simpa using hfind
  | some first => rfl

theorem technology_ruleSet (technology : Technology) :
    (Catalogue.ruleSet technology).technology = technology := by
  cases technology <;> rfl

/-- A method that is found in a text without an outline initializes it, if it is the initializer. -/
theorem initialized_of_degraded {technology : Technology} {path text : String}
    (hmode : (ofFile (Catalogue.ruleSet technology) path text).mode = .degraded)
    (hfound : (Catalogue.ruleSet technology).initialization.method
      ∈ foundMethods technology text) :
    ((Catalogue.ruleSet technology).analyzeFile path text).initialized = true := by
  rw [RuleSet.analyzeFile, RuleSet.analyze]
  simp only [ofFile, ofSource] at hmode ⊢
  split at hmode
  case h_1 => cases hmode
  case h_2 =>
    simp only [RuleSet.initializes, technology_ruleSet]
    exact List.contains_iff_mem.2 hfound

/-- **Patterns find every call through the facade that is written plainly.** -/
theorem findsAgain_of_written {technology : Technology} {flavor : Flavor} {source method : String}
    {o : Outline} {call : Call} {w : PlainCall}
    (htechnology : technology = .flutter ∨ technology = .androidKotlin)
    (ho : tokenOutline flavor source = .ok o)
    (hcall : call ∈ (o.classify (Catalogue.ruleSet technology)).calls)
    (hkind : call.kind = .facade method)
    (hmethod : method ∈ (Catalogue.ruleSet technology).methodPatterns.map (·.method))
    (hwritten : call.WrittenAs w source.toList) :
    FindsAgain technology source o method w := by
  have hfacade : isPlainName (Catalogue.ruleSet technology).facade.toList = true := by
    rcases htechnology with rfl | rfl <;> decide
  obtain ⟨bare, hbare, rfl⟩ := Array.mem_map.1 hcall
  obtain ⟨chain, hcallee, hnames⟩ := Call.exists_names_of_written ho hbare hwritten
  obtain ⟨hreceiver, hmember⟩ := Call.eq_of_written hfacade hcallee hnames hkind
  have hfound : ∀ text : String, w.text <:+: text.toList →
      method ∈ foundMethods technology text := by
    intro text htext
    rw [PlainCall.text, hreceiver, hmember] at htext
    exact mem_foundMethods_of_written htechnology hmethod w.isBlank_blanks htext
  obtain ⟨before, after, hsource, -⟩ := hwritten
  have hpart : w.text <:+: source.toList := ⟨before, after, by rw [hsource, List.append_assoc]⟩
  exact {
    written := hfound
    around := fun text htext => hfound text (hpart.trans htext)
    initializes := by
      rintro rfl
      exact initializes_of_facade_call hcall hkind
    initialized := by
      rintro rfl path text htext hmode
      exact initialized_of_degraded hmode (hfound text htext) }

/-- The initializer of Flutter with a blank before the bracket. -/
def plainEngage : PlainCall where
  receiver := "MappSdk".toList
  member := "engage".toList
  blanks := [' ']
  isPlainName_receiver := by decide +kernel
  isPlainName_member := by decide +kernel
  isBlank_blanks := List.forall_mem_singleton.2 (by decide)

/-- For instance a file that calls the initializer stays initialized when a brace is missing. -/
theorem findsAgain_engage :
    ∃ o, tokenOutline .dart "main() \x7b MappSdk.engage (k); \x7d" = .ok o ∧
      FindsAgain .flutter "main() \x7b MappSdk.engage (k); \x7d" o "engage" plainEngage ∧
      ((Catalogue.ruleSet .flutter).analyzeFile "lib/main.dart"
        "main() \x7b MappSdk.engage (k);").initialized = true := by
  have hok : (tokenOutline .dart "main() \x7b MappSdk.engage (k); \x7d").toOption.any (fun o =>
      (o.classify (Catalogue.ruleSet .flutter)).calls.toList.any fun call =>
        call.kind = .facade "engage" ∧ call.position = ⟨0, 9⟩) = true := by
    decide +kernel
  obtain ⟨o, ho, hcalls⟩ := (Option.any_eq_true _ _).1 hok
  obtain ⟨call, hcall, hkind⟩ := List.any_eq_true.1 hcalls
  obtain ⟨hkind, hposition⟩ := of_decide_eq_true hkind
  have hwritten : call.WrittenAs plainEngage "main() \x7b MappSdk.engage (k); \x7d".toList :=
    ⟨"main() \x7b ".toList, "k); \x7d".toList, by decide +kernel,
      hposition.trans (by decide +kernel)⟩
  have hfinds : FindsAgain .flutter "main() \x7b MappSdk.engage (k); \x7d" o "engage" plainEngage :=
    findsAgain_of_written (.inl rfl) (toOption_eq_some_iff.1 ho) (Array.mem_toList_iff.1 hcall)
      hkind (by decide +kernel) hwritten
  refine ⟨o, toOption_eq_some_iff.1 ho, hfinds, ?_⟩
  refine hfinds.initialized (by decide +kernel) _ _ ?_ (by decide +kernel)
  exact ⟨"main() \x7b ".toList, "k);".toList, by decide +kernel⟩

end Scan

end SdkAudit
