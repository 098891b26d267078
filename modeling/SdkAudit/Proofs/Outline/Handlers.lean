import SdkAudit.Proofs.Outline.Braces

/-!
# Headers and the statements they belong to

Errors are handled in the bodies of a `try`, of a `catch`, of a `finally` and of Dart's `on`
clauses.  The outline tells these bodies from the last tokens before a brace.  In Dart that goes
wrong in two ways: `on` and a name also stand before the body of an extension, and the type of an
`on` clause need not be a single name.  This module says what handles errors, and where the outline
agrees.

* `IsType`, `TryClause` — the clauses of a try statement;
* `HandlesErrors`, `IsHandled` — the bodies in which errors are handled;
* `StrayOn`, `LongOn` — the headers that are taken for something else;
* `isGuarded_iff_isHandled_iff` — **the outline is right exactly where** every stray header has a
  handler around the call and every long one has a recognised header beside it;
* `isGuarded_extension_body` — the body of an extension counts as a handler.
-/

namespace SdkAudit

open Nesting Outline

/-! ### What handles errors -/

/-- One type, or several with commas between them. -/
inductive TypeCount where
  | one
  | several

/-- The tokens from one place up to another are a type, or several. -/
inductive IsType (ts : List Token) : TypeCount → Nat → Nat → Prop
  | named {i : Nat} {name : String} : NameAt ts i name → IsType ts .one i (i + 1)
  | qualified {i : Nat} {library name : String} :
      NameAt ts i library → SignAt ts (i + 1) '.' → NameAt ts (i + 2) name →
      IsType ts .one i (i + 3)
  | generic {i j k : Nat} :
      IsType ts .one i j → SignAt ts j '<' → IsType ts .several (j + 1) k → SignAt ts k '>' →
      IsType ts .one i (k + 1)
  | nullable {i j : Nat} : IsType ts .one i j → SignAt ts j '?' → IsType ts .one i (j + 1)
  | function {i j k : Nat} :
      IsType ts .one i j → NameAt ts j "Function" → SignAt ts (j + 1) '(' → Pairs ts (j + 1) k →
      IsType ts .one i (k + 1)
  | record {i k : Nat} : SignAt ts i '(' → Pairs ts i k → IsType ts .one i (k + 1)
  | single {i j : Nat} : IsType ts .one i j → IsType ts .several i j
  | more {i j k : Nat} :
      IsType ts .one i j → SignAt ts j ',' → IsType ts .several (j + 1) k → IsType ts .several i k

/-- The brace with so many tokens before it opens the body of a `try`, of a `catch`, or of an `on`
clause, which follows the body of another clause directly. -/
inductive TryClause (flavor : Flavor) (ts : List Token) : Nat → Prop
  | tryBody {i : Nat} : NameAt ts i "try" → TryClause flavor ts (i + 1)
  | catchBody {i j : Nat} :
      NameAt ts i "catch" → SignAt ts (i + 1) '(' → Pairs ts (i + 1) j →
      TryClause flavor ts (j + 1)
  | onBody {i j k : Nat} :
      flavor = .dart → SignAt ts i '\x7b' → TryClause flavor ts i → Pairs ts i j →
      NameAt ts (j + 1) "on" → IsType ts .one (j + 2) k → TryClause flavor ts k

/-- The errors raised in the body behind this brace are handled, or code runs after them. -/
inductive HandlesErrors (flavor : Flavor) (ts : List Token) : Nat → Prop
  | clause {i : Nat} : TryClause flavor ts i → HandlesErrors flavor ts i
  | finallyBody {i : Nat} : NameAt ts i "finally" → HandlesErrors flavor ts (i + 1)

/-- There is a brace of some sort around the token with so many tokens before it. -/
def IsInside (ts : List Token) (sort : Nat → Prop) (k : Nat) : Prop :=
  ∃ i, SignAt ts i '\x7b' ∧ Encloses ts i k ∧ sort i

/-- The token with so many tokens before it stands in a body whose errors are handled. -/
def IsHandled (flavor : Flavor) (ts : List Token) (k : Nat) : Prop :=
  IsInside ts (HandlesErrors flavor ts) k

/-! ### Headers that mislead -/

/-- The token with so many tokens before it directly follows a clause of a try statement. -/
def FollowsClause (flavor : Flavor) (ts : List Token) (j : Nat) : Prop :=
  ∃ i c, SignAt ts i '\x7b' ∧ TryClause flavor ts i ∧ Pairs ts i c ∧ j = c + 1

/-- The brace is preceded by `on` and a name that belong to no try statement. -/
def StrayOn (flavor : Flavor) (ts : List Token) (i : Nat) : Prop :=
  flavor = .dart ∧ ∃ j type, i = j + 2 ∧ NameAt ts j "on" ∧ NameAt ts (j + 1) type ∧
    ¬ FollowsClause flavor ts j

/-- The brace opens the body of an `on` clause whose type is more than one name. -/
def LongOn (flavor : Flavor) (ts : List Token) (i : Nat) : Prop :=
  flavor = .dart ∧ ∃ j, FollowsClause flavor ts j ∧ NameAt ts j "on" ∧ IsType ts .one (j + 1) i ∧
    i ≠ j + 2

variable {flavor : Flavor} {ts : List Token}

theorem IsType.lt {count : TypeCount} {i j : Nat} (h : IsType ts count i j) : i < j := by
  induction h with
  | named _ => omega
  | qualified _ _ _ => omega
  | generic _ _ _ _ ihType ihArguments => omega
  | nullable _ _ ih => omega
  | function _ _ _ hpair ih =>
    have := hpair.lt
    omega
  | record _ hpair =>
    have := hpair.lt
    omega
  | single _ ih => exact ih
  | more _ _ _ ih ihMore => omega

/-- A type that is a single token is a name. -/
theorem IsType.exists_name {i : Nat} (h : IsType ts .one i (i + 1)) : ∃ name, NameAt ts i name := by
  cases h with
  | named hname => exact ⟨_, hname⟩
  | generic htype _ harguments _ =>
    have := htype.lt
    have := harguments.lt
    omega
  | nullable htype _ =>
    have := htype.lt
    omega
  | function htype _ _ hpair =>
    have := htype.lt
    have := hpair.lt
    omega
  | record _ hpair =>
    have := hpair.lt
    omega

/-- A header that is recognised belongs to a clause, unless it is a stray one. -/
theorem OpensGuarded.handlesErrors_or {i : Nat} (h : OpensGuarded flavor ts i) :
    HandlesErrors flavor ts i ∨ StrayOn flavor ts i := by
  cases h with
  | tryBody hname => exact .inl (.clause (.tryBody hname))
  | finallyBody hname => exact .inl (.finallyBody hname)
  | catchBody hname hsign hpair => exact .inl (.clause (.catchBody hname hsign hpair))
  | @onBody j type hdart hon htype =>
    by_cases hfollows : FollowsClause flavor ts j
    · obtain ⟨i, c, hsign, hclause, hpair, rfl⟩ := hfollows
      exact .inl (.clause (.onBody hdart hsign hclause hpair hon (.named htype)))
    · exact .inr ⟨hdart, j, type, rfl, hon, htype, hfollows⟩

/-- The header of a clause is recognised, unless it is a long one. -/
theorem HandlesErrors.opensGuarded_or {i : Nat} (h : HandlesErrors flavor ts i) :
    OpensGuarded flavor ts i ∨ LongOn flavor ts i := by
  cases h with
  | finallyBody hname => exact .inl (.finallyBody hname)
  | clause hclause =>
    cases hclause with
    | tryBody hname => exact .inl (.tryBody hname)
    | catchBody hname hsign hpair => exact .inl (.catchBody hname hsign hpair)
    | @onBody b c _ hdart hsign hclause hpair hon htype =>
      by_cases hshort : i = c + 3
      · subst hshort
        obtain ⟨name, hname⟩ := htype.exists_name
        exact .inl (.onBody hdart hon hname)
      · exact .inr ⟨hdart, c + 1, ⟨b, c, hsign, hclause, hpair, rfl⟩, hon, htype, hshort⟩

/-- A recognised header around a token is that of a handler, or else a stray one. -/
theorem isInside_agrees_iff {k : Nat} :
    (IsInside ts (OpensGuarded flavor ts) k ↔ IsHandled flavor ts k) ↔
      (IsInside ts (StrayOn flavor ts) k → IsHandled flavor ts k) ∧
        (IsInside ts (LongOn flavor ts) k → IsInside ts (OpensGuarded flavor ts) k) := by
  constructor
  · intro hagrees
    constructor
    · rintro ⟨i, hsign, hencloses, hdart, j, type, rfl, hon, htype, -⟩
      exact hagrees.1 ⟨_, hsign, hencloses, .onBody hdart hon htype⟩
    · rintro ⟨i, hsign, hencloses, hdart, j, ⟨b, c, hb, hclause, hpair, rfl⟩, hon, htype, -⟩
      exact hagrees.2 ⟨i, hsign, hencloses, .clause (.onBody hdart hb hclause hpair hon htype)⟩
  · rintro ⟨hstray, hlong⟩
    constructor
    · rintro ⟨i, hsign, hencloses, hopens⟩
      rcases hopens.handlesErrors_or with hhandles | hon
      · exact ⟨i, hsign, hencloses, hhandles⟩
      · exact hstray ⟨i, hsign, hencloses, hon⟩
    · rintro ⟨i, hsign, hencloses, hhandles⟩
      rcases hhandles.opensGuarded_or with hopens | hon
      · exact ⟨i, hsign, hencloses, hopens⟩
      · exact hlong ⟨i, hsign, hencloses, hon⟩

/-- A call is guarded exactly if a recognised header is around it. -/
theorem isGuarded_iff_isInside {n : Nesting} (hn : n.IsProper) {k : Nat} {call : Call}
    (hcall : (k, call) ∈ n.sitedCalls flavor) :
    (ofNesting flavor n).isGuarded call.scope = true ↔
      IsInside n.tokens (OpensGuarded flavor n.tokens) k := by
  obtain ⟨-, is, hbraces, hlies⟩ := (mirrorsBraces_ofNesting hn).call_liesIn k call hcall
  rw [hlies.isGuarded_iff]
  constructor
  · rintro ⟨i, hi, hopens⟩
    obtain ⟨hsign, hencloses⟩ := (hbraces.mem_iff i).1 hi
    exact ⟨i, hsign, hencloses, hopens⟩
  · rintro ⟨i, hsign, hencloses, hopens⟩
    exact ⟨i, (hbraces.mem_iff i).2 ⟨hsign, hencloses⟩, hopens⟩

/-- **Where the outline is right about a call.**  It says that errors are handled exactly if they
are, provided that a stray `on` around the call comes with a handler, and an `on` clause with a long
type comes with a header that is recognised.  In Kotlin it is always right. -/
theorem isGuarded_iff_isHandled_iff {source : String} {o : Outline}
    (h : Scan.tokenOutline flavor source = .ok o) :
    ∃ ts n, Lexer.tokens flavor source.toList = .ok ts ∧ Nesting.ofTokens ts = .ok n ∧
      (n.sitedCalls flavor).map Prod.snd = o.calls.toList ∧
      ∀ k call, (k, call) ∈ n.sitedCalls flavor → SignAt ts k '(' ∧
        ((o.isGuarded call.scope = true ↔ IsHandled flavor ts k) ↔
          (IsInside ts (StrayOn flavor ts) k → IsHandled flavor ts k) ∧
            (IsInside ts (LongOn flavor ts) k → IsInside ts (OpensGuarded flavor ts) k)) ∧
        (flavor = .kotlin → (o.isGuarded call.scope = true ↔ IsHandled flavor ts k)) := by
  obtain ⟨ts, n, hlex, hread, rfl⟩ := tokenOutline_eq_ok_iff.1 h
  obtain ⟨hn, rfl⟩ := ofTokens_eq_ok_iff.1 hread
  refine ⟨n.tokens, n, hlex, hread, map_sitedCalls hn, fun k call hcall => ?_⟩
  rw [isGuarded_iff_isInside hn hcall]
  refine ⟨((mirrorsBraces_ofNesting hn).call_liesIn k call hcall).1, isInside_agrees_iff, ?_⟩
  intro hkotlin
  refine isInside_agrees_iff.2 ⟨?_, ?_⟩
  · rintro ⟨_, _, _, hdart, _⟩
    cases hkotlin.symm.trans hdart
  · rintro ⟨_, _, _, hdart, _⟩
    cases hkotlin.symm.trans hdart

/-- For instance where a type has a library and the `try` body ends before it. -/
theorem isGuarded_iff_isHandled_iff_long_type :
    ∃ o ts n, Scan.tokenOutline .dart "f() { try { g(); } on a.B { h(); } }" = .ok o ∧
      Lexer.tokens .dart "f() { try { g(); } on a.B { h(); } }".toList = .ok ts ∧
      Nesting.ofTokens ts = .ok n ∧
      ∀ k call, (k, call) ∈ n.sitedCalls .dart →
        ((o.isGuarded call.scope = true ↔ IsHandled .dart ts k) ↔
          (IsInside ts (StrayOn .dart ts) k → IsHandled .dart ts k) ∧
            (IsInside ts (LongOn .dart ts) k → IsInside ts (OpensGuarded .dart ts) k)) := by
  have hok : (Scan.tokenOutline .dart
      "f() { try { g(); } on a.B { h(); } }").toOption.isSome = true := by
    decide +kernel
  obtain ⟨o, ho⟩ := Option.isSome_iff_exists.1 hok
  have ho := toOption_eq_some_iff.1 ho
  obtain ⟨ts, n, hlex, hread, -, hcalls⟩ := isGuarded_iff_isHandled_iff ho
  exact ⟨o, ts, n, ho, hlex, hread, fun k call hcall => (hcalls k call hcall).2.1⟩

/-! ### The body of an extension -/

theorem TryClause.exists_word {i : Nat} (h : TryClause flavor ts i) :
    ∃ j, NameAt ts j "try" ∨ NameAt ts j "catch" := by
  induction h with
  | tryBody hname => exact ⟨_, .inl hname⟩
  | catchBody hname _ _ => exact ⟨_, .inr hname⟩
  | onBody _ _ _ _ _ _ ih => exact ih

/-- Without one of three words, nothing handles errors. -/
theorem not_isHandled {k : Nat}
    (h : ∀ t ∈ ts, t.name? ∉ [some "try", some "catch", some "finally"]) :
    ¬ IsHandled flavor ts k := by
  have hno : ∀ {j word}, word ∈ ["try", "catch", "finally"] → ¬ NameAt ts j word := by
    rintro j word hword ⟨t, ht, hname⟩
    refine h t (List.mem_of_getElem? ht) ?_
    rw [hname]
    simpa using hword
  rintro ⟨i, -, -, hhandles⟩
  cases hhandles with
  | finallyBody hname => exact hno (by simp) hname
  | clause hclause =>
    obtain ⟨j, hname | hname⟩ := hclause.exists_word
    · exact hno (by simp) hname
    · exact hno (by simp) hname

/-- **The body of an extension counts as a handler**, although nothing in it handles errors. -/
theorem isGuarded_extension_body :
    ∃ ts n call,
      Lexer.tokens .dart "extension E on T { f() { MappSdk.isReady(); } }".toList = .ok ts ∧
      Nesting.ofTokens ts = .ok n ∧ (12, call) ∈ n.sitedCalls .dart ∧
      call.callee = "MappSdk.isReady" ∧ (ofNesting .dart n).isGuarded call.scope = true ∧
      ¬ IsHandled .dart ts 12 := by
  have hcheck : ((Lexer.tokens .dart
      "extension E on T { f() { MappSdk.isReady(); } }".toList).toOption.any fun ts =>
        (ts.all fun t => t.name? ∉ [some "try", some "catch", some "finally"]) &&
          (Nesting.ofTokens ts).toOption.any fun n => (n.sitedCalls .dart).any fun c =>
            c.1 = 12 ∧ c.2.callee = "MappSdk.isReady" ∧
              (ofNesting .dart n).isGuarded c.2.scope = true) = true := by
    decide +kernel
  simp only [Option.any_eq_true, Bool.and_eq_true, List.all_eq_true, List.any_eq_true,
    decide_eq_true_eq] at hcheck
  obtain ⟨ts, hlex, hwords, n, hread, ⟨_, call⟩, hcall, rfl, hcallee, hguarded⟩ := hcheck
  exact ⟨ts, n, call, toOption_eq_some_iff.1 hlex, toOption_eq_some_iff.1 hread, hcall, hcallee,
    hguarded, not_isHandled hwords⟩

end SdkAudit
