import SdkAudit.Proofs.Outline.Segments
import SdkAudit.Proofs.Source.DescentTokens
import SdkAudit.Scan

/-!
# Outlines without faults

Reading a text by descent, matching its brackets by number and building its outline by number, with
every step checked, comes to the outline that is told from the nesting.  So no count goes below
zero, no token is asked for that is not there, and no call goes on without end, whatever the text
is.

* `ByNumber.guards_eq`, `ByNumber.chain_eq`, `ByNumber.callAt_eq` — headers, chains and calls are
  the same by number;
* `ByNumber.build_eq` — **the outline is the same by number**;
* `checkedOutline` — the outline of a text, every step checked;
* `faultless` — **no check fails**, every call gets ahead in the text, and every segment is inside
  its brackets and not empty.
-/

namespace SdkAudit

open Nesting Outline

variable {ts : List Token} {partners : List (Option Nat)} {flavor : Flavor} {n : Nesting} {k : Nat}

namespace ByNumber

/-! ### What stands before a token -/

/-- What is told of the token before a place, where an opening bracket tells no more than nothing,
is told of the last token of the nesting that ends there. -/
theorem tokenBefore?_eq {α : Type} (hn : n.IsProper) (h : EndsAt ts n k) (f : Option Token → α)
    (hf : ∀ o kind, Token.bracket? o = some (.opening kind) → f (some o) = f none) :
    ∃ t?, tokenBefore? ts k = .ok t? ∧ f t? = f n.last? := by
  cases n with
  | empty =>
    cases k with
    | zero => exact ⟨none, rfl, rfl⟩
    | succ k =>
      obtain ⟨o, kind, ho, hopener⟩ := h.empty
      exact ⟨some o, by rw [tokenBefore?, Checked.look_eq ho]; rfl, hf o kind hopener⟩
  | token before t =>
    obtain ⟨j, rfl, ht, -⟩ := h.token
    exact ⟨some t, by rw [tokenBefore?, Checked.look_eq ht]; rfl, rfl⟩
  | group before kind opener inner closer =>
    obtain ⟨i, j, rfl, -, ht, -, -⟩ := h.group hn
    exact ⟨some closer, by rw [tokenBefore?, Checked.look_eq ht]; rfl, rfl⟩

/-- The name before a place is the name at the end of the nesting that ends there. -/
theorem nameBefore?_eq (hn : n.IsProper) (h : EndsAt ts n k) :
    nameBefore? ts k = .ok (n.last?.bind Token.name?) := by
  obtain ⟨t?, ht, hname⟩ := tokenBefore?_eq hn h (·.bind Token.name?)
    fun o kind ho => Token.name?_eq_none_of_bracket? ho
  rw [nameBefore?, ht, Checked.ok_bind, hname]
  rfl

theorem bind_name?_eq_some {t? : Option Token} {word : String} :
    decide (t?.bind Token.name? = some word) = t?.any (·.isName word) := by
  cases t? with
  | none => rfl
  | some t => rw [Bool.eq_iff_iff]; simp [Token.isName_iff]

theorem isCaughtType_eq {t : Token} (hn : n.IsProper) (h : EndsAt ts n k) :
    isCaughtType flavor ts t k
      = .ok (flavor == .dart && t.name?.isSome && n.last?.any (·.isName "on")) := by
  rw [isCaughtType, nameBefore?_eq hn h, Checked.ok_bind, bind_name?_eq_some]
  cases flavor <;> cases t.name? <;> rfl

theorem isCaughtType_of_bracket? {t : Token} {sign : BracketSign} (h : t.bracket? = some sign) :
    isCaughtType flavor ts t k = .ok false := by
  rw [isCaughtType, Token.name?_eq_none_of_bracket? h, if_neg (by simp)]
  rfl

/-- **The test of a header** is the same by number. -/
theorem guards_eq (hp : Matched ts partners) (hn : n.IsProper) (h : EndsAt ts n k) :
    guards flavor ts partners k = .ok (Outline.guards flavor n) := by
  have hbracket : ∀ t sign, Token.bracket? t = some sign →
      ¬ (t.isName "try" = true ∨ t.isName "finally" = true) := by
    intro t sign ht
    simp [Token.isName_iff, Token.name?_eq_none_of_bracket? ht]
  have hclose : ∀ t : Token, t.isSign ')' = true ↔ t.bracket? = some (.closing .round) := fun t =>
    (Token.bracket?_eq_closing : t.bracket? = some (.closing .round) ↔ _).symm
  cases n with
  | empty =>
    cases k with
    | zero => rfl
    | succ k =>
      obtain ⟨o, kind, ho, hopener⟩ := h.empty
      rw [guards, Checked.look_eq ho, Checked.ok_bind, if_neg (hbracket o _ hopener),
        if_neg (by simp [hclose, hopener]), isCaughtType_of_bracket? hopener]
      rfl
  | token before t =>
    obtain ⟨j, rfl, ht, hbefore⟩ := h.token
    have hnot : ¬ t.isSign ')' = true := by simp [hclose, hn.2]
    rw [guards, Checked.look_eq ht, Checked.ok_bind, if_neg hnot, isCaughtType_eq hn.1 hbefore,
      Outline.guards]
    split
    case isTrue hword => simp [hword]
    case isFalse hword =>
      rw [not_or, Bool.not_eq_true, Bool.not_eq_true] at hword
      simp [hword]
  | group before kind opener inner closer =>
    obtain ⟨i, j, rfl, -, ht, hpair, hbefore⟩ := h.group hn
    have hcloser : closer.bracket? = some (.closing kind) := hn.2.2.2
    rw [guards, Checked.look_eq ht, Checked.ok_bind, if_neg (hbracket closer _ hcloser)]
    split
    case isTrue hround =>
      obtain rfl : kind = .round := by simpa [hclose, hcloser] using hround
      rw [Checked.look_eq (hp i j hpair).2, Checked.ok_bind]
      show (nameBefore? ts i >>= fun word? => _) = _
      rw [nameBefore?_eq hn.1 hbefore, Checked.ok_bind, bind_name?_eq_some]
      rfl
    case isFalse hround =>
      rw [isCaughtType_of_bracket? hcloser]
      cases kind with
      | round => exact absurd ((hclose closer).2 hcloser) hround
      | square | curly => rfl

/-! ### Chains -/

/-- The mark before a dot is passed over, if one stands there. -/
theorem markOf_eq (hn : n.IsProper) (h : EndsAt ts n k) :
    ∃ m r, markOf ts k = .ok m ∧ r.IsProper ∧ EndsAt ts r m ∧ m ≤ k ∧
      (n.named? <|> n.marked?) = r.named? := by
  -- a bracket is no mark, so that the nesting ends where it does
  have hstays : ∀ j t sign, k = j + 1 → ts[j]? = some t → Token.bracket? t = some sign →
      markOf ts k = .ok k := by
    rintro j t sign rfl ht hb
    have hmark : ¬ (t.isSign '?' = true ∨ t.isSign '!' = true) := by
      simp [Token.isSign_of_bracket? hb]
    rw [markOf, Checked.look_eq ht, Checked.ok_bind, if_neg hmark]
    rfl
  cases n with
  | empty =>
    refine ⟨k, .empty, ?_, hn, h, le_rfl, rfl⟩
    cases k with
    | zero => rfl
    | succ k =>
      obtain ⟨o, kind, ho, hopener⟩ := h.empty
      exact hstays k o _ rfl ho hopener
  | group before kind opener inner closer =>
    obtain ⟨i, j, hk, -, ht, -, -⟩ := h.group hn
    exact ⟨k, _, hstays j closer _ hk ht hn.2.2.2, hn, h, le_rfl, rfl⟩
  | token before t =>
    obtain ⟨j, rfl, ht, hbefore⟩ := h.token
    by_cases hmark : t.isSign '?' = true ∨ t.isSign '!' = true
    · have hname : t.name? = none := by
        rcases hmark with hmark | hmark <;> exact Token.name?_of_isSign hmark
      refine ⟨j, before, ?_, hn.1, hbefore, Nat.le_succ j, ?_⟩
      · rw [markOf, Checked.look_eq ht, Checked.ok_bind, if_pos hmark]
        rfl
      · rcases hmark with hmark | hmark <;> simp [named?, marked?, hname, hmark]
    · refine ⟨j + 1, .token before t, ?_, hn, h, le_rfl, ?_⟩
      · rw [markOf, Checked.look_eq ht, Checked.ok_bind, if_neg hmark]
        rfl
      · rw [not_or, Bool.not_eq_true, Bool.not_eq_true] at hmark
        simp [marked?, hmark]

theorem bind_name?_last? (hn : n.IsProper) :
    n.last?.bind Token.name? = n.named?.map Link.name := by
  cases n with
  | empty => rfl
  | token before t =>
    show t.name? = (t.name?.map _).map _
    cases t.name? <;> rfl
  | group before kind opener inner closer => exact Token.name?_eq_none_of_bracket? hn.2.2.2

/-- A chain that is known from some token on goes on to the left as the chain of the nesting that
ends there. -/
structure ChainAt (ts : List Token) (chain : Chain) (start : Nat) : Prop where
  proper : chain.before.IsProper
  endsAt : EndsAt ts chain.before start
  first : ∃ t, ts[start]? = some t ∧ t.position = chain.position

/-- **Chains are followed** by number as they are along a nesting. -/
theorem chain_eq {calls : Nat} (names : List String) {t : Token} (hn : n.IsProper)
    (h : EndsAt ts n k) (ht : ts[k]? = some t) (hcalls : k < calls) :
    ∃ start, ChainAt ts (chainFrom names t.position n) start ∧
      chain ts calls k names = .ok (start, (chainFrom names t.position n).names,
        (chainFrom names t.position n).onExpression) := by
  induction calls generalizing n k names t with
  | zero => omega
  | succ calls ih =>
    -- where no link is left the chain ends
    have hends : n.link? = none →
        chain ts (calls + 1) k names = .ok (k, names, n.endsWithDot) →
        ∃ start, ChainAt ts (chainFrom names t.position n) start ∧
          chain ts (calls + 1) k names = .ok (start, (chainFrom names t.position n).names,
            (chainFrom names t.position n).onExpression) := by
      intro hlink hchain
      rw [chainFrom_of_last hlink]
      exact ⟨k, ⟨hn, h, t, ht, rfl⟩, hchain⟩
    have hbracket : ∀ j u sign, k = j + 1 → ts[j]? = some u → Token.bracket? u = some sign →
        chain ts (calls + 1) k names = .ok (k, names, false) := by
      rintro j u sign rfl hu hb
      rw [chain, Checked.look_eq hu, Checked.ok_bind,
        if_neg (by simp [Token.isSign_of_bracket? hb])]
      rfl
    cases n with
    | empty =>
      refine hends rfl ?_
      cases k with
      | zero => rfl
      | succ k =>
        obtain ⟨o, kind, ho, hopener⟩ := h.empty
        exact hbracket k o _ rfl ho hopener
    | group before kind opener inner closer =>
      obtain ⟨i, j, hk, -, hcloser, -, -⟩ := h.group hn
      exact hends rfl (hbracket j closer _ hk hcloser hn.2.2.2)
    | token before dot =>
      obtain ⟨j, rfl, hdot, hbefore⟩ := h.token
      by_cases hsign : dot.isSign '.' = true
      · obtain ⟨m, r, hm, hr, hrm, hle, hnamed⟩ := markOf_eq hn.1 hbefore
        have hlink : (Nesting.token before dot).link? = r.named? := by
          rw [link?, if_pos hsign, hnamed]
        have hlook : chain ts (calls + 1) (j + 1) names
            = (r.named?.map Link.name).elim (.ok (j + 1, names, true)) fun name =>
                Checked.lower m >>= fun start => chain ts calls start (name :: names) := by
          rw [chain, Checked.look_eq hdot, Checked.ok_bind, if_pos hsign, hm, Checked.ok_bind]
          have hname : nameBefore? ts m = .ok (r.named?.map Link.name) := by
            rw [nameBefore?_eq hr hrm, bind_name?_last? hr]
          refine (congrArg (· >>= _) hname).trans ?_
          cases r.named?.map Link.name <;> rfl
        cases hfound : r.named? with
        | none =>
          refine hends (hlink.trans hfound) ?_
          rw [hlook, hfound, endsWithDot, hsign]
          rfl
        | some l =>
          obtain ⟨u, rfl, hname, hposition⟩ := named?_eq_some hfound
          obtain ⟨i, rfl, hu, hl⟩ := hrm.token
          obtain ⟨start, hat, hchain⟩ := ih (l.name :: names) hr.1 hl hu (by omega)
          rw [chainFrom_of_link (hlink.trans hfound), ← hposition]
          refine ⟨start, hat, ?_⟩
          rw [hlook, hfound, ← hchain]
          rfl
      · have hlink : (Nesting.token before dot).link? = none := by
          rw [link?, if_neg hsign]
        refine hends hlink ?_
        rw [chain, Checked.look_eq hdot, Checked.ok_bind, if_neg hsign, endsWithDot,
          Bool.eq_false_iff.2 hsign]
        rfl

/-! ### Calls -/

/-- What is known of the tokens that follow: all that there are, or those up to a bracket. -/
def Shows (after following : List Token) : Prop :=
  ∃ more, following = after ++ more ∧
    (more = [] ∨ (∃ closer rest kind, more = closer :: rest ∧
        Token.bracket? closer = some (.closing kind)) ∨
      ∃ front opener kind, after = front ++ [opener] ∧
        Token.bracket? opener = some (.opening kind))

theorem Shows.cons {after following : List Token} (h : Shows after following) (t : Token) :
    Shows (t :: after) (t :: following) := by
  obtain ⟨more, rfl, hend⟩ := h
  refine ⟨more, rfl, ?_⟩
  rcases hend with hnil | hcloser | ⟨front, opener, kind, rfl, ho⟩
  · exact .inl hnil
  · exact .inr (.inl hcloser)
  · exact .inr (.inr ⟨t :: front, opener, kind, rfl, ho⟩)

/-- Up to a bracket one sees whether a body opens. -/
theorem Shows.opensBody {after following : List Token} (h : Shows after following) :
    opensBody following = opensBody after := by
  obtain ⟨more, rfl, hend⟩ := h
  have hsign : ∀ (t : Token) sign, t.bracket? = some sign →
      t.isSign '=' = false ∧ t.isSign '>' = false := fun t sign ht =>
    ⟨Token.isSign_of_bracket? ht (by decide), Token.isSign_of_bracket? ht (by decide)⟩
  cases after with
  | nil =>
    rcases hend with rfl | ⟨closer, rest, kind, rfl, hc⟩ | ⟨front, _, _, hfront, -⟩
    · rfl
    · have hname : ∀ word, closer.isName word = false := fun word => by
        simp [← Bool.not_eq_true, Token.isName_iff, Token.name?_eq_none_of_bracket? hc]
      have hbrace : closer.isSign '\x7b' = false := Bool.eq_false_iff.2 fun hsign => by
        have hcurly : closer.bracket? = some (.opening .curly) := Token.bracket?_eq_opening.2 hsign
        rw [hc] at hcurly
        cases hcurly
      simp [Outline.opensBody, hname, hbrace, hsign closer _ hc]
    · simp at hfront
  | cons t after =>
    cases after with
    | cons u after => rfl
    | nil =>
      have hnext : (t.isSign '=' && more.head?.any (·.isSign '>')) = false := by
        rcases hend with rfl | ⟨closer, rest, kind, rfl, hc⟩ | ⟨front, opener, kind, hfront, ho⟩
        · simp
        · simp [hsign closer _ hc]
        · have hlast := congrArg List.getLast? hfront
          rw [List.getLast?_concat] at hlast
          obtain rfl : t = opener := Option.some.inj hlast
          simp [hsign t _ ho]
      simp [Outline.opensBody, hnext]

/-- **The test of a declaration** is the same by number. -/
theorem isDeclaration_eq {chain : Chain} {start close : Nat} {after : List Token}
    (h : ChainAt ts chain start) (hafter : Shows after (ts.drop (close + 1))) :
    isDeclaration flavor ts start chain.names.length close
      = .ok (Outline.isDeclaration flavor chain after) := by
  -- all that the test sees of what stands before the chain is its last token
  let told : Option Token → Bool := fun t? =>
    Outline.isDeclaration flavor { chain with before := t?.elim .empty (.token .empty) } after
  have hopening : ∀ o kind, Token.bracket? o = some (.opening kind) →
      told (some o) = told none := by
    intro o kind ho
    have hname := Token.name?_eq_none_of_bracket? ho
    have hsign : o.isSign '>' = false := Token.isSign_of_bracket? ho (by decide)
    cases flavor <;> simp [told, Outline.isDeclaration, last?, hname, hsign]
  obtain ⟨t?, ht, htold⟩ := tokenBefore?_eq h.proper h.endsAt told hopening
  have hmodel : Outline.isDeclaration flavor chain after = told chain.before.last? := by
    obtain ⟨names, position, before, onExpression⟩ := chain
    cases before <;> rfl
  rw [hmodel, ← htold, isDeclaration, ht, Checked.ok_bind]
  cases t? with
  | none => rfl
  | some previous =>
    cases flavor with
    | kotlin => rfl
    | dart =>
      by_cases hlength : chain.names.length = 1
      · cases hname : previous.name? <;>
          simp [told, Outline.isDeclaration, last?, hlength, hname, hafter.opensBody]
      · simp [told, Outline.isDeclaration, last?, hlength]

theorem declares_eq {chain : Chain} {start close : Nat} {after : List Token}
    (h : ChainAt ts chain start) (hafter : Shows after (ts.drop (close + 1))) :
    declares flavor ts chain.onExpression start chain.names.length close
      = .ok (!chain.onExpression && Outline.isDeclaration flavor chain after) := by
  rw [declares, isDeclaration_eq h hafter]
  cases chain.onExpression <;> rfl

/-- **A pair of round brackets makes the same call** by number. -/
theorem callAt_eq (hp : Matched ts partners) (hn : n.IsProper) (h : EndsAt ts n k)
    {inner : Nesting} {close : Nat} (hinside : Inside ts k close .round inner)
    {after : List Token} (hafter : Shows after (ts.drop (close + 1))) (scope : ScopeId) :
    callAt flavor ts partners scope k = .ok (callAt? flavor n inner after scope) := by
  have hbracket : ∀ j t sign, k = j + 1 → ts[j]? = some t → Token.bracket? t = some sign →
      callAt flavor ts partners scope k = .ok none := by
    rintro j t sign rfl ht hb
    rw [callAt, Checked.look_eq ht, Checked.ok_bind, Token.name?_eq_none_of_bracket? hb]
    rfl
  cases n with
  | empty =>
    cases k with
    | zero => rfl
    | succ k =>
      obtain ⟨o, kind, ho, hopener⟩ := h.empty
      exact hbracket k o _ rfl ho hopener
  | group before kind opener mid closer =>
    obtain ⟨i, j, hk, -, ht, -, -⟩ := h.group hn
    exact hbracket j closer _ hk ht hn.2.2.2
  | token before t =>
    obtain ⟨j, rfl, ht, hbefore⟩ := h.token
    rw [callAt, Checked.look_eq ht, Checked.ok_bind, callAt?, chainEnding?]
    cases t.name? with
    | none => rfl
    | some name =>
      by_cases hcontrol : controlWords.contains name = true
      · simp only [if_pos hcontrol]
        rfl
      · obtain ⟨start, hat, hchain⟩ := chain_eq [name] hn.1 hbefore ht (Nat.lt_succ_self j)
        obtain ⟨first, hfirst, hposition⟩ := hat.first
        simp only [if_neg hcontrol, hchain, Checked.ok_bind, declares_eq hat hafter,
          Checked.look_eq (hp (j + 1) close hinside.pairs).1]
        split
        · rfl
        · rw [arguments_eq hp hinside, Checked.ok_bind, Checked.look_eq hfirst, Checked.ok_bind,
            hposition]
          rfl

/-! ### The outline -/

/-- What a token changes, by the bracket that it is. -/
theorem buildFrom_cons (i : Nat) (scope : ScopeId) (around : List ScopeId) (o : Outline) (t : Token)
    (rest : List Token) : buildFrom flavor ts partners i (scope :: around) o (t :: rest)
      = match t.bracket? with
        | some (.opening .curly) => do
          let guarded ← guards flavor ts partners i
          buildFrom flavor ts partners (i + 1) (o.nextScope :: scope :: around)
            (o.addScope (if guarded then .guarded else .block) scope) rest
        | some (.closing .curly) =>
          buildFrom flavor ts partners (i + 1)
            (if 1 < (scope :: around).length then around else scope :: around) o rest
        | some (.opening .round) => do
          let call? ← callAt flavor ts partners scope i
          buildFrom flavor ts partners (i + 1) (scope :: around) (call?.elim o o.addCall) rest
        | _ => buildFrom flavor ts partners (i + 1) (scope :: around) o rest := by
  have hopen : t.bracket? = some (.opening .curly) ↔ t.isSign '\x7b' = true :=
    Token.bracket?_eq_opening
  have hclose : t.bracket? = some (.closing .curly) ↔ t.isSign '\x7d' = true :=
    Token.bracket?_eq_closing
  have hround : t.bracket? = some (.opening .round) ↔ t.isSign '(' = true :=
    Token.bracket?_eq_opening
  rw [buildFrom]
  simp only [← hopen, ← hclose, ← hround]
  rcases t.bracket? with _ | (_ | _ | _) | (_ | _ | _) <;> rfl

/-- What is left of a text behind a group in it. -/
theorem drop_group (front inner rest : List Token) (opener closer : Token) :
    (front ++ opener :: (inner ++ closer :: rest)).drop (front.length + inner.length + 1 + 1)
      = rest := by
  have hsplit : front ++ opener :: (inner ++ closer :: rest)
      = front ++ opener :: (inner ++ [closer]) ++ rest := by simp
  have hlength : (front ++ opener :: (inner ++ [closer])).length
      = front.length + inner.length + 1 + 1 := by
    simp only [List.length_append, List.length_cons, List.length_nil]
    omega
  rw [hsplit, ← hlength, List.drop_left]

/-- Along the tokens of a nesting the outline gets what the nesting adds to it. -/
theorem buildFrom_eq (hp : Matched ts partners) {outside rest after : List Token}
    (hn : n.IsProper) (hts : ts = outside ++ (n.tokens ++ rest))
    (hout : outside = [] ∨ ∃ front o kind, outside = front ++ [o] ∧
      Token.bracket? o = some (.opening kind))
    (hafter : Shows after rest) (scope : ScopeId) (around : List ScopeId) (o : Outline) :
    buildFrom flavor ts partners outside.length (scope :: around) o (n.tokens ++ rest)
      = buildFrom flavor ts partners (outside.length + n.tokens.length) (scope :: around)
          (addNesting flavor scope o after n) rest := by
  induction n generalizing outside rest after scope around o with
  | empty => rfl
  | token before t ih =>
    have hsplit : (Nesting.token before t).tokens ++ rest = before.tokens ++ t :: rest := by
      simp [Nesting.tokens]
    rw [hsplit] at hts ⊢
    rw [ih hn.1 hts hout (hafter.cons t), buildFrom_cons, hn.2]
    simp [Nesting.tokens, addNesting, Nat.add_assoc]
  | group before kind opener inner closer ihb ihi =>
    obtain ⟨hb, hopener, hi, hcloser⟩ := hn
    have hsplit : (Nesting.group before kind opener inner closer).tokens ++ rest
        = before.tokens ++ opener :: (inner.tokens ++ closer :: rest) := by
      simp [Nesting.tokens]
    have hshow : Shows [opener] (opener :: (inner.tokens ++ closer :: rest)) :=
      ⟨_, rfl, .inr (.inr ⟨[], opener, kind, rfl, hopener⟩)⟩
    rw [hsplit] at hts ⊢
    rw [ihb hb hts hout hshow]
    -- what is before the group, and what is inside, by the number of its opening bracket
    obtain ⟨i, hnumber⟩ : ∃ i, i = outside.length + before.tokens.length := ⟨_, rfl⟩
    rw [← List.append_assoc] at hts
    have hlength : (outside ++ before.tokens).length = i := by rw [hnumber, List.length_append]
    have hends : EndsAt ts before i := ⟨outside, _, hts, hout, hnumber.symm⟩
    have hinside : Inside ts i (i + inner.tokens.length + 1) kind inner :=
      ⟨hi, outside ++ before.tokens, rest, opener, closer, hts, hlength, rfl, hopener, hcloser⟩
    have hinner : ∀ scope around o, buildFrom flavor ts partners (i + 1) (scope :: around) o
          (inner.tokens ++ closer :: rest)
        = buildFrom flavor ts partners (i + 1 + inner.tokens.length) (scope :: around)
            (addNesting flavor scope o [] inner) (closer :: rest) := by
      intro scope around o
      have hts' : ts
          = outside ++ before.tokens ++ [opener] ++ (inner.tokens ++ closer :: rest) := by
        rw [hts]
        simp
      have hshow : Shows [] (closer :: rest) :=
        ⟨_, rfl, .inr (.inl ⟨closer, rest, kind, rfl, hcloser⟩)⟩
      have hbuilt := ihi hi hts' (.inr ⟨outside ++ before.tokens, opener, kind, rfl, hopener⟩) hshow
        scope around o
      rwa [List.length_append, List.length_singleton, hlength] at hbuilt
    have hcount : i + 1 + inner.tokens.length + 1
        = outside.length + (Nesting.group before kind opener inner closer).tokens.length := by
      simp only [Nesting.tokens, List.length_append, List.length_cons, List.length_nil]
      omega
    rw [← hnumber, buildFrom_cons, hopener]
    cases kind with
    | square =>
      show buildFrom flavor ts partners (i + 1) (scope :: around) _ _ = _
      rw [hinner, buildFrom_cons, hcloser, hcount]
      rfl
    | curly =>
      simp only [guards_eq hp hb hends, Checked.ok_bind]
      rw [hinner, buildFrom_cons, hcloser, hcount]
      rfl
    | round =>
      have hrest : Shows after (ts.drop (i + inner.tokens.length + 1 + 1)) := by
        rwa [hts, ← hlength, drop_group]
      simp only [callAt_eq hp hb hends hinside hrest, Checked.ok_bind]
      rw [hinner, buildFrom_cons, hcloser, hcount, addNesting]
      cases callAt? flavor before inner after scope <;> rfl

/-- **The outline of a nesting** is the same by number. -/
theorem build_eq (hp : Matched n.tokens partners) (hn : n.IsProper) :
    build flavor n.tokens partners = .ok (ofNesting flavor n) := by
  have hts : n.tokens = [] ++ (n.tokens ++ []) := by simp
  have hshow : Shows [] [] := ⟨[], rfl, .inl rfl⟩
  have hbuild : buildFrom flavor n.tokens partners 0 [fileScope] {} (n.tokens ++ []) = _ :=
    buildFrom_eq hp hn hts (.inl rfl) hshow fileScope [] {}
  rw [List.append_nil] at hbuild
  exact hbuild

end ByNumber

/-! ### Whole texts -/

/-- The outline of a text, every step checked. -/
def checkedOutline (flavor : Flavor) (source : List Char) : Checked Outline := do
  let ts ← Descent.tokens flavor (source.length + 2) ⟨.origin, source⟩
  let partners ← Matching.ofTokens ts
  ByNumber.build flavor ts partners

theorem matched_partners (hn : n.IsProper) : Matched n.tokens n.partners :=
  fun _ _ h => partners_of_pairs hn h

theorem matched_of_ofTokens (h : Matching.ofTokens ts = .ok partners) : Matched ts partners := by
  rw [Matching.ofTokens_eq] at h
  cases hn : Nesting.ofTokens ts with
  | error e =>
    rw [hn] at h
    cases h
  | ok n =>
    rw [hn] at h
    cases h
    obtain ⟨hproper, rfl⟩ := ofTokens_eq_ok_iff.1 hn
    exact matched_partners hproper

/-- Every pair of brackets has its nesting between them. -/
theorem exists_inside {i j : Nat} (h : Pairs ts i j) :
    ∃ kind n, Inside ts i j kind n := by
  obtain ⟨kind, before, inner, after, opener, closer, hts, hi, hj, hopener, hinner, hcloser⟩ := h
  obtain ⟨n, hn, rfl⟩ := balanced_iff.1 hinner
  exact ⟨kind, n, hn, before, after, opener, closer, hts, hi, hj, hopener, hcloser⟩

/-- A text is read without a fault. -/
structure Faultless (flavor : Flavor) (source : String) : Prop where
  /-- With every step checked the text has its outline, or is refused as it is without the checks:
  no count goes below zero, no item is asked for that is not there, and there are no more calls than
  characters. -/
  outline : checkedOutline flavor source.toList
    = Checked.refusing (Scan.tokenOutline flavor source)
  /-- A call for a comment gets ahead in the text. -/
  comment_ahead : ∀ depth here text next,
    Descent.blockComment depth here text = .ok next → (Cursor.mk here text).Ahead next
  /-- A call for a literal gets ahead in the text. -/
  literal_ahead : ∀ raw calls cur content next,
    Descent.literal flavor raw calls cur = .ok (content, next) → cur.Ahead next
  /-- A call for the rest of an interpolation gets ahead in the text. -/
  hole_ahead : ∀ calls depth cur next,
    Descent.hole flavor calls depth cur = .ok next → cur.Ahead next
  /-- The segments between two brackets are inside them and not empty. -/
  segments : ∀ ts partners, Lexer.tokens flavor source.toList = .ok ts →
    Matching.ofTokens ts = .ok partners → ∀ i j, Pairs ts i j →
      ∃ found, ByNumber.segments ts partners i j = .ok found ∧
        ∀ segment ∈ found, i < segment.1 ∧ segment.1 < segment.2 ∧ segment.2 ≤ j

/-- **Every text is read without a fault**, in Dart and in Kotlin. -/
theorem faultless (flavor : Flavor) (source : String) : Faultless flavor source where
  outline := by
    rw [checkedOutline, Descent.tokens_eq, Scan.tokenOutline]
    cases Lexer.tokens flavor source.toList with
    | error e => rfl
    | ok ts =>
      rw [Checked.refusing, Checked.ok_bind, Matching.ofTokens_eq]
      show _ = Checked.refusing (Nesting.ofTokens ts >>= fun n => _)
      cases hn : Nesting.ofTokens ts with
      | error e => rfl
      | ok n =>
        obtain ⟨hproper, rfl⟩ := ofTokens_eq_ok_iff.1 hn
        exact ByNumber.build_eq (matched_partners hproper) hproper
  comment_ahead := Descent.ahead_blockComment
  literal_ahead := fun raw calls => (Descent.ahead flavor calls).1 raw
  hole_ahead := fun calls => (Descent.ahead flavor calls).2.2
  segments := by
    intro ts partners _ hpartners i j hpair
    obtain ⟨kind, n, hinside⟩ := exists_inside hpair
    obtain ⟨found, hfound, hall⟩ := ByNumber.segments_eq (matched_of_ofTokens hpartners) hinside
    refine ⟨found, hfound, fun segment hmem => ?_⟩
    obtain ⟨piece, hsegment⟩ := Segment.exists_of_forall₂ hall hmem
    exact ⟨hsegment.after_opening, hsegment.lies.lt hsegment.nonempty, hsegment.before_closing⟩

end SdkAudit
