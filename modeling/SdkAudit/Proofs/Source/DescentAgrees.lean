import SdkAudit.Proofs.Source.Descent

/-!
# The lexer reads as by descent

The lexer decides later than the descent: where the descent looks ahead to the second quote or to a
brace, the lexer goes to a mode for having read the sign.  This module says what these modes come
to, and from it that both read the same.

* `Literal.left` — what is read after a literal;
* `Mode.read_opening`, `Mode.read_closing`, `Mode.read_dollar` — **a mode for having read a sign
  is a look ahead**;
* `Descent.agrees` — **literals and interpolations are read as by descent**.
-/

namespace SdkAudit

variable {flavor : Flavor} {here : Place} {c quote : Char} {raw : Bool} {style : Quoting}
  {text : List Char} {l l' : Literal}

/-- What is read after a literal that ends here. -/
def Literal.left (flavor : Flavor) (l : Literal) (here : Place) (text : List Char) : Reading :=
  ((Mode.leaveLiteral l here.offset).1.read flavor here text).behind
    (Mode.leaveLiteral l here.offset).2

/-- The literal with another text, unless it stands inside an interpolation. -/
def Literal.holding (l : Literal) (content : List Char) : Literal :=
  if l.outer.isEmpty then { l with content } else l

namespace Literal

theorem left_enter (phase : LiteralPhase) : (l.enter phase).left flavor here text
    = l.left flavor here text := by
  obtain ⟨start, content, _, outer⟩ := l
  cases outer <;> rfl

theorem left_holding_enter (phase : LiteralPhase) (content : List Char) :
    ((l.enter phase).holding content).left flavor here text
      = (l.holding content).left flavor here text := by
  obtain ⟨start, _, _, outer⟩ := l
  cases outer <;> rfl

theorem left_holding_push (style : Quoting) (c : Char) (content : List Char) :
    ((l.push style c).holding content).left flavor here text
      = (l.holding content).left flavor here text := by
  obtain ⟨start, _, _, outer⟩ := l
  cases outer <;> rfl

theorem left_holding_self {content : List Char} (h : l.outer = [] → l.content = content) :
    (l.holding content).left flavor here text = l.left flavor here text := by
  obtain ⟨start, held, phase, outer⟩ := l
  cases outer with
  | nil =>
    obtain rfl : held = content := h rfl
    rfl
  | cons => rfl

theorem left_of_outer (h : l.outer ≠ []) :
    l.left flavor here text = (Mode.literal (l.enter .hole)).read flavor here text := by
  obtain ⟨start, content, phase, outer⟩ := l
  cases outer with
  | nil => exact absurd rfl h
  | cons => rfl

/-- What is pushed is added to the text, unless the literal stands inside an interpolation. -/
theorem content_push {content : List Char} (h : l.outer = [] → l.content = content) (c : Char)
    (houter : (l.push style c).outer = []) : (l.push style c).content = c :: content := by
  have hempty : l.outer = [] := houter
  simp [push, hempty, h hempty]

theorem holeStep_eq_more (l : Literal) (c : Char) : ∃ l', l.holeStep c = .more l' := by
  unfold holeStep
  split
  · exact ⟨_, rfl⟩
  split
  · exact ⟨_, rfl⟩
  · split_ifs <;> exact ⟨_, rfl⟩

end Literal

namespace Mode

/-! ### One character of a literal -/

theorem read_more (h : l.step flavor c = .more l') : (Mode.literal l).read flavor here (c :: text)
    = (Mode.literal l').read flavor (here.after c) text := by
  have hstep : (Mode.literal l).step flavor here c = (.literal l', []) := by
    simp only [step, literalStep, h]
  rw [read_cons, hstep, Reading.behind_nil]

theorem read_closed (h : l.step flavor c = .closed l') :
    (Mode.literal l).read flavor here (c :: text) = l'.left flavor (here.after c) text := by
  have hstep : (Mode.literal l).step flavor here c = leaveLiteral l' (here.offset + 1) := by
    simp only [step, literalStep, h]
  rw [read_cons, hstep]
  rfl

theorem refusal_refused (e : SourceError) :
    ((Mode.refused e).read flavor here text).refusal? = some e := by
  induction text generalizing here with
  | nil => rfl
  | cons d text ih => exact ih

theorem refusal_broken (h : l.step flavor c = .broken) :
    ((Mode.literal l).read flavor here (c :: text)).refusal?.isSome = true := by
  have hstep : (Mode.literal l).step flavor here c
      = (.refused (.unterminatedString l.start.position), []) := by
    simp only [step, literalStep, h]
  rw [read_cons, hstep]
  show ((Mode.refused _).read flavor _ text).refusal?.isSome = true
  rw [refusal_refused]
  rfl

theorem read_eq_of_step (hnil : (Mode.literal l).finish here = (Mode.literal l').finish here)
    (hcons : ∀ c rest, text = c :: rest → l.step flavor c = l'.step flavor c)
    (hstart : l.start = l'.start) :
    (Mode.literal l).read flavor here text = (Mode.literal l').read flavor here text := by
  cases text with
  | nil => rw [read_nil, hnil, read_nil]
  | cons c text =>
    have hstep : (Mode.literal l).step flavor here c = (Mode.literal l').step flavor here c := by
      simp only [step, literalStep, hcons c text rfl, hstart]
    rw [read_cons, hstep, read_cons]

/-! ### Signs that are looked at later -/

/-- Two quotes without a third are a literal. -/
theorem read_empty (hl : l.phase = .opening quote raw true) (hnext : text.head? ≠ some quote) :
    (Mode.literal l).read flavor here text = l.left flavor here text := by
  cases text with
  | nil =>
    obtain ⟨start, content, phase, outer⟩ := l
    subst hl
    cases outer <;> rfl
  | cons c text =>
    have hc : c ≠ quote := by simpa using hnext
    have hclosed : l.step flavor c = .closedBefore l := by
      simp [Literal.step, hl, hc]
    cases houter : l.outer with
    | nil =>
      have hstep : (Mode.literal l).step flavor here c
          = completedBefore flavor here c [literalToken l here.offset] := by
        simp only [step, literalStep, hclosed, houter]
      rw [read_cons, hstep, Literal.left, leaveLiteral, houter]
      exact Reading.behind_append _ _ _
    | cons style outer =>
      obtain ⟨l', hhole⟩ := (l.enter .hole).holeStep_eq_more c
      have hstep : (Mode.literal l).step flavor here c = (.literal l', []) := by
        simp only [step, literalStep, hclosed, houter, hhole]
      have hmore : (l.enter .hole).step flavor c = .more l' := hhole
      rw [read_cons, hstep, Reading.behind_nil, Literal.left_of_outer (by simp [houter]),
        read_more hmore]

/-- **An opening quote looks ahead for two more.** -/
theorem read_opening (hl : l.phase = .opening quote raw false) (hquote : quote ≠ '\\') :
    (Mode.literal l).read flavor here text =
      if text.take 2 = [quote, quote] then
        (Mode.literal (l.enter (.body (.tripled flavor quote raw)))).read flavor
          (here.along [quote, quote]) (text.drop 2)
      else (Mode.literal (l.enter (.body (.single quote raw)))).read flavor here text := by
  by_cases hfirst : ∃ rest, text = quote :: rest
  · obtain ⟨rest, rfl⟩ := hfirst
    have htwo : l.step flavor quote = .more (l.enter (.opening quote raw true)) := by
      simp [Literal.step, hl]
    rw [read_more htwo]
    by_cases hsecond : rest.head? = some quote
    · obtain ⟨rest, rfl⟩ := List.head?_eq_some_iff.1 hsecond
      have hthree : (l.enter (.opening quote raw true)).step flavor quote
          = .more (l.enter (.body (.tripled flavor quote raw))) := by
        simp [Literal.step, Literal.enter]
      have htake : (quote :: quote :: rest).take 2 = [quote, quote] := rfl
      rw [read_more hthree, if_pos htake]
      rfl
    · have htake : (quote :: rest).take 2 ≠ [quote, quote] := by
        intro h
        cases rest <;> simp at h hsecond
        exact hsecond h
      have hclosed : (l.enter (.body (.single quote raw))).step flavor quote
          = .closed (l.enter (.body (.single quote raw))) := by
        simp [Literal.step, Literal.enter, Literal.bodyStep, Quoting.single, hquote]
      rw [read_empty rfl hsecond, if_neg htake, read_closed hclosed, Literal.left_enter,
        Literal.left_enter]
  · have htake : text.take 2 ≠ [quote, quote] := by
      intro h
      rcases text with _ | ⟨d, rest⟩ <;> simp at h hfirst
      exact hfirst h.1
    rw [if_neg htake]
    refine read_eq_of_step ?_ ?_ rfl
    · simp [Mode.finish, hl, Literal.enter]
    · intro d rest htext
      have hd : d ≠ quote := fun heq => hfirst ⟨rest, heq ▸ htext⟩
      simp only [Literal.step, hl, Literal.enter, if_neg hd]
      simp [Literal.bodyStep, Quoting.single, hd, Literal.enter, Literal.push]

/-- The second of three closing quotes looks ahead for the third. -/
theorem read_closing_two (hl : l.phase = .closing style true) :
    (Mode.literal l).read flavor here text =
      if text.head? = some style.quote then
        l.left flavor (here.after style.quote) text.tail
      else (Mode.literal ((l.push style style.quote).push style style.quote)).read flavor here
        text := by
  by_cases hnext : text.head? = some style.quote
  · obtain ⟨rest, rfl⟩ := List.head?_eq_some_iff.1 hnext
    have hclosed : l.step flavor style.quote = .closed l := by
      simp [Literal.step, hl]
    rw [if_pos hnext, read_closed hclosed]
    rfl
  · rw [if_neg hnext]
    refine read_eq_of_step ?_ ?_ rfl
    · simp [Mode.finish, hl, Literal.push]
    · intro d rest htext
      have hd : d ≠ style.quote := by simpa [htext] using hnext
      simp only [Literal.step, hl, if_neg hd]
      rfl

/-- **A closing quote looks ahead for two more.** -/
theorem read_closing (hl : l.phase = .closing style false) (htriple : style.triple = true)
    (hquote : style.quote ≠ '\\') :
    (Mode.literal l).read flavor here text =
      if text.take 2 = [style.quote, style.quote] then
        l.left flavor (here.along [style.quote, style.quote]) (text.drop 2)
      else (Mode.literal (l.push style style.quote)).read flavor here text := by
  by_cases hfirst : ∃ rest, text = style.quote :: rest
  · obtain ⟨rest, rfl⟩ := hfirst
    have hsecond : l.step flavor style.quote = .more (l.enter (.closing style true)) := by
      simp [Literal.step, hl]
    rw [read_more hsecond, read_closing_two rfl]
    by_cases hthird : rest.head? = some style.quote
    · obtain ⟨rest, rfl⟩ := List.head?_eq_some_iff.1 hthird
      have htake : (style.quote :: style.quote :: rest).take 2 = [style.quote, style.quote] := rfl
      rw [if_pos hthird, if_pos htake, Literal.left_enter]
      rfl
    · have htake : (style.quote :: rest).take 2 ≠ [style.quote, style.quote] := by
        intro h
        cases rest <;> simp at h hthird
        exact hthird h
      have hagain : (l.push style style.quote).step flavor style.quote
          = .more ((l.push style style.quote).enter (.closing style false)) := by
        simp [Literal.step, Literal.push, Literal.bodyStep, hquote, htriple]
      -- the quote that was read is text, and the next one may again be the first of three
      rw [if_neg hthird, if_neg htake, read_more hagain]
      refine read_eq_of_step ?_ ?_ rfl
      · simp [Mode.finish, Literal.push, Literal.enter]
      · intro d rest' hrest
        have hd : d ≠ style.quote := by simpa [hrest] using hthird
        simp only [Literal.step, Literal.enter, if_neg hd]
        rfl
  · have htake : text.take 2 ≠ [style.quote, style.quote] := by
      intro h
      rcases text with _ | ⟨d, rest⟩ <;> simp at h hfirst
      exact hfirst h.1
    rw [if_neg htake]
    refine read_eq_of_step ?_ ?_ rfl
    · simp [Mode.finish, hl, Literal.push]
    · intro d rest htext
      have hd : d ≠ style.quote := fun heq => hfirst ⟨rest, heq ▸ htext⟩
      simp only [Literal.step, hl, if_neg hd]
      rfl

/-- **A dollar sign looks ahead for a brace.** -/
theorem read_dollar (hl : l.phase = .dollar style) : (Mode.literal l).read flavor here text =
    if text.head? = some '\x7b' then
      (Mode.literal { l with outer := (style, 0) :: l.outer, phase := .hole }).read flavor
        (here.after '\x7b') text.tail
    else (Mode.literal (l.push style '$')).read flavor here text := by
  by_cases hnext : text.head? = some '\x7b'
  · obtain ⟨rest, rfl⟩ := List.head?_eq_some_iff.1 hnext
    have hopen : l.step flavor '\x7b'
        = .more { l with outer := (style, 0) :: l.outer, phase := .hole } := by
      simp [Literal.step, hl]
    rw [if_pos hnext, read_more hopen]
    rfl
  · rw [if_neg hnext]
    refine read_eq_of_step ?_ ?_ rfl
    · simp [Mode.finish, hl, Literal.push]
    · intro d rest htext
      have hd : d ≠ '\x7b' := by simpa [htext] using hnext
      simp only [Literal.step, hl, if_neg hd]
      rfl

end Mode

/-- What the lexer reads is what a checked reading leads to, or both refuse the text. -/
def Reading.Follows {α : Type} (r : Reading) (checked : Checked α) (after : α → Reading) : Prop :=
  match checked with
  | .ok a => r = after a
  | .error halt => halt = .refused ∧ r.refusal?.isSome = true

theorem Reading.Follows.bind {α β : Type} {r : Reading} {checked : Checked α} {f : α → Reading}
    {next : α → Checked β} {g : β → Reading} (h : r.Follows checked f)
    (hnext : ∀ a, checked = .ok a → (f a).Follows (next a) g) :
    r.Follows (checked >>= next) g := by
  cases checked with
  | error halt => exact h
  | ok a =>
    obtain rfl : r = f a := h
    exact hnext a rfl

theorem Reading.Follows.congr {α : Type} {r : Reading} {checked : Checked α} {f g : α → Reading}
    (h : r.Follows checked f) (hfg : ∀ a, f a = g a) : r.Follows checked g :=
  (funext hfg : f = g) ▸ h

namespace Descent

/-- Literals, the rest of them and the rest of interpolations are read as with this many calls. -/
structure Agrees (flavor : Flavor) (calls : Nat) : Prop where
  literal : ∀ (l : Literal) (here : Place) (quote : Char) (rest : List Char) (raw : Bool),
    l.phase = .opening quote raw false → quote ≠ '\\' → (l.outer = [] → l.content = []) →
    rest.length + 1 < calls →
    ((Mode.literal l).read flavor (here.after quote) rest).Follows
      (Descent.literal flavor raw calls ⟨here, quote :: rest⟩)
      fun (content, next) => (l.holding content).left flavor next.here next.rest
  body : ∀ (l : Literal) (style : Quoting) (content : List Char) (cur : Cursor),
    l.phase = .body style → style.quote ≠ '\\' → (l.outer = [] → l.content = content) →
    cur.rest.length < calls →
    ((Mode.literal l).read flavor cur.here cur.rest).Follows
      (Descent.body flavor style calls content cur)
      fun (content, next) => (l.holding content).left flavor next.here next.rest
  hole : ∀ (l : Literal) (style : Quoting) (depth : Nat) (outer : List (Quoting × Nat))
      (cur : Cursor),
    l.phase = .hole → l.outer = (style, depth) :: outer → cur.rest.length + 1 < calls →
    ((Mode.literal l).read flavor cur.here cur.rest).Follows
      (Descent.hole flavor calls (depth + 1) cur)
      fun next => (Mode.literal { l with outer, phase := .body style }).read flavor next.here
        next.rest

variable {calls : Nat}

theorem agrees_literal (ih : Agrees flavor calls) {l : Literal} {rest : List Char}
    (hl : l.phase = .opening quote raw false) (hquote : quote ≠ '\\')
    (hcontent : l.outer = [] → l.content = []) (hcalls : rest.length + 1 < calls + 1) :
    ((Mode.literal l).read flavor (here.after quote) rest).Follows
      (literal flavor raw (calls + 1) ⟨here, quote :: rest⟩)
      fun (content, next) => (l.holding content).left flavor next.here next.rest := by
  rw [Mode.read_opening hl hquote, literal]
  split
  · have hbody := ih.body (l.enter (.body (.tripled flavor quote raw))) _ []
      ⟨here.along [quote, quote, quote], rest.drop 2⟩ rfl hquote hcontent
      (by simp only [List.length_drop]; omega)
    exact hbody.congr fun _ => Literal.left_holding_enter _ _
  · have hbody := ih.body (l.enter (.body (.single quote raw))) _ [] ⟨here.after quote, rest⟩ rfl
      hquote hcontent (by simpa using hcalls)
    exact hbody.congr fun _ => Literal.left_holding_enter _ _

theorem agrees_body (ih : Agrees flavor calls) {l : Literal} {content : List Char}
    (hl : l.phase = .body style) (hquote : style.quote ≠ '\\')
    (hcontent : l.outer = [] → l.content = content) (hcalls : text.length < calls + 1) :
    ((Mode.literal l).read flavor here text).Follows
      (body flavor style (calls + 1) content ⟨here, text⟩)
      fun (content, next) => (l.holding content).left flavor next.here next.rest := by
  cases text with
  | nil => exact ⟨rfl, by simp [Mode.read_nil, Mode.finish, hl, Reading.ofFinish]⟩
  | cons c text =>
    have hlength : text.length < calls := by simpa using hcalls
    have hstep : l.step flavor c = l.bodyStep style c := by simp only [Literal.step, hl]
    -- what is pushed is read on as the body of the literal
    have hpush : ((Mode.literal (l.push style c)).read flavor (here.after c) text).Follows
        (body flavor style calls (c :: content) ⟨here.after c, text⟩)
        fun (content, next) => (l.holding content).left flavor next.here next.rest :=
      (ih.body (l.push style c) style (c :: content) ⟨here.after c, text⟩ rfl hquote
        (Literal.content_push hcontent c) hlength).congr
        fun _ => Literal.left_holding_push _ _ _
    rw [body]
    by_cases hescape : style.escapes ∧ c = '\\'
    · rw [if_pos hescape]
      have hmore : l.step flavor c = .more (l.enter (.escape style)) := by
        rw [hstep, Literal.bodyStep, if_pos hescape]
      rw [Mode.read_more hmore]
      cases text with
      | nil =>
        obtain ⟨calls, rfl⟩ : ∃ n, calls = n + 1 := ⟨calls - 1, by simp at hlength; omega⟩
        exact ⟨rfl, rfl⟩
      | cons d text =>
        have hescaped : (l.enter (.escape style)).step flavor d = .more (l.push style d) := rfl
        rw [Mode.read_more hescaped]
        exact (ih.body (l.push style d) style (d :: content) ⟨(here.after c).after d, text⟩ rfl
          hquote (Literal.content_push hcontent d) (by simp at hlength ⊢; omega)).congr
          fun _ => Literal.left_holding_push _ _ _
    rw [if_neg hescape]
    by_cases hclose : c = style.quote
    · rw [if_pos hclose]
      by_cases htriple : style.triple
      · have hmore : l.step flavor c = .more (l.enter (.closing style false)) := by
          rw [hstep, Literal.bodyStep, if_neg hescape, if_pos hclose, if_pos htriple]
        have hread : (Mode.literal (l.enter (.closing style false))).read flavor (here.after c) text
            = _ := Mode.read_closing rfl htriple hquote
        rw [← hclose] at hread
        have hnot : ¬ (!style.triple) = true := by simp [htriple]
        rw [Mode.read_more hmore, hread, if_neg hnot]
        by_cases htake : text.take 2 = [c, c]
        · rw [if_pos htake, if_pos htake, Literal.left_enter]
          exact (Literal.left_holding_self hcontent).symm
        · rw [if_neg htake, if_neg htake]
          exact hpush
      · have hclosed : l.step flavor c = .closed l := by
          rw [hstep, Literal.bodyStep, if_neg hescape, if_pos hclose, if_neg htriple]
        rw [Mode.read_closed hclosed, if_pos (by simpa using htriple)]
        exact (Literal.left_holding_self hcontent).symm
    rw [if_neg hclose]
    by_cases hline : c = '\n' ∧ !style.triple
    · have hbroken : l.step flavor c = .broken := by
        rw [hstep, Literal.bodyStep, if_neg hescape, if_neg hclose, if_pos hline]
      rw [if_pos hline]
      exact ⟨rfl, Mode.refusal_broken hbroken⟩
    rw [if_neg hline]
    by_cases hdollar : style.interpolates ∧ c = '$'
    · have hmore : l.step flavor c = .more (l.enter (.dollar style)) := by
        rw [hstep, Literal.bodyStep, if_neg hescape, if_neg hclose, if_neg hline, if_pos hdollar]
      rw [Mode.read_more hmore, Mode.read_dollar rfl]
      by_cases hopen : text.head? = some '\x7b'
      · rw [if_pos hopen, if_pos ⟨hdollar.1, hdollar.2, hopen⟩]
        have hhole := ih.hole { l with outer := (style, 0) :: l.outer, phase := .hole } style 0
          l.outer ⟨here.along [c, '\x7b'], text.tail⟩ rfl rfl ?_
        · refine hhole.bind fun next hnext => ?_
          have hahead := ((ahead flavor calls).2.2 _ _ _ hnext).length_lt
          have hsame : { l with outer := l.outer, phase := .body style } = l := by rw [← hl]
          rw [hsame]
          refine ih.body l style content next hl hquote hcontent ?_
          simp only [List.length_tail] at hahead
          omega
        · obtain ⟨rest, rfl⟩ := List.head?_eq_some_iff.1 hopen
          simpa using hlength
      · rw [if_neg hopen, if_neg fun h => hopen h.2.2, ← hdollar.2]
        exact hpush
    · have hmore : l.step flavor c = .more (l.push style c) := by
        rw [hstep, Literal.bodyStep, if_neg hescape, if_neg hclose, if_neg hline, if_neg hdollar]
      rw [Mode.read_more hmore, if_neg fun h => hdollar ⟨h.1, h.2.1⟩]
      exact hpush

theorem agrees_hole (ih : Agrees flavor calls) {l : Literal} {depth : Nat}
    {outer : List (Quoting × Nat)} (hl : l.phase = .hole)
    (houter : l.outer = (style, depth) :: outer) (hcalls : text.length + 1 < calls + 1) :
    ((Mode.literal l).read flavor here text).Follows
      (hole flavor (calls + 1) (depth + 1) ⟨here, text⟩)
      fun next => (Mode.literal { l with outer, phase := .body style }).read flavor next.here
        next.rest := by
  cases text with
  | nil => exact ⟨rfl, by simp [Mode.read_nil, Mode.finish, hl, Reading.ofFinish]⟩
  | cons c text =>
    have hlength : text.length + 1 < calls := by simpa using hcalls
    have hstep : l.step flavor c = l.holeStep c := by simp only [Literal.step, hl]
    rw [hole]
    by_cases hquote : c = '"' ∨ c = '\''
    · have hmore : l.step flavor c = .more (l.enter (.opening c false false)) := by
        rw [hstep, Literal.holeStep, if_pos hquote]
      have hne : c ≠ '\\' := by rcases hquote with rfl | rfl <;> decide
      rw [Mode.read_more hmore, if_pos hquote]
      refine (ih.literal (l.enter (.opening c false false)) here c text false rfl hne ?_
        hlength).bind fun read hnext => ?_
      · intro hempty
        rw [Literal.enter, houter] at hempty
        cases hempty
      · obtain ⟨content, next⟩ := read
        have hahead := ((ahead flavor calls).1 _ _ _ _ hnext).length_lt
        have hleft : ((l.enter (.opening c false false)).holding content).left flavor next.here
            next.rest = (Mode.literal l).read flavor next.here next.rest := by
          rw [Literal.left_holding_enter, Literal.holding, if_neg (by simp [houter]),
            Literal.left_of_outer (by simp [houter])]
          have hsame : l.enter .hole = l := by rw [Literal.enter, ← hl]
          rw [hsame]
        show Reading.Follows (Literal.left flavor _ _ _) _ _
        rw [hleft]
        refine ih.hole l style depth outer next hl houter ?_
        simp only [List.length_cons] at hahead
        omega
    rw [if_neg hquote]
    by_cases hopen : c = '\x7b'
    · have hmore : l.step flavor c = .more { l with outer := (style, depth + 1) :: outer } := by
        rw [hstep, Literal.holeStep, if_neg hquote, houter]
        exact if_pos hopen
      rw [Mode.read_more hmore, if_pos hopen]
      exact ih.hole { l with outer := (style, depth + 1) :: outer } style (depth + 1) outer
        ⟨here.after c, text⟩ hl rfl hlength
    rw [if_neg hopen]
    by_cases hclose : c = '\x7d'
    · rw [if_pos hclose, Checked.lower_succ, Checked.ok_bind]
      cases depth with
      | zero =>
        have hmore : l.step flavor c = .more { l with outer, phase := .body style } := by
          rw [hstep, Literal.holeStep, if_neg hquote, houter]
          simp [hclose]
        rw [Mode.read_more hmore]
        rfl
      | succ depth =>
        have hmore : l.step flavor c = .more { l with outer := (style, depth) :: outer } := by
          rw [hstep, Literal.holeStep, if_neg hquote, houter]
          simp [hclose]
        rw [Mode.read_more hmore, if_neg (Nat.succ_ne_zero depth)]
        exact ih.hole { l with outer := (style, depth) :: outer } style depth outer
          ⟨here.after c, text⟩ hl rfl hlength
    · have hmore : l.step flavor c = .more l := by
        rw [hstep, Literal.holeStep, if_neg hquote, houter]
        simp [hopen, hclose]
      rw [Mode.read_more hmore, if_neg hclose]
      exact ih.hole l style depth outer ⟨here.after c, text⟩ hl houter hlength

/-- **Literals and interpolations are read as by descent.** -/
theorem agrees (flavor : Flavor) (calls : Nat) : Agrees flavor calls := by
  induction calls with
  | zero =>
    refine ⟨?_, ?_, ?_⟩
    · intro _ _ _ _ _ _ _ _ hcalls
      omega
    · intro _ _ _ _ _ _ _ hcalls
      omega
    · intro _ _ _ _ _ _ _ hcalls
      omega
  | succ calls ih =>
    exact ⟨fun _ _ _ _ _ => agrees_literal ih, fun _ _ _ _ => agrees_body ih,
      fun _ _ _ _ _ => agrees_hole ih⟩

end Descent

end SdkAudit
