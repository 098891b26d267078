import SdkAudit.Proofs.Source.Elsewhere

/-!
# Where tokens end

Some tokens end with their last character, others only when the next character shows that they do
not go on.  Either way, where a token ends the lexer may start afresh: what it was in the middle of
is complete, and what follows is read as at the start of a text.  So something that is no token can
be put there without a change to any other token.

* `Mode.floor`, `Mode.Begun` — where tokens can end, and where they have begun;
* `Mode.step_cases` — **what a character can do**;
* `Mode.floor_le_stop` — no token ends before the place where the lexer is;
* `Mode.Settles` — the lexer may start afresh;
* `Mode.settles_of_stop` — **it may where a token ends**;
* `Filler` — white space, or a comment between two spaces;
* `Mode.Settles.read_filler` — **filler is read over**, where a token ends;
* `EndsToken.read_insert` — so it can be put there without a change to any token.
-/

namespace SdkAudit

variable {flavor : Flavor} {m : Mode} {p here : Place} {c : Char} {x text : List Char} {k : Nat}

namespace Literal

theorem bodyStep_ne_closedBefore (l l' : Literal) (style : Quoting) :
    l.bodyStep style c ≠ .closedBefore l' := by
  unfold bodyStep
  split_ifs <;> simp

theorem holeStep_ne_closedBefore (l l' : Literal) : l.holeStep c ≠ .closedBefore l' := by
  unfold holeStep
  split
  · simp
  split
  · simp
  · split_ifs <;> simp

/-- A literal goes on as the literal that was started. -/
theorem start_of_step_more {l l' : Literal} (h : l.step flavor c = .more l') :
    l'.start = l.start := by
  have hsame := l.step_startedAt l.start flavor c
  rw [show l.startedAt l.start = l from rfl, h] at hsame
  have hstarted : LiteralStep.more l' = .more (l'.startedAt l.start) := hsame
  exact (congrArg Literal.start (LiteralStep.more.inj hstarted) :)

theorem start_of_step_closed {l l' : Literal} (h : l.step flavor c = .closed l') :
    l'.start = l.start := by
  have hsame := l.step_startedAt l.start flavor c
  rw [show l.startedAt l.start = l from rfl, h] at hsame
  have hstarted : LiteralStep.closed l' = .closed (l'.startedAt l.start) := hsame
  exact (congrArg Literal.start (LiteralStep.closed.inj hstarted) :)

theorem start_of_holeStep_more {l l' : Literal} (h : l.holeStep c = .more l') :
    l'.start = l.start := by
  have hsame := l.holeStep_startedAt l.start c
  rw [show l.startedAt l.start = l from rfl, h] at hsame
  have hstarted : LiteralStep.more l' = .more (l'.startedAt l.start) := hsame
  exact (congrArg Literal.start (LiteralStep.more.inj hstarted) :)

/-- Only an empty literal is closed before a character. -/
theorem step_eq_closedBefore {l l' : Literal} (h : l.step flavor c = .closedBefore l') :
    l' = l ∧ ∃ quote raw, l.phase = .opening quote raw true ∧ c ≠ quote := by
  unfold step at h
  split at h
  case h_1 =>
    split at h
    · cases h
    · exact (bodyStep_ne_closedBefore _ _ _ h).elim
  case h_2 quote raw hphase =>
    split at h
    case isTrue => cases h
    case isFalse hc =>
      cases h
      exact ⟨rfl, quote, raw, hphase, hc⟩
  case h_3 => exact (bodyStep_ne_closedBefore _ _ _ h).elim
  case h_4 => cases h
  case h_5 =>
    split at h
    · cases h
    · exact (bodyStep_ne_closedBefore _ _ _ h).elim
  case h_6 =>
    split at h
    · cases h
    · exact (bodyStep_ne_closedBefore _ _ _ h).elim
  case h_7 =>
    split at h
    · cases h
    · exact (bodyStep_ne_closedBefore _ _ _ h).elim
  case h_8 => exact (holeStep_ne_closedBefore _ _ h).elim

end Literal

namespace Mode

/-! ### How early a token can end -/

/-- No token that is completed from here on ends before this offset. -/
def floor (here : Place) : Mode → Nat
  | .numberPoint _ point => point.offset
  | _ => here.offset

/-- After a character at `here`, no token ends before this offset. -/
def Late (low : Nat) (here : Place) (c : Char) (r : Mode × List Token) : Prop :=
  (∀ t ∈ r.2, low ≤ t.stop) ∧ low ≤ r.1.floor (here.after c) ∧
    r.1.floor (here.after c) ≤ here.offset + 1

theorem Late.mono {low low' : Nat} {r : Mode × List Token} (h : Late low here c r)
    (hlow : low' ≤ low) : Late low' here c r :=
  ⟨fun t ht => hlow.trans (h.1 t ht), hlow.trans h.2.1, h.2.2⟩

/-- No token was completed, and none will be with what has been read. -/
theorem late_more (h : m.floor (here.after c) = here.offset + 1) :
    Late (here.offset + 1) here c (m, []) :=
  ⟨by simp, h.ge, h.le⟩

theorem late_fresh (flavor : Flavor) (here : Place) (c : Char) :
    Late (here.offset + 1) here c (fresh flavor here c) := by
  unfold fresh
  split_ifs
  · exact late_more rfl
  · exact late_more rfl
  · exact late_more rfl
  · exact late_more rfl
  · exact late_more rfl
  · exact late_more rfl
  · refine ⟨?_, le_rfl, le_rfl⟩
    intro t ht
    rw [List.mem_singleton.1 ht]
    exact le_rfl

theorem late_completedBefore {low : Nat} {done : List Token} (hdone : ∀ t ∈ done, low ≤ t.stop)
    (hlow : low ≤ here.offset + 1) : Late low here c (completedBefore flavor here c done) := by
  obtain ⟨hmore, hfloor, hle⟩ := late_fresh flavor here c
  refine ⟨?_, hlow.trans hfloor, hle⟩
  intro t ht
  rcases List.mem_append.1 ht with ht | ht
  · exact hdone t ht
  · exact hlow.trans (hmore t ht)

/-! ### Where a token can have begun -/

/-- A token that is being read starts at this offset. -/
def Begun (k : Nat) : Mode → Prop
  | .slash start | .name start _ | .backQuoted start _ | .number start => start.offset = k
  | .numberPoint start point => start.offset = k ∨ point.offset = k
  | .literal l => l.start.offset = k
  | .blank | .lineComment | .blockComment .. | .refused _ => False

/-- No token starts at this offset, among those that were completed and the one being read. -/
def Spares (k : Nat) (r : Mode × List Token) : Prop := (∀ t ∈ r.2, t.start ≠ k) ∧ ¬ r.1.Begun k

theorem spares_more (h : ¬ m.Begun k) : Spares k (m, []) := ⟨by simp, h⟩

/-- The character at `here` goes with what is being read, or is passed over: no token ends before
it, and none starts but those that were begun. -/
structure Passes (m : Mode) (here : Place) (c : Char) (r : Mode × List Token) : Prop where
  late : Late (here.offset + 1) here c r
  spares : ∀ k, ¬ m.Begun k → Spares k r

theorem passes_more {next : Mode} (hfloor : next.floor (here.after c) = here.offset + 1)
    (hbegun : ∀ k, next.Begun k → m.Begun k) : m.Passes here c (next, []) :=
  ⟨late_more hfloor, fun k hk => spares_more fun hnext => hk (hbegun k hnext)⟩

/-- The last character of a token. -/
theorem passes_last {t : Token} (hstop : t.stop = here.offset + 1) (hbegun : m.Begun t.start) :
    m.Passes here c (.blank, [t]) where
  late := by
    refine ⟨?_, le_rfl, le_rfl⟩
    intro u hu
    rw [List.mem_singleton.1 hu, hstop]
  spares := by
    refine fun k hk => ⟨?_, id⟩
    intro u hu heq
    rw [List.mem_singleton.1 hu] at heq
    exact hk (heq ▸ hbegun)

theorem passes_leaveLiteral {l l' : Literal} (hstart : l'.start = l.start) :
    (Mode.literal l).Passes here c (leaveLiteral l' (here.offset + 1)) := by
  unfold leaveLiteral
  split
  · exact passes_last rfl (congrArg Place.offset hstart.symm)
  · exact passes_more rfl fun k hk => (congrArg Place.offset hstart.symm).trans hk

/-! ### What a character can do -/

/-- In a literal, a character completes an empty literal before it, or goes with the literal. -/
theorem literalStep_cases (flavor : Flavor) (l : Literal) (here : Place) (c : Char) :
    (Mode.literal l).finish here = .ok [literalToken l here.offset] ∧
        literalStep flavor here c l = completedBefore flavor here c [literalToken l here.offset] ∨
      (Mode.literal l).Passes here c (literalStep flavor here c l) := by
  unfold literalStep
  split
  case h_1 l' hstep =>
    have hstart := Literal.start_of_step_more hstep
    exact .inr (passes_more rfl fun k hk => (congrArg Place.offset hstart.symm).trans hk)
  case h_2 => exact .inr (passes_leaveLiteral (Literal.start_of_step_closed ‹_›))
  case h_3 => exact .inr (passes_more rfl fun _ => False.elim)
  case h_4 l' hstep =>
    obtain ⟨rfl, quote, raw, hphase, -⟩ := Literal.step_eq_closedBefore hstep
    split
    case h_1 houter => exact .inl ⟨by simp [Mode.finish, hphase, houter], rfl⟩
    case h_2 =>
      split
      case h_1 l'' hhole =>
        have hstart : l''.start = l'.start :=
          Literal.start_of_holeStep_more (l := l'.enter .hole) hhole
        exact .inr (passes_more rfl fun k hk => (congrArg Place.offset hstart.symm).trans hk)
      case h_2 => exact .inr (passes_more rfl fun _ => False.elim)

/-- **What a character can do**: it completes what the end of the text would complete, or goes with
what is being read, or it is a point behind a number. -/
theorem step_cases (flavor : Flavor) (m : Mode) (here : Place) (c : Char) :
    (m ≠ .lineComment ∧ ∃ done, m.finish here = .ok done ∧
        m.step flavor here c = completedBefore flavor here c done) ∨
      m.Passes here c (m.step flavor here c) ∨
      (∃ start, m = .number start ∧ c = '.' ∧
        m.step flavor here c = (.numberPoint start here, [])) := by
  cases m with
  | blank => exact .inl ⟨by simp, [], rfl, rfl⟩
  | slash start =>
    rw [step]
    split_ifs
    · exact .inr (.inl (passes_more rfl fun _ => False.elim))
    · exact .inr (.inl (passes_more rfl fun _ => False.elim))
    · exact .inl ⟨by simp, _, rfl, rfl⟩
  | lineComment =>
    rw [step]
    split_ifs
    · exact .inr (.inl (passes_more rfl fun _ => False.elim))
    · exact .inr (.inl (passes_more rfl fun _ => False.elim))
  | blockComment start depth last =>
    refine .inr (.inl ?_)
    cases depth with
    | zero =>
      rw [step]
      split_ifs <;> exact passes_more rfl fun _ => False.elim
    | succ depth =>
      rw [step]
      split_ifs <;> exact passes_more rfl fun _ => False.elim
  | name start text =>
    rw [step]
    split_ifs
    · exact .inr (.inl (passes_more rfl fun _ => id))
    · exact .inr (.inl (passes_more rfl fun _ => id))
    · exact .inl ⟨by simp, _, rfl, rfl⟩
  | backQuoted start text =>
    refine .inr (.inl ?_)
    rw [step]
    split_ifs
    · exact passes_last rfl rfl
    · exact passes_more rfl fun _ => False.elim
    · exact passes_more rfl fun _ => id
  | number start =>
    rw [step]
    split_ifs with hpart hpoint
    · exact .inr (.inl (passes_more rfl fun _ => id))
    · exact .inr (.inr ⟨start, rfl, hpoint, rfl⟩)
    · exact .inl ⟨by simp, _, rfl, rfl⟩
  | numberPoint start point =>
    rw [step]
    split_ifs
    · exact .inr (.inl (passes_more rfl fun _ => .inl))
    · exact .inl ⟨by simp, _, rfl, rfl⟩
  | literal l =>
    rw [step]
    rcases literalStep_cases flavor l here c with ⟨hfinish, hstep⟩ | h
    · exact .inl ⟨by simp, _, hfinish, hstep⟩
    · exact .inr (.inl h)
  | refused e => exact .inr (.inl (passes_more rfl fun _ => False.elim))

theorem floor_le_stop_of_finish {ts : List Token} (hm : m.floor here ≤ here.offset)
    (h : m.finish here = .ok ts) {t : Token} (ht : t ∈ ts) : m.floor here ≤ t.stop := by
  cases m with
  | blank | lineComment =>
    cases h
    simp at ht
  | slash | name | number =>
    cases h
    rw [List.mem_singleton.1 ht]
    exact hm
  | numberPoint start point =>
    cases h
    rcases List.mem_cons.1 ht with rfl | ht
    · exact le_rfl
    · rw [List.mem_singleton.1 ht]
      exact hm
  | literal l =>
    rw [finish] at h
    split at h
    · cases h
      rw [List.mem_singleton.1 ht]
      exact hm
    · cases h
  | blockComment | backQuoted | refused => cases h

theorem late_step (flavor : Flavor) (hm : m.floor here ≤ here.offset) (c : Char) :
    Late (m.floor here) here c (m.step flavor here c) := by
  rcases step_cases flavor m here c with
    ⟨-, done, hfinish, hstep⟩ | h | ⟨start, rfl, rfl, hstep⟩
  · rw [hstep]
    exact late_completedBefore (fun t ht => floor_le_stop_of_finish hm hfinish ht) (by omega)
  · exact h.late.mono (by omega)
  · rw [hstep]
    exact ⟨by simp, le_rfl, Nat.le_succ _⟩

/-- No token ends before the place where the lexer is. -/
theorem floor_le_stop (hm : m.floor here ≤ here.offset) {t : Token}
    (ht : t ∈ (m.read flavor here text).tokens) : m.floor here ≤ t.stop := by
  induction text generalizing m here with
  | nil =>
    rw [read_nil] at ht
    cases h : m.finish here with
    | error e => simp [h, Reading.ofFinish] at ht
    | ok ts =>
      rw [h] at ht
      exact floor_le_stop_of_finish hm h ht
  | cons c text ih =>
    obtain ⟨hdone, hlow, hle⟩ := late_step flavor hm c
    rw [read_cons] at ht
    rcases List.mem_append.1 ht with ht | ht
    · exact hdone t ht
    · exact hlow.trans (ih hle ht)

theorem Late.lt_stop {low : Nat} (h : Late low here c (m.step flavor here c)) {t : Token}
    (ht : t ∈ (m.read flavor here (c :: text)).tokens) : low ≤ t.stop := by
  rw [read_cons] at ht
  rcases List.mem_append.1 ht with ht | ht
  · exact h.1 t ht
  · exact h.2.1.trans (floor_le_stop h.2.2 ht)

/-! ### Starting afresh -/

/-- What the lexer is in the middle of is complete, and what follows is read as between tokens. -/
def Settles (flavor : Flavor) (here : Place) (m : Mode) (done : List Token) (text : List Char) :
    Prop :=
  m ≠ .lineComment ∧ m.finish here = .ok done ∧
    m.read flavor here text = (Mode.blank.read flavor here text).behind done

theorem settles_nil {done : List Token} (hm : m ≠ .lineComment) (h : m.finish here = .ok done) :
    m.Settles flavor here done [] := by
  refine ⟨hm, h, ?_⟩
  rw [read_nil, h, read_nil]
  simp [Reading.ofFinish, Mode.finish, Reading.behind]

theorem settles_completedBefore {done : List Token} (hm : m ≠ .lineComment)
    (h : m.finish here = .ok done)
    (hstep : m.step flavor here c = completedBefore flavor here c done) :
    m.Settles flavor here done (c :: text) := by
  refine ⟨hm, h, ?_⟩
  rw [read_cons, hstep, read_cons]
  exact Reading.behind_append _ _ _

theorem fresh_point :
    fresh flavor here '.' = (.blank, [here.token (.sign '.') (here.offset + 1)]) := by
  have hblank : Text.isBlank '.' = false := by decide
  have hname : isNameStart '.' = false := by decide
  simp [fresh, hblank, hname]

/-- A point behind a number is kept back until the next character. -/
theorem step_number_point (start : Place) :
    (Mode.number start).step flavor here '.' = (.numberPoint start here, []) := by
  have hpart : isNumberPart '.' = false := by decide
  simp [step, hpart]

/-- A number goes on behind its point with a digit. -/
theorem read_number_point {start : Place} (hc : c.isDigit = true) :
    (Mode.number start).read flavor here ('.' :: c :: text)
      = (Mode.number start).read flavor ((here.after '.').after c) text := by
  have hnumber : (Mode.numberPoint start here).step flavor (here.after '.') c
      = (.number start, []) := by
    simp [step, hc]
  rw [read_cons, step_number_point, Reading.behind_nil, read_cons, hnumber, Reading.behind_nil]

/-- A point that does not go on with a number is read as between tokens. -/
theorem settles_point_of_not_isDigit {start : Place}
    (h : ∀ d rest, text = d :: rest → d.isDigit = false) :
    (Mode.number start).Settles flavor here [start.token .number here.offset] ('.' :: text) := by
  have hblank : Mode.blank.step flavor here '.'
      = (.blank, [here.token (.sign '.') (here.offset + 1)]) := fresh_point
  refine ⟨by simp, rfl, ?_⟩
  rw [read_cons, step_number_point, Reading.behind_nil, read_cons, hblank, ← Reading.behind_append]
  cases text with
  | nil => simp [read_nil, Mode.finish, Reading.ofFinish, Reading.behind]
  | cons d text =>
    have hdone : (Mode.numberPoint start here).step flavor (here.after '.') d
        = completedBefore flavor (here.after '.') d
            [start.token .number here.offset, here.token (.sign '.') (here.offset + 1)] := by
      simp [step, h d text rfl]
    rw [read_cons, hdone, read_cons]
    exact Reading.behind_append _ _ _

/-- Where a token ends, a point is read as between tokens. -/
theorem settles_point {start : Place} {t : Token}
    (ht : t ∈ ((Mode.number start).read flavor here ('.' :: text)).tokens)
    (hstop : t.stop = here.offset) :
    (Mode.number start).Settles flavor here [start.token .number here.offset] ('.' :: text) := by
  refine settles_point_of_not_isDigit fun d rest htext => Bool.eq_false_iff.2 fun hd => ?_
  -- the number would go on, so no token would end at the point
  rw [htext, read_number_point hd] at ht
  have hlate := floor_le_stop (le_refl _) ht
  simp only [floor, Place.offset_after] at hlate
  omega

/-- **Where a token ends, the lexer may start afresh.** -/
theorem settles_of_stop (hm : m.floor here ≤ here.offset) {t : Token}
    (ht : t ∈ (m.read flavor here text).tokens) (hstop : t.stop = here.offset) :
    ∃ done, m.Settles flavor here done text := by
  cases text with
  | nil =>
    rw [read_nil] at ht
    cases h : m.finish here with
    | error e => simp [h, Reading.ofFinish] at ht
    | ok ts =>
      refine ⟨ts, settles_nil ?_ h⟩
      rintro rfl
      cases h
      simp [Mode.finish, Reading.ofFinish] at ht
  | cons c text =>
    rcases step_cases flavor m here c with
      ⟨hm, done, hfinish, hstep⟩ | h | ⟨start, rfl, rfl, hstep⟩
    · exact ⟨done, settles_completedBefore hm hfinish hstep⟩
    · have := h.late.lt_stop ht
      omega
    · exact ⟨_, settles_point ht hstop⟩

end Mode

/-! ### Filler -/

/-- The character belongs to no name and no number, and starts nothing but itself. -/
def Separates (c : Char) : Bool :=
  !isNamePart c && !isNumberPart c && !c.isDigit && !List.contains ['/', '*', '"', '\'', '.'] c

theorem separates_of_isBlank (h : Text.isBlank c = true) : Separates c = true := by
  have hall : ∀ range ∈ Text.blankRanges, ∀ code ∈ List.range' range.1 (range.2 + 1 - range.1),
      Separates (Char.ofNat code) = true := by
    decide +kernel
  obtain ⟨range, hrange, hlo, hhi⟩ := Text.CodeRanges.covers_iff.1 h
  have := hall range hrange c.toNat (by rw [List.mem_range'_1]; omega)
  rwa [Char.ofNat_toNat] at this

/-- White space, or a comment between two spaces. -/
inductive Filler : List Char → Prop
  | white {w : List Char} : (∀ c ∈ w, Text.isBlank c = true) → Filler w
  | comment {body : List Char} : (∀ c ∈ body, c ≠ '/' ∧ c ≠ '*') →
      Filler (' ' :: '/' :: '*' :: (body ++ ['*', '/', ' ']))

namespace Mode

theorem completedBefore_of_isBlank (flavor : Flavor) (here : Place) (h : Text.isBlank c = true)
    (done : List Token) :
    completedBefore flavor here c done = (.blank, done) := by
  simp [completedBefore, fresh, h]

/-- White space completes what the end of the text would complete. -/
theorem step_of_isBlank (hp : m.Pending p x) (hm : m ≠ .lineComment) {done : List Token}
    (hdone : m.finish (p.along x) = .ok done) (hc : Text.isBlank c = true) :
    m.step flavor (p.along x) c = (.blank, done) := by
  have hsep := separates_of_isBlank hc
  simp only [Separates, Bool.and_eq_true, Bool.not_eq_true', List.contains_eq_mem,
    decide_eq_false_iff_not, List.mem_cons, List.not_mem_nil, or_false, not_or] at hsep
  obtain ⟨⟨⟨hname, hnumber⟩, hdigit⟩, hslash, hstar, hdouble, hquote, hpoint⟩ := hsep
  have hcompleted := completedBefore_of_isBlank flavor (p.along x) hc done
  cases hp with
  | blank =>
    cases hdone
    exact hcompleted
  | slash =>
    cases hdone
    rw [step, if_neg hslash, if_neg hstar]
    exact hcompleted
  | lineComment => exact absurd rfl hm
  | name =>
    cases hdone
    rw [step, if_neg (by simp [hname]), if_neg (by simp [hdouble, hquote])]
    exact hcompleted
  | number =>
    cases hdone
    rw [step, if_neg (by simp [hnumber]), if_neg hpoint]
    exact hcompleted
  | numberPoint =>
    cases hdone
    rw [step, if_neg (by simp [hdigit])]
    exact hcompleted
  | @literal _ gap body l _ _ hl =>
    rw [Mode.finish] at hdone
    split at hdone
    case h_1 quote raw hphase houter =>
      cases hdone
      have hne : c ≠ quote := by
        rw [Literal.QuotesKnown, hphase] at hl
        rcases hl with rfl | rfl
        · exact hdouble
        · exact hquote
      have hclosed : l.step flavor c = .closedBefore l := by
        simp [Literal.step, hphase, hne]
      simp only [step, literalStep, hclosed, houter]
      exact hcompleted
    case h_2 => cases hdone
  | blockComment | backQuoted | refused => cases hdone

theorem read_white {w : List Char} (hw : ∀ c ∈ w, Text.isBlank c = true) :
    Mode.blank.read flavor here (w ++ text) = Mode.blank.read flavor (here.along w) text := by
  induction w generalizing here with
  | nil => rfl
  | cons c w ih =>
    have hstep : Mode.blank.step flavor here c = (.blank, []) := by
      simp [step, fresh, hw c (by simp)]
    rw [List.cons_append, read_cons, hstep, Reading.behind_nil, ih fun d hd => hw d (by simp [hd])]
    rfl

theorem read_commentBody {body : List Char} (hbody : ∀ c ∈ body, c ≠ '/' ∧ c ≠ '*')
    {start : Place} :
    (Mode.blockComment start 0 .neither).read flavor here (body ++ '*' :: '/' :: text)
      = Mode.blank.read flavor (here.along (body ++ ['*', '/'])) text := by
  induction body generalizing here with
  | nil => rfl
  | cons c body ih =>
    obtain ⟨hslash, hstar⟩ := hbody c (by simp)
    have hstep : (Mode.blockComment start 0 .neither).step flavor here c
        = (.blockComment start 0 .neither, []) := by
      simp [step, CommentSign.of, hslash, hstar]
    rw [List.cons_append, read_cons, hstep, Reading.behind_nil,
      ih fun d hd => hbody d (by simp [hd])]
    rfl

/-- **Filler is read over**, where a token ends. -/
theorem Settles.read_filler {done : List Token} (h : m.Settles flavor (p.along x) done text)
    (hp : m.Pending p x) {w : List Char} (hw : Filler w) :
    m.read flavor (p.along x) (w ++ text)
      = (Mode.blank.read flavor ((p.along x).along w) text).behind done := by
  obtain ⟨hm, hfinish, hread⟩ := h
  cases hw with
  | white hw =>
    cases w with
    | nil => exact hread
    | cons c w =>
      rw [List.cons_append, read_cons, step_of_isBlank hp hm hfinish (hw c (by simp)),
        read_white fun d hd => hw d (by simp [hd])]
      rfl
  | @comment body hbody =>
    have hspace : Text.isBlank ' ' = true := by decide
    have hslash : Mode.blank.step flavor ((p.along x).after ' ') '/'
        = (.slash ((p.along x).after ' '), []) := by
      have : Text.isBlank '/' = false := by decide
      simp [step, fresh, this]
    have hsplit : ' ' :: '/' :: '*' :: (body ++ ['*', '/', ' ']) ++ text
        = ' ' :: '/' :: '*' :: (body ++ '*' :: '/' :: ([' '] ++ text)) := by
      simp
    rw [hsplit, read_cons, step_of_isBlank hp hm hfinish hspace, read_cons, hslash, read_cons]
    show Reading.behind done ((Mode.blockComment _ 0 .neither).read flavor _ _) = _
    rw [read_commentBody hbody, read_white (by simpa using hspace)]
    simp

end Mode

/-! ### Inserting filler -/

/-- A token of the text that these two make up ends where the first of them ends. -/
def EndsToken (flavor : Flavor) (text more : List Char) : Prop :=
  ∃ t ∈ (Mode.blank.read flavor .origin (text ++ more)).tokens, t.stop = text.length

theorem Mode.Pending.floor_le (h : m.Pending p x) : m.floor (p.along x) ≤ (p.along x).offset := by
  cases h with
  | numberPoint =>
    simp only [floor, Place.offset_along, List.length_append]
    omega
  | _ => exact le_rfl

/-- Where nothing has been read of a token, the lexer is between tokens. -/
theorem Mode.Pending.eq_blank (h : m.Pending p x) (hx : x = []) : m = .blank := by
  cases h with
  | blank => rfl
  | slash | backQuoted | numberPoint => simp at hx
  | lineComment hne | blockComment hne | refused hne => exact absurd hx hne
  | name hne | number hne | literal hne _ _ => simp [hne] at hx

/-- Where a token ends, the text is read up to there and then afresh. -/
theorem EndsToken.exists_settles {more : List Char} (h : EndsToken flavor text more) :
    ∃ m out done p x, Place.origin.along text = p.along x ∧ Mode.Pending m p x ∧
      m.Settles flavor (p.along x) done more ∧
      ∀ rest, Mode.blank.read flavor .origin (text ++ rest)
        = (m.read flavor (p.along x) rest).behind out := by
  obtain ⟨t, ht, hstop⟩ := h
  have hblank : Mode.Pending .blank .origin [] := .blank
  obtain ⟨⟨m, out⟩, ⟨x₁, x₂, hx, hlaid, hpending⟩, hread⟩ := hblank.read_append flavor text
  rw [List.nil_append] at hx hread
  subst hx
  rw [Place.along_append] at hread
  have hstart : ∀ rest, Mode.blank.read flavor .origin (x₁ ++ x₂ ++ rest)
      = (m.read flavor ((Place.origin.along x₁).along x₂) rest).behind out := hread
  rw [hstart] at ht
  have hsettles : ∃ done, m.Settles flavor ((Place.origin.along x₁).along x₂) done more := by
    rcases List.mem_append.1 ht with ht | ht
    · -- a token that was complete before leaves nothing to be read of another one
      have hle := hlaid.stop_le ht
      rw [hstop, List.length_append] at hle
      have hnil : x₂ = [] := List.length_eq_zero_iff.1 (by simp only [Place.origin] at hle; omega)
      obtain rfl := hpending.eq_blank hnil
      exact ⟨[], by simp, rfl, (Reading.behind_nil _).symm⟩
    · refine Mode.settles_of_stop hpending.floor_le ht ?_
      rw [hstop, ← Place.along_append, Place.offset_along, Place.origin, Nat.zero_add]
  obtain ⟨done, hsettles⟩ := hsettles
  exact ⟨m, out, done, Place.origin.along x₁, x₂, Place.along_append .., hpending, hsettles, hstart⟩

/-- **Filler where a token ends** changes no token but for its place. -/
theorem EndsToken.read_insert {more w : List Char} (h : EndsToken flavor text more)
    (hw : Filler w) :
    Reading.Alike (Mode.blank.read flavor .origin (text ++ w ++ more))
      (Mode.blank.read flavor .origin (text ++ more)) := by
  obtain ⟨m, out, done, p, x, -, hpending, hsettles, hread⟩ := h.exists_settles
  have hblank : Mode.blank.forget = Mode.blank.forget := rfl
  obtain ⟨htokens, hrefusal⟩ :=
    Mode.read_alike flavor hblank ((p.along x).along w) (p.along x) more
  rw [List.append_assoc, hread, hread, hsettles.read_filler hpending hw, hsettles.2.2]
  refine ⟨?_, hrefusal⟩
  simp only [Reading.behind, List.map_append, htokens]

end SdkAudit
