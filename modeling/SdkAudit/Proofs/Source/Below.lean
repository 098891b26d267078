import SdkAudit.Proofs.Outline.Relocation
import SdkAudit.Proofs.Source.TokenEnds

/-!
# Texts one behind the other

A text behind other text is read as at the start of a file, only further on, and at the start of a
line only further down.  And a text that has tokens keeps them when a line feed and more text
follow: the line feed completes what the end of the text would complete.

* `Relocation.behind`, `Relocation.down` — from the start of a file to a place in it, and to the
  start of a line;
* `Mode.step_shift` — a character does the same further on;
* `Mode.read_behind` — **a text is read the same behind other text**;
* `Mode.read_line` — **a text keeps its tokens** when a line feed follows it;
* `Lexer.tokens_line` — **the tokens of texts one below the other**.
-/

namespace SdkAudit

variable {flavor : Flavor} {move : Position → Position} {lines chars : Nat}

/-! ### Places further on -/

/-- To other positions, so many characters further on. -/
def Relocation.shift (move : Position → Position) (chars : Nat) : Relocation where
  position := move
  start i := i + chars
  stop i := i + chars

/-- From the start of a text to the start of a line with so many lines and characters before it. -/
def Relocation.down (lines chars : Nat) : Relocation where
  position p := ⟨p.line + lines, p.column⟩
  start i := i + chars
  stop i := i + chars

/-- Where a position of a text is when the text starts at another position.  Only its first line is
on the line of that one. -/
def Position.behind (p q : Position) : Position :=
  if q.line = 0 then ⟨p.line, p.column + q.column⟩ else ⟨p.line + q.line, q.column⟩

/-- From the start of a text to a place. -/
def Relocation.behind (p : Place) : Relocation := .shift p.position.behind p.offset

def Place.relocate (r : Relocation) (p : Place) : Place := ⟨r.position p.position, r.start p.offset⟩

theorem Position.behind_after (p q : Position) (c : Char) :
    p.behind (q.after c) = (p.behind q).after c := by
  by_cases hc : c = '\n'
  · by_cases hline : q.line = 0
    · simp [Position.after, Position.behind, hc, hline]
    · simp [Position.after, Position.behind, hc, hline, Nat.add_assoc]
  · by_cases hline : q.line = 0
    · simp [Position.after, Position.behind, hc, hline, Nat.add_assoc]
    · simp [Position.after, Position.behind, hc, hline]

theorem Place.relocate_after (hmove : ∀ p c, move (p.after c) = (move p).after c) (p : Place)
    (c : Char) : (p.after c).relocate (.shift move chars)
      = (p.relocate (.shift move chars)).after c := by
  have hoffset : p.offset + 1 + chars = p.offset + chars + 1 := Nat.add_right_comm ..
  exact Place.mk.injEq .. ▸ ⟨hmove p.position c, hoffset⟩

/-- Every place is the start of a text, further on. -/
theorem Place.eq_relocate_behind (p : Place) : p = Place.origin.relocate (.behind p) := by
  simp [Place.relocate, Relocation.behind, Relocation.shift, Position.behind, Place.origin,
    Position.origin]

/-- Behind a place on a new line is further down. -/
theorem Relocation.behind_of_column {p : Place} (h : p.position.column = 0) :
    Relocation.behind p = .down p.position.line p.offset := by
  have hposition : p.position.behind = fun q => ⟨q.line + p.position.line, q.column⟩ := by
    funext q
    unfold Position.behind
    split_ifs with hline
    · rw [h, hline, Nat.zero_add, Nat.zero_add]
    · rw [Nat.add_comm]
  rw [behind, hposition]
  rfl

/-- The line of a place along a text. -/
theorem Place.line_along (p : Place) (text : List Char) :
    (p.along text).position.line = p.position.line + text.count '\n' := by
  induction text generalizing p with
  | nil => rfl
  | cons c text ih =>
    rw [along_cons, ih, List.count_cons]
    by_cases hc : c = '\n'
    · simp only [Place.after, Position.after, hc, if_true, beq_self_eq_true]
      omega
    · simp [Place.after, Position.after, hc]

theorem Place.column_along_newline (p : Place) (text : List Char) :
    (p.along (text ++ ['\n'])).position.column = 0 := by
  rw [along_append]
  rfl

/-! ### What is read further down -/

def SourceError.relocate (r : Relocation) : SourceError → SourceError
  | .unterminatedString start => .unterminatedString (r.position start)
  | .unterminatedComment start => .unterminatedComment (r.position start)
  | .unbalanced bracket => .unbalanced (r.position bracket)

def Literal.relocate (r : Relocation) (l : Literal) : Literal := l.startedAt (l.start.relocate r)

def LiteralStep.relocate (r : Relocation) : LiteralStep → LiteralStep
  | .more l => .more (l.relocate r)
  | .closed l => .closed (l.relocate r)
  | .closedBefore l => .closedBefore (l.relocate r)
  | .broken => .broken

/-- What started at a place starts at that place somewhere else. -/
theorem LiteralStep.startedAt_relocate {r : Relocation} {s : LiteralStep} {p : Place}
    (h : s.startedAt p = s) : s.startedAt (p.relocate r) = s.relocate r := by
  have hsame : ∀ l : Literal, l.startedAt p = l → l.startedAt (p.relocate r) = l.relocate r := by
    intro l hl
    have hstart : p = l.start := congrArg Literal.start hl
    rw [hstart, Literal.relocate]
  cases s with
  | more l =>
    injection h with hl
    exact congrArg LiteralStep.more (hsame l hl)
  | closed l =>
    injection h with hl
    exact congrArg LiteralStep.closed (hsame l hl)
  | closedBefore l =>
    injection h with hl
    exact congrArg LiteralStep.closedBefore (hsame l hl)
  | broken => rfl

theorem Literal.step_relocate (r : Relocation) (l : Literal) (c : Char) :
    (l.relocate r).step flavor c = (l.step flavor c).relocate r := by
  rw [relocate, step_startedAt]
  exact LiteralStep.startedAt_relocate (l.step_startedAt l.start flavor c).symm

theorem Literal.holeStep_relocate (r : Relocation) (l : Literal) (c : Char) :
    (l.relocate r).holeStep c = (l.holeStep c).relocate r := by
  rw [relocate, holeStep_startedAt]
  exact LiteralStep.startedAt_relocate (l.holeStep_startedAt l.start c).symm

namespace Mode

def relocate (r : Relocation) : Mode → Mode
  | .blank => .blank
  | .slash start => .slash (start.relocate r)
  | .lineComment => .lineComment
  | .blockComment start depth last => .blockComment (start.relocate r) depth last
  | .name start text => .name (start.relocate r) text
  | .backQuoted start text => .backQuoted (start.relocate r) text
  | .number start => .number (start.relocate r)
  | .numberPoint start point => .numberPoint (start.relocate r) (point.relocate r)
  | .literal l => .literal (l.relocate r)
  | .refused e => .refused (e.relocate r)

def relocateStep (r : Relocation) (s : Mode × List Token) : Mode × List Token :=
  (s.1.relocate r, s.2.map (Token.relocate r))

theorem token_shift (start : Place) (lexeme : Lexeme) (stop : Nat) :
    (start.relocate (.shift move chars)).token lexeme (stop + chars)
      = (start.token lexeme stop).relocate (.shift move chars) := rfl

theorem offset_shift (p : Place) : (p.relocate (.shift move chars)).offset = p.offset + chars := rfl

theorem fresh_shift (here : Place) (c : Char) :
    fresh flavor (here.relocate (.shift move chars)) c
      = relocateStep (.shift move chars) (fresh flavor here c) := by
  unfold fresh
  split_ifs
  · rfl
  · rfl
  · rfl
  · rfl
  · rfl
  · rfl
  · rw [offset_shift, Nat.add_right_comm, token_shift]
    rfl

theorem completedBefore_shift (here : Place) (c : Char) (done : List Token) :
    completedBefore flavor (here.relocate (.shift move chars)) c
        (done.map (Token.relocate (.shift move chars)))
      = relocateStep (.shift move chars) (completedBefore flavor here c done) := by
  simp only [completedBefore, fresh_shift, relocateStep, List.map_append]

theorem leaveLiteral_shift (l : Literal) (stop : Nat) :
    leaveLiteral (l.relocate (.shift move chars)) (stop + chars)
      = relocateStep (.shift move chars) (leaveLiteral l stop) := by
  obtain ⟨start, content, phase, outer⟩ := l
  cases outer <;> rfl

theorem literalStep_shift (here : Place) (c : Char) (l : Literal) :
    literalStep flavor (here.relocate (.shift move chars)) c (l.relocate (.shift move chars))
      = relocateStep (.shift move chars) (literalStep flavor here c l) := by
  unfold literalStep
  rw [Literal.step_relocate]
  cases hstep : l.step flavor c with
  | more l' => rfl
  | closed l' =>
    rw [offset_shift, Nat.add_right_comm]
    exact leaveLiteral_shift l' _
  | broken => rfl
  | closedBefore l' =>
    obtain ⟨start, content, phase, outer⟩ := l'
    cases outer with
    | nil =>
      exact completedBefore_shift here c [literalToken ⟨start, content, phase, []⟩ here.offset]
    | cons style outer =>
      have hhole := Literal.holeStep_relocate (.shift move chars)
        (Literal.mk start content .hole (style :: outer)) c
      simp only [LiteralStep.relocate, Literal.relocate, Literal.startedAt, Literal.enter]
        at hhole ⊢
      rw [hhole]
      cases (Literal.mk start content .hole (style :: outer)).holeStep c <;> rfl

/-- **A character does the same further on.** -/
theorem step_shift (here : Place) (c : Char) (m : Mode) :
    (m.relocate (.shift move chars)).step flavor (here.relocate (.shift move chars)) c
      = relocateStep (.shift move chars) (m.step flavor here c) := by
  cases m with
  | blank => exact fresh_shift here c
  | slash start =>
    simp only [relocate, step]
    split_ifs
    · rfl
    · rfl
    · exact completedBefore_shift here c [start.token (.sign '/') here.offset]
  | lineComment =>
    simp only [relocate, step]
    split_ifs <;> rfl
  | blockComment start depth last =>
    cases depth <;> simp only [relocate, step] <;> split_ifs <;> rfl
  | name start text =>
    simp only [relocate, step]
    split_ifs
    · rfl
    · rfl
    · exact completedBefore_shift here c [nameToken start text here.offset]
  | backQuoted start text =>
    simp only [relocate, step]
    split_ifs
    · rw [offset_shift, Nat.add_right_comm]
      rfl
    · rfl
    · rfl
  | number start =>
    simp only [relocate, step]
    split_ifs
    · rfl
    · rfl
    · exact completedBefore_shift here c [start.token .number here.offset]
  | numberPoint start point =>
    simp only [relocate, step]
    split_ifs
    · rfl
    · exact completedBefore_shift here c
        [start.token .number point.offset, point.token (.sign '.') here.offset]
  | literal l => exact literalStep_shift here c l
  | refused e => cases e <;> rfl

end Mode

def Reading.relocate (r : Relocation) (q : Reading) : Reading :=
  ⟨q.tokens.map (Token.relocate r), q.refusal?.map (SourceError.relocate r)⟩

theorem Mode.finish_shift (here : Place) (m : Mode) :
    Reading.ofFinish ((m.relocate (.shift move chars)).finish (here.relocate (.shift move chars)))
      = (Reading.ofFinish (m.finish here)).relocate (.shift move chars) := by
  cases m with
  | literal l =>
    obtain ⟨start, content, phase, outer⟩ := l
    cases phase with
    | opening quote raw two => cases two <;> cases outer <;> rfl
    | _ => rfl
  | _ => rfl

theorem Mode.read_shift (hmove : ∀ p c, move (p.after c) = (move p).after c) (here : Place)
    (m : Mode) (text : List Char) :
    (m.relocate (.shift move chars)).read flavor (here.relocate (.shift move chars)) text
      = (m.read flavor here text).relocate (.shift move chars) := by
  induction text generalizing m here with
  | nil => exact m.finish_shift here
  | cons c text ih =>
    rw [read_cons, read_cons, step_shift, ← Place.relocate_after hmove]
    show Reading.behind _ ((Mode.relocate _ _).read flavor _ text) = _
    rw [ih]
    simp [relocateStep, Reading.behind, Reading.relocate]

/-- **A text is read the same behind other text.** -/
theorem Mode.read_behind (here : Place) (text : List Char) :
    Mode.blank.read flavor here text
      = (Mode.blank.read flavor .origin text).relocate (.behind here) := by
  have hread : Mode.blank.read flavor (Place.origin.relocate (.behind here)) text = _ :=
    Mode.read_shift here.position.behind_after .origin .blank text
  rwa [← Place.eq_relocate_behind] at hread

/-! ### Line by line -/

theorem Reading.result_eq_ok_iff {q : Reading} {ts : List Token} :
    q.result = .ok ts ↔ q = ⟨ts, none⟩ := by
  obtain ⟨tokens, refusal?⟩ := q
  cases refusal? <;> simp [result]

theorem Reading.result_eq_error_iff {q : Reading} {e : SourceError} :
    q.result = .error e ↔ q.refusal? = some e := by
  obtain ⟨tokens, refusal?⟩ := q
  cases refusal? <;> simp [result]

/-- A line feed completes what the end of the text would complete. -/
theorem Mode.Pending.step_newline {m : Mode} {p : Place} {x : List Char} (h : m.Pending p x)
    {done : List Token} (hdone : m.finish (p.along x) = .ok done) :
    m.step flavor (p.along x) '\n' = (.blank, done) := by
  have hblank : Text.isBlank '\n' = true := by decide
  by_cases hm : m = .lineComment
  · subst hm
    cases hdone
    rfl
  · exact step_of_isBlank h hm hdone hblank

/-- **A text keeps its tokens** when a line feed follows it, and what follows is read afresh. -/
theorem Mode.read_line {p : Place} {line : List Char} {ts : List Token}
    (h : (Mode.blank.read flavor p line).result = .ok ts) (rest : List Char) :
    Mode.blank.read flavor p (line ++ '\n' :: rest)
      = (Mode.blank.read flavor (p.along (line ++ ['\n'])) rest).behind ts := by
  have hblank : Mode.Pending .blank p [] := .blank
  obtain ⟨⟨m, out⟩, ⟨x₁, x₂, hx, -, hpending⟩, hread⟩ := hblank.read_append flavor line
  have hplace : p.along ([] ++ line) = (p.along x₁).along x₂ := by rw [hx, Place.along_append]
  have hend : Mode.blank.read flavor p line
      = (Reading.ofFinish (m.finish ((p.along x₁).along x₂))).behind out := by
    have := hread []
    rwa [List.append_nil, hplace] at this
  rw [hend, Reading.result_eq_ok_iff] at h
  cases hfinish : m.finish ((p.along x₁).along x₂) with
  | error e => simp [hfinish, Reading.ofFinish, Reading.behind] at h
  | ok done =>
    obtain rfl : out ++ done = ts := by
      simpa [hfinish, Reading.ofFinish, Reading.behind] using h
    have hnext := hread ('\n' :: rest)
    rw [hplace, read_cons, hpending.step_newline hfinish, ← Reading.behind_append,
      ← hplace] at hnext
    simpa using hnext

theorem Reading.result_behind {q : Reading} {done us : List Token} :
    (q.behind done).result = .ok us ↔ ∃ vs, q.result = .ok vs ∧ us = done ++ vs := by
  obtain ⟨tokens, refusal?⟩ := q
  cases refusal? <;> simp [result, behind, eq_comm]

theorem Reading.result_relocate {r : Relocation} {q : Reading} {us : List Token} :
    (q.relocate r).result = .ok us ↔ ∃ vs, q.result = .ok vs ∧ us = vs.map (Token.relocate r) := by
  obtain ⟨tokens, refusal?⟩ := q
  cases refusal? <;> simp [result, relocate, eq_comm]

/-- **The tokens of texts one below the other** are those of the first, and those of the second
further down. -/
theorem Lexer.tokens_line {line rest : List Char} {ts us : List Token}
    (h : Lexer.tokens flavor line = .ok ts) :
    Lexer.tokens flavor (line ++ '\n' :: rest) = .ok us ↔ ∃ vs, Lexer.tokens flavor rest = .ok vs ∧
      us = ts ++ vs.map (Token.relocate (.down (line.count '\n' + 1) (line.length + 1))) := by
  have hplace : ((Place.origin.along (line ++ ['\n'])).position.line,
      (Place.origin.along (line ++ ['\n'])).offset) = (line.count '\n' + 1, line.length + 1) := by
    rw [Place.line_along, Place.offset_along]
    simp [Place.origin, Position.origin]
  obtain ⟨hlines, hchars⟩ := Prod.mk.inj hplace
  rw [tokens_eq] at h
  rw [tokens_eq, tokens_eq, Mode.read_line h, Reading.result_behind,
    Mode.read_behind, Relocation.behind_of_column (Place.column_along_newline _ _), hlines, hchars]
  simp only [Reading.result_relocate]
  constructor
  · rintro ⟨_, ⟨vs, hvs, rfl⟩, rfl⟩
    exact ⟨vs, hvs, rfl⟩
  · rintro ⟨vs, hvs, rfl⟩
    exact ⟨_, ⟨vs, hvs, rfl⟩, rfl⟩

theorem Token.relocate_down_down (lines' chars' : Nat) (t : Token) :
    (t.relocate (.down lines chars)).relocate (.down lines' chars')
      = t.relocate (.down (lines + lines') (chars + chars')) := by
  simp [Token.relocate, Relocation.down, Nat.add_assoc]

end SdkAudit
