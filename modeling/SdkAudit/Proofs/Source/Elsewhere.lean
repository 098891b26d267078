import SdkAudit.Proofs.Source.Reading

/-!
# The same text elsewhere

What the lexer does with a text does not depend on where the text stands.  Places are only handed on
to the tokens and to the refusal.

* `Literal.step_startedAt` — what a literal makes of a character does not depend on its start;
* `Mode.forget` — a mode without its places;
* `Mode.step_alike`, `Mode.finish_alike_forget` — a character does the same everywhere;
* `Mode.read_alike` — **a text is read alike everywhere**.
-/

namespace SdkAudit

variable {flavor : Flavor}

/-! ### What is forgotten -/

/-- The refusal without its place. -/
def SourceError.forget : SourceError → SourceError
  | .unterminatedString _ => .unterminatedString .origin
  | .unterminatedComment _ => .unterminatedComment .origin
  | .unbalanced _ => .unbalanced .origin

def Literal.forget (l : Literal) : Literal := { l with start := .origin }

def LiteralStep.forget : LiteralStep → LiteralStep
  | .more l => .more l.forget
  | .closed l => .closed l.forget
  | .closedBefore l => .closedBefore l.forget
  | .broken => .broken

/-- The literal, started somewhere else. -/
def Literal.startedAt (l : Literal) (p : Place) : Literal := { l with start := p }

/-- What comes of a literal, started somewhere else. -/
def LiteralStep.startedAt (p : Place) : LiteralStep → LiteralStep
  | .more l => .more (l.startedAt p)
  | .closed l => .closed (l.startedAt p)
  | .closedBefore l => .closedBefore (l.startedAt p)
  | .broken => .broken

theorem LiteralStep.startedAt_origin (s : LiteralStep) : s.startedAt .origin = s.forget := by
  cases s <;> rfl

namespace Literal

variable (l : Literal) (p : Place)

theorem bodyStep_startedAt (style : Quoting) (c : Char) :
    (l.startedAt p).bodyStep style c = (l.bodyStep style c).startedAt p := by
  unfold bodyStep
  split_ifs <;> rfl

theorem holeStep_startedAt (c : Char) :
    (l.startedAt p).holeStep c = (l.holeStep c).startedAt p := by
  obtain ⟨start, content, phase, outer⟩ := l
  unfold holeStep
  cases outer with
  | nil =>
    simp only [startedAt]
    split <;> rfl
  | cons style outer =>
    simp only [startedAt]
    split_ifs <;> rfl

theorem step_startedAt (flavor : Flavor) (c : Char) :
    (l.startedAt p).step flavor c = (l.step flavor c).startedAt p := by
  obtain ⟨start, content, phase, outer⟩ := l
  cases phase with
  | opening quote raw two =>
    cases two with
    | false =>
      simp only [step, startedAt]
      split
      · rfl
      · exact (Literal.mk start content (.opening quote raw false) outer).bodyStep_startedAt p _ c
    | true =>
      simp only [step, startedAt]
      split <;> rfl
  | body style => exact bodyStep_startedAt _ _ _ _
  | escape style => rfl
  | dollar style =>
    simp only [step, startedAt]
    split
    · rfl
    · exact ((Literal.mk start content (.dollar style) outer).push style '$').bodyStep_startedAt p
        _ c
  | closing style two =>
    cases two with
    | false =>
      simp only [step, startedAt]
      split
      · rfl
      · exact ((Literal.mk start content (.closing style false) outer).push style
          style.quote).bodyStep_startedAt p _ c
    | true =>
      simp only [step, startedAt]
      split
      · rfl
      · exact (((Literal.mk start content (.closing style true) outer).push style
          style.quote).push style style.quote).bodyStep_startedAt p _ c
  | hole => exact holeStep_startedAt _ _ _

theorem holeStep_forget (c : Char) : l.forget.holeStep c = (l.holeStep c).forget := by
  rw [← LiteralStep.startedAt_origin]
  exact l.holeStep_startedAt .origin c

theorem step_forget (c : Char) : l.forget.step flavor c = (l.step flavor c).forget := by
  rw [← LiteralStep.startedAt_origin]
  exact l.step_startedAt .origin flavor c

end Literal

namespace Mode

def forget : Mode → Mode
  | .blank => .blank
  | .slash _ => .slash .origin
  | .lineComment => .lineComment
  | .blockComment _ depth last => .blockComment .origin depth last
  | .name _ text => .name .origin text
  | .backQuoted _ text => .backQuoted .origin text
  | .number _ => .number .origin
  | .numberPoint _ _ => .numberPoint .origin .origin
  | .literal l => .literal l.forget
  | .refused e => .refused e.forget

/-- The same has been done somewhere else. -/
def Alike (r r' : Mode × List Token) : Prop :=
  r.1.forget = r'.1.forget ∧ r.2.map Token.lexeme = r'.2.map Token.lexeme

theorem fresh_alike (flavor : Flavor) (here here' : Place) (c : Char) :
    Alike (fresh flavor here c) (fresh flavor here' c) := by
  unfold fresh
  split_ifs <;> exact ⟨rfl, rfl⟩

theorem completedBefore_alike {done done' : List Token}
    (h : done.map Token.lexeme = done'.map Token.lexeme) (flavor : Flavor) (here here' : Place)
    (c : Char) :
    Alike (completedBefore flavor here c done) (completedBefore flavor here' c done') := by
  obtain ⟨hmode, hmore⟩ := fresh_alike flavor here here' c
  refine ⟨hmode, ?_⟩
  simp only [completedBefore, List.map_append, h, hmore]

theorem leaveLiteral_alike (l : Literal) (stop stop' : Nat) :
    Alike (leaveLiteral l stop) (leaveLiteral l.forget stop') := by
  obtain ⟨start, content, phase, outer⟩ := l
  cases outer <;> exact ⟨rfl, rfl⟩

theorem literalStep_alike (flavor : Flavor) (here here' : Place) (c : Char) (l : Literal) :
    Alike (literalStep flavor here c l) (literalStep flavor here' c l.forget) := by
  unfold literalStep
  rw [Literal.step_forget]
  cases hstep : l.step flavor c with
  | more l' => exact ⟨rfl, rfl⟩
  | closed l' => exact leaveLiteral_alike l' _ _
  | broken => exact ⟨rfl, rfl⟩
  | closedBefore l' =>
    obtain ⟨start, content, phase, outer⟩ := l'
    cases outer with
    | nil => exact completedBefore_alike rfl flavor here here' c
    | cons style outer =>
      have hhole := Literal.holeStep_forget
        (Literal.mk start content .hole (style :: outer)) c
      simp only [LiteralStep.forget, Literal.forget, Literal.enter] at hhole ⊢
      rw [hhole]
      cases (Literal.mk start content .hole (style :: outer)).holeStep c <;> exact ⟨rfl, rfl⟩

theorem step_alike_forget (flavor : Flavor) (here here' : Place) (c : Char) (m : Mode) :
    Alike (m.step flavor here c) (m.forget.step flavor here' c) := by
  cases m with
  | blank => exact fresh_alike flavor here here' c
  | slash start =>
    simp only [forget, step]
    split_ifs
    · exact ⟨rfl, rfl⟩
    · exact ⟨rfl, rfl⟩
    · exact completedBefore_alike rfl flavor here here' c
  | lineComment =>
    simp only [forget, step]
    split_ifs <;> exact ⟨rfl, rfl⟩
  | blockComment start depth last =>
    cases depth <;> simp only [forget, step] <;> split_ifs <;> exact ⟨rfl, rfl⟩
  | name start text =>
    simp only [forget, step]
    split_ifs
    · exact ⟨rfl, rfl⟩
    · exact ⟨rfl, rfl⟩
    · exact completedBefore_alike rfl flavor here here' c
  | backQuoted start text =>
    simp only [forget, step]
    split_ifs <;> exact ⟨rfl, rfl⟩
  | number start =>
    simp only [forget, step]
    split_ifs
    · exact ⟨rfl, rfl⟩
    · exact ⟨rfl, rfl⟩
    · exact completedBefore_alike rfl flavor here here' c
  | numberPoint start point =>
    simp only [forget, step]
    split_ifs
    · exact ⟨rfl, rfl⟩
    · exact completedBefore_alike rfl flavor here here' c
  | literal l => exact literalStep_alike flavor here here' c l
  | refused e => cases e <;> exact ⟨rfl, rfl⟩

theorem step_alike (flavor : Flavor) {m m' : Mode} (h : m.forget = m'.forget)
    (here here' : Place) (c : Char) :
    Alike (m.step flavor here c) (m'.step flavor here' c) := by
  obtain ⟨hmode, hdone⟩ := step_alike_forget flavor here .origin c m
  obtain ⟨hmode', hdone'⟩ := step_alike_forget flavor here' .origin c m'
  rw [h] at hmode hdone
  exact ⟨hmode.trans hmode'.symm, hdone.trans hdone'.symm⟩

end Mode

/-- Two readings come to the same, up to places. -/
def Reading.Alike (r r' : Reading) : Prop :=
  r.tokens.map Token.lexeme = r'.tokens.map Token.lexeme ∧
    r.refusal?.map SourceError.forget = r'.refusal?.map SourceError.forget

theorem Mode.finish_alike_forget (here here' : Place) (m : Mode) :
    Reading.Alike (.ofFinish (m.finish here)) (.ofFinish (m.forget.finish here')) := by
  cases m with
  | literal l =>
    obtain ⟨start, content, phase, outer⟩ := l
    simp only [forget, finish, Literal.forget]
    split <;> exact ⟨rfl, rfl⟩
  | refused e => cases e <;> exact ⟨rfl, rfl⟩
  | _ => exact ⟨rfl, rfl⟩

/-- **A text is read alike everywhere.** -/
theorem Mode.read_alike (flavor : Flavor) {m m' : Mode} (h : m.forget = m'.forget)
    (here here' : Place) (text : List Char) :
    Reading.Alike (m.read flavor here text) (m'.read flavor here' text) := by
  induction text generalizing m m' here here' with
  | nil =>
    obtain ⟨htokens, hrefusal⟩ := finish_alike_forget here .origin m
    obtain ⟨htokens', hrefusal'⟩ := finish_alike_forget here' .origin m'
    rw [h] at htokens hrefusal
    exact ⟨htokens.trans htokens'.symm, hrefusal.trans hrefusal'.symm⟩
  | cons c text ih =>
    obtain ⟨hmode, hdone⟩ := step_alike flavor h here here' c
    obtain ⟨htokens, hrefusal⟩ := ih hmode (here.after c) (here'.after c)
    refine ⟨?_, hrefusal⟩
    simp only [read_cons, Reading.behind, List.map_append, hdone, htokens]

end SdkAudit
