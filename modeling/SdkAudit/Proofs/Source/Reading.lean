import Mathlib
import SdkAudit.Source.Lexer

/-!
# Tokens in their text

A token is a stretch of the text that is read.  This module follows the lexer along a text and says
where the tokens lie that it completes.

* `Place.along`, `Position.Before` — places along a text, and the order in which they come;
* `Mode.read` — what comes of reading on in the middle of a text;
* `Laid` — tokens lie in a text one after the other, each with the characters that spell it;
* `Mode.Pending` — what has been read of a token that is not complete;
* `Mode.Pending.step`, `Mode.Pending.finish` — **one character keeps tokens and text together**;
* `laid_of_tokens` — so the tokens of a text lie in it.
-/

namespace SdkAudit

/-! ### Places along a text -/

/-- The place after a text. -/
def Place.along (p : Place) (text : List Char) : Place := text.foldl Place.after p

namespace Place

@[simp] theorem along_nil (p : Place) : p.along [] = p := rfl

@[simp] theorem along_cons (p : Place) (c : Char) (text : List Char) :
    p.along (c :: text) = (p.after c).along text := rfl

@[simp] theorem along_append (p : Place) (text more : List Char) :
    p.along (text ++ more) = (p.along text).along more :=
  List.foldl_append

@[simp] theorem offset_after (p : Place) (c : Char) : (p.after c).offset = p.offset + 1 := rfl

@[simp] theorem offset_along (p : Place) (text : List Char) :
    (p.along text).offset = p.offset + text.length := by
  induction text generalizing p with
  | nil => rfl
  | cons c text ih =>
    rw [along_cons, ih, List.length_cons, offset_after]
    omega

end Place

def Position.Before (p q : Position) : Prop :=
  p.line < q.line ∨ p.line = q.line ∧ p.column < q.column

namespace Position

theorem Before.trans {p q r : Position} (h : p.Before q) (h' : q.Before r) : p.Before r := by
  simp only [Before] at *
  omega

theorem Before.notAfter {p q : Position} (h : p.Before q) : p.notAfter q = true := by
  simp only [Before] at h
  simp only [Position.notAfter, Bool.or_eq_true, Bool.and_eq_true, decide_eq_true_eq, beq_iff_eq]
  omega

theorem Before.not_notAfter {p q : Position} (h : p.Before q) : q.notAfter p = false := by
  simp only [Before] at h
  rw [← Bool.not_eq_true]
  simp only [Position.notAfter, Bool.or_eq_true, Bool.and_eq_true, decide_eq_true_eq, beq_iff_eq]
  omega

theorem before_after (p : Position) (c : Char) : p.Before (p.after c) := by
  unfold Position.after Before
  split <;> simp

end Position

/-- Places come one after the other. -/
theorem Place.before_along (p : Place) {text : List Char} (h : text ≠ []) :
    p.position.Before (p.along text).position := by
  induction text generalizing p with
  | nil => exact absurd rfl h
  | cons c text ih =>
    have hfirst : p.position.Before (p.after c).position := p.position.before_after c
    cases text with
    | nil => exact hfirst
    | cons d text => exact hfirst.trans (ih (p.after c) (by simp))

/-! ### Reading on -/

/-- What comes of reading a text: the tokens that are completed, and why it is refused if it is. -/
structure Reading where
  tokens : List Token
  refusal? : Option SourceError
deriving DecidableEq

/-- A reading before which these tokens were completed. -/
def Reading.behind (done : List Token) (r : Reading) : Reading := ⟨done ++ r.tokens, r.refusal?⟩

theorem Reading.behind_nil (r : Reading) : r.behind [] = r := rfl

theorem Reading.behind_append (done more : List Token) (r : Reading) :
    r.behind (done ++ more) = (r.behind more).behind done := by
  simp [behind]

/-- The reading that ends a text. -/
def Reading.ofFinish : Except SourceError (List Token) → Reading
  | .ok ts => ⟨ts, none⟩
  | .error e => ⟨[], some e⟩

/-- What comes of reading on in some mode. -/
def Mode.read (flavor : Flavor) (here : Place) (m : Mode) : List Char → Reading
  | [] => .ofFinish (m.finish here)
  | c :: text =>
    ((m.step flavor here c).1.read flavor (here.after c) text).behind (m.step flavor here c).2

variable {flavor : Flavor} {m : Mode} {p here : Place} {c : Char} {x text : List Char}

theorem Mode.read_nil : m.read flavor here [] = .ofFinish (m.finish here) := rfl

theorem Mode.read_cons : m.read flavor here (c :: text)
    = ((m.step flavor here c).1.read flavor (here.after c) text).behind
        (m.step flavor here c).2 := rfl

/-- What a reading is worth for one who wants all tokens or none. -/
def Reading.result (r : Reading) : Except SourceError (List Token) :=
  match r.refusal? with
  | none => .ok r.tokens
  | some e => .error e

theorem Lexer.finish_feedAll (s : Lexer) (text : List Char) :
    (s.feedAll flavor text).finish
      = ((s.mode.read flavor s.here text).behind s.done.reverse).result := by
  induction text generalizing s with
  | nil =>
    show s.finish = _
    rw [Mode.read_nil, Lexer.finish]
    cases s.mode.finish s.here <;> rfl
  | cons c text ih =>
    show ((s.feed flavor c).feedAll flavor text).finish = _
    rw [ih, Mode.read_cons, ← Reading.behind_append]
    simp [Lexer.feed]

/-- The tokens of a text are what comes of reading it from its start. -/
theorem Lexer.tokens_eq (text : List Char) :
    Lexer.tokens flavor text = (Mode.blank.read flavor .origin text).result := by
  rw [Lexer.tokens, Lexer.finish_feedAll]
  rfl

/-! ### Tokens in a text -/

/-- The characters with which a lexeme is written.  Of numbers and texts only the tokens know. -/
inductive Spells : Lexeme → List Char → Prop
  | name {w : List Char} : Spells (.name (String.ofList w)) w
  | quoted {w : List Char} : Spells (.name (String.ofList w)) ('\x60' :: w ++ ['\x60'])
  | sign {c : Char} : Spells (.sign c) [c]
  | number {w : List Char} : Spells .number w
  | text {content : String} {w : List Char} : Spells (.text content) w

/-- Tokens lie in a text that starts at a place, one after the other. -/
inductive Laid : Place → List Char → List Token → Prop
  | nil {p : Place} {x : List Char} : Laid p x []
  | cons {p : Place} {gap body rest : List Char} {lexeme : Lexeme} {ts : List Token} :
      body ≠ [] → Spells lexeme body → Laid (p.along (gap ++ body)) rest ts →
      Laid p (gap ++ (body ++ rest))
        ((p.along gap).token lexeme (p.along (gap ++ body)).offset :: ts)

/-- A single token at the end of a text. -/
theorem Laid.single (p : Place) (gap : List Char) {body : List Char} {lexeme : Lexeme}
    (hbody : body ≠ []) (hspells : Spells lexeme body) :
    Laid p (gap ++ body) [(p.along gap).token lexeme (p.along (gap ++ body)).offset] := by
  have hcons : Laid p (gap ++ (body ++ [])) _ := .cons hbody hspells .nil
  rwa [List.append_nil] at hcons

/-- Text in front does not matter. -/
theorem Laid.push_front {ts : List Token} (h : Laid (p.along x) text ts) :
    Laid p (x ++ text) ts := by
  cases h with
  | nil => exact .nil
  | @cons _ gap body rest lexeme ts hbody hspells hrest =>
    rw [← Place.along_append, ← List.append_assoc] at hrest
    have hcons : Laid p (x ++ gap ++ (body ++ rest)) _ := .cons hbody hspells hrest
    simpa using hcons

theorem Laid.append {ts us : List Token} (h : Laid p x ts) (h' : Laid (p.along x) text us) :
    Laid p (x ++ text) (ts ++ us) := by
  induction h with
  | nil => exact h'.push_front
  | @cons p gap body rest lexeme ts hbody hspells _ ih =>
    have hmid : (p.along (gap ++ (body ++ rest))) = (p.along (gap ++ body)).along rest := by simp
    have := Laid.cons (p := p) hbody hspells (ih (hmid ▸ h'))
    simpa using this

/-- Where a token lies, and that it is not empty. -/
theorem Laid.exists_place {ts : List Token} (h : Laid p x ts) {t : Token} (ht : t ∈ ts) :
    ∃ gap body rest, x = gap ++ (body ++ rest) ∧ body ≠ [] ∧ Spells t.lexeme body ∧
      t.position = (p.along gap).position ∧ t.start = (p.along gap).offset ∧
      t.stop = (p.along (gap ++ body)).offset := by
  induction h with
  | nil => simp at ht
  | @cons p gap body rest lexeme ts hbody hspells _ ih =>
    rcases List.mem_cons.1 ht with rfl | ht
    · exact ⟨gap, body, rest, rfl, hbody, hspells, rfl, rfl, rfl⟩
    · obtain ⟨gap', body', rest', rfl, hbody', hspells', hpos, hstart, hstop⟩ := ih ht
      refine ⟨gap ++ body ++ gap', body', rest', by simp, hbody', hspells', ?_, ?_, ?_⟩
      · simpa using hpos
      · simpa using hstart
      · simpa using hstop

theorem Laid.stop_le {ts : List Token} (h : Laid p x ts) {t : Token} (ht : t ∈ ts) :
    t.stop ≤ p.offset + x.length := by
  obtain ⟨gap, body, rest, rfl, -, -, -, -, hstop⟩ := h.exists_place ht
  simp only [hstop, Place.offset_along, List.length_append]
  omega

/-- Tokens come in the order of their positions. -/
theorem Laid.pairwise {ts : List Token} (h : Laid p x ts) :
    ts.Pairwise fun t u => t.position.Before u.position := by
  induction h with
  | nil => exact .nil
  | @cons p gap body rest lexeme ts hbody hspells hrest ih =>
    rw [List.pairwise_cons]
    refine ⟨fun u hu => ?_, ih⟩
    obtain ⟨gap', -, -, -, -, -, hpos, -, -⟩ := hrest.exists_place hu
    have hne : body ++ gap' ≠ [] := by simp [hbody]
    have hbefore := (p.along gap).before_along hne
    show (p.along gap).position.Before u.position
    rw [hpos]
    simpa using hbefore

/-! ### What has been read of a token -/

/-- The quotes that open a literal are quotes. -/
def Literal.QuotesKnown (l : Literal) : Prop :=
  match l.phase with
  | .opening quote _ _ => quote = '"' ∨ quote = '\''
  | _ => True

namespace Mode

/-- In this mode, these characters have been read behind the last token that is complete, which ends
at this place. -/
inductive Pending : Mode → Place → List Char → Prop
  | blank {p : Place} {x : List Char} : Pending .blank p x
  | slash {p : Place} {gap : List Char} : Pending (.slash (p.along gap)) p (gap ++ ['/'])
  | lineComment {p : Place} {x : List Char} : x ≠ [] → Pending .lineComment p x
  | blockComment {p start : Place} {x : List Char} {depth : Nat} {last : CommentSign} :
      x ≠ [] → Pending (.blockComment start depth last) p x
  | name {p : Place} {gap text : List Char} :
      text ≠ [] → Pending (.name (p.along gap) text) p (gap ++ text.reverse)
  | backQuoted {p : Place} {gap text : List Char} :
      Pending (.backQuoted (p.along gap) text) p (gap ++ '\x60' :: text.reverse)
  | number {p : Place} {gap body : List Char} :
      body ≠ [] → Pending (.number (p.along gap)) p (gap ++ body)
  | numberPoint {p : Place} {gap body : List Char} :
      body ≠ [] →
      Pending (.numberPoint (p.along gap) (p.along (gap ++ body))) p (gap ++ body ++ ['.'])
  | literal {p : Place} {gap body : List Char} {l : Literal} :
      body ≠ [] → l.start = p.along gap → l.QuotesKnown → Pending (.literal l) p (gap ++ body)
  | refused {p : Place} {x : List Char} {e : SourceError} : x ≠ [] → Pending (.refused e) p x

/-- A mode and the tokens that were completed on the way to it fit to the text that was read. -/
def Fits (p : Place) (x : List Char) (r : Mode × List Token) : Prop :=
  ∃ x₁ x₂, x = x₁ ++ x₂ ∧ Laid p x₁ r.2 ∧ r.1.Pending (p.along x₁) x₂

/-- No token was completed. -/
theorem Fits.more (h : m.Pending p x) : Fits p x (m, []) := ⟨[], x, rfl, .nil, h⟩

theorem Fits.done {done : List Token} (h : Laid p x done) : Fits p x (.blank, done) :=
  ⟨x, [], by simp, h, .blank⟩

theorem fits_fresh (flavor : Flavor) (p : Place) (x : List Char) (c : Char) :
    Fits p (x ++ [c]) (fresh flavor (p.along x) c) := by
  unfold fresh
  split
  · exact .more .blank
  split
  case isTrue hc =>
    subst hc
    exact .more .slash
  split
  case isTrue hc => exact .more (.literal (by simp) rfl hc)
  split
  case isTrue hc =>
    obtain ⟨-, rfl⟩ := hc
    exact .more .backQuoted
  split
  · have hname : Pending (.name (p.along x) [c]) p (x ++ [c].reverse) := .name (by simp)
    exact .more hname
  split
  · exact .more (.number (by simp))
  · refine .done ?_
    have hsign := Laid.single p x (List.cons_ne_nil c []) .sign
    simpa using hsign

/-- Where tokens reach up to a place, what follows is read as between tokens. -/
theorem fits_completedBefore {done : List Token} (h : Laid p x done) (c : Char) :
    Fits p (x ++ [c]) (completedBefore flavor (p.along x) c done) := by
  obtain ⟨x₁, x₂, hx, hlaid, hpending⟩ := fits_fresh flavor (p.along x) [] c
  refine ⟨x ++ x₁, x₂, ?_, ?_, ?_⟩
  · simpa using hx
  · exact h.append hlaid
  · simpa [completedBefore] using hpending

end Mode

/-- What comes of a literal started where the literal started. -/
def LiteralStep.Keeps (start : Place) : LiteralStep → Prop
  | .more l => l.start = start ∧ l.QuotesKnown
  | .closed l | .closedBefore l => l.start = start
  | .broken => True

namespace Literal

theorem bodyStep_keeps (l : Literal) (style : Quoting) (c : Char) :
    (l.bodyStep style c).Keeps l.start := by
  unfold bodyStep
  split_ifs
  · exact ⟨rfl, trivial⟩
  · exact ⟨rfl, trivial⟩
  · exact rfl
  · exact trivial
  · exact ⟨rfl, trivial⟩
  · exact ⟨rfl, trivial⟩

theorem holeStep_keeps (l : Literal) (hl : l.phase = .hole) (c : Char) :
    (l.holeStep c).Keeps l.start := by
  have hsame : ∀ outer, ({ l with outer } : Literal).QuotesKnown := by
    intro outer
    simp [QuotesKnown, hl]
  unfold holeStep
  split
  case isTrue hc => exact ⟨rfl, hc⟩
  split
  · exact ⟨rfl, by simp [QuotesKnown, hl]⟩
  split_ifs
  · exact ⟨rfl, hsame _⟩
  · exact ⟨rfl, trivial⟩
  · exact ⟨rfl, hsame _⟩
  · exact ⟨rfl, by simp [QuotesKnown, hl]⟩

theorem step_keeps (flavor : Flavor) {l : Literal} (hl : l.QuotesKnown) (c : Char) :
    (l.step flavor c).Keeps l.start := by
  unfold step
  split
  case h_1 quote raw hphase =>
    split
    · exact ⟨rfl, by simpa [QuotesKnown, enter, hphase] using hl⟩
    · exact l.bodyStep_keeps _ c
  case h_2 =>
    split
    · exact ⟨rfl, trivial⟩
    · exact rfl
  case h_3 style _ => exact l.bodyStep_keeps style c
  case h_4 => exact ⟨rfl, trivial⟩
  case h_5 style _ =>
    split
    · exact ⟨rfl, trivial⟩
    · exact (l.push style '$').bodyStep_keeps style c
  case h_6 style _ =>
    split
    · exact ⟨rfl, trivial⟩
    · exact (l.push style style.quote).bodyStep_keeps style c
  case h_7 style _ =>
    split
    · exact rfl
    · exact ((l.push style style.quote).push style style.quote).bodyStep_keeps style c
  case h_8 hphase => exact l.holeStep_keeps hphase c

end Literal

namespace Mode

theorem fits_leaveLiteral {l : Literal} {gap body : List Char} (hbody : body ≠ [])
    (hstart : l.start = p.along gap) :
    Fits p (gap ++ body) (leaveLiteral l (p.along (gap ++ body)).offset) := by
  unfold leaveLiteral
  split
  · refine .done ?_
    rw [literalToken, hstart]
    exact Laid.single _ _ hbody .text
  · exact .more (.literal hbody hstart trivial)

theorem fits_literalStep {l : Literal} {gap body : List Char} (hbody : body ≠ [])
    (hstart : l.start = p.along gap) (hl : l.QuotesKnown) (c : Char) :
    Fits p (gap ++ body ++ [c]) (literalStep flavor (p.along (gap ++ body)) c l) := by
  have hkeeps := Literal.step_keeps flavor hl c
  unfold literalStep
  rw [List.append_assoc]
  split
  case h_1 l' hstep =>
    rw [hstep] at hkeeps
    exact .more (.literal (by simp) (hkeeps.1.trans hstart) hkeeps.2)
  case h_2 l' hstep =>
    rw [hstep] at hkeeps
    have hne : body ++ [c] ≠ [] := by simp
    have hleave := fits_leaveLiteral hne (Eq.trans hkeeps hstart)
    simpa [Nat.add_assoc] using hleave
  case h_3 => exact .more (.refused (by simp))
  case h_4 l' hstep =>
    rw [hstep] at hkeeps
    have hstart' : l'.start = p.along gap := Eq.trans hkeeps hstart
    split
    · rw [← List.append_assoc]
      refine fits_completedBefore ?_ c
      rw [literalToken, hstart']
      exact Laid.single _ _ hbody .text
    · have hhole := (l'.enter .hole).holeStep_keeps rfl c
      split
      case h_1 l'' hstep' =>
        rw [hstep'] at hhole
        exact .more (.literal (by simp) (hhole.1.trans hstart') hhole.2)
      case h_2 => exact .more (.refused (by simp))

theorem laid_number_point (p : Place) (gap : List Char) {body : List Char} (hbody : body ≠ []) :
    Laid p (gap ++ body ++ ([] ++ ['.']))
      ([(p.along gap).token .number (p.along (gap ++ body)).offset] ++
        [((p.along (gap ++ body)).along []).token (.sign '.')
          ((p.along (gap ++ body)).along ([] ++ ['.'])).offset]) :=
  (Laid.single p gap hbody .number).append
    (Laid.single (p.along (gap ++ body)) [] (List.cons_ne_nil _ _) .sign)

/-- **One character keeps tokens and text together.** -/
theorem Pending.step (h : m.Pending p x) (flavor : Flavor) (c : Char) :
    Fits p (x ++ [c]) (m.step flavor (p.along x) c) := by
  cases h with
  | blank => exact fits_fresh flavor p x c
  | @slash _ gap =>
    rw [Mode.step]
    split
    · exact .more (.lineComment (by simp))
    split
    · exact .more (.blockComment (by simp))
    · exact fits_completedBefore (Laid.single _ _ (by simp) .sign) c
  | lineComment hx =>
    rw [Mode.step]
    split
    · exact .more .blank
    · exact .more (.lineComment (by simp))
  | @blockComment _ start _ depth last hx =>
    simp only [Mode.step]
    split
    · exact .more (.blockComment (by simp))
    split
    · split
      · exact .more .blank
      · exact .more (.blockComment (by simp))
    · exact .more (.blockComment (by simp))
  | @name _ gap text htext =>
    rw [Mode.step]
    split
    · have hname : Pending (.name (p.along gap) (c :: text)) p (gap ++ (c :: text).reverse) :=
        .name (by simp)
      exact .more (by simpa using hname)
    split
    case isTrue hc =>
      rw [List.append_assoc]
      exact .more (.literal (by simp) rfl hc.2.2)
    · exact fits_completedBefore (Laid.single _ _ (by simpa using htext) .name) c
  | @backQuoted _ gap text =>
    rw [Mode.step]
    split
    case isTrue hc =>
      subst hc
      have hne : '\x60' :: text.reverse ++ ['\x60'] ≠ [] := by simp
      have hquoted := Laid.single p gap hne .quoted
      refine .done ?_
      simpa [nameToken, Nat.add_assoc] using hquoted
    split
    · exact .more (.refused (by simp))
    · have hquoted : Pending (.backQuoted (p.along gap) (c :: text)) p
          (gap ++ '\x60' :: (c :: text).reverse) := .backQuoted
      exact .more (by simpa using hquoted)
  | @number _ gap body hbody =>
    rw [Mode.step]
    split
    · rw [List.append_assoc]
      exact .more (.number (by simp))
    split
    case isTrue hc =>
      subst hc
      exact .more (.numberPoint hbody)
    · exact fits_completedBefore (Laid.single _ _ hbody .number) c
  | @numberPoint _ gap body hbody =>
    rw [Mode.step]
    split
    · rw [List.append_assoc, List.append_assoc]
      exact .more (.number (by simp))
    · refine fits_completedBefore ?_ c
      have hnumber := laid_number_point p gap hbody
      simpa using hnumber
  | literal hbody hstart hl => exact fits_literalStep hbody hstart hl c
  | refused => exact .more (.refused (by simp))

/-- The tokens that the end of the text completes lie in it. -/
theorem Pending.finish (h : m.Pending p x) :
    Laid p x (Reading.ofFinish (m.finish (p.along x))).tokens := by
  cases h with
  | blank | lineComment | blockComment | backQuoted | refused => exact .nil
  | slash => exact Laid.single _ _ (by simp) .sign
  | @name _ gap text htext => exact Laid.single _ _ (by simpa using htext) .name
  | number hbody => exact Laid.single _ _ hbody .number
  | @numberPoint _ gap body hbody =>
    have hnumber := laid_number_point p gap hbody
    simpa [Mode.finish, Reading.ofFinish] using hnumber
  | @literal _ gap body l hbody hstart hl =>
    simp only [Mode.finish]
    split
    · simp only [Reading.ofFinish]
      rw [literalToken, hstart]
      exact Laid.single _ _ hbody .text
    · exact .nil

/-- **What is read first** leads to a mode that does not depend on what is read then. -/
theorem Pending.read_append (h : m.Pending p x) (flavor : Flavor) (text : List Char) :
    ∃ r, Fits p (x ++ text) r ∧ ∀ more, m.read flavor (p.along x) (text ++ more)
      = (r.1.read flavor (p.along (x ++ text)) more).behind r.2 := by
  induction text generalizing m p x with
  | nil =>
    refine ⟨(m, []), ?_, fun more => ?_⟩
    · rw [List.append_nil]
      exact .more h
    · rw [List.append_nil]
      rfl
  | cons c text ih =>
    obtain ⟨x₁, x₂, hx, hlaid, hpending⟩ := h.step flavor c
    obtain ⟨r, ⟨y₁, y₂, hy, hlaid', hpending'⟩, hread⟩ := ih hpending
    have hall : x ++ c :: text = x₁ ++ (x₂ ++ text) := by
      rw [← List.append_assoc, ← hx]
      simp
    refine ⟨(r.1, (m.step flavor (p.along x) c).2 ++ r.2), ⟨x₁ ++ y₁, y₂, ?_, ?_, ?_⟩, ?_⟩
    · rw [hall, hy, List.append_assoc]
    · exact hlaid.append hlaid'
    · rwa [Place.along_append]
    · intro more
      have hhere : (p.along x).after c = (p.along x₁).along x₂ := by
        rw [← Place.along_append, ← hx]
        simp
      rw [List.cons_append, read_cons, hhere, hread, hall, Place.along_append p x₁]
      exact (Reading.behind_append _ _ _).symm

/-- **What is read lies in the text.** -/
theorem Pending.read (h : m.Pending p x) (flavor : Flavor) (text : List Char) :
    Laid p (x ++ text) (m.read flavor (p.along x) text).tokens := by
  obtain ⟨r, ⟨x₁, x₂, hx, hlaid, hpending⟩, hread⟩ := h.read_append flavor text
  have hlast := hread []
  rw [List.append_nil, hx, Place.along_append] at hlast
  rw [hlast, hx]
  exact hlaid.append hpending.finish

end Mode

/-- **The tokens of a text lie in it**, one after the other. -/
theorem laid_of_tokens {ts : List Token} (h : Lexer.tokens flavor text = .ok ts) :
    Laid .origin text ts := by
  have hstart : Mode.Pending .blank .origin [] := .blank
  have hread := hstart.read flavor text
  rw [Lexer.tokens_eq, Reading.result] at h
  split at h
  case h_1 =>
    cases h
    exact hread
  case h_2 => cases h

end SdkAudit
