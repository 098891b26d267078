import SdkAudit.Proofs.Source.TokenEnds

/-!
# Where tokens start

Where a token starts, the lexer may start afresh, as it may where a token ends: what it was in the
middle of is complete before the token, for a token that goes on there starts earlier.  So from the
start of a token a text is read as a text of its own, and what is written there without back quotes,
comments and strings is read off it character by character.

* `Place.eq_of_position`, `Laid.eq_of_position` — positions tell places and tokens apart;
* `Mode.spares_step`, `Mode.spares_read` — **no token starts before the place where the lexer is**,
  unless it was begun there;
* `Mode.settles_of_start` — **the lexer may start afresh where a token starts**;
* `tokens_of_start` — the tokens of a text, seen from the start of one of them;
* `isPlainName`, `Mode.read_name`, `Mode.read_sign` — names and signs, read off the text.
-/

namespace SdkAudit

variable {flavor : Flavor} {m : Mode} {p here : Place} {c : Char} {x text : List Char} {k : Nat}

/-! ### Positions -/

theorem Position.Before.ne {p q : Position} (h : p.Before q) : p ≠ q := by
  rintro rfl
  simp [Before] at h

/-- Positions tell the places of a text apart. -/
theorem Place.eq_of_position {y rest rest' : List Char} (h : x ++ rest = y ++ rest')
    (hposition : (p.along x).position = (p.along y).position) : x = y := by
  have hmore : ∀ (q : Place) (more : List Char),
      q.position = (q.along more).position → more = [] := by
    intro q more heq
    by_contra hne
    exact (q.before_along hne).ne heq
  rcases List.append_eq_append_iff.1 h with ⟨more, rfl, -⟩ | ⟨more, rfl, -⟩
  · rw [along_append] at hposition
    rw [hmore _ more hposition, List.append_nil]
  · rw [along_append] at hposition
    rw [hmore _ more hposition.symm, List.append_nil]

/-- Positions tell the tokens of a text apart. -/
theorem Laid.eq_of_position {front front' us us' : List Token} {t t' : Token}
    (h : Laid p text (front ++ t :: us))
    (heq : front ++ t :: us = front' ++ t' :: us') (hposition : t.position = t'.position) :
    t :: us = t' :: us' := by
  have hne : ∀ {front more : List Token} {v v' : Token}, Laid p text (front ++ v :: more) →
      v' ∈ more → v.position ≠ v'.position := by
    intro front more v v' hlaid hv'
    have hpairwise := (List.pairwise_append.1 hlaid.pairwise).2.1
    exact ((List.pairwise_cons.1 hpairwise).1 v' hv').ne
  rcases List.append_eq_append_iff.1 heq with ⟨more, -, hmore⟩ | ⟨more, -, hmore⟩
  · cases more with
    | nil => exact hmore
    | cons v more =>
      obtain ⟨-, rfl⟩ := List.cons.inj hmore
      exact absurd hposition (hne h (by simp))
  · cases more with
    | nil => exact hmore.symm
    | cons v more =>
      obtain ⟨-, rfl⟩ := List.cons.inj hmore
      exact absurd hposition.symm (hne (heq ▸ h) (by simp))

namespace Mode

/-! ### Where tokens can start -/

/-- What is being read starts before the place where the lexer is. -/
theorem Pending.lt_of_begun (h : m.Pending p x) (hk : m.Begun k) : k < (p.along x).offset := by
  have hlt : ∀ {gap body : List Char}, body ≠ [] →
      (p.along gap).offset < (p.along (gap ++ body)).offset := by
    intro gap body hbody
    have hpos := List.length_pos_iff.2 hbody
    simp only [Place.offset_along, List.length_append]
    omega
  cases h with
  | blank | lineComment | blockComment | refused => exact hk.elim
  | slash | backQuoted => exact hk ▸ hlt (by simp)
  | name hne => exact hk ▸ hlt (by simpa using hne)
  | number hne => exact hk ▸ hlt hne
  | numberPoint hne =>
    rcases hk with rfl | rfl
    · exact (hlt hne).trans (hlt (by simp))
    · exact hlt (by simp)
  | literal hne hstart _ => exact hk ▸ hstart ▸ hlt hne

/-- What the end of the text completes was begun. -/
theorem begun_of_finish {ts : List Token} (h : m.finish here = .ok ts) {t : Token} (ht : t ∈ ts) :
    m.Begun t.start := by
  cases m with
  | blank | lineComment =>
    cases h
    simp at ht
  | slash | name | number =>
    cases h
    rw [List.mem_singleton.1 ht]
    rfl
  | numberPoint start point =>
    cases h
    rcases List.mem_cons.1 ht with rfl | ht
    · exact .inl rfl
    · rw [List.mem_singleton.1 ht]
      exact .inr rfl
  | literal l =>
    rw [finish] at h
    split at h
    · cases h
      rw [List.mem_singleton.1 ht]
      rfl
    · cases h
  | blockComment | backQuoted | refused => cases h

theorem begun_of_mem_read_nil {t : Token} (ht : t ∈ (m.read flavor here []).tokens) :
    m.Begun t.start := by
  rw [read_nil] at ht
  cases hfinish : m.finish here with
  | error e => simp [hfinish, Reading.ofFinish] at ht
  | ok ts =>
    rw [hfinish] at ht
    exact begun_of_finish hfinish ht

theorem spares_fresh (flavor : Flavor) (c : Char) (h : here.offset ≠ k) :
    Spares k (fresh flavor here c) := by
  unfold fresh
  split_ifs
  · exact spares_more id
  · exact spares_more h
  · exact spares_more h
  · exact spares_more h
  · exact spares_more h
  · exact spares_more h
  · refine ⟨?_, id⟩
    intro t ht
    rw [List.mem_singleton.1 ht]
    exact h

theorem spares_completedBefore {done : List Token} (hdone : ∀ t ∈ done, t.start ≠ k)
    (h : here.offset ≠ k) : Spares k (completedBefore flavor here c done) := by
  obtain ⟨hmore, hmode⟩ := spares_fresh flavor c h
  refine ⟨?_, hmode⟩
  intro t ht
  rcases List.mem_append.1 ht with ht | ht
  · exact hdone t ht
  · exact hmore t ht

/-- A character begins no token before it. -/
theorem spares_step (hm : ¬ m.Begun k) (hk : here.offset ≠ k) (flavor : Flavor) (c : Char) :
    Spares k (m.step flavor here c) := by
  rcases step_cases flavor m here c with
    ⟨-, done, hfinish, hstep⟩ | hpasses | ⟨start, rfl, rfl, hstep⟩
  · rw [hstep]
    refine spares_completedBefore (fun t ht heq => hm ?_) hk
    exact heq ▸ begun_of_finish hfinish ht
  · exact hpasses.spares k hm
  · rw [hstep]
    exact spares_more fun hbegun => hbegun.elim hm hk

/-- **No token starts before the place where the lexer is**, unless it was begun there. -/
theorem spares_read (hm : ¬ m.Begun k) (hk : k < here.offset) {t : Token}
    (ht : t ∈ (m.read flavor here text).tokens) : t.start ≠ k := by
  induction text generalizing m here with
  | nil => exact fun heq => hm (heq ▸ begun_of_mem_read_nil ht)
  | cons c text ih =>
    obtain ⟨hdone, hmode⟩ := spares_step hm hk.ne' flavor c
    rw [read_cons] at ht
    rcases List.mem_append.1 ht with ht | ht
    · exact hdone t ht
    · exact ih hmode (hk.trans (Nat.lt_succ_self _)) ht

theorem Spares.ne_start (h : Spares k (m.step flavor here c)) (hk : k ≤ here.offset) {t : Token}
    (ht : t ∈ (m.read flavor here (c :: text)).tokens) : t.start ≠ k := by
  rw [read_cons] at ht
  rcases List.mem_append.1 ht with ht | ht
  · exact h.1 t ht
  · exact spares_read h.2 (Nat.lt_succ_of_le hk) ht

/-! ### Starting afresh -/

/-- **Where a token starts, the lexer may start afresh.** -/
theorem settles_of_start (hm : ¬ m.Begun here.offset) {t : Token}
    (ht : t ∈ (m.read flavor here text).tokens) (hstart : t.start = here.offset) :
    ∃ done, m.Settles flavor here done text := by
  cases text with
  | nil => exact absurd (hstart ▸ begun_of_mem_read_nil ht) hm
  | cons c text =>
    rcases step_cases flavor m here c with
      ⟨hne, done, hfinish, hstep⟩ | hpasses | ⟨start, rfl, rfl, -⟩
    · exact ⟨done, settles_completedBefore hne hfinish hstep⟩
    · exact absurd hstart ((hpasses.spares _ hm).ne_start le_rfl ht)
    · refine ⟨_, settles_point_of_not_isDigit fun d rest htext => Bool.eq_false_iff.2 fun hd => ?_⟩
      -- the number would go on, so no token would start at the point
      rw [htext, read_number_point hd] at ht
      refine absurd hstart (spares_read hm ?_ ht)
      simp only [Place.offset_after]
      omega

end Mode

/-- The tokens of a text, seen from the start of one of them. -/
theorem tokens_of_start {before : List Char} {ts : List Token}
    (h : Lexer.tokens flavor (before ++ text) = .ok ts) {t : Token} (ht : t ∈ ts)
    (hstart : t.start = before.length) :
    ∃ front, ts = front ++ (Mode.blank.read flavor (Place.origin.along before) text).tokens := by
  have hblank : Mode.Pending .blank .origin [] := .blank
  obtain ⟨⟨m, out⟩, ⟨x₁, x₂, hx, hlaid, hpending⟩, hread⟩ := hblank.read_append flavor before
  rw [List.nil_append] at hx hread
  have htokens : ts = out ++ (m.read flavor ((Place.origin.along x₁).along x₂) text).tokens := by
    rw [Lexer.tokens_eq, Reading.result] at h
    have hall : Mode.blank.read flavor .origin (before ++ text)
        = (m.read flavor ((Place.origin.along x₁).along x₂) text).behind out := by
      rw [← Place.along_append, ← hx]
      exact hread text
    rw [hall] at h
    split at h
    · cases h
      rfl
    · cases h
  rw [htokens] at ht
  rcases List.mem_append.1 ht with ht | ht
  · -- a token that was complete before starts before
    obtain ⟨gap, body, rest, rfl, hbody, -, -, hgap, -⟩ := hlaid.exists_place ht
    have hpos : 0 < body.length := List.length_pos_iff.2 hbody
    rw [hstart, hx] at hgap
    simp only [Place.offset_along, Place.origin, List.length_append] at hgap
    omega
  · have hhere : t.start = ((Place.origin.along x₁).along x₂).offset := by
      rw [hstart, ← Place.along_append, ← hx, Place.offset_along]
      simp [Place.origin]
    have hm : ¬ m.Begun ((Place.origin.along x₁).along x₂).offset :=
      fun hbegun => lt_irrefl _ (hpending.lt_of_begun hbegun)
    obtain ⟨done, -, -, hsettled⟩ := Mode.settles_of_start hm ht hhere
    refine ⟨out ++ done, ?_⟩
    rw [htokens, hsettled, hx, Place.along_append]
    simp [Reading.behind]

/-! ### Plain text -/

/-- Whether these characters are a name as it is written without back quotes. -/
def isPlainName : List Char → Bool
  | [] => false
  | c :: rest => isNameStart c && rest.all isNamePart

/-- Whether the character is a token by itself, whatever follows. -/
def isPlainSign (c : Char) : Bool :=
  !Text.isBlank c && !List.contains ['/', '"', '\'', '\x60'] c && !isNameStart c && !c.isDigit

theorem isNamePart_of_isNameStart (h : isNameStart c = true) : isNamePart c = true := by
  simp only [isNameStart, isNamePart, Text.isLetterOrDigit, Bool.or_eq_true] at *
  tauto

theorem isBlank_of_isNamePart (h : isNamePart c = true) : Text.isBlank c = false := by
  refine Bool.eq_false_iff.2 fun hblank => ?_
  have hsep := separates_of_isBlank hblank
  simp [Separates, h] at hsep

theorem isNamePart_of_isPlainName (h : isPlainName x = true) (hc : c ∈ x) :
    isNamePart c = true := by
  cases x with
  | nil => cases hc
  | cons d x =>
    rw [isPlainName, Bool.and_eq_true, List.all_eq_true] at h
    rcases List.mem_cons.1 hc with rfl | hc
    · exact isNamePart_of_isNameStart h.1
    · exact h.2 c hc

theorem notMem_of_isPlainName (h : isPlainName x = true)
    (hc : isNamePart c = false) : c ∉ x := fun hmem => by
  rw [isNamePart_of_isPlainName h hmem] at hc
  cases hc

namespace Mode

theorem fresh_of_isNameStart (h : isNameStart c = true) :
    fresh flavor here c = (.name here [c], []) := by
  have hblank := isBlank_of_isNamePart (isNamePart_of_isNameStart h)
  have hne : ∀ d, isNameStart d = false → c ≠ d := fun d hd heq => by
    rw [heq, hd] at h
    cases h
  simp [fresh, hblank, h, hne '/' (by decide), hne '"' (by decide), hne '\'' (by decide),
    hne '\x60' (by decide)]

theorem read_nameParts {start : Place} {w : List Char} (hw : ∀ d ∈ w, isNamePart d = true) :
    (Mode.name start x).read flavor here (w ++ text)
      = (Mode.name start (w.reverse ++ x)).read flavor (here.along w) text := by
  induction w generalizing here x with
  | nil => rfl
  | cons c w ih =>
    have hstep : (Mode.name start x).step flavor here c = (.name start (c :: x), []) := by
      simp [step, hw c (by simp)]
    rw [List.cons_append, read_cons, hstep, Reading.behind_nil, ih fun d hd => hw d (by simp [hd])]
    simp

/-- **A name is read off the text**, where a character follows that does not go on with it. -/
theorem read_name {w : List Char} (hw : isPlainName w = true) (hc : isNamePart c = false)
    (hdouble : c ≠ '"') (hsingle : c ≠ '\'') :
    Mode.blank.read flavor here (w ++ c :: text)
      = (Mode.blank.read flavor (here.along w) (c :: text)).behind
          [here.token (.name (String.ofList w)) (here.along w).offset] := by
  cases w with
  | nil => cases hw
  | cons d w =>
    rw [isPlainName, Bool.and_eq_true, List.all_eq_true] at hw
    have hstart : Mode.blank.step flavor here d = (.name here [d], []) :=
      fresh_of_isNameStart hw.1
    have hend : (Mode.name here (w.reverse ++ [d])).step flavor ((here.after d).along w) c
        = completedBefore flavor ((here.after d).along w) c
            [nameToken here (w.reverse ++ [d]) ((here.after d).along w).offset] := by
      simp [step, hc, hdouble, hsingle]
    rw [List.cons_append, read_cons, hstart, Reading.behind_nil, read_nameParts hw.2,
      (settles_completedBefore (by simp) rfl hend).2.2]
    simp [nameToken]

/-- **A sign is read off the text.** -/
theorem read_sign (hc : isPlainSign c = true) :
    Mode.blank.read flavor here (c :: text)
      = (Mode.blank.read flavor (here.after c) text).behind
          [here.token (.sign c) (here.offset + 1)] := by
  simp only [isPlainSign, Bool.and_eq_true, Bool.not_eq_true', List.contains_eq_mem,
    decide_eq_false_iff_not, List.mem_cons, List.not_mem_nil, or_false, not_or] at hc
  obtain ⟨⟨⟨hblank, hslash, hdouble, hsingle, hback⟩, hname⟩, hdigit⟩ := hc
  have hstep : Mode.blank.step flavor here c
      = (.blank, [here.token (.sign c) (here.offset + 1)]) := by
    simp [step, fresh, hblank, hslash, hdouble, hsingle, hback, hname, hdigit]
  rw [read_cons, hstep]

end Mode

end SdkAudit
