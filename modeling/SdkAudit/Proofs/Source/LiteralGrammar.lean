import SdkAudit.Proofs.Source.Descent

/-!
# The grammar of literals

What is read as a literal, said without places and without calls: a literal has a text and leaves a
rest.  In a literal stand characters of text, escaped characters and interpolations; in an
interpolation stand literals, pairs of braces and other characters.  So what an interpolation holds
is told from its quotes and braces alone.

* `Reads` — the grammar;
* `Reads.exists_split`, `Reads.extend` — a part of the text is read, and what follows the rest does
  not matter;
* `Descent.runs_of_reads`, `Descent.sound` — **the descent reads by this grammar**.
-/

namespace SdkAudit

/-- A character that opens and closes literals. -/
def IsQuote (c : Char) : Prop := c = '"' ∨ c = '\''

/-- A text that does not start with a quote. -/
def Unquoted (text : List Char) : Prop := ∀ c ∈ text.head?, ¬ IsQuote c

/-- In a literal, the character stands for itself where this text follows. -/
structure Quoting.IsText (style : Quoting) (c : Char) (text : List Char) : Prop where
  not_escape : ¬ (style.escapes = true ∧ c = '\\')
  not_close : c = style.quote → style.triple = true ∧ text.take 2 ≠ [c, c]
  not_line : c = '\n' → style.triple = true
  not_hole : ¬ (style.interpolates = true ∧ c = '$' ∧ text.head? = some '\x7b')

/-- What is read: a literal, the rest of one behind its opening quotes, or the rest of an
interpolation in which so many braces are open. -/
inductive Part where
  | literal (raw : Bool)
  | body (style : Quoting)
  | hole (depth : Nat)

/-- At the start of a text a part is read that stands for a content, and a rest is left. -/
inductive Reads (flavor : Flavor) : Part → (text content rest : List Char) → Prop
  | single {raw : Bool} {q : Char} {text content rest : List Char} :
      IsQuote q → text.take 2 ≠ [q, q] →
      Reads flavor (.body (.single q raw)) text content rest →
      Reads flavor (.literal raw) (q :: text) content rest
  | triple {raw : Bool} {q : Char} {text content rest : List Char} :
      IsQuote q → Reads flavor (.body (.tripled flavor q raw)) text content rest →
      Reads flavor (.literal raw) (q :: q :: q :: text) content rest
  | close {style : Quoting} {rest : List Char} :
      style.triple = false → Reads flavor (.body style) (style.quote :: rest) [] rest
  | closeThree {style : Quoting} {rest : List Char} :
      style.triple = true →
      Reads flavor (.body style) (style.quote :: style.quote :: style.quote :: rest) [] rest
  | escape {style : Quoting} {c : Char} {text content rest : List Char} :
      style.escapes = true → Reads flavor (.body style) text content rest →
      Reads flavor (.body style) ('\\' :: c :: text) (c :: content) rest
  | hole {style : Quoting} {text mid content rest : List Char} :
      style.interpolates = true → Reads flavor (.hole 0) text [] mid →
      Reads flavor (.body style) mid content rest →
      Reads flavor (.body style) ('$' :: '\x7b' :: text) content rest
  | char {style : Quoting} {c : Char} {text content rest : List Char} :
      style.IsText c text → Reads flavor (.body style) text content rest →
      Reads flavor (.body style) (c :: text) (c :: content) rest
  | holeEnd {rest : List Char} : Reads flavor (.hole 0) ('\x7d' :: rest) [] rest
  | opening {depth : Nat} {text rest : List Char} :
      Reads flavor (.hole (depth + 1)) text [] rest →
      Reads flavor (.hole depth) ('\x7b' :: text) [] rest
  | closing {depth : Nat} {text rest : List Char} :
      Reads flavor (.hole depth) text [] rest →
      Reads flavor (.hole (depth + 1)) ('\x7d' :: text) [] rest
  | quoted {depth : Nat} {text content mid rest : List Char} :
      Reads flavor (.literal false) text content mid → Reads flavor (.hole depth) mid [] rest →
      Reads flavor (.hole depth) text [] rest
  | other {depth : Nat} {c : Char} {text rest : List Char} :
      ¬ IsQuote c → c ≠ '\x7b' → c ≠ '\x7d' → Reads flavor (.hole depth) text [] rest →
      Reads flavor (.hole depth) (c :: text) [] rest

namespace Reads

variable {flavor : Flavor} {part : Part} {style : Quoting} {text content rest : List Char}

/-- What is read is a part of the text. -/
theorem exists_split (h : Reads flavor part text content rest) :
    ∃ x, x ≠ [] ∧ text = x ++ rest := by
  induction h with
  | @single _ q _ _ _ _ _ _ ih =>
    obtain ⟨x, -, rfl⟩ := ih
    exact ⟨q :: x, by simp, rfl⟩
  | @triple _ q _ _ _ _ _ ih =>
    obtain ⟨x, -, rfl⟩ := ih
    exact ⟨q :: q :: q :: x, by simp, rfl⟩
  | @close style rest _ => exact ⟨[style.quote], by simp, rfl⟩
  | @closeThree style rest _ =>
    exact ⟨[style.quote, style.quote, style.quote], by simp, rfl⟩
  | @escape _ c _ _ _ _ _ ih =>
    obtain ⟨x, -, rfl⟩ := ih
    exact ⟨'\\' :: c :: x, by simp, rfl⟩
  | hole _ _ _ ihhole ihbody =>
    obtain ⟨x, -, rfl⟩ := ihhole
    obtain ⟨y, -, rfl⟩ := ihbody
    exact ⟨'$' :: '\x7b' :: (x ++ y), by simp, by simp⟩
  | @char _ c _ _ _ _ _ ih =>
    obtain ⟨x, -, rfl⟩ := ih
    exact ⟨c :: x, by simp, rfl⟩
  | holeEnd => exact ⟨['\x7d'], by simp, rfl⟩
  | opening _ ih =>
    obtain ⟨x, -, rfl⟩ := ih
    exact ⟨'\x7b' :: x, by simp, rfl⟩
  | closing _ ih =>
    obtain ⟨x, -, rfl⟩ := ih
    exact ⟨'\x7d' :: x, by simp, rfl⟩
  | quoted _ _ ihliteral ihhole =>
    obtain ⟨x, hx, rfl⟩ := ihliteral
    obtain ⟨y, -, rfl⟩ := ihhole
    exact ⟨x ++ y, by simp [hx], by simp⟩
  | @other _ c _ _ _ _ _ _ ih =>
    obtain ⟨x, -, rfl⟩ := ih
    exact ⟨c :: x, by simp, rfl⟩

theorem length_lt (h : Reads flavor part text content rest) : rest.length < text.length := by
  obtain ⟨x, hx, rfl⟩ := h.exists_split
  have := List.length_pos_iff.2 hx
  rw [List.length_append]
  omega

theorem ne_nil (h : Reads flavor part text content rest) : text ≠ [] := by
  rintro rfl
  simpa using h.length_lt

/-- A literal starts with a quote. -/
theorem exists_quote {raw : Bool} (h : Reads flavor (.literal raw) text content rest) :
    ∃ q tail, text = q :: tail ∧ IsQuote q := by
  cases h with
  | single hq _ _ => exact ⟨_, _, rfl, hq⟩
  | triple hq _ => exact ⟨_, _, rfl, hq⟩

/-- The rest of a literal ends with its closing quote. -/
theorem exists_close (h : Reads flavor (.body style) text content rest) :
    ∃ x, text = x ++ style.quote :: rest := by
  generalize hpart : Part.body style = part at h
  induction h with
  | close =>
    cases hpart
    exact ⟨[], rfl⟩
  | closeThree =>
    cases hpart
    exact ⟨[style.quote, style.quote], rfl⟩
  | @escape _ c _ _ _ _ _ ih =>
    obtain ⟨x, rfl⟩ := ih hpart
    exact ⟨'\\' :: c :: x, rfl⟩
  | hole _ hhole _ _ ih =>
    obtain ⟨x, rfl⟩ := ih hpart
    obtain ⟨y, -, rfl⟩ := hhole.exists_split
    exact ⟨'$' :: '\x7b' :: (y ++ x), by simp⟩
  | @char _ c _ _ _ _ _ ih =>
    obtain ⟨x, rfl⟩ := ih hpart
    exact ⟨c :: x, rfl⟩
  | single | triple | holeEnd | opening | closing | quoted | other => cases hpart

/-- The rest of a literal with three quotes has three quotes in it. -/
theorem three_le (h : Reads flavor (.body style) text content rest) (ht : style.triple = true) :
    3 ≤ text.length := by
  generalize hpart : Part.body style = part at h
  induction h with
  | close hsingle =>
    cases hpart
    rw [hsingle] at ht
    cases ht
  | closeThree => simp
  | escape _ _ ih | char _ _ ih =>
    have := ih hpart
    simp only [List.length_cons]
    omega
  | hole _ hhole _ _ ih =>
    have := ih hpart
    have := hhole.length_lt
    simp only [List.length_cons]
    omega
  | single | triple | holeEnd | opening | closing | quoted | other => cases hpart

end Reads

theorem head?_append_of_ne_nil {α : Type} {xs : List α} (h : xs ≠ []) (ys : List α) :
    (xs ++ ys).head? = xs.head? := by
  cases xs with
  | nil => exact absurd rfl h
  | cons => rfl

namespace Reads

variable {flavor : Flavor} {part : Part} {text content rest : List Char}

/-- **What follows the rest does not matter**, unless it starts with a quote. -/
theorem extend (h : Reads flavor part text content rest) {more : List Char}
    (hmore : Unquoted more) : Reads flavor part (text ++ more) content (rest ++ more) := by
  induction h with
  | @single _ q text _ _ hq htake hbody ih =>
    refine .single hq ?_ ih
    -- behind a literal without text a third quote would make it one with three
    rcases text with _ | ⟨c, _ | ⟨d, text⟩⟩
    · exact absurd rfl hbody.ne_nil
    · intro heq
      cases more with
      | nil => simp at heq
      | cons m more =>
        obtain ⟨-, rfl⟩ : c = q ∧ m = q := by simpa using heq
        exact hmore m rfl hq
    · exact htake
  | triple hq _ ih => exact .triple hq ih
  | close hsingle => exact .close hsingle
  | closeThree htriple => exact .closeThree htriple
  | escape hescapes _ ih => exact .escape hescapes ih
  | hole hinterpolates _ _ ihhole ihbody => exact .hole hinterpolates ihhole ihbody
  | @char style c text _ _ htext hbody ih =>
    have htext' : style.IsText c (text ++ more) := by
      refine ⟨htext.not_escape, fun hc => ?_, htext.not_line, ?_⟩
      · obtain ⟨htriple, htake⟩ := htext.not_close hc
        have hlength := hbody.three_le htriple
        rw [List.take_append_of_le_length (by omega)]
        exact ⟨htriple, htake⟩
      · rw [head?_append_of_ne_nil hbody.ne_nil]
        exact htext.not_hole
    exact .char htext' ih
  | holeEnd => exact .holeEnd
  | opening _ ih => exact .opening ih
  | closing _ ih => exact .closing ih
  | quoted _ _ ihliteral ihhole => exact .quoted ihliteral ihhole
  | other hquote hopen hclose _ ih => exact .other hquote hopen hclose ih

end Reads

/-! ### The descent reads by the grammar -/

namespace Descent

variable {flavor : Flavor} {text content rest : List Char}

/-! #### One call -/

section

variable {style : Quoting} {calls : Nat} {here : Place} {before : List Char} {c : Char}

theorem not_escape_of_isQuote (h : IsQuote c) : ¬ (style.escapes = true ∧ c = '\\') := by
  rintro ⟨-, rfl⟩
  rcases h with h | h <;> cases h

theorem body_text (htext : style.IsText c text) :
    body flavor style (calls + 1) before ⟨here, c :: text⟩
      = body flavor style calls (c :: before) ⟨here.after c, text⟩ := by
  have hline : ¬ (c = '\n' ∧ (!style.triple) = true) := by
    rintro ⟨hc, htriple⟩
    simp [htext.not_line hc] at htriple
  rw [body, if_neg htext.not_escape]
  by_cases hc : c = style.quote
  · obtain ⟨htriple, htake⟩ := htext.not_close hc
    rw [if_pos hc, if_neg (by simp [htriple]), if_neg htake]
  · rw [if_neg hc, if_neg hline, if_neg htext.not_hole]

theorem body_close (hq : IsQuote style.quote) (h : style.triple = false) :
    body flavor style (calls + 1) before ⟨here, style.quote :: rest⟩
      = .ok (before, ⟨here.after style.quote, rest⟩) := by
  rw [body, if_neg (not_escape_of_isQuote hq), if_pos rfl, if_pos (by simp [h])]

theorem body_closeThree (hq : IsQuote style.quote) (h : style.triple = true) :
    body flavor style (calls + 1) before
        ⟨here, style.quote :: style.quote :: style.quote :: rest⟩
      = .ok (before, ⟨here.along [style.quote, style.quote, style.quote], rest⟩) := by
  have htake : (style.quote :: style.quote :: rest).take 2 = [style.quote, style.quote] := rfl
  rw [body, if_neg (not_escape_of_isQuote hq), if_pos rfl, if_neg (by simp [h]), if_pos htake]
  rfl

theorem body_hole (hq : IsQuote style.quote) (h : style.interpolates = true) :
    body flavor style (calls + 1) before ⟨here, '$' :: '\x7b' :: text⟩
      = hole flavor calls 1 ⟨here.along ['$', '\x7b'], text⟩ >>=
          body flavor style calls before := by
  have hne : '$' ≠ style.quote := by
    rintro heq
    rw [← heq] at hq
    rcases hq with hq | hq <;> cases hq
  rw [body, if_neg (by simp), if_neg hne, if_neg (by simp), if_pos ⟨h, rfl, rfl⟩]
  rfl

theorem hole_quoted (hc : IsQuote c) (depth : Nat) :
    hole flavor (calls + 1) depth ⟨here, c :: text⟩
      = literal flavor false calls ⟨here, c :: text⟩ >>= fun (_, next) =>
          hole flavor calls depth next := by
  have hquote : c = '"' ∨ c = '\'' := hc
  rw [hole, if_pos hquote]

theorem hole_other (hc : ¬ IsQuote c) (hopen : c ≠ '\x7b') (hclose : c ≠ '\x7d') (depth : Nat) :
    hole flavor (calls + 1) depth ⟨here, c :: text⟩
      = hole flavor calls depth ⟨here.after c, text⟩ := by
  have hquote : ¬ (c = '"' ∨ c = '\'') := hc
  rw [hole, if_neg hquote, if_neg hopen, if_neg hclose]

end

/-! #### All calls -/

/-- With calls enough the descent gets over what is read, to the content that it stands for. -/
def Runs (flavor : Flavor) (x text content rest : List Char) : Part → Prop
  | .literal raw => ∀ calls here, text.length < calls →
      literal flavor raw calls ⟨here, text⟩ = .ok (content.reverse, ⟨here.along x, rest⟩)
  | .body style => IsQuote style.quote → ∀ calls here before, text.length < calls →
      body flavor style calls before ⟨here, text⟩
        = .ok (content.reverse ++ before, ⟨here.along x, rest⟩)
  | .hole depth => ∀ calls here, text.length + 1 < calls →
      hole flavor calls (depth + 1) ⟨here, text⟩ = .ok ⟨here.along x, rest⟩

/-- **What the grammar reads the descent gets over.** -/
theorem runs_of_reads {part : Part} (h : Reads flavor part text content rest) :
    ∃ x, text = x ++ rest ∧ Runs flavor x text content rest part := by
  induction h with
  | @single raw q text content rest hq htake _ ih =>
    obtain ⟨x, hx, hrun⟩ := ih
    refine ⟨q :: x, by rw [hx]; rfl, ?_⟩
    rintro (_ | calls) here hcalls
    · simp at hcalls
    · rw [literal, if_neg htake, hrun hq _ _ _ (by simpa using hcalls)]
      simp
  | @triple raw q text content rest hq _ ih =>
    obtain ⟨x, hx, hrun⟩ := ih
    refine ⟨q :: q :: q :: x, by rw [hx]; rfl, ?_⟩
    rintro (_ | calls) here hcalls
    · simp at hcalls
    · have htake : (q :: q :: text).take 2 = [q, q] := rfl
      have hdrop : (q :: q :: text).drop 2 = text := rfl
      simp only [List.length_cons] at hcalls
      rw [literal, if_pos htake, hdrop, hrun hq _ _ _ (by omega)]
      simp
  | @close style rest hsingle =>
    refine ⟨[style.quote], rfl, ?_⟩
    rintro hq (_ | calls) here before hcalls
    · simp at hcalls
    · exact body_close hq hsingle
  | @closeThree style rest htriple =>
    refine ⟨[style.quote, style.quote, style.quote], rfl, ?_⟩
    rintro hq (_ | calls) here before hcalls
    · simp at hcalls
    · exact body_closeThree hq htriple
  | @escape style c text content rest hescapes _ ih =>
    obtain ⟨x, hx, hrun⟩ := ih
    refine ⟨'\\' :: c :: x, by rw [hx]; rfl, ?_⟩
    rintro hq (_ | calls) here before hcalls
    · simp at hcalls
    · simp only [List.length_cons] at hcalls
      rw [body, if_pos ⟨hescapes, rfl⟩]
      show body flavor style calls ([c] ++ before) ⟨here.along ['\\', c], text⟩ = _
      rw [hrun hq _ _ _ (by omega)]
      simp
  | @hole style text mid content rest hinterpolates hhole _ ihhole ihbody =>
    obtain ⟨x, hx, hrunhole⟩ := ihhole
    obtain ⟨y, hy, hrunbody⟩ := ihbody
    refine ⟨'$' :: '\x7b' :: (x ++ y), by rw [hx, hy]; simp, ?_⟩
    rintro hq (_ | calls) here before hcalls
    · simp at hcalls
    · have hmid := hhole.length_lt
      simp only [List.length_cons] at hcalls
      rw [body_hole hq hinterpolates, hrunhole _ _ (by omega), Checked.ok_bind,
        hrunbody hq _ _ _ (by omega)]
      simp
  | @char style c text content rest htext hbody ih =>
    obtain ⟨x, hx, hrun⟩ := ih
    refine ⟨c :: x, by rw [hx]; rfl, ?_⟩
    rintro hq (_ | calls) here before hcalls
    · simp at hcalls
    · rw [body_text htext, hrun hq _ _ _ (by simpa using hcalls)]
      simp
  | @holeEnd rest =>
    refine ⟨['\x7d'], rfl, ?_⟩
    rintro (_ | calls) here hcalls
    · simp at hcalls
    · rfl
  | @opening depth text rest _ ih =>
    obtain ⟨x, hx, hrun⟩ := ih
    refine ⟨'\x7b' :: x, by rw [hx]; rfl, ?_⟩
    rintro (_ | calls) here hcalls
    · simp at hcalls
    · rw [hole, if_neg (by decide), if_pos rfl, hrun _ _ (by simpa using hcalls)]
      rfl
  | @closing depth text rest _ ih =>
    obtain ⟨x, hx, hrun⟩ := ih
    refine ⟨'\x7d' :: x, by rw [hx]; rfl, ?_⟩
    rintro (_ | calls) here hcalls
    · simp at hcalls
    · rw [hole, if_neg (by decide), if_neg (by decide), if_pos rfl, Checked.lower_succ,
        Checked.ok_bind, if_neg (Nat.succ_ne_zero depth), hrun _ _ (by simpa using hcalls)]
      rfl
  | @quoted depth text content mid rest hliteral _ ihliteral ihhole =>
    obtain ⟨x, hx, hrunliteral⟩ := ihliteral
    obtain ⟨y, hy, hrunhole⟩ := ihhole
    refine ⟨x ++ y, by rw [hx, hy]; simp, ?_⟩
    have hlength := hliteral.length_lt
    rintro (_ | calls) here hcalls
    · simp at hcalls
    · obtain ⟨q, tail, rfl, hq⟩ := hliteral.exists_quote
      rw [hole_quoted hq, hrunliteral _ _ (by omega)]
      show hole flavor calls (depth + 1) ⟨here.along x, mid⟩ = _
      rw [hrunhole _ _ (by omega), Place.along_append]
  | @other depth c text rest hquote hopen hclose _ ih =>
    obtain ⟨x, hx, hrun⟩ := ih
    refine ⟨c :: x, by rw [hx]; rfl, ?_⟩
    rintro (_ | calls) here hcalls
    · simp at hcalls
    · rw [hole_other hquote hopen hclose, hrun _ _ (by simpa using hcalls)]
      rfl

/-- What the descent gets over is what the grammar reads, with so many calls. -/
structure Sound (flavor : Flavor) (calls : Nat) : Prop where
  literal : ∀ raw here q rest content next, IsQuote q →
    Descent.literal flavor raw calls ⟨here, q :: rest⟩ = .ok (content, next) →
    Reads flavor (.literal raw) (q :: rest) content.reverse next.rest
  body : ∀ style before cur found next, IsQuote style.quote →
    Descent.body flavor style calls before cur = .ok (found, next) →
    ∃ content, found = content.reverse ++ before ∧
      Reads flavor (.body style) cur.rest content next.rest
  hole : ∀ depth cur next, Descent.hole flavor calls (depth + 1) cur = .ok next →
    Reads flavor (.hole depth) cur.rest [] next.rest

theorem sound_literal {calls : Nat} (ih : Sound flavor calls) {raw : Bool} {here : Place} {q : Char}
    {found : List Char} {next : Cursor} (hq : IsQuote q)
    (h : literal flavor raw (calls + 1) ⟨here, q :: rest⟩ = .ok (found, next)) :
    Reads flavor (.literal raw) (q :: rest) found.reverse next.rest := by
  rw [literal] at h
  split at h
  case isTrue htake =>
    obtain ⟨content, rfl, hreads⟩ := ih.body _ _ _ _ _ hq h
    have hsplit : q :: rest = q :: q :: q :: rest.drop 2 := by
      conv => lhs; rw [← List.take_append_drop 2 rest, htake]
      rfl
    rw [hsplit]
    simpa using Reads.triple hq hreads
  case isFalse htake =>
    obtain ⟨content, rfl, hreads⟩ := ih.body _ _ _ _ _ hq h
    simpa using Reads.single hq htake hreads

theorem sound_body {calls : Nat} (ih : Sound flavor calls) {style : Quoting} {here : Place}
    {before found : List Char} {next : Cursor} (hq : IsQuote style.quote)
    (h : body flavor style (calls + 1) before ⟨here, text⟩ = .ok (found, next)) :
    ∃ content, found = content.reverse ++ before ∧
      Reads flavor (.body style) text content next.rest := by
  cases text with
  | nil => cases h
  | cons c text =>
    -- a character of text, and then the rest of the literal
    have hchar : style.IsText c text →
        body flavor style calls (c :: before) ⟨here.after c, text⟩ = .ok (found, next) →
        ∃ content, found = content.reverse ++ before ∧
          Reads flavor (.body style) (c :: text) content next.rest := by
      intro htext hbody
      obtain ⟨content, rfl, hreads⟩ := ih.body _ _ _ _ _ hq hbody
      exact ⟨c :: content, by simp, .char htext hreads⟩
    rw [body] at h
    split at h
    case isTrue hescape =>
      obtain ⟨hescapes, rfl⟩ := hescape
      obtain ⟨content, rfl, hreads⟩ := ih.body _ _ _ _ _ hq h
      cases text with
      | nil => exact absurd rfl hreads.ne_nil
      | cons d text => exact ⟨d :: content, by simp, .escape hescapes hreads⟩
    case isFalse hescape =>
    split at h
    case isTrue hclose =>
      subst hclose
      split at h
      case isTrue hsingle =>
        cases h
        exact ⟨[], rfl, .close (by simpa using hsingle)⟩
      case isFalse htriple =>
      have htriple : style.triple = true := by simpa using htriple
      split at h
      case isTrue htake =>
        cases h
        have hsplit : text = style.quote :: style.quote :: text.drop 2 := by
          conv => lhs; rw [← List.take_append_drop 2 text, htake]
          rfl
        refine ⟨[], rfl, ?_⟩
        rw [hsplit]
        exact .closeThree htriple
      case isFalse htake =>
        refine hchar ⟨hescape, fun _ => ⟨htriple, htake⟩, fun _ => htriple, ?_⟩ h
        rintro ⟨-, hdollar, -⟩
        rw [hdollar] at hq
        rcases hq with hq | hq <;> cases hq
    case isFalse hclose =>
    split at h
    case isTrue => cases h
    case isFalse hline =>
    split at h
    case isTrue hopen =>
      obtain ⟨hinterpolates, rfl, hhead⟩ := hopen
      obtain ⟨text, rfl⟩ := List.head?_eq_some_iff.1 hhead
      cases hhole : hole flavor calls 1 ⟨here.along ['$', '\x7b'], text⟩ with
      | error halt =>
        rw [List.tail_cons, hhole] at h
        cases h
      | ok mid =>
        rw [List.tail_cons, hhole] at h
        obtain ⟨content, rfl, hreads⟩ := ih.body _ _ _ _ _ hq h
        exact ⟨content, rfl, .hole hinterpolates (ih.hole _ _ _ hhole) hreads⟩
    case isFalse hopen =>
      refine hchar ⟨hescape, fun hc => absurd hc hclose, fun hc => ?_, hopen⟩ h
      simpa [hc] using hline

theorem sound_hole {calls : Nat} (ih : Sound flavor calls) {depth : Nat} {here : Place}
    {next : Cursor} (h : hole flavor (calls + 1) (depth + 1) ⟨here, text⟩ = .ok next) :
    Reads flavor (.hole depth) text [] next.rest := by
  cases text with
  | nil => cases h
  | cons c text =>
    by_cases hquote : IsQuote c
    · rw [hole_quoted hquote] at h
      cases hliteral : literal flavor false calls ⟨here, c :: text⟩ with
      | error halt =>
        rw [hliteral] at h
        cases h
      | ok read =>
        obtain ⟨content, mid⟩ := read
        rw [hliteral] at h
        exact .quoted (ih.literal _ _ _ _ _ _ hquote hliteral) (ih.hole _ _ _ h)
    by_cases hopen : c = '\x7b'
    · subst hopen
      exact .opening (ih.hole _ _ _ h)
    by_cases hclose : c = '\x7d'
    · subst hclose
      cases depth with
      | zero =>
        cases h
        exact .holeEnd
      | succ depth => exact .closing (ih.hole _ _ _ h)
    · rw [hole_other hquote hopen hclose] at h
      exact .other hquote hopen hclose (ih.hole _ _ _ h)

theorem sound (flavor : Flavor) (calls : Nat) : Sound flavor calls := by
  induction calls with
  | zero =>
    refine ⟨?_, ?_, ?_⟩
    · intro raw here q rest content next _ h
      cases h
    · intro style before cur found next _ h
      cases h
    · intro depth cur next h
      cases h
  | succ calls ih =>
    exact ⟨fun _ _ _ _ _ _ => sound_literal ih, fun _ _ _ _ _ => sound_body ih,
      fun _ _ _ => sound_hole ih⟩

end Descent

end SdkAudit
