import SdkAudit.Proofs.Source.Gaps

/-!
# Tokens and their spans

A text that has tokens is made of gaps and of the spans of its tokens: a gap holds white space and
comments, and the span of a token the characters that it is written with.  This module says which
characters these are, and that a text has exactly the tokens that it can be divided into.

* `Covers` — what a token is written with, where a rest follows;
* `Spans`, `Spans.exists_span`, `Spans.pairwise` — a text divided into gaps and the spans of its
  tokens, where these lie, and that they come one after the other;
* `Covers.read`, `Spans.read` — the tokens of a division are read;
* `Descent.spans_of_tokens` — what is read has a division;
* `tokens_eq_ok_iff` — **a text has these tokens exactly if it can be divided into them**.
-/

namespace SdkAudit

/-! ### What tokens are written with -/

/-- A sign that is a token by itself, where this rest follows. -/
structure IsSign (flavor : Flavor) (c : Char) (rest : List Char) : Prop where
  not_blank : Text.isBlank c = false
  not_quote : ¬ IsQuote c
  not_backQuote : ¬ (flavor = .kotlin ∧ c = '\x60')
  not_nameStart : isNameStart c = false
  not_digit : c.isDigit = false
  not_comment : c = '/' → rest.head? ≠ some '/' ∧ rest.head? ≠ some '*'

/-- How a number goes on behind its first digit, and where it ends: a point belongs to it before a
digit. -/
inductive NumberRest : (w rest : List Char) → Prop
  | nil {rest : List Char} :
      (∀ c ∈ rest.head?, isNumberPart c = false) →
      (rest.head? = some '.' → rest.tail.head?.any Char.isDigit = false) → NumberRest [] rest
  | part {c : Char} {w rest : List Char} :
      isNumberPart c = true → NumberRest w rest → NumberRest (c :: w) rest
  | point {w rest : List Char} :
      (w ++ rest).head?.any Char.isDigit = true → NumberRest w rest → NumberRest ('.' :: w) rest

/-- The characters that a token is written with, where a rest follows. -/
inductive Covers (flavor : Flavor) (allows : Unseen → List Char → Prop) :
    Lexeme → (span rest : List Char) → Prop
  /-- A name as it stands.  It does not go on, and it is no mark of a raw literal. -/
  | name {w rest : List Char} :
      isPlainName w = true → (∀ c ∈ rest.head?, isNamePart c = false) →
      (flavor = .dart → w = ['r'] → Unquoted rest) →
      Covers flavor allows (.name (String.ofList w)) w rest
  /-- A name between back quotes. -/
  | quotedName {w rest : List Char} :
      flavor = .kotlin → '\x60' ∉ w → '\n' ∉ w → allows .quotedName ('\x60' :: w ++ ['\x60']) →
      Covers flavor allows (.name (String.ofList w)) ('\x60' :: w ++ ['\x60']) rest
  | sign {c : Char} {rest : List Char} :
      IsSign flavor c rest → Covers flavor allows (.sign c) [c] rest
  | number {c : Char} {w rest : List Char} :
      c.isDigit = true → NumberRest w rest → Covers flavor allows .number (c :: w) rest
  /-- A literal from its opening quote to its closing quote. -/
  | text {q : Char} {w content rest : List Char} :
      Reads flavor (.literal false) (q :: w ++ q :: rest) content rest →
      Covers flavor allows (.text (String.ofList content)) (q :: w ++ [q]) rest
  /-- A raw literal, whose mark stands before its opening quote. -/
  | rawText {q : Char} {w content rest : List Char} :
      flavor = .dart → allows .rawText ('r' :: q :: w ++ [q]) →
      Reads flavor (.literal true) (q :: w ++ q :: rest) content rest →
      Covers flavor allows (.text (String.ofList content)) ('r' :: q :: w ++ [q]) rest

/-- From a place on, a text is divided into gaps and the spans of these tokens.  It may end in a
comment up to the end of its line, which is the last part. -/
inductive Spans (flavor : Flavor) (allows : Unseen → List Char → Prop) :
    Place → (text : List Char) → List Token → (trailing : List Char) → Prop
  | nil {p : Place} {x : List Char} : Gap allows x → Spans flavor allows p x [] []
  | trailing {p : Place} {x w : List Char} :
      Gap allows x → IsLineComment w → Spans flavor allows p (x ++ w) [] w
  | cons {p : Place} {gap span rest trailing : List Char} {lexeme : Lexeme} {ts : List Token} :
      Gap allows gap → Covers flavor allows lexeme span rest →
      Spans flavor allows (p.along (gap ++ span)) rest ts trailing →
      Spans flavor allows p (gap ++ (span ++ rest))
        ((p.along gap).token lexeme (p.along (gap ++ span)).offset :: ts) trailing

variable {flavor : Flavor} {allows : Unseen → List Char → Prop} {p here : Place}
  {c q : Char} {w x text content rest trailing : List Char} {ts : List Token} {lexeme : Lexeme}

namespace Spans

/-- A gap in front belongs to the first gap. -/
theorem push (hx : Gap allows x) (h : Spans flavor allows (p.along x) text ts trailing) :
    Spans flavor allows p (x ++ text) ts trailing := by
  cases h with
  | nil hgap => exact .nil (hx.append hgap)
  | trailing hgap hw =>
    rw [← List.append_assoc]
    exact .trailing (hx.append hgap) hw
  | @cons _ gap span rest _ _ _ hgap hcovers hrest =>
    rw [← Place.along_append, ← List.append_assoc] at hrest
    have hcons := cons (hx.append hgap) hcovers hrest
    simpa only [List.append_assoc, Place.along_append] using hcons

/-- A token without a gap before it. -/
theorem push_token {span : List Char} (hcovers : Covers flavor allows lexeme span rest)
    (h : Spans flavor allows (p.along span) rest ts trailing) :
    Spans flavor allows p (span ++ rest) (p.token lexeme (p.along span).offset :: ts) trailing :=
  cons .nil hcovers h

/-- Where the span of a token lies. -/
theorem exists_span (h : Spans flavor allows p text ts trailing) {t : Token} (ht : t ∈ ts) :
    ∃ before span rest, text = before ++ (span ++ rest) ∧
      Covers flavor allows t.lexeme span rest ∧
      t = (p.along before).token t.lexeme (p.along (before ++ span)).offset := by
  induction h with
  | nil | trailing => cases ht
  | @cons p gap span rest _ lexeme ts _ hcovers _ ih =>
    rcases List.mem_cons.1 ht with rfl | ht
    · exact ⟨gap, span, rest, rfl, hcovers, rfl⟩
    · obtain ⟨before, span', rest', htext, hcovers', ht'⟩ := ih ht
      refine ⟨gap ++ span ++ before, span', rest', ?_, hcovers', ?_⟩
      · rw [htext]
        simp
      · rw [ht']
        simp [Place.token]

/-- Spans come one after the other. -/
theorem pairwise (h : Spans flavor allows p text ts trailing) :
    ts.Pairwise fun t u => t.stop ≤ u.start := by
  induction h with
  | nil | trailing => exact .nil
  | @cons p gap span rest _ lexeme ts _ _ hrest ih =>
    refine List.pairwise_cons.2 ⟨fun u hu => ?_, ih⟩
    obtain ⟨before, span, rest, -, -, htoken⟩ := hrest.exists_span hu
    rw [htoken]
    simp [Place.token]

end Spans

/-! ### The tokens of a division are read -/

/-- A digit is no blank and no start of a name. -/
theorem isDigit_starts (h : c.isDigit = true) : Text.isBlank c = false ∧ isNameStart c = false :=
  Mode.forall_isDigit (fun c => Text.isBlank c = false ∧ isNameStart c = false)
    (by decide +kernel) h

namespace Descent

/-- The descent gets over the rest of a number. -/
theorem number_of_rest (h : NumberRest w rest) (here : Place) :
    number here (w ++ rest) = ⟨here.along w, rest⟩ := by
  induction h generalizing here with
  | @nil rest hpart hpoint =>
    cases rest with
    | nil => rfl
    | cons c rest =>
      have hpart : isNumberPart c = false := hpart c rfl
      have hpoint : ¬ (c = '.' ∧ rest.head?.any Char.isDigit = true) := by
        rintro ⟨rfl, hdigit⟩
        rw [List.head?_cons, List.tail_cons, hdigit] at hpoint
        cases hpoint rfl
      rw [List.nil_append, number, if_neg (by simp [hpart]), if_neg hpoint]
      rfl
  | part hc _ ih =>
    rw [List.cons_append, number, if_pos hc, ih]
    rfl
  | point hdigit _ ih =>
    have hpart : ¬ isNumberPart '.' = true := by decide +kernel
    rw [List.cons_append, number, if_neg hpart, if_pos ⟨rfl, hdigit⟩, ih]
    rfl

/-- What the descent gets over is the rest of a number. -/
theorem rest_of_number (here : Place) (text : List Char) :
    ∃ w, text = w ++ (number here text).rest ∧ (number here text).here = here.along w ∧
      NumberRest w (number here text).rest := by
  induction text generalizing here with
  | nil =>
    rw [number]
    exact ⟨[], rfl, rfl, .nil (by simp) (by simp)⟩
  | cons c text ih =>
    obtain ⟨w, hw, hhere, hrest⟩ := ih (here.after c)
    rw [number]
    split
    case isTrue hpart => exact ⟨c :: w, by rw [List.cons_append, ← hw], hhere, .part hpart hrest⟩
    case isFalse hpart =>
    split
    case isTrue hpoint =>
      obtain ⟨rfl, hdigit⟩ := hpoint
      rw [hw] at hdigit
      exact ⟨'.' :: w, by rw [List.cons_append, ← hw], hhere, .point hdigit hrest⟩
    case isFalse hpoint =>
      refine ⟨[], rfl, rfl, .nil (by simpa using hpart) fun hhead => ?_⟩
      obtain rfl : c = '.' := by simpa using hhead
      simpa using hpoint

/-- The descent gets over a name between back quotes. -/
theorem backQuoted_append (hquote : '\x60' ∉ w) (hline : '\n' ∉ w) (name : List Char)
    (here : Place) (rest : List Char) : backQuoted name here (w ++ '\x60' :: rest)
      = .ok (w.reverse ++ name, ⟨here.along (w ++ ['\x60']), rest⟩) := by
  induction w generalizing name here with
  | nil => rfl
  | cons c w ih =>
    rw [List.mem_cons, not_or] at hquote hline
    rw [List.cons_append, backQuoted, if_neg (Ne.symm hquote.1), if_neg (Ne.symm hline.1),
      ih hquote.2 hline.2]
    simp

/-- What the descent gets over is a name and the back quote behind it. -/
theorem append_of_backQuoted {name found : List Char} {next : Cursor}
    (h : backQuoted name here text = .ok (found, next)) :
    ∃ w, found = w.reverse ++ name ∧ text = w ++ '\x60' :: next.rest ∧
      next.here = here.along (w ++ ['\x60']) ∧ '\x60' ∉ w ∧ '\n' ∉ w := by
  induction text generalizing name here with
  | nil => cases h
  | cons c text ih =>
    rw [backQuoted] at h
    split at h
    case isTrue hclose =>
      cases h
      exact ⟨[], rfl, by rw [hclose]; rfl, by rw [hclose]; rfl, by simp, by simp⟩
    case isFalse hclose =>
    split at h
    case isTrue => cases h
    case isFalse hline =>
      obtain ⟨w, rfl, rfl, hhere, hquote, hfeed⟩ := ih h
      refine ⟨c :: w, by simp, rfl, hhere, ?_, ?_⟩
      · exact List.not_mem_cons_of_ne_of_not_mem (Ne.symm hclose) hquote
      · exact List.not_mem_cons_of_ne_of_not_mem (Ne.symm hline) hfeed

end Descent

namespace Covers

/-- A literal is read to its closing quote, and the reading goes on behind it. -/
theorem read_literal {raw : Bool} {start : Place} (hq : IsQuote q)
    (h : Reads flavor (.literal raw) (q :: w ++ q :: rest) content rest) :
    (Mode.openLiteral start q raw).read flavor (here.after q) (w ++ q :: rest)
      = (Mode.blank.read flavor (here.along (q :: w ++ [q])) rest).behind
          [start.token (.text (String.ofList content)) (here.along (q :: w ++ [q])).offset] := by
  have hne : q ≠ '\\' := by rcases hq with rfl | rfl <;> decide
  obtain ⟨x, hx, hrun⟩ := Descent.runs_of_reads h
  obtain rfl : x = q :: w ++ [q] := by
    have hsame : q :: w ++ q :: rest = q :: w ++ [q] ++ rest := by simp
    exact List.append_cancel_right (hx.symm.trans hsame)
  have hfollows := (Descent.agrees flavor ((w ++ q :: rest).length + 2)).literal
    ⟨start, [], .opening q raw false, []⟩ here q (w ++ q :: rest) raw rfl hne (fun _ => rfl)
    (Nat.lt_succ_self _)
  have hliteral := hrun ((w ++ q :: rest).length + 2) here (by simp)
  rw [List.cons_append] at hliteral
  rw [hliteral] at hfollows
  refine Eq.trans hfollows ?_
  show (Mode.blank.read flavor _ rest).behind [Mode.literalToken _ _] = _
  simp [Mode.literalToken, Literal.text, Literal.holding]

/-- **A token is read from its span.** -/
theorem read {span : List Char} (h : Covers flavor allows lexeme span rest) (p : Place) :
    Mode.blank.read flavor p (span ++ rest)
      = (Mode.blank.read flavor (p.along span) rest).behind
          [p.token lexeme (p.along span).offset] := by
  cases h with
  | name hw hrest hraw =>
    cases span with
    | nil => cases hw
    | cons c w =>
      rw [isPlainName, Bool.and_eq_true, List.all_eq_true] at hw
      have hstart : Mode.blank.step flavor p c = (.name p [c], []) :=
        Mode.fresh_of_isNameStart hw.1
      have hmark : flavor = .dart → w.reverse ++ [c] = ['r'] →
          ∀ d ∈ rest.head?, d ≠ '"' ∧ d ≠ '\'' := by
        intro hdart hname d hd
        have hcw : c :: w = ['r'] := by simpa using congrArg List.reverse hname
        have hquote := hraw hdart hcw d hd
        exact not_or.1 hquote
      rw [List.cons_append, Mode.read_cons, hstart, Reading.behind_nil, Mode.read_nameParts hw.2,
        Mode.read_nameEnd hrest hmark]
      simp [Mode.nameToken]
  | @quotedName w _ hkotlin hquote hline _ =>
    subst hkotlin
    have hfollows : ((Mode.backQuoted p []).read .kotlin (p.after '\x60')
        (w ++ '\x60' :: rest)).Follows _ _ := Descent.agrees_backQuoted p [] _ _
    rw [Descent.backQuoted_append hquote hline] at hfollows
    have htext : '\x60' :: w ++ ['\x60'] ++ rest = '\x60' :: (w ++ '\x60' :: rest) := by simp
    rw [htext, Mode.read_backQuoted_start]
    refine Eq.trans hfollows ?_
    simp [Mode.nameToken]
  | @sign c _ hsign =>
    show Mode.blank.read flavor p (c :: rest) = (Mode.blank.read flavor (p.after c) rest).behind
      [p.token (.sign c) (p.offset + 1)]
    by_cases hslash : c = '/'
    · subst hslash
      exact Mode.read_slash (hsign.not_comment rfl).1 (hsign.not_comment rfl).2
    · have hquote : ¬ (c = '"' ∨ c = '\'') := hsign.not_quote
      have hstep : Mode.blank.step flavor p c
          = (.blank, [p.token (.sign c) (p.offset + 1)]) := by
        simp [Mode.step, Mode.fresh, hslash, hsign.not_blank, hquote, hsign.not_backQuote,
          hsign.not_nameStart, hsign.not_digit]
      rw [Mode.read_cons, hstep]
  | @number c w _ hdigit hrest =>
    obtain ⟨hblank, hname⟩ := isDigit_starts hdigit
    have hnumber : Descent.number p (c :: (w ++ rest)) = ⟨(p.after c).along w, rest⟩ := by
      rw [Descent.number, if_pos (Mode.isNumberPart_of_isDigit hdigit),
        Descent.number_of_rest hrest]
    rw [List.cons_append, Mode.read_digit_start hblank hname hdigit, hnumber]
    rfl
  | @text q w _ _ hreads =>
    obtain ⟨_, _, heq, hq⟩ := hreads.exists_quote
    obtain ⟨rfl, -⟩ := List.cons.inj heq
    have htext : q :: w ++ [q] ++ rest = q :: (w ++ q :: rest) := by simp
    rw [htext, Mode.read_literal_start hq]
    exact read_literal hq hreads
  | @rawText q w _ _ hdart _ hreads =>
    subst hdart
    obtain ⟨_, _, heq, hq⟩ := hreads.exists_quote
    obtain ⟨rfl, -⟩ := List.cons.inj heq
    have htext : 'r' :: q :: w ++ [q] ++ rest = 'r' :: q :: (w ++ q :: rest) := by simp
    rw [htext, Mode.read_raw_start hq]
    exact read_literal hq hreads

end Covers

/-- **The tokens of a division are read.** -/
theorem Spans.read (h : Spans flavor allows p text ts trailing) :
    Mode.blank.read flavor p text = ⟨ts, none⟩ := by
  induction h with
  | @nil p x hgap =>
    have hread : Mode.blank.read flavor p (x ++ []) = _ := hgap.read p []
    rw [List.append_nil] at hread
    rw [hread]
    rfl
  | @trailing p x w hgap hw =>
    have hcomment : Mode.blank.read flavor (p.along x) (w ++ []) = _ := hw.read (by simp) _
    rw [List.append_nil] at hcomment
    rw [hgap.read, hcomment]
    rfl
  | cons hgap hcovers _ ih =>
    rw [hgap.read, hcovers.read, ← Place.along_append, ih]
    rfl

/-! ### What is read has a division -/

/-- Every comment, raw literal and quoted name is allowed. -/
def Anything : Unseen → List Char → Prop := fun _ _ => True

namespace Descent

/-- A literal that the descent gets over, from its opening quote to its closing quote. -/
theorem exists_span {raw : Bool} {calls : Nat} {found : List Char} {next : Cursor} (hq : IsQuote q)
    (h : literal flavor raw calls ⟨here, q :: text⟩ = .ok (found, next)) :
    ∃ w, text = w ++ q :: next.rest ∧ next.here = here.along (q :: w ++ [q]) ∧
      Reads flavor (.literal raw) (q :: w ++ q :: next.rest) found.reverse next.rest := by
  have hreads := (sound flavor calls).literal raw here q text found next hq h
  obtain ⟨w, hw⟩ : ∃ w, text = w ++ q :: next.rest := by
    cases hreads with
    | single _ _ hbody => exact hbody.exists_close
    | triple _ hbody =>
      obtain ⟨w, hw⟩ := hbody.exists_close
      exact ⟨q :: q :: w, by rw [hw]; rfl⟩
  obtain ⟨x, -, hx, hhere⟩ := (ahead flavor calls).1 _ _ _ _ h
  have hsame : q :: text = q :: w ++ [q] ++ next.rest := by simp [hw]
  obtain rfl : x = q :: w ++ [q] := List.append_cancel_right (hx.symm.trans hsame)
  rw [hw] at hreads
  exact ⟨w, hw, hhere, hreads⟩

/-- A name that the descent gets over. -/
theorem covers_past (hc : isNameStart c = true)
    (hraw : ¬ (flavor = .dart ∧ c = 'r' ∧ (rest.head? = some '"' ∨ rest.head? = some '\''))) :
    Covers flavor allows (.name (String.ofList ((c :: rest).takeWhile isNamePart)))
      ((c :: rest).takeWhile isNamePart) ((c :: rest).dropWhile isNamePart) := by
  rw [List.takeWhile_cons_of_pos (isNamePart_of_isNameStart hc),
    List.dropWhile_cons_of_pos (isNamePart_of_isNameStart hc)]
  have hplain : isPlainName (c :: rest.takeWhile isNamePart) = true := by
    rw [isPlainName, hc, Bool.true_and, List.all_eq_true]
    exact fun d hd => List.mem_takeWhile_imp hd
  refine .name hplain ?_ ?_
  · intro d hd
    have hnot := List.head?_dropWhile_not isNamePart rest
    rw [Option.mem_def.1 hd] at hnot
    exact hnot
  · intro hdart hname d hd hquote
    obtain ⟨rfl, hempty⟩ := List.cons.inj hname
    have hhead : rest.head? = some d := by
      rw [← List.takeWhile_append_dropWhile (p := isNamePart) (l := rest), hempty]
      exact hd
    refine hraw ⟨hdart, rfl, ?_⟩
    rw [hhead, Option.some_inj, Option.some_inj]
    exact hquote

section

variable {calls : Nat} {next : Cursor}

/-- A token that is got over, and the tokens behind it. -/
theorem spans_of_more {span : List Char} (htext : text = span ++ next.rest)
    (hhere : next.here = here.along span) (hcovers : Covers flavor Anything lexeme span next.rest)
    (hnext : ∀ more, tokens flavor calls next = .ok more →
      ∃ trailing, Spans flavor Anything next.here next.rest more trailing)
    (h : (tokens flavor calls next >>= fun more =>
      pure (here.token lexeme next.here.offset :: more)) = .ok ts) :
    ∃ trailing, Spans flavor Anything here text ts trailing := by
  obtain ⟨more, hmore, hts⟩ := Checked.exists_of_bind h
  cases hts
  obtain ⟨trailing, hspans⟩ := hnext more hmore
  rw [hhere] at hspans
  rw [htext, hhere]
  exact ⟨trailing, .push_token hcovers hspans⟩

/-- A comment up to the end of its line, and the tokens on the lines behind it. -/
theorem spans_of_lineComment
    (ih : ∀ m < calls + 1, ∀ {ts cur}, tokens flavor m cur = .ok ts →
      ∃ trailing, Spans flavor Anything cur.here cur.rest ts trailing)
    (h : tokens flavor calls (past (· != '\n') here ('/' :: '/' :: rest)) = .ok ts) :
    ∃ trailing, Spans flavor Anything here ('/' :: '/' :: rest) ts trailing := by
  set w := rest.takeWhile (· != '\n') with hw
  have hcomment : IsLineComment ('/' :: '/' :: w) := by
    refine ⟨w, rfl, fun hmem => ?_⟩
    have hne := List.mem_takeWhile_imp hmem
    simp at hne
  have hsplit : '/' :: '/' :: rest = '/' :: '/' :: w ++ rest.dropWhile (· != '\n') := by
    rw [hw, List.cons_append, List.cons_append, List.takeWhile_append_dropWhile]
  have hpast : past (· != '\n') here ('/' :: '/' :: rest)
      = ⟨here.along ('/' :: '/' :: w), rest.dropWhile (· != '\n')⟩ := rfl
  rw [hpast] at h
  cases calls with
  | zero => cases h
  | succ calls =>
  cases hdrop : rest.dropWhile (· != '\n') with
  | nil =>
    rw [hdrop] at h
    cases h
    rw [hsplit, hdrop, List.append_nil]
    exact ⟨_, .trailing .nil hcomment⟩
  | cons d rest' =>
    have hnot := List.head?_dropWhile_not (· != '\n') rest
    rw [hdrop] at hnot
    obtain rfl : d = '\n' := by simpa using hnot
    have hblank : Text.isBlank '\n' = true := by decide
    rw [hdrop, tokens, if_pos hblank] at h
    obtain ⟨trailing, hspans⟩ := ih calls (by omega) h
    have hgap : Gap Anything ('/' :: '/' :: w ++ '\n' :: []) := .line hcomment trivial .nil
    have hpushed := Spans.push hgap (by simpa using hspans)
    rw [hsplit, hdrop]
    exact ⟨trailing, by simpa using hpushed⟩

end

/-- **What is read has a division.** -/
theorem spans_of_tokens {calls : Nat} {cur : Cursor} (h : tokens flavor calls cur = .ok ts) :
    ∃ trailing, Spans flavor Anything cur.here cur.rest ts trailing := by
  induction calls using Nat.strong_induction_on generalizing cur ts with
  | h calls ih =>
    obtain ⟨here, text⟩ := cur
    cases calls with
    | zero => cases h
    | succ calls =>
    have hnext : ∀ {next : Cursor} more, tokens flavor calls next = .ok more →
        ∃ trailing, Spans flavor Anything next.here next.rest more trailing :=
      fun more => ih calls (Nat.lt_succ_self calls)
    cases text with
    | nil =>
      cases h
      exact ⟨[], .nil .nil⟩
    | cons c rest =>
    rw [tokens] at h
    split at h
    case isTrue hblank =>
      obtain ⟨trailing, hspans⟩ := hnext ts h
      exact ⟨trailing, Spans.push (.blank hblank .nil) hspans⟩
    case isFalse hblank =>
    split at h
    case isTrue hline =>
      obtain ⟨rfl, hhead⟩ := hline
      obtain ⟨rest, rfl⟩ := List.head?_eq_some_iff.1 hhead
      exact spans_of_lineComment ih h
    case isFalse hline =>
    split at h
    case isTrue hblock =>
      obtain ⟨rfl, hhead⟩ := hblock
      obtain ⟨rest, rfl⟩ := List.head?_eq_some_iff.1 hhead
      obtain ⟨next, hcomment, hmore⟩ := Checked.exists_of_bind h
      have hopened : blockComment 1 ((here.after '/').after '*') rest = .ok next := hcomment
      obtain ⟨x, rfl, hhere, hx⟩ := rest_of_blockComment hopened
      obtain ⟨trailing, hspans⟩ := hnext ts hmore
      rw [hhere] at hspans
      have hgap : Gap Anything ('/' :: '*' :: x ++ []) := .block ⟨x, rfl, hx⟩ trivial .nil
      rw [List.append_nil] at hgap
      exact ⟨trailing, Spans.push hgap hspans⟩
    case isFalse hblock =>
    split at h
    case isTrue hquote =>
      obtain ⟨⟨found, next⟩, hliteral, hmore⟩ := Checked.exists_of_bind h
      obtain ⟨w, rfl, hhere, hreads⟩ := exists_span hquote hliteral
      exact spans_of_more (by simp) hhere (.text hreads) hnext hmore
    case isFalse hquote =>
    split at h
    case isTrue hraw =>
      obtain ⟨rfl, rfl, hmark⟩ := hraw
      obtain ⟨q, rest, rfl, hq⟩ : ∃ q tail, rest = q :: tail ∧ IsQuote q := by
        rcases hmark with hhead | hhead <;>
          obtain ⟨tail, rfl⟩ := List.head?_eq_some_iff.1 hhead <;> simp [IsQuote]
      obtain ⟨⟨found, next⟩, hliteral, hmore⟩ := Checked.exists_of_bind h
      obtain ⟨w, rfl, hhere, hreads⟩ := exists_span hq hliteral
      exact spans_of_more (by simp) hhere (.rawText rfl trivial hreads) hnext hmore
    case isFalse hraw =>
    split at h
    case isTrue hback =>
      obtain ⟨rfl, rfl⟩ := hback
      obtain ⟨⟨found, next⟩, hname, hmore⟩ := Checked.exists_of_bind h
      obtain ⟨w, rfl, rfl, hhere, hquote, hfeed⟩ := append_of_backQuoted hname
      simp only [List.append_nil, List.reverse_reverse] at hmore
      exact spans_of_more (by simp) hhere (.quotedName rfl hquote hfeed trivial) hnext hmore
    case isFalse hback =>
    split at h
    case isTrue hname =>
      exact spans_of_more List.takeWhile_append_dropWhile.symm rfl (covers_past hname hraw) hnext h
    case isFalse hname =>
    split at h
    case isTrue hdigit =>
      obtain ⟨w, hw, hhere, hrest⟩ := rest_of_number (here.after c) rest
      rw [number, if_pos (Mode.isNumberPart_of_isDigit hdigit)] at h
      exact spans_of_more (by rw [List.cons_append, ← hw]) hhere (.number hdigit hrest) hnext h
    case isFalse hdigit =>
      have hsign : IsSign flavor c rest :=
        { not_blank := by simpa using hblank
          not_quote := hquote
          not_backQuote := hback
          not_nameStart := by simpa using hname
          not_digit := by simpa using hdigit
          not_comment := fun hc => ⟨fun h => hline ⟨hc, h⟩, fun h => hblock ⟨hc, h⟩⟩ }
      exact spans_of_more (List.singleton_append.symm) rfl (.sign hsign) hnext h

end Descent

/-- A text has the tokens that it is divided into. -/
theorem Spans.tokens_eq (h : Spans flavor allows .origin text ts trailing) :
    Lexer.tokens flavor text = .ok ts := by
  rw [Lexer.tokens_eq, h.read]
  rfl

/-- **A text has these tokens exactly if it can be divided into them.** -/
theorem Lexer.tokens_eq_ok_iff : Lexer.tokens flavor text = .ok ts
    ↔ ∃ trailing, Spans flavor Anything .origin text ts trailing := by
  constructor
  · intro h
    have htokens := Descent.tokens_eq flavor text
    rw [h] at htokens
    exact Descent.spans_of_tokens htokens
  · rintro ⟨trailing, hspans⟩
    exact hspans.tokens_eq

end SdkAudit
