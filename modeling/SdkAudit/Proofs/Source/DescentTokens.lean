import SdkAudit.Proofs.Source.DescentAgrees
import SdkAudit.Proofs.Source.TokenStarts

/-!
# The tokens of a descent

Around literals, too, the lexer decides later than the descent: it finds out behind a slash whether
a comment begins there, and behind a point whether a number goes on.  This module goes through what
may stand between and around literals, and concludes that both find the same tokens.

* `Mode.read_slash_last`, `Mode.read_star_last` — a sign in a comment is a look ahead;
* `Descent.agrees_blockComment`, `Descent.agrees_backQuoted`, `Mode.read_numberParts` — comments,
  names in back quotes and numbers are read as by descent;
* `Descent.agrees_tokens` — **texts are read as by descent**;
* `Descent.tokens_eq` — so no check fails, and the tokens are those of the lexer.
-/

namespace SdkAudit

variable {flavor : Flavor} {here start : Place} {c : Char} {text : List Char} {depth calls : Nat}

namespace Mode

/-! ### Comments -/

/-- A slash in a comment looks ahead for a star. -/
theorem read_slash_last : (Mode.blockComment start depth .slash).read flavor here text =
    if text.head? = some '*' then
      (Mode.blockComment start (depth + 1) .neither).read flavor (here.after '*') text.tail
    else (Mode.blockComment start depth .neither).read flavor here text := by
  cases text with
  | nil => rfl
  | cons c text =>
    by_cases hc : c = '*'
    · subst hc
      rfl
    · have hsame : (Mode.blockComment start depth .slash).step flavor here c
          = (Mode.blockComment start depth .neither).step flavor here c := by
        simp [step, hc]
      rw [if_neg (by simpa using hc), read_cons, hsame, read_cons]

/-- A star in a comment looks ahead for a slash. -/
theorem read_star_last : (Mode.blockComment start depth .star).read flavor here text =
    if text.head? = some '/' then
      match depth with
      | 0 => Mode.blank.read flavor (here.after '/') text.tail
      | depth + 1 =>
        (Mode.blockComment start depth .neither).read flavor (here.after '/') text.tail
    else (Mode.blockComment start depth .neither).read flavor here text := by
  cases text with
  | nil => rfl
  | cons c text =>
    by_cases hc : c = '/'
    · subst hc
      cases depth <;> rfl
    · have hsame : (Mode.blockComment start depth .star).step flavor here c
          = (Mode.blockComment start depth .neither).step flavor here c := by
        simp [step, hc]
      rw [if_neg (by simpa using hc), read_cons, hsame, read_cons]

end Mode

namespace Descent

/-- **Comments are read as by descent**, whatever they hold. -/
theorem agrees_blockComment (start : Place) (depth : Nat) (here : Place) (text : List Char) :
    ((Mode.blockComment start depth .neither).read flavor here text).Follows
      (blockComment (depth + 1) here text)
      fun next => Mode.blank.read flavor next.here next.rest := by
  induction hlength : text.length using Nat.strong_induction_on generalizing depth here text with
  | h length ih =>
    subst hlength
    rcases text with _ | ⟨c, _ | ⟨d, rest⟩⟩
    · exact ⟨rfl, rfl⟩
    · exact ⟨rfl, rfl⟩
    have hone := ih (d :: rest).length (by simp)
    have htwo := ih rest.length (by simp)
    have hstep : (Mode.blockComment start depth .neither).step flavor here c
        = (.blockComment start depth (.of c), []) := rfl
    rw [Mode.read_cons, hstep, Reading.behind_nil, blockComment]
    by_cases hslash : c = '/'
    · have hof : CommentSign.of c = .slash := by simp [CommentSign.of, hslash]
      rw [hof, Mode.read_slash_last]
      by_cases hstar : d = '*'
      · rw [if_pos (by simpa using hstar), if_pos ⟨hslash, hstar⟩]
        exact hstar ▸ htwo (depth + 1) _ rest rfl
      · rw [if_neg (by simpa using hstar), if_neg fun h => hstar h.2,
          if_neg fun h => absurd (hslash.symm.trans h.1) (by decide)]
        exact hone depth _ (d :: rest) rfl
    rw [if_neg fun h => hslash h.1]
    by_cases hstar : c = '*'
    · have hof : CommentSign.of c = .star := by simp [CommentSign.of, hstar]
      rw [hof, Mode.read_star_last]
      by_cases hend : d = '/'
      · rw [if_pos (by simpa using hend), if_pos ⟨hstar, hend⟩, Checked.lower_succ, Checked.ok_bind]
        cases depth with
        | zero => exact hend ▸ rfl
        | succ depth => exact hend ▸ htwo depth _ rest rfl
      · rw [if_neg (by simpa using hend), if_neg fun h => hend h.2]
        exact hone depth _ (d :: rest) rfl
    · have hof : CommentSign.of c = .neither := by simp [CommentSign.of, hslash, hstar]
      rw [hof, if_neg fun h => hstar h.1]
      exact hone depth _ (d :: rest) rfl

/-- **Names in back quotes are read as by descent.** -/
theorem agrees_backQuoted (start : Place) (name : List Char) (here : Place) (text : List Char) :
    ((Mode.backQuoted start name).read flavor here text).Follows (backQuoted name here text)
      fun (name, next) => (Mode.blank.read flavor next.here next.rest).behind
        [Mode.nameToken start name next.here.offset] := by
  induction text generalizing name here with
  | nil => exact ⟨rfl, rfl⟩
  | cons c text ih =>
    rw [Mode.read_cons, backQuoted]
    by_cases hclose : c = '\x60'
    · have hstep : (Mode.backQuoted start name).step flavor here c
          = (.blank, [Mode.nameToken start name (here.offset + 1)]) := by
        simp [Mode.step, hclose]
      rw [hstep, if_pos hclose]
      rfl
    rw [if_neg hclose]
    by_cases hline : c = '\n'
    · have hstep : (Mode.backQuoted start name).step flavor here c
          = (.refused (.unterminatedString start.position), []) := by
        simp [Mode.step, hline]
      rw [hstep, if_pos hline]
      exact ⟨rfl, by rw [Reading.behind_nil, Mode.refusal_refused]; rfl⟩
    · have hstep : (Mode.backQuoted start name).step flavor here c
          = (.backQuoted start (c :: name), []) := by
        simp [Mode.step, hclose, hline]
      rw [hstep, if_neg hline, Reading.behind_nil]
      exact ih (c :: name) (here.after c)

end Descent

namespace Mode

/-! ### Names and numbers -/

/-- A name ends before the first character that does not go on with it, unless it is the mark of a
raw literal. -/
theorem read_nameEnd {name : List Char} (hend : ∀ d ∈ text.head?, isNamePart d = false)
    (hraw : flavor = .dart → name = ['r'] → ∀ d ∈ text.head?, d ≠ '"' ∧ d ≠ '\'') :
    (Mode.name start name).read flavor here text
      = (Mode.blank.read flavor here text).behind [nameToken start name here.offset] := by
  cases text with
  | nil => rfl
  | cons d text =>
    have hpart := hend d rfl
    have hstep : (Mode.name start name).step flavor here d
        = completedBefore flavor here d [nameToken start name here.offset] := by
      have hquote : ¬ (flavor = .dart ∧ name = ['r'] ∧ (d = '"' ∨ d = '\'')) := by
        rintro ⟨hdart, hname, hquote⟩
        have hne := hraw hdart hname d rfl
        tauto
      rw [step, if_neg (by simp [hpart]), if_neg hquote]
    exact (settles_completedBefore (by simp) rfl hstep).2.2

/-- What holds of the ten digits holds of every digit. -/
theorem forall_isDigit (holds : Char → Prop)
    (hall : ∀ code ∈ List.range' 48 10, holds (Char.ofNat code)) (h : c.isDigit = true) :
    holds c := by
  simp only [Char.isDigit, Bool.and_eq_true, decide_eq_true_eq] at h
  have hcode : c.toNat ∈ List.range' 48 10 := by
    rw [List.mem_range'_1]
    exact ⟨h.1, Nat.lt_succ_of_le h.2⟩
  have hc := hall c.toNat hcode
  rwa [Char.ofNat_toNat] at hc

theorem isNumberPart_of_isDigit (h : c.isDigit = true) : isNumberPart c = true :=
  forall_isDigit (fun c => isNumberPart c = true) (by decide +kernel) h

/-- **Numbers are read as by descent.** -/
theorem read_numberParts (start here : Place) (text : List Char) :
    (Mode.number start).read flavor here text
      = (Mode.blank.read flavor (Descent.number here text).here
            (Descent.number here text).rest).behind
          [start.token .number (Descent.number here text).here.offset] := by
  induction text generalizing here with
  | nil => rfl
  | cons c text ih =>
    rw [Descent.number]
    by_cases hpart : isNumberPart c = true
    · have hstep : (Mode.number start).step flavor here c = (.number start, []) := by
        simp [step, hpart]
      rw [read_cons, hstep, Reading.behind_nil, if_pos hpart, ih]
    rw [if_neg hpart]
    by_cases hpoint : c = '.'
    · subst hpoint
      by_cases hdigit : text.head?.any Char.isDigit = true
      · obtain ⟨d, rest, rfl⟩ : ∃ d rest, text = d :: rest := by
          cases text with
          | nil => cases hdigit
          | cons d rest => exact ⟨d, rest, rfl⟩
        have hd : d.isDigit = true := hdigit
        have hnext : (Mode.number start).step flavor (here.after '.') d = (.number start, []) := by
          simp [step, isNumberPart_of_isDigit hd]
        rw [read_number_point hd, if_pos ⟨rfl, hdigit⟩, ← ih, read_cons, hnext, Reading.behind_nil]
      · rw [if_neg fun h => hdigit h.2]
        refine (settles_point_of_not_isDigit fun d rest htext => ?_).2.2
        simpa [htext] using hdigit
    · have hstep : (Mode.number start).step flavor here c
          = completedBefore flavor here c [start.token .number here.offset] := by
        simp [step, hpart, hpoint]
      rw [if_neg fun h => hpoint h.1]
      exact (settles_completedBefore (by simp) rfl hstep).2.2

/-! ### Signs and comments between tokens -/

theorem read_blank (h : Text.isBlank c = true) :
    Mode.blank.read flavor here (c :: text) = Mode.blank.read flavor (here.after c) text :=
  read_white (w := [c]) (by simpa using h)

theorem fresh_slash : Mode.blank.step flavor here '/' = (.slash here, []) := by
  have hblank : Text.isBlank '/' = false := by decide
  simp [step, fresh, hblank]

/-- A comment up to the end of its line is read over. -/
theorem read_lineComment : Mode.lineComment.read flavor here text
    = Mode.blank.read flavor (Descent.past (· != '\n') here text).here
        (Descent.past (· != '\n') here text).rest := by
  induction text generalizing here with
  | nil => rfl
  | cons c text ih =>
    by_cases hc : c = '\n'
    · subst hc
      have hblank : Text.isBlank '\n' = true := by decide
      exact (read_blank hblank).symm
    · have hstep : Mode.lineComment.step flavor here c = (.lineComment, []) := if_neg hc
      rw [read_cons, hstep, Reading.behind_nil, ih]
      simp [Descent.past, hc]

theorem read_lineComment_start : Mode.blank.read flavor here ('/' :: '/' :: text)
    = Mode.blank.read flavor (Descent.past (· != '\n') here ('/' :: '/' :: text)).here
        (Descent.past (· != '\n') here ('/' :: '/' :: text)).rest := by
  have hslash : (Mode.slash here).step flavor (here.after '/') '/' = (.lineComment, []) := rfl
  rw [read_cons, fresh_slash, Reading.behind_nil, read_cons, hslash, Reading.behind_nil,
    read_lineComment]
  simp [Descent.past]

theorem read_blockComment_start : Mode.blank.read flavor here ('/' :: '*' :: text)
    = (Mode.blockComment here 0 .neither).read flavor ((here.after '/').after '*') text := by
  have hslash : (Mode.slash here).step flavor (here.after '/') '*'
      = (.blockComment here 0 .neither, []) := rfl
  rw [read_cons, fresh_slash, Reading.behind_nil, read_cons, hslash, Reading.behind_nil]

theorem read_literal_start (hc : c = '"' ∨ c = '\'') : Mode.blank.read flavor here (c :: text)
    = (openLiteral here c false).read flavor (here.after c) text := by
  have hblank : Text.isBlank c = false := by rcases hc with rfl | rfl <;> decide
  have hslash : c ≠ '/' := by rcases hc with rfl | rfl <;> decide
  have hstep : Mode.blank.step flavor here c = (openLiteral here c false, []) := by
    simp [step, fresh, hblank, hslash, hc]
  rw [read_cons, hstep, Reading.behind_nil]

theorem read_raw_start (hc : c = '"' ∨ c = '\'') :
    Mode.blank.read .dart here ('r' :: c :: text)
      = (openLiteral here c true).read .dart ((here.after 'r').after c) text := by
  have hstart : Mode.blank.step .dart here 'r' = (.name here ['r'], []) :=
    fresh_of_isNameStart (by decide +kernel)
  have hpart : isNamePart c = false := by rcases hc with rfl | rfl <;> decide +kernel
  have hquote : (Mode.name here ['r']).step .dart (here.after 'r') c
      = (openLiteral here c true, []) := by
    simp [step, hpart, hc]
  rw [read_cons, hstart, Reading.behind_nil, read_cons, hquote, Reading.behind_nil]

theorem read_backQuoted_start : Mode.blank.read .kotlin here ('\x60' :: text)
    = (Mode.backQuoted here []).read .kotlin (here.after '\x60') text := by
  have hblank : Text.isBlank '\x60' = false := by decide
  have hstep : Mode.blank.step .kotlin here '\x60' = (.backQuoted here [], []) := by
    simp [step, fresh, hblank]
  rw [read_cons, hstep, Reading.behind_nil]

/-- A name ends before the first character that does not go on with it. -/
theorem read_nameStart (hc : isNameStart c = true)
    (hraw : flavor = .dart → c = 'r' → ¬ (text.head? = some '"' ∨ text.head? = some '\'')) :
    Mode.blank.read flavor here (c :: text)
      = (Mode.blank.read flavor (Descent.past isNamePart here (c :: text)).here
          (Descent.past isNamePart here (c :: text)).rest).behind
        [here.token (.name (String.ofList ((c :: text).takeWhile isNamePart)))
          (Descent.past isNamePart here (c :: text)).here.offset] := by
  have hpart := isNamePart_of_isNameStart hc
  have hstart : Mode.blank.step flavor here c = (.name here [c], []) := fresh_of_isNameStart hc
  have hsplit : text = text.takeWhile isNamePart ++ text.dropWhile isNamePart :=
    List.takeWhile_append_dropWhile.symm
  have hread : (Mode.name here [c]).read flavor (here.after c)
      (text.takeWhile isNamePart ++ text.dropWhile isNamePart) = _ :=
    read_nameParts fun d hd => List.mem_takeWhile_imp hd
  rw [← hsplit] at hread
  rw [read_cons, hstart, Reading.behind_nil, hread, read_nameEnd]
  · simp [Descent.past, hpart, nameToken]
  · intro d hd
    have hnot := List.head?_dropWhile_not isNamePart text
    rw [Option.mem_def.1 hd] at hnot
    exact hnot
  · intro hdart hname d hd
    have hempty : text.takeWhile isNamePart = [] := by simpa using congrArg List.length hname
    have hr : c = 'r' := by simpa [hempty] using hname
    have hhead : text.head? = some d := by rwa [hsplit, hempty]
    have hne := hraw hdart hr
    rw [hhead] at hne
    simpa using hne

theorem read_digit_start (hblank : Text.isBlank c = false) (hname : isNameStart c = false)
    (hc : c.isDigit = true) : Mode.blank.read flavor here (c :: text)
      = (Mode.blank.read flavor (Descent.number here (c :: text)).here
          (Descent.number here (c :: text)).rest).behind
        [here.token .number (Descent.number here (c :: text)).here.offset] := by
  have hne : ∀ d : Char, d.isDigit = false → c ≠ d := fun d hd heq => by
    rw [heq, hd] at hc
    cases hc
  have hstep : Mode.blank.step flavor here c = (.number here, []) := by
    simp [step, fresh, hblank, hname, hc, hne '/' (by decide), hne '"' (by decide),
      hne '\'' (by decide), hne '\x60' (by decide)]
  rw [read_cons, hstep, Reading.behind_nil, read_numberParts, Descent.number,
    if_pos (isNumberPart_of_isDigit hc)]

/-- A slash that opens no comment is a sign. -/
theorem read_slash (h : text.head? ≠ some '/') (h' : text.head? ≠ some '*') :
    Mode.blank.read flavor here ('/' :: text)
      = (Mode.blank.read flavor (here.after '/') text).behind
          [here.token (.sign '/') (here.offset + 1)] := by
  rw [read_cons, fresh_slash, Reading.behind_nil]
  cases text with
  | nil => rfl
  | cons d text =>
    have hd : d ≠ '/' := by simpa using h
    have hd' : d ≠ '*' := by simpa using h'
    have hstep : (Mode.slash here).step flavor (here.after '/') d
        = completedBefore flavor (here.after '/') d
            [here.token (.sign '/') (here.after '/').offset] := by
      rw [step, if_neg hd, if_neg hd']
    exact (settles_completedBefore (by simp) rfl hstep).2.2

end Mode

/-- A token before what a checked reading leads to. -/
theorem Reading.Follows.behind {r : Reading} {checked : Checked (List Token)}
    (h : r.Follows checked fun ts => ⟨ts, none⟩) (t : Token) :
    (r.behind [t]).Follows (checked >>= fun more => pure (t :: more)) fun ts => ⟨ts, none⟩ := by
  cases checked with
  | error halt => exact h
  | ok ts =>
    obtain rfl : r = ⟨ts, none⟩ := h
    rfl

namespace Descent

/-- **Texts are read as by descent.** -/
theorem agrees_tokens (flavor : Flavor) (calls : Nat) (cur : Cursor)
    (hcalls : cur.rest.length + 1 < calls) :
    (Mode.blank.read flavor cur.here cur.rest).Follows (tokens flavor calls cur)
      fun ts => ⟨ts, none⟩ := by
  induction calls generalizing cur with
  | zero => omega
  | succ calls ih =>
    obtain ⟨here, text⟩ := cur
    cases text with
    | nil => rfl
    | cons c rest =>
      have hlength : rest.length + 1 < calls := by simpa using hcalls
      rw [tokens]
      split
      case isTrue hblank =>
        rw [Mode.read_blank hblank]
        exact ih ⟨here.after c, rest⟩ hlength
      case isFalse hblank =>
      split
      case isTrue hline =>
        obtain ⟨rest, rfl⟩ := List.head?_eq_some_iff.1 hline.2
        rw [hline.1, Mode.read_lineComment_start]
        refine ih _ ?_
        have := List.length_dropWhile_le (· != '\n') rest
        simp [past] at hlength ⊢
        omega
      case isFalse hline =>
      split
      case isTrue hblock =>
        obtain ⟨rest, rfl⟩ := List.head?_eq_some_iff.1 hblock.2
        rw [hblock.1, Mode.read_blockComment_start]
        have hsame : blockComment 0 here ('/' :: '*' :: rest)
            = blockComment 1 ((here.after '/').after '*') rest := rfl
        rw [hsame]
        refine (agrees_blockComment here 0 _ rest).bind fun next hnext => ih next ?_
        have := (ahead_blockComment _ _ _ _ hnext).length_lt
        simp at this hlength
        omega
      case isFalse hblock =>
      split
      case isTrue hquote =>
        have hne : c ≠ '\\' := by rcases hquote with rfl | rfl <;> decide
        rw [Mode.read_literal_start hquote]
        refine ((agrees flavor calls).literal ⟨here, [], .opening c false false, []⟩ here c rest
          false rfl hne (fun _ => rfl) hlength).bind fun (content, next) hnext => ?_
        have := ((ahead flavor calls).1 _ _ _ _ hnext).length_lt
        exact (ih next (by simp at this; omega)).behind _
      case isFalse hquote =>
      split
      case isTrue hraw =>
        obtain ⟨rfl, rfl, hmark⟩ := hraw
        obtain ⟨q, rest, rfl, hq⟩ : ∃ q tail, rest = q :: tail ∧ (q = '"' ∨ q = '\'') := by
          rcases hmark with hhead | hhead <;>
            obtain ⟨tail, rfl⟩ := List.head?_eq_some_iff.1 hhead <;> simp
        have hne : q ≠ '\\' := by rcases hq with rfl | rfl <;> decide
        rw [Mode.read_raw_start hq]
        refine ((agrees .dart calls).literal ⟨here, [], .opening q true false, []⟩ (here.after 'r')
          q rest true rfl hne (fun _ => rfl) (by simp at hlength; omega)).bind
          fun (content, next) hnext => ?_
        have := ((ahead .dart calls).1 _ _ _ _ hnext).length_lt
        exact (ih next (by simp at this hlength; omega)).behind _
      case isFalse hraw =>
      split
      case isTrue hback =>
        obtain ⟨rfl, rfl⟩ := hback
        rw [Mode.read_backQuoted_start]
        refine (agrees_backQuoted here [] _ rest).bind fun (name, next) hnext => ?_
        have := length_backQuoted hnext
        exact (ih next (by omega)).behind _
      case isFalse hback =>
      split
      case isTrue hname =>
        rw [Mode.read_nameStart hname fun hdart hr hhead => hraw ⟨hdart, hr, hhead⟩]
        refine (ih _ ?_).behind _
        have := List.length_dropWhile_le isNamePart rest
        simp [past, isNamePart_of_isNameStart hname]
        omega
      case isFalse hname =>
      split
      case isTrue hdigit =>
        rw [Mode.read_digit_start (by simpa using hblank) (by simpa using hname) hdigit]
        refine (ih _ ?_).behind _
        have := length_number_le (here.after c) rest
        rw [number, if_pos (Mode.isNumberPart_of_isDigit hdigit)]
        exact lt_of_le_of_lt (Nat.succ_le_succ this) hlength
      case isFalse hdigit =>
        have hread : Mode.blank.read flavor here (c :: rest)
            = (Mode.blank.read flavor (here.after c) rest).behind
                [here.token (.sign c) (here.offset + 1)] := by
          by_cases hslash : c = '/'
          · subst hslash
            exact Mode.read_slash (fun h => hline ⟨rfl, h⟩) fun h => hblock ⟨rfl, h⟩
          · have hstep : Mode.blank.step flavor here c
                = (.blank, [here.token (.sign c) (here.offset + 1)]) := by
              simp [Mode.step, Mode.fresh, hblank, hslash, hquote, hback, hname, hdigit]
            rw [Mode.read_cons, hstep]
        rw [hread]
        exact (ih ⟨here.after c, rest⟩ hlength).behind _

/-- **No check fails** when a text is read by descent, and the tokens are those of the lexer. -/
theorem tokens_eq (flavor : Flavor) (text : List Char) :
    tokens flavor (text.length + 2) ⟨.origin, text⟩
      = Checked.refusing (Lexer.tokens flavor text) := by
  have hagrees := agrees_tokens flavor (text.length + 2) ⟨.origin, text⟩ (Nat.lt_succ_self _)
  rw [Lexer.tokens_eq]
  cases htokens : tokens flavor (text.length + 2) ⟨.origin, text⟩ with
  | ok ts =>
    rw [htokens] at hagrees
    have hread : Mode.blank.read flavor .origin text = ⟨ts, none⟩ := hagrees
    rw [hread]
    rfl
  | error halt =>
    rw [htokens] at hagrees
    obtain ⟨rfl, hrefused⟩ := hagrees
    obtain ⟨e, he⟩ := Option.isSome_iff_exists.1 hrefused
    rw [Reading.result, he]
    rfl

end Descent

end SdkAudit
