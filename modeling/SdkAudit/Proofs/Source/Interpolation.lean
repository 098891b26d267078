import SdkAudit.Proofs.Outline.Arena
import SdkAudit.Proofs.Source.Spans

/-!
# Code in interpolations

What an interpolation holds is code, and it is passed over by its quotes and braces alone.  So its
end is found if comments and quoted names in it hold neither quotes nor braces, and raw literals
nothing that has a meaning in other literals.  Code with a quote in a comment, or with a backslash
in a raw literal, is misread.

* `bracesAfter`, `Balanced.bracesAfter_append` — the braces that are open behind some tokens;
* `Plain` — a comment, a raw literal or a quoted name that may be passed over;
* `Reads.of_raw` — raw literals that are read like others;
* `Spans.reads_hole` — **plain code is passed over**, whatever it nests;
* `interpolated`, `PassesOver`, `passesOver` — **when a literal with an interpolation is one
  token**;
* `tokens_interpolated_raw` — code that is misread.
-/

namespace SdkAudit

variable {flavor : Flavor} {style style' : Quoting} {p : Place} {c q : Char} {depth e : Nat}
  {w x text content rest trailing : List Char} {t : Token} {ts : List Token}

/-! ### Braces behind tokens -/

/-- The number of braces that are open behind some tokens, unless one is closed that is not open. -/
def bracesAfter : Nat → List Token → Option Nat
  | depth, [] => some depth
  | depth, t :: ts =>
    if t.bracket? = some (.opening .curly) then bracesAfter (depth + 1) ts
    else if t.bracket? = some (.closing .curly) then
      if depth = 0 then none else bracesAfter (depth - 1) ts
    else bracesAfter depth ts

theorem bracesAfter_opening (h : t.bracket? = some (.opening .curly)) :
    bracesAfter depth (t :: ts) = bracesAfter (depth + 1) ts := by
  rw [bracesAfter, if_pos h]

theorem bracesAfter_closing (h : t.bracket? = some (.closing .curly)) :
    bracesAfter depth (t :: ts) = if depth = 0 then none else bracesAfter (depth - 1) ts := by
  rw [bracesAfter, if_neg (by simp [h]), if_pos h]

theorem bracesAfter_other (hopen : t.bracket? ≠ some (.opening .curly))
    (hclose : t.bracket? ≠ some (.closing .curly)) :
    bracesAfter depth (t :: ts) = bracesAfter depth ts := by
  rw [bracesAfter, if_neg hopen, if_neg hclose]

/-- Balanced tokens leave as many braces open as there were. -/
theorem Balanced.bracesAfter_append (h : Balanced ts) (depth : Nat) (more : List Token) :
    bracesAfter depth (ts ++ more) = bracesAfter depth more := by
  induction h generalizing depth more with
  | nil => rfl
  | @token before t _ ht ih =>
    rw [List.append_assoc, ih]
    exact bracesAfter_other (by simp [ht]) (by simp [ht])
  | @group before inner opener closer kind _ hopener _ hcloser ihbefore ihinner =>
    have htext : before ++ opener :: (inner ++ [closer]) ++ more
        = before ++ opener :: (inner ++ closer :: more) := by simp
    rw [htext, ihbefore]
    cases kind with
    | curly =>
      rw [bracesAfter_opening hopener, ihinner, bracesAfter_closing hcloser,
        if_neg (Nat.succ_ne_zero depth)]
      rfl
    | round | square =>
      rw [bracesAfter_other (by simp [hopener]) (by simp [hopener]), ihinner,
        bracesAfter_other (by simp [hcloser]) (by simp [hcloser])]

/-! ### Plain code -/

/-- A character without a meaning in an interpolation. -/
structure Inert (c : Char) : Prop where
  not_quote : ¬ IsQuote c
  ne_opening : c ≠ '\x7b'
  ne_closing : c ≠ '\x7d'

/-- Parts of code that may be passed over by their quotes and braces. -/
def Plain : Unseen → List Char → Prop
  | .comment, w | .quotedName, w => ∀ c ∈ w, Inert c
  | .rawText, w => '\\' ∉ w ∧ ¬ ['$', '\x7b'] <:+: w

/-- A character is inert if quotes and braces are not what it is. -/
theorem Inert.of_such (isSuch : Char → Bool) (hc : isSuch c = true)
    (hsuch : isSuch '"' = false ∧ isSuch '\'' = false ∧ isSuch '\x7b' = false ∧
      isSuch '\x7d' = false) : Inert c := by
  have hne : ∀ d, isSuch d = false → c ≠ d := fun d hd heq => by
    rw [heq, hd] at hc
    cases hc
  obtain ⟨hdouble, hsingle, hopen, hclose⟩ := hsuch
  exact ⟨not_or.2 ⟨hne _ hdouble, hne _ hsingle⟩, hne _ hopen, hne _ hclose⟩

namespace Reads

/-- Inert characters are passed over. -/
theorem hole_append (hw : ∀ c ∈ w, Inert c) (h : Reads flavor (.hole depth) text [] rest) :
    Reads flavor (.hole depth) (w ++ text) [] rest := by
  induction w with
  | nil => exact h
  | cons c w ih =>
    have hc := hw c (by simp)
    exact .other hc.not_quote hc.ne_opening hc.ne_closing (ih fun d hd => hw d (by simp [hd]))

/-- A raw literal without backslashes and without interpolations reads like another one. -/
theorem body_of_raw (h : Reads flavor (.body style) text content rest)
    (hescapes : style.escapes = false) (hinterpolates : style.interpolates = false)
    (hquote : style'.quote = style.quote) (htriple : style'.triple = style.triple)
    (htext : text = x ++ rest) (hplain : Plain .rawText x) :
    Reads flavor (.body style') text content rest := by
  generalize hpart : Part.body style = part at h
  induction h generalizing x with
  | close hsingle =>
    cases hpart
    rw [← hquote]
    exact .close (htriple.trans hsingle)
  | closeThree hthree =>
    cases hpart
    rw [← hquote]
    exact .closeThree (htriple.trans hthree)
  | escape h =>
    cases hpart
    rw [hescapes] at h
    cases h
  | hole h =>
    cases hpart
    rw [hinterpolates] at h
    cases h
  | @char _ c text content rest hc hbody ih =>
    cases hpart
    obtain ⟨y, hy, rfl⟩ := hbody.exists_split
    obtain rfl : c :: y = x := List.append_cancel_right htext
    obtain ⟨hslash, hdollar⟩ := hplain
    have hy' : Plain .rawText y :=
      ⟨fun hmem => hslash (List.mem_cons_of_mem c hmem),
        fun hpair => hdollar (hpair.trans (List.suffix_cons c y).isInfix)⟩
    refine .char ⟨?_, ?_, ?_, ?_⟩ (ih rfl hy' rfl)
    · rintro ⟨-, rfl⟩
      exact hslash (by simp)
    · rw [hquote, htriple]
      exact hc.not_close
    · rw [htriple]
      exact hc.not_line
    · rintro ⟨-, rfl, hhead⟩
      obtain ⟨d, y, rfl⟩ := List.exists_cons_of_ne_nil hy
      obtain rfl : d = '\x7b' := by simpa using hhead
      exact hdollar ⟨[], y, rfl⟩
  | single | triple | holeEnd | opening | closing | quoted | other => cases hpart

/-- **A plain raw literal reads like another one.** -/
theorem of_raw (h : Reads flavor (.literal true) (x ++ rest) content rest)
    (hplain : Plain .rawText x) : Reads flavor (.literal false) (x ++ rest) content rest := by
  generalize htext : x ++ rest = text at h
  have hsuffix : ∀ {front y : List Char}, x = front ++ y → Plain .rawText y := by
    rintro front y rfl
    exact ⟨fun hmem => hplain.1 (List.mem_append_right front hmem),
      fun hpair => hplain.2 (hpair.trans (List.suffix_append front y).isInfix)⟩
  cases h with
  | @single _ q _ _ _ hq htake hbody =>
    obtain ⟨y, -, rfl⟩ := hbody.exists_split
    have hx : x = [q] ++ y := List.append_cancel_right htext
    exact .single hq htake (hbody.body_of_raw rfl rfl rfl rfl rfl (hsuffix hx))
  | @triple _ q _ _ _ hq hbody =>
    obtain ⟨y, -, rfl⟩ := hbody.exists_split
    have hx : x = [q, q, q] ++ y := List.append_cancel_right htext
    exact .triple hq (hbody.body_of_raw rfl rfl rfl rfl rfl (hsuffix hx))

end Reads

/-- A gap of plain comments holds inert characters only. -/
theorem Gap.inert (h : Gap Plain x) : ∀ c ∈ x, Inert c := by
  induction h with
  | nil => simp
  | blank hc _ ih =>
    rintro d hd
    rcases List.mem_cons.1 hd with rfl | hd
    · exact .of_such Text.isBlank hc (by decide)
    · exact ih d hd
  | line _ hw _ ih =>
    intro d hd
    rcases List.mem_append.1 hd with hd | hd
    · exact hw d hd
    rcases List.mem_cons.1 hd with rfl | hd
    · exact .of_such Text.isBlank (by decide) (by decide)
    · exact ih d hd
  | block _ hw _ ih =>
    intro d hd
    rcases List.mem_append.1 hd with hd | hd
    · exact hw d hd
    · exact ih d hd

theorem NumberRest.inert (h : NumberRest w rest) : ∀ c ∈ w, Inert c := by
  induction h with
  | nil => simp
  | part hc _ ih =>
    rintro d hd
    rcases List.mem_cons.1 hd with rfl | hd
    · exact .of_such isNumberPart hc (by decide +kernel)
    · exact ih d hd
  | point _ _ ih =>
    rintro d hd
    rcases List.mem_cons.1 hd with rfl | hd
    · exact .of_such (· == '.') (by decide) (by decide)
    · exact ih d hd

/-- The span of a token that is no sign and no literal holds inert characters only. -/
theorem Covers.inert {lexeme : Lexeme} {span : List Char}
    (h : Covers flavor Plain lexeme span rest) (hsign : ∀ c, lexeme ≠ .sign c)
    (htext : ∀ content, lexeme ≠ .text content) : ∀ c ∈ span, Inert c := by
  cases h with
  | name hw _ _ =>
    exact fun c hc => .of_such isNamePart (isNamePart_of_isPlainName hw hc) (by decide +kernel)
  | quotedName _ _ _ hplain => exact hplain
  | sign => exact absurd rfl (hsign _)
  | number hdigit hrest =>
    rintro d hd
    rcases List.mem_cons.1 hd with rfl | hd
    · exact .of_such Char.isDigit hdigit (by decide)
    · exact hrest.inert d hd
  | text => exact absurd rfl (htext _)
  | rawText => exact absurd rfl (htext _)

/-- A literal is passed over, and what follows behind it. -/
theorem Covers.reads_hole_text {span content tail more : List Char} {depth : Nat}
    (h : Covers flavor Plain (.text (String.ofList content)) span rest) (htail : Unquoted tail)
    (hmore : Reads flavor (.hole depth) (rest ++ tail) [] more) :
    Reads flavor (.hole depth) (span ++ (rest ++ tail)) [] more := by
  generalize hlexeme : Lexeme.text (String.ofList content) = lexeme at h
  cases h with
  | name | quotedName | sign | number => cases hlexeme
  | @text q w _ _ hreads =>
    have hquoted := Reads.quoted (hreads.extend htail) hmore
    simpa using hquoted
  | @rawText q w content _ _ hplain hreads =>
    have hsplit : q :: w ++ q :: rest = q :: w ++ [q] ++ rest := by simp
    rw [hsplit] at hreads
    have hplain' : Plain .rawText (q :: w ++ [q]) :=
      ⟨fun hmem => hplain.1 (List.mem_cons_of_mem 'r' hmem),
        fun hpair => hplain.2 (hpair.trans (List.suffix_cons 'r' _).isInfix)⟩
    have hquoted := Reads.quoted ((hreads.of_raw hplain').extend htail) hmore
    have hmark : Inert 'r' := .of_such (· == 'r') (by decide) (by decide)
    have hother := Reads.other hmark.not_quote hmark.ne_opening hmark.ne_closing hquoted
    simpa using hother

/-- **Plain code is passed over**: it leaves as many braces open as its tokens do. -/
theorem Spans.reads_hole (h : Spans flavor Plain p text ts trailing) (htrailing : trailing = [])
    {depth e : Nat} (hbraces : bracesAfter depth ts = some e) {tail : List Char}
    (htail : Unquoted tail) (hhole : Reads flavor (.hole e) tail [] rest) :
    Reads flavor (.hole depth) (text ++ tail) [] rest := by
  induction h generalizing depth with
  | nil hgap =>
    obtain rfl : depth = e := by simpa [bracesAfter] using hbraces
    exact hhole.hole_append hgap.inert
  | trailing _ hw =>
    obtain ⟨x, hx, -⟩ := hw
    rw [htrailing] at hx
    cases hx
  | @cons p gap span rest' trailing lexeme ts hgap hcovers _ ih =>
    have hsplit : gap ++ (span ++ rest') ++ tail = gap ++ (span ++ (rest' ++ tail)) := by simp
    rw [hsplit]
    refine Reads.hole_append hgap.inert ?_
    generalize htoken : (p.along gap).token lexeme (p.along (gap ++ span)).offset = t at hbraces
    have hlexeme : t.lexeme = lexeme := by rw [← htoken]; rfl
    -- behind a token that is no brace, as many braces are open as before it
    have hsame : t.bracket? ≠ some (.opening .curly) → t.bracket? ≠ some (.closing .curly) →
        Reads flavor (.hole depth) (rest' ++ tail) [] rest := fun hopen hclose =>
      ih htrailing (by rwa [bracesAfter_other hopen hclose] at hbraces)
    cases lexeme with
    | name name =>
      refine Reads.hole_append (hcovers.inert (by simp) (by simp)) (hsame ?_ ?_) <;>
        simp [Token.bracket?, hlexeme]
    | number =>
      refine Reads.hole_append (hcovers.inert (by simp) (by simp)) (hsame ?_ ?_) <;>
        simp [Token.bracket?, hlexeme]
    | text content =>
      rw [← String.ofList_toList (s := content)] at hcovers
      refine hcovers.reads_hole_text htail (hsame ?_ ?_) <;> simp [Token.bracket?, hlexeme]
    | sign c =>
      obtain ⟨hsign, rfl⟩ : IsSign flavor c rest' ∧ span = [c] := by
        cases hcovers with
        | sign hsign => exact ⟨hsign, rfl⟩
      by_cases hopen : c = '\x7b'
      · subst hopen
        have hbracket : t.bracket? = some (.opening .curly) := by simp [Token.bracket?, hlexeme]
        rw [bracesAfter_opening hbracket] at hbraces
        exact .opening (ih htrailing hbraces)
      by_cases hclose : c = '\x7d'
      · subst hclose
        have hbracket : t.bracket? = some (.closing .curly) := by simp [Token.bracket?, hlexeme]
        rw [bracesAfter_closing hbracket] at hbraces
        cases depth with
        | zero => cases hbraces
        | succ depth => exact .closing (ih htrailing hbraces)
      · refine .other hsign.not_quote hopen hclose (hsame ?_ ?_)
        · rw [ne_eq, Token.bracket?_eq_opening, Token.isSign_iff, hlexeme]
          simpa [Bracket.opener] using hopen
        · rw [ne_eq, Token.bracket?_eq_closing, Token.isSign_iff, hlexeme]
          simpa [Bracket.closer] using hclose

/-! ### A literal with an interpolation -/

/-- A literal that is an interpolation of some code. -/
def interpolated (q : Char) (code : List Char) : List Char :=
  q :: '$' :: '\x7b' :: (code ++ ['\x7d', q])

/-- The token that is an empty text and the whole of the literal. -/
def interpolationToken (q : Char) (code : List Char) : Token :=
  Place.origin.token (.text "") (interpolated q code).length

theorem reads_of_covers (hq : IsQuote q) {code : List Char}
    (h : Covers flavor Anything (.text "") (interpolated q code) []) :
    Reads flavor (.literal false) (interpolated q code) [] [] := by
  generalize hlexeme : Lexeme.text "" = lexeme at h
  generalize hspan : interpolated q code = span at h
  cases h with
  | name | quotedName | sign | number => cases hlexeme
  | @text q' w content _ hreads =>
    have hcontent : content = [] := by
      have htext : "" = String.ofList content := Lexeme.text.inj hlexeme
      simpa using congrArg String.toList htext.symm
    rw [hcontent] at hreads
    exact hreads
  | rawText =>
    obtain ⟨rfl, -⟩ := List.cons.inj hspan
    rcases hq with hq | hq <;> cases hq

/-- **Reading by quotes and braces alone decides** whether the literal is one token. -/
theorem tokens_interpolated_iff (hq : IsQuote q) (code : List Char) :
    Lexer.tokens flavor (interpolated q code) = .ok [interpolationToken q code] ↔
      Reads flavor (.literal false) (interpolated q code) [] [] := by
  have hspan : interpolated q code = q :: ('$' :: '\x7b' :: (code ++ ['\x7d'])) ++ [q] := by
    simp [interpolated]
  rw [Lexer.tokens_eq_ok_iff]
  constructor
  · rintro ⟨trailing, hspans⟩
    obtain ⟨before, span, rest, htext, hcovers, htoken⟩ := hspans.exists_span List.mem_cons_self
    have hstart := congrArg Token.start htoken
    have hstop := congrArg Token.stop htoken
    have hlength := congrArg List.length htext
    simp only [interpolationToken, Place.token, Place.origin, Place.offset_along,
      List.length_append] at hstart hstop hlength
    obtain rfl : before = [] := List.eq_nil_of_length_eq_zero (by omega)
    obtain rfl : rest = [] := List.eq_nil_of_length_eq_zero (by omega)
    rw [List.nil_append, List.append_nil] at htext
    have hlexeme : (interpolationToken q code).lexeme = .text "" := rfl
    rw [hlexeme, ← htext] at hcovers
    exact reads_of_covers hq hcovers
  · intro hreads
    rw [hspan] at hreads
    have hcovers : Covers flavor Anything (.text "") (interpolated q code) [] := by
      rw [hspan]
      exact .text hreads
    have hnone : Spans flavor Anything (Place.origin.along (interpolated q code)) [] [] [] :=
      .nil .nil
    have hspans := Spans.push_token hcovers hnone
    exact ⟨[], by simpa [interpolationToken, Place.origin] using hspans⟩

/-- The code has tokens and may be passed over. -/
def IsPlainCode (flavor : Flavor) (code : List Char) : Prop :=
  ∃ ts, Spans flavor Plain .origin code ts []

/-- When a literal that is an interpolation of some code is one token. -/
structure PassesOver (flavor : Flavor) (q : Char) (code : List Char) : Prop where
  /-- It is one exactly if reading by quotes and braces alone leads from its opening quote to its
  last quote. -/
  exact : Lexer.tokens flavor (interpolated q code) = .ok [interpolationToken q code] ↔
    Reads flavor (.literal false) (interpolated q code) [] []
  /-- It is one for all code that has balanced tokens and does not end in a comment to the end of
  its line, if comments and quoted names in the code hold neither quotes nor braces, and raw
  literals neither backslashes nor interpolations. -/
  plain : ∀ ts, Lexer.tokens flavor code = .ok ts → Balanced ts → IsPlainCode flavor code →
    Lexer.tokens flavor (interpolated q code) = .ok [interpolationToken q code]

/-- **An interpolation is passed over** to the end of its literal if its code is plain. -/
theorem passesOver (flavor : Flavor) {q : Char} (hq : IsQuote q) (code : List Char) :
    PassesOver flavor q code := by
  refine ⟨tokens_interpolated_iff hq code, ?_⟩
  rintro ts hts hbalanced ⟨us, hspans⟩
  obtain rfl : us = ts := Except.ok.inj (hspans.tokens_eq.symm.trans hts)
  have hbraces : bracesAfter 0 us = some 0 := by
    have hmore := hbalanced.bracesAfter_append 0 []
    rwa [List.append_nil] at hmore
  have htail : Unquoted ['\x7d', q] := by
    intro c hc
    obtain rfl : '\x7d' = c := by simpa using hc
    simp [IsQuote]
  have hhole := hspans.reads_hole rfl hbraces htail .holeEnd
  have htake : ('$' :: '\x7b' :: (code ++ ['\x7d', q])).take 2 ≠ [q, q] := by
    rcases hq with rfl | rfl <;> simp
  exact (tokens_interpolated_iff hq code).2 (.single hq htake (.hole rfl hhole (.close rfl)))

/-- For instance if the code is a literal between braces, and the literal holds a brace. -/
theorem passesOver_braces :
    IsQuote '"' ∧ ∃ ts, Lexer.tokens .dart "\x7b'\x7d'\x7d".toList = .ok ts ∧ Balanced ts ∧
      IsPlainCode .dart "\x7b'\x7d'\x7d".toList ∧
      Lexer.tokens .dart (interpolated '"' "\x7b'\x7d'\x7d".toList)
        = .ok [interpolationToken '"' "\x7b'\x7d'\x7d".toList] := by
  have hquote : IsQuote '"' := .inl rfl
  have hopen : IsSign .dart '\x7b' ['\'', '\x7d', '\'', '\x7d'] :=
    ⟨by decide, by simp [IsQuote], by simp, by decide +kernel, by decide, by decide⟩
  have hclose : IsSign .dart '\x7d' [] :=
    ⟨by decide, by simp [IsQuote], by simp, by decide +kernel, by decide, by decide⟩
  have hliteral : Reads .dart (.literal false) ['\'', '\x7d', '\'', '\x7d'] ['\x7d'] ['\x7d'] :=
    .single (.inr rfl) (by decide)
      (.char ⟨by decide, by decide, by decide, by decide⟩ (.close rfl))
  have htext : Covers .dart Plain (.text (String.ofList ['\x7d'])) ['\'', '\x7d', '\''] ['\x7d'] :=
    .text (w := ['\x7d']) hliteral
  have hspans : Spans .dart Plain .origin "\x7b'\x7d'\x7d".toList
      [⟨.sign '\x7b', .origin, 0, 1⟩, ⟨.text "\x7d", ⟨0, 1⟩, 1, 4⟩,
        ⟨.sign '\x7d', ⟨0, 4⟩, 4, 5⟩] [] :=
    Spans.push_token (.sign hopen) (Spans.push_token htext
      (Spans.push_token (.sign hclose) (.nil .nil)))
  have hinner : Balanced [⟨.text "\x7d", ⟨0, 1⟩, 1, 4⟩] := .token .nil rfl
  have hbalanced : Balanced ([] ++ ⟨.sign '\x7b', .origin, 0, 1⟩ ::
      ([⟨.text "\x7d", ⟨0, 1⟩, 1, 4⟩] ++ [⟨.sign '\x7d', ⟨0, 4⟩, 4, 5⟩])) :=
    .group .curly .nil rfl hinner rfl
  exact ⟨hquote, _, hspans.tokens_eq, hbalanced, ⟨_, hspans⟩,
    (passesOver .dart hquote _).plain _ hspans.tokens_eq hbalanced ⟨_, hspans⟩⟩

/-- A raw literal that is a backslash is read as another literal in an interpolation, where the
backslash takes away the meaning of its closing quote. -/
theorem tokens_interpolated_raw :
    Lexer.tokens .dart "r'\\'".toList = .ok [⟨.text "\\", .origin, 0, 4⟩] ∧
      Balanced [⟨.text "\\", .origin, 0, 4⟩] ∧
      Spans .dart Anything .origin "r'\\'".toList [⟨.text "\\", .origin, 0, 4⟩] [] ∧
      Lexer.tokens .dart (interpolated '"' "r'\\'".toList)
        = .error (.unterminatedString .origin) := by
  have hreads : Reads .dart (.literal true) ['\'', '\\', '\''] ['\\'] [] :=
    .single (.inr rfl) (by decide)
      (.char ⟨by decide, by decide, by decide, by decide⟩ (.close rfl))
  have hcovers : Covers .dart Anything (.text (String.ofList ['\\'])) ['r', '\'', '\\', '\''] [] :=
    .rawText (w := ['\\']) rfl trivial hreads
  have hspans : Spans .dart Anything .origin "r'\\'".toList [⟨.text "\\", .origin, 0, 4⟩] [] :=
    Spans.push_token hcovers (.nil .nil)
  have hbalanced : Balanced [⟨.text "\\", .origin, 0, 4⟩] := .token .nil rfl
  exact ⟨hspans.tokens_eq, hbalanced, hspans, by decide +kernel⟩

end SdkAudit
