import SdkAudit.Proofs.Source.Below
import SdkAudit.Proofs.Source.Spans

/-!
# Literals between three quotes

Between three quotes a Kotlin literal holds any text without interpolations and without three quotes
in a row.  It is closed by the first three quotes, so quotes at the end of its text are not part of
it: of a longer run the last ones are left over and are read afresh.

* `tripleQuoted` — a text between three quotes;
* `Reads.body_tripled` — **a literal goes on to the first three quotes**;
* `Mode.read_tripleQuoted` — where the text does not end in a quote, the literal is read whole;
* `readToFirstThree` — **a literal is read whole exactly if its text does not end in a quote**, and
  what is read if it does;
* `tokens_quote_left_over` — a literal that is refused.
-/

namespace SdkAudit

/-! ### Texts between three quotes -/

/-- A text between three quotes. -/
def tripleQuoted (text : List Char) : List Char := ['"', '"', '"'] ++ text ++ ['"', '"', '"']

/-- A text that may stand between three quotes as it is: without three quotes in a row, and without
an interpolation. -/
structure IsTripleText (text : List Char) : Prop where
  quotes : ¬ ['"', '"', '"'] <:+: text
  holes : ¬ ['$', '\x7b'] <:+: text

variable {c : Char} {text rest : List Char} {p : Place}

theorem IsTripleText.of_infix {part : List Char} (h : IsTripleText text) (hpart : part <:+: text) :
    IsTripleText part :=
  ⟨fun hquotes => h.quotes (hquotes.trans hpart), fun hholes => h.holes (hholes.trans hpart)⟩

/-- Before three quotes, a character of a text stands for itself. -/
theorem IsTripleText.isText (h : IsTripleText (c :: text)) (hlast : (c :: text).getLast? ≠ some '"')
    (rest : List Char) :
    (Quoting.tripled .kotlin '"' false).IsText c (text ++ ['"', '"', '"'] ++ rest) where
  not_escape := by
    rintro ⟨hescapes, -⟩
    cases hescapes
  not_close := by
    intro hc
    obtain rfl : c = '"' := hc
    refine ⟨rfl, fun htake => ?_⟩
    -- the two quotes that follow would be in the text, or the text would end in a quote
    rcases text with _ | ⟨d, _ | ⟨e, text⟩⟩
    · exact hlast rfl
    · obtain rfl : d = '"' := by simpa using congrArg List.head? htake
      exact hlast rfl
    · obtain ⟨rfl, rfl⟩ : d = '"' ∧ e = '"' := by simpa using htake
      exact h.quotes ⟨[], text, rfl⟩
  not_line := fun _ => rfl
  not_hole := by
    rintro ⟨-, rfl, hhead⟩
    cases text with
    | nil => simp at hhead
    | cons d text =>
      obtain rfl : d = '\x7b' := by simpa using hhead
      exact h.holes ⟨[], text, rfl⟩

/-- **A literal goes on to the first three quotes.** -/
theorem Reads.body_tripled (h : IsTripleText text) (hlast : text.getLast? ≠ some '"')
    (rest : List Char) : Reads .kotlin (.body (.tripled .kotlin '"' false))
      (text ++ ['"', '"', '"'] ++ rest) text rest := by
  induction text with
  | nil => exact .closeThree rfl
  | cons c text ih =>
    have htail : text.getLast? ≠ some '"' := by
      intro htail
      have hne : text ≠ [] := by
        rintro rfl
        cases htail
      rw [List.getLast?_cons_of_ne_nil hne] at hlast
      exact hlast htail
    exact .char (h.isText hlast rest) (ih (h.of_infix (List.suffix_cons c text).isInfix) htail)

/-- **A literal is read whole** if its text does not end in a quote. -/
theorem Mode.read_tripleQuoted (h : IsTripleText text) (hlast : text.getLast? ≠ some '"')
    (p : Place) (rest : List Char) : Mode.blank.read .kotlin p (tripleQuoted text ++ rest)
      = (Mode.blank.read .kotlin (p.along (tripleQuoted text)) rest).behind
          [p.token (.text (String.ofList text)) (p.along (tripleQuoted text)).offset] := by
  have hcovers : Covers .kotlin Anything (.text (String.ofList text))
      ('"' :: (['"', '"'] ++ text ++ ['"', '"']) ++ ['"']) rest := by
    have htriple : Reads .kotlin (.literal false)
        ('"' :: '"' :: '"' :: (text ++ ['"', '"', '"'] ++ rest)) text rest :=
      .triple (.inl rfl) (Reads.body_tripled h hlast rest)
    exact .text (by simpa using htriple)
  have htext : tripleQuoted text = '"' :: (['"', '"'] ++ text ++ ['"', '"']) ++ ['"'] := by
    simp [tripleQuoted]
  rw [htext]
  exact hcovers.read p

/-! ### Quotes at the end -/

/-- A quote at the end of a text is left over behind the first three quotes. -/
theorem tripleQuoted_append_quote (front : List Char) :
    tripleQuoted (front ++ ['"']) = tripleQuoted front ++ ['"'] := by
  simp [tripleQuoted]

/-- Before two quotes at its end, a text does not end in a quote. -/
theorem IsTripleText.getLast?_ne {front : List Char} (h : IsTripleText (front ++ ['"', '"'])) :
    front.getLast? ≠ some '"' := by
  intro hlast
  obtain ⟨front, rfl⟩ := List.getLast?_eq_some_iff.1 hlast
  exact h.quotes ⟨front, [], by simp⟩

/-- A text ends in no quote, or in one or two of them. -/
theorem IsTripleText.ends (h : IsTripleText text) : text.getLast? ≠ some '"' ∨
    (∃ front, text = front ++ ['"'] ∧ front.getLast? ≠ some '"') ∨
      ∃ front, text = front ++ ['"', '"'] := by
  by_cases hlast : text.getLast? = some '"'
  · obtain ⟨front, rfl⟩ := List.getLast?_eq_some_iff.1 hlast
    by_cases hnext : front.getLast? = some '"'
    · obtain ⟨front, rfl⟩ := List.getLast?_eq_some_iff.1 hnext
      exact .inr (.inr ⟨front, by simp⟩)
    · exact .inr (.inl ⟨front, rfl, hnext⟩)
  · exact .inl hlast

/-- The token of a text between three quotes that starts a file. -/
def tripleQuotedToken (text : List Char) : Token :=
  ⟨.text (String.ofList text), .origin, 0, (tripleQuoted text).length⟩

namespace Lexer

/-- The tokens of a text between three quotes, and of what follows it. -/
theorem tokens_tripleQuoted_append (h : IsTripleText text) (hlast : text.getLast? ≠ some '"')
    (rest : List Char) : tokens .kotlin (tripleQuoted text ++ rest)
      = ((Mode.blank.read .kotlin (Place.origin.along (tripleQuoted text)) rest).behind
          [tripleQuotedToken text]).result := by
  rw [tokens_eq, Mode.read_tripleQuoted h hlast]
  simp [tripleQuotedToken, Place.token, Place.origin]

theorem tokens_tripleQuoted (h : IsTripleText text) (hlast : text.getLast? ≠ some '"') :
    tokens .kotlin (tripleQuoted text) = .ok [tripleQuotedToken text] := by
  have htokens := tokens_tripleQuoted_append h hlast []
  rwa [List.append_nil] at htokens

/-- One quote that is left over opens a literal that is not closed. -/
theorem tokens_tripleQuoted_quote (h : IsTripleText text) (hlast : text.getLast? ≠ some '"') :
    tokens .kotlin (tripleQuoted (text ++ ['"']))
      = .error (.unterminatedString (Place.origin.along (tripleQuoted text)).position) := by
  rw [tripleQuoted_append_quote, tokens_tripleQuoted_append h hlast]
  rfl

/-- Two quotes that are left over are a literal without text. -/
theorem tokens_tripleQuoted_quotes (h : IsTripleText text) (hlast : text.getLast? ≠ some '"') :
    tokens .kotlin (tripleQuoted (text ++ ['"', '"'])) = .ok [tripleQuotedToken text,
      (Place.origin.along (tripleQuoted text)).token (.text "")
        (tripleQuoted (text ++ ['"', '"'])).length] := by
  have hquotes : tripleQuoted (text ++ ['"', '"']) = tripleQuoted text ++ ['"', '"'] := by
    simp [tripleQuoted]
  rw [hquotes, tokens_tripleQuoted_append h hlast, List.length_append]
  have hstop : (Place.origin.along (tripleQuoted text)).offset = (tripleQuoted text).length := by
    rw [Place.offset_along]
    exact Nat.zero_add _
  rw [← hstop]
  rfl

end Lexer

/-- What is read of a text between three quotes. -/
structure ReadToFirstThree (text : List Char) : Prop where
  /-- It is one token, with this text, exactly if the text does not end in a quote. -/
  whole_iff : (∃ t, Lexer.tokens .kotlin (tripleQuoted text) = .ok [t] ∧
      t.lexeme = .text (String.ofList text)) ↔ text.getLast? ≠ some '"'
  whole : text.getLast? ≠ some '"' →
    Lexer.tokens .kotlin (tripleQuoted text) = .ok [tripleQuotedToken text]
  /-- One quote at the end of the text is left over and opens a literal that is not closed. -/
  oneLeft : ∀ front, text = front ++ ['"'] → front.getLast? ≠ some '"' →
    Lexer.tokens .kotlin (tripleQuoted text)
      = .error (.unterminatedString (Place.origin.along (tripleQuoted front)).position)
  /-- Two quotes at the end of the text are left over and are a literal without text. -/
  twoLeft : ∀ front, text = front ++ ['"', '"'] →
    Lexer.tokens .kotlin (tripleQuoted text) = .ok [tripleQuotedToken front,
      (Place.origin.along (tripleQuoted front)).token (.text "") (tripleQuoted text).length]

/-- **A text between three quotes is read to the first three quotes.** -/
theorem readToFirstThree (h : IsTripleText text) : ReadToFirstThree text := by
  have hfront : ∀ {front back}, text = front ++ back → IsTripleText front := by
    rintro front back rfl
    exact h.of_infix (List.prefix_append front back).isInfix
  refine ⟨⟨?_, fun hlast => ⟨_, Lexer.tokens_tripleQuoted h hlast, rfl⟩⟩,
    Lexer.tokens_tripleQuoted h, ?_, ?_⟩
  · rintro ⟨t, ht, -⟩
    rcases h.ends with hlast | ⟨front, htext, hlast⟩ | ⟨front, rfl⟩
    · exact hlast
    · rw [htext, Lexer.tokens_tripleQuoted_quote (hfront htext) hlast] at ht
      cases ht
    · rw [Lexer.tokens_tripleQuoted_quotes (hfront rfl) h.getLast?_ne] at ht
      cases ht
  · intro front htext hlast
    rw [htext]
    exact Lexer.tokens_tripleQuoted_quote (hfront htext) hlast
  · rintro front rfl
    exact Lexer.tokens_tripleQuoted_quotes (hfront rfl) h.getLast?_ne

/-- For instance a text that starts with quotes and holds signs that mean nothing here. -/
theorem readToFirstThree_signs : IsTripleText "\"\"$x\"\\\n\x7b".toList ∧
    ReadToFirstThree "\"\"$x\"\\\n\x7b".toList := by
  have htext : IsTripleText "\"\"$x\"\\\n\x7b".toList := ⟨by decide, by decide⟩
  exact ⟨htext, readToFirstThree htext⟩

/-- A text that ends in a quote is refused. -/
theorem tokens_quote_left_over : IsTripleText "a\"".toList ∧
    tripleQuoted "a\"".toList = "\"\"\"a\"\"\"\"".toList ∧
      Lexer.tokens .kotlin (tripleQuoted "a\"".toList) = .error (.unterminatedString ⟨0, 7⟩) :=
  ⟨⟨by decide, by decide⟩, by decide, by decide⟩

end SdkAudit
