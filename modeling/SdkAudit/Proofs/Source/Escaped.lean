import SdkAudit.Proofs.Source.Below
import SdkAudit.Proofs.Source.Spans

/-!
# Literals with escaped characters

Every text can be written as a literal between two quotes: a backslash goes before each character
that has a meaning there.  Such a literal is read back as the text, and what follows it is read as
if it stood by itself.

* `escaped`, `quoted` — a text as a literal;
* `Reads.body_escaped` — **escaping is undone**, up to the closing quote;
* `Mode.read_quoted` — a literal is read from its first to its last character, anywhere in a text;
* `Lexer.tokens_quoted` — **a quoted text is one token**, and then come the tokens of what follows.
-/

namespace SdkAudit

/-! ### Texts as literals -/

/-- A character with a meaning in a literal between these quotes. -/
def NeedsEscape (q c : Char) : Prop := c = q ∨ c = '\\' ∨ c = '$' ∨ c = '\n'

instance (q c : Char) : Decidable (NeedsEscape q c) :=
  inferInstanceAs (Decidable (_ ∨ _ ∨ _ ∨ _))

/-- A text with a backslash before every character that needs one. -/
def escaped (q : Char) (text : List Char) : List Char :=
  text.flatMap fun c => if NeedsEscape q c then ['\\', c] else [c]

/-- A text as a literal. -/
def quoted (q : Char) (text : List Char) : List Char := q :: escaped q text ++ [q]

/-- The token of a literal that starts a file. -/
def quotedToken (q : Char) (text : List Char) : Token :=
  ⟨.text (String.ofList text), .origin, 0, (quoted q text).length⟩

theorem escaped_nil (q : Char) : escaped q [] = [] := rfl

variable {flavor : Flavor} {q c : Char} {text rest : List Char}

theorem escaped_cons_of_needs (h : NeedsEscape q c) :
    escaped q (c :: text) = '\\' :: c :: escaped q text := by
  rw [escaped, List.flatMap_cons, if_pos h]
  rfl

theorem escaped_cons_of_not (h : ¬ NeedsEscape q c) :
    escaped q (c :: text) = c :: escaped q text := by
  rw [escaped, List.flatMap_cons, if_neg h]
  rfl

/-- A text that is escaped does not start with a quote. -/
theorem exists_head_escaped (hq : IsQuote q) (c : Char) (text : List Char) :
    ∃ d tail, escaped q (c :: text) = d :: tail ∧ d ≠ q := by
  by_cases h : NeedsEscape q c
  · refine ⟨'\\', c :: escaped q text, escaped_cons_of_needs h, ?_⟩
    rcases hq with rfl | rfl <;> decide
  · exact ⟨c, escaped q text, escaped_cons_of_not h, fun hc => h (.inl hc)⟩

/-! ### Reading literals back -/

namespace Reads

/-- **Escaping is undone**, up to the closing quote. -/
theorem body_escaped (text rest : List Char) :
    Reads flavor (.body (.single q false)) (escaped q text ++ q :: rest) text rest := by
  induction text with
  | nil => exact .close rfl
  | cons c text ih =>
    by_cases h : NeedsEscape q c
    · rw [escaped_cons_of_needs h]
      exact .escape rfl ih
    · rw [escaped_cons_of_not h]
      obtain ⟨hquote, hslash, hdollar, hline⟩ : c ≠ q ∧ c ≠ '\\' ∧ c ≠ '$' ∧ c ≠ '\n' := by
        simpa only [NeedsEscape, not_or] using h
      exact .char
        { not_escape := fun hc => hslash hc.2
          not_close := fun hc => absurd hc hquote
          not_line := fun hc => absurd hc hline
          not_hole := fun hc => hdollar hc.2.1 } ih

/-- A literal is read back where no quote follows it: two quotes before a third one would open a
literal with three. -/
theorem literal_quoted (hq : IsQuote q) (text : List Char) (hrest : rest.head? ≠ some q) :
    Reads flavor (.literal false) (q :: escaped q text ++ q :: rest) text rest := by
  refine .single hq ?_ (body_escaped text rest)
  cases text with
  | nil =>
    cases rest with
    | nil => simp [escaped_nil]
    | cons c rest => simpa [escaped_nil] using hrest
  | cons c text =>
    obtain ⟨d, tail, hhead, hd⟩ := exists_head_escaped hq c text
    simp [hhead, hd]

end Reads

/-- **A literal is read from its first to its last character**, anywhere in a text. -/
theorem Mode.read_quoted (hq : IsQuote q) (text : List Char) (hrest : rest.head? ≠ some q)
    (p : Place) : Mode.blank.read flavor p (quoted q text ++ rest)
      = (Mode.blank.read flavor (p.along (quoted q text)) rest).behind
          [p.token (.text (String.ofList text)) (p.along (quoted q text)).offset] := by
  have hcovers : Covers flavor Anything (.text (String.ofList text)) (quoted q text) rest :=
    .text (Reads.literal_quoted hq text hrest)
  exact hcovers.read p

/-- A literal is read back, and what follows it is read as by itself. -/
structure ReadsBack (flavor : Flavor) (q : Char) (text rest : List Char) : Prop where
  /-- The first token is the text, and then come the tokens of what follows, behind the literal. -/
  tokens : ∀ ts, Lexer.tokens flavor rest = .ok ts →
    Lexer.tokens flavor (quoted q text ++ rest) = .ok (quotedToken q text ::
      ts.map (Token.relocate (.behind (Place.origin.along (quoted q text)))))
  /-- If what follows is refused, it is refused there. -/
  refusal : ∀ e, Lexer.tokens flavor rest = .error e →
    Lexer.tokens flavor (quoted q text ++ rest)
      = .error (e.relocate (.behind (Place.origin.along (quoted q text))))

/-- **A quoted text is one token**, whatever the text, and what follows is read as by itself. -/
theorem Lexer.tokens_quoted (flavor : Flavor) {q : Char} (hq : IsQuote q) (text : List Char)
    {rest : List Char} (hrest : rest.head? ≠ some q) : ReadsBack flavor q text rest := by
  have hread : Lexer.tokens flavor (quoted q text ++ rest)
      = (((Mode.blank.read flavor .origin rest).relocate
          (.behind (Place.origin.along (quoted q text)))).behind [quotedToken q text]).result := by
    rw [Lexer.tokens_eq, Mode.read_quoted hq text hrest, Mode.read_behind]
    simp [quotedToken, Place.token, Place.origin]
  constructor
  · intro ts hts
    rw [Lexer.tokens_eq, Reading.result_eq_ok_iff] at hts
    rw [hread, hts]
    rfl
  · intro e he
    rw [Lexer.tokens_eq, Reading.result_eq_error_iff] at he
    rw [hread, Reading.result_eq_error_iff]
    simp [Reading.behind, Reading.relocate, he]

/-- For instance if every character with a meaning is in the text. -/
theorem tokens_quoted_meanings :
    IsQuote '\'' ∧ " + x".toList.head? ≠ some '\'' ∧
      ReadsBack .dart '\'' "it's $\x7bn\x7d\\\n".toList " + x".toList :=
  ⟨.inr rfl, by decide, Lexer.tokens_quoted .dart (.inr rfl) _ (by decide)⟩

end SdkAudit
