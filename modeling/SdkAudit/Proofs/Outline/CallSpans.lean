import SdkAudit.Proofs.Outline.Braces
import SdkAudit.Proofs.Outline.Callee
import SdkAudit.Proofs.Source.Spans

/-!
# Calls at the spans of names

A text can be divided into gaps and the spans of its tokens, and a call stands where the span of a
name starts.  So neither a token nor a call comes from inside a gap or from inside the span of a
literal.  The span of a literal ends at the closing quote that is found by passing over its
interpolations by their quotes and braces, and comments are not known there: behind a brace in such
a comment the rest of the comment is read as code.

* `Place.position_along` — lines and columns, counted in the text;
* `Faithful`, `faithful` — **tokens and calls have their spans**, for every text;
* `calls_comment_in_hole` — a call from inside a comment.
-/

namespace SdkAudit

/-- **Lines are counted by line feeds, and columns from the last line feed on.** -/
theorem Place.position_along (text : List Char) : (Place.origin.along text).position
    = ⟨text.count '\n', (text.reverse.takeWhile (· != '\n')).length⟩ := by
  induction text using List.reverseRecOn with
  | nil => rfl
  | append_singleton text c ih =>
    have hafter : (Place.origin.along (text ++ [c])).position
        = (Place.origin.along text).position.after c := by
      rw [Place.along_append]
      rfl
    rw [hafter, ih, Position.after]
    by_cases hc : c = '\n'
    · simp [hc]
    · simp [hc]

/-- What holds of the tokens and of the calls of a text. -/
structure Faithful (flavor : Flavor) (source : String) : Prop where
  /-- The text has tokens exactly if it can be divided into gaps and their spans. -/
  tokens : ∀ ts, Lexer.tokens flavor source.toList = .ok ts ↔
    ∃ trailing, Spans flavor Anything .origin source.toList ts trailing
  /-- Spans come one after the other. -/
  increasing : ∀ ts, Lexer.tokens flavor source.toList = .ok ts →
    ts.Pairwise fun t u => t.stop ≤ u.start
  /-- A token lies at its span, and its position counts the line feeds before the span and the
  characters from the last one on. -/
  position : ∀ ts, Lexer.tokens flavor source.toList = .ok ts → ∀ t ∈ ts, ∃ before span rest,
    source.toList = before ++ (span ++ rest) ∧ Covers flavor Anything t.lexeme span rest ∧
      t.start = before.length ∧ t.stop = before.length + span.length ∧
      t.position = ⟨before.count '\n', (before.reverse.takeWhile (· != '\n')).length⟩
  /-- A call stands where the span of a name starts. -/
  calls : ∀ outline, Scan.tokenOutline flavor source = .ok outline → ∀ call ∈ outline.calls,
    ∃ ts, Lexer.tokens flavor source.toList = .ok ts ∧
      ∃ t ∈ ts, t.position = call.position ∧ ∃ name, t.name? = some name

/-- **Tokens and calls have their spans**, in every text. -/
theorem faithful (flavor : Flavor) (source : String) : Faithful flavor source := by
  refine ⟨fun ts => Lexer.tokens_eq_ok_iff, ?_, ?_, ?_⟩
  · intro ts hts
    obtain ⟨trailing, hspans⟩ := Lexer.tokens_eq_ok_iff.1 hts
    exact hspans.pairwise
  · intro ts hts t ht
    obtain ⟨trailing, hspans⟩ := Lexer.tokens_eq_ok_iff.1 hts
    obtain ⟨before, span, rest, hsource, hcovers, htoken⟩ := hspans.exists_span ht
    refine ⟨before, span, rest, hsource, hcovers, ?_, ?_, ?_⟩
    · rw [htoken]
      simp [Place.token, Place.origin]
    · rw [htoken]
      simp [Place.token, Place.origin]
    · rw [htoken]
      exact Place.position_along before
  · intro outline houtline call hcall
    obtain ⟨ts, n, hts, hn, rfl⟩ := tokenOutline_eq_ok_iff.1 houtline
    obtain ⟨hproper, rfl⟩ := Nesting.ofTokens_eq_ok_iff.1 hn
    obtain ⟨t, ht, hposition, name, hname, -⟩ := Outline.exists_token_of_mem_calls hproper hcall
    exact ⟨n.tokens, hts, t, ht, hposition, name, hname⟩

/-- In an interpolation a comment is not known.  Behind a brace and a quote in it, the rest of it is
read as code, and a call is found inside the comment. -/
theorem calls_comment_in_hole :
    IsBlockComment "/* \x7d \" + MappSdk.isReady() + \" */".toList ∧
      ∃ outline call,
        Scan.tokenOutline .dart
            ("var s = \"$\x7ba " ++ "/* \x7d \" + MappSdk.isReady() + \" */" ++ "\x7d\";")
          = .ok outline ∧
        call ∈ outline.calls ∧ call.callee = "MappSdk.isReady" ∧
        (Place.origin.along "var s = \"$\x7ba ".toList).position.Before call.position ∧
        call.position.Before (Place.origin.along
          ("var s = \"$\x7ba " ++ "/* \x7d \" + MappSdk.isReady() + \" */").toList).position := by
  constructor
  · have hread : (Descent.blockComment 1 .origin
        " \x7d \" + MappSdk.isReady() + \" */".toList).map (·.rest) = .ok [] := by
      decide +kernel
    cases hnext : Descent.blockComment 1 .origin " \x7d \" + MappSdk.isReady() + \" */".toList with
    | error halt =>
      rw [hnext] at hread
      cases hread
    | ok next =>
      rw [hnext] at hread
      have hempty : next.rest = [] := Except.ok.inj hread
      obtain ⟨x, hx, -, hrest⟩ := Descent.rest_of_blockComment hnext
      rw [hempty, List.append_nil] at hx
      exact ⟨x, congrArg ('/' :: '*' :: ·) hx, hrest⟩
  · have hcheck : (Scan.tokenOutline .dart
        ("var s = \"$\x7ba " ++ "/* \x7d \" + MappSdk.isReady() + \" */" ++ "\x7d\";")).toOption.any
          (fun o => o.calls.toList.any fun c =>
            c.callee = "MappSdk.isReady" ∧ c.position = ⟨0, 22⟩) = true := by
      decide +kernel
    simp only [Option.any_eq_true, List.any_eq_true, decide_eq_true_eq] at hcheck
    obtain ⟨outline, houtline, call, hcall, hcallee, hposition⟩ := hcheck
    refine ⟨outline, call, toOption_eq_some_iff.1 houtline, Array.mem_toList_iff.1 hcall, hcallee,
      ?_, ?_⟩
    · rw [hposition, Place.position_along]
      exact .inr ⟨by decide +kernel, by decide +kernel⟩
    · rw [hposition, Place.position_along]
      exact .inr ⟨by decide +kernel, by decide +kernel⟩

end SdkAudit
