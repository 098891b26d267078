import SdkAudit.Proofs.Outline.Braces
import SdkAudit.Proofs.Outline.Separator
import SdkAudit.Proofs.Source.Below

/-!
# Texts one below the other

A text that has an outline keeps it when a line with a semicolon and another text are put below it.
The other text has an outline there exactly if it has one by itself, which then follows, further
down and with scopes numbered on.  It does not matter how the first text ends, not even with a
comment, or how the second one starts.

* `Outline.Joins` — an outline is that of two texts, one below the other;
* `tokenOutline_below_iff` — when two texts have an outline together, and which;
* `tokenOutline_append_semicolon` — **outlines are local**.
-/

namespace SdkAudit

open Nesting Outline

variable {flavor : Flavor}

/-- The outline `q` is that of a text with outline `o` and, so many lines further down, of one with
outline `p`. -/
structure Outline.Joins (q : Outline) (lines : Nat) (o p : Outline) : Prop where
  /-- The calls of the first text come first, then those of the second further down. -/
  calls : q.calls.toList = o.calls.toList ++ p.calls.toList.map fun call =>
    { call with
      position := ⟨call.position.line + lines, call.position.column⟩
      scope := o.seat fileScope call.scope }
  /-- The scopes of the first text come first, then those of the second without its file. -/
  scopes : q.scopes.toList = o.scopes.toList ++
    (p.scopes.toList.filter (·.kind ≠ .file)).map fun scope =>
      { scope with parent := scope.parent.map (o.seat fileScope) }
  /-- The calls of the first text are guarded as they are by themselves. -/
  guarded_first : ∀ call ∈ o.calls, q.isGuarded call.scope = o.isGuarded call.scope
  /-- And so are those of the second. -/
  guarded_second : ∀ call ∈ p.calls,
    q.isGuarded (o.seat fileScope call.scope) = p.isGuarded call.scope

/-! ### Tokens -/

def semicolon : Token := ⟨.sign ';', .origin, 0, 1⟩

theorem tokens_semicolon (flavor : Flavor) : Lexer.tokens flavor [';'] = .ok [semicolon] := by
  cases flavor <;> decide +kernel

/-- The tokens of two texts with a semicolon on a line between them. -/
theorem tokens_below_iff {first second : List Char} {ts us : List Token}
    (h : Lexer.tokens flavor first = .ok ts) :
    Lexer.tokens flavor (first ++ '\n' :: ';' :: '\n' :: second) = .ok us ↔
      ∃ vs, Lexer.tokens flavor second = .ok vs ∧
        us = ts ++ semicolon.relocate (.down (first.count '\n' + 1) (first.length + 1)) ::
          vs.map (Token.relocate (.down (first.count '\n' + 2) (first.length + 3))) := by
  have hsecond : ∀ us, Lexer.tokens flavor (';' :: '\n' :: second) = .ok us ↔
      ∃ vs, Lexer.tokens flavor second = .ok vs ∧
        us = [semicolon] ++ vs.map (Token.relocate (.down 1 2)) :=
    fun _ => Lexer.tokens_line (tokens_semicolon flavor)
  have htwice : ∀ vs : List Token, ([semicolon] ++ vs.map (Token.relocate (.down 1 2))).map
        (Token.relocate (.down (first.count '\n' + 1) (first.length + 1)))
      = semicolon.relocate (.down (first.count '\n' + 1) (first.length + 1)) ::
          vs.map (Token.relocate (.down (first.count '\n' + 2) (first.length + 3))) := by
    intro vs
    have hlines : 1 + (first.count '\n' + 1) = first.count '\n' + 2 := by omega
    have hchars : 2 + (first.length + 1) = first.length + 3 := by omega
    simp [Function.comp_def, Token.relocate_down_down, hlines, hchars]
  rw [Lexer.tokens_line h]
  constructor
  · rintro ⟨vs, hvs, rfl⟩
    obtain ⟨ws, hws, rfl⟩ := (hsecond vs).1 hvs
    exact ⟨ws, hws, by rw [htwice]⟩
  · rintro ⟨ws, hws, rfl⟩
    exact ⟨_, (hsecond _).2 ⟨ws, hws, rfl⟩, by rw [htwice]⟩

/-! ### Outlines -/

/-- **When two texts have an outline together, and which.** -/
theorem tokenOutline_below_iff {first second : String} {o q : Outline}
    (h : Scan.tokenOutline flavor first = .ok o) :
    Scan.tokenOutline flavor (first ++ "\n;\n" ++ second) = .ok q ↔
      ∃ p, Scan.tokenOutline flavor second = .ok p ∧
        q = o.plant fileScope
          (p.relocate (.down (first.toList.count '\n' + 2) (first.toList.length + 3))) := by
  obtain ⟨ts, n, hlex, hread, rfl⟩ := tokenOutline_eq_ok_iff.1 h
  obtain ⟨hn, rfl⟩ := ofTokens_eq_ok_iff.1 hread
  have htext : (first ++ "\n;\n" ++ second).toList
      = first.toList ++ '\n' :: ';' :: '\n' :: second.toList := by
    simp [String.toList_append]
  generalize hr : Relocation.down (first.toList.count '\n' + 2) (first.toList.length + 3) = r
  generalize ht : semicolon.relocate
    (.down (first.toList.count '\n' + 1) (first.toList.length + 1)) = t
  have hsemicolon : t.isSign ';' = true := by rw [← ht]; rfl
  have hproper : (Nesting.token n t).IsProper := ⟨hn, by rw [← ht]; rfl⟩
  have hjoin : ∀ vs : List Token, n.tokens ++ t :: vs = (Nesting.token n t).tokens ++ vs := by
    intro vs
    simp [tokens]
  simp only [tokenOutline_eq_ok_iff, htext, tokens_below_iff hlex, hr, ht]
  constructor
  · rintro ⟨_, m, ⟨vs, hvs, rfl⟩, hm, rfl⟩
    rw [hjoin, ofTokens_append hproper] at hm
    obtain ⟨m, hm, rfl⟩ := hm
    obtain ⟨k, hk, rfl⟩ := ofTokens_map_relocate.1 hm
    exact ⟨_, ⟨vs, k, hvs, hk, rfl⟩, by rw [ofNesting_append hsemicolon, ofNesting_relocate]⟩
  · rintro ⟨_, ⟨vs, k, hvs, hk, rfl⟩, rfl⟩
    refine ⟨_, (Nesting.token n t).append (k.relocate r), ⟨vs, hvs, rfl⟩, ?_, ?_⟩
    · rw [hjoin, ofTokens_append hproper]
      exact ⟨_, ofTokens_map_relocate.2 ⟨k, hk, rfl⟩, rfl⟩
    · rw [ofNesting_append hsemicolon, ofNesting_relocate]

/-- The scopes of a nesting are the file and others. -/
theorem filter_scopes_ofNesting {n : Nesting} (hn : n.IsProper) :
    (ofNesting flavor n).scopes.toList.filter (·.kind ≠ .file)
      = (ofNesting flavor n).scopes.toList.tail := by
  rw [scopes_ofNesting hn, List.filter_cons_of_neg (by simp), List.tail_cons]
  refine List.filter_eq_self.2 fun scope hscope => ?_
  obtain ⟨g, -, hg⟩ := List.mem_filterMap.1 hscope
  unfold Group.scope? at hg
  split_ifs at hg <;> cases hg <;> simp

/-- **Outlines are local.**  Below a text that has an outline, and below a line with a semicolon,
another text has an outline exactly if it has one by itself, and then both are joined. -/
theorem tokenOutline_append_semicolon {first : String} {o : Outline}
    (h : Scan.tokenOutline flavor first = .ok o) (second : String) :
    ((∃ q, Scan.tokenOutline flavor (first ++ "\n;\n" ++ second) = .ok q) ↔
        ∃ p, Scan.tokenOutline flavor second = .ok p) ∧
      ∀ p q, Scan.tokenOutline flavor second = .ok p →
        Scan.tokenOutline flavor (first ++ "\n;\n" ++ second) = .ok q →
        q.Joins (first.toList.count '\n' + 2) o p := by
  refine ⟨?_, fun p q hp hq => ?_⟩
  · constructor
    · rintro ⟨q, hq⟩
      obtain ⟨p, hp, -⟩ := (tokenOutline_below_iff h).1 hq
      exact ⟨p, hp⟩
    · rintro ⟨p, hp⟩
      exact ⟨_, (tokenOutline_below_iff h).2 ⟨p, hp, rfl⟩⟩
  · obtain ⟨p', hp', rfl⟩ := (tokenOutline_below_iff h).1 hq
    obtain rfl := Except.ok.inj (hp'.symm.trans hp)
    obtain ⟨ts, n, -, hread, rfl⟩ := tokenOutline_eq_ok_iff.1 h
    obtain ⟨us, m, -, hread', rfl⟩ := tokenOutline_eq_ok_iff.1 hp
    obtain ⟨hn, -⟩ := ofTokens_eq_ok_iff.1 hread
    obtain ⟨hm, -⟩ := ofTokens_eq_ok_iff.1 hread'
    have hfile : fileScope < (ofNesting flavor n).scopes.size := by
      rw [size_scopes_ofNesting hn]
      simp [fileScope]
    have htree : (ofNesting flavor n).IsTree := isTree_ofNesting hn
    have htree' : (ofNesting flavor m).IsTree := isTree_ofNesting hm
    exact {
      calls := by
        simp only [plant, Outline.relocate, Array.toList_append, Array.toList_map, List.map_map]
        rfl
      scopes := by
        rw [filter_scopes_ofNesting hm]
        simp only [plant, Outline.relocate, Array.toList_append]
        rfl
      guarded_first := by
        intro call hcall
        exact isGuarded_plant_left htree (scope_lt_of_mem_calls hn hcall)
      guarded_second := by
        intro call hcall
        have hlt := scope_lt_of_mem_calls hm hcall
        have hmoved : ((ofNesting flavor m).relocate (.down (first.toList.count '\n' + 2)
            (first.toList.length + 3))).IsTree := ⟨htree'.root, htree'.parent⟩
        rw [isGuarded_plant_seat htree hmoved hfile hlt, isGuarded_fileScope htree, Bool.or_false]
        exact isGuarded_relocate _ _ }

/-- For instance where the first text ends with a comment and the second starts with a dot. -/
theorem tokenOutline_append_semicolon_comment :
    ∃ o p q, Scan.tokenOutline .dart "try { f(); } catch (e) { } // ends" = .ok o ∧
      Scan.tokenOutline .dart ".g() { h(); }" = .ok p ∧
      Scan.tokenOutline .dart ("try { f(); } catch (e) { } // ends" ++ "\n;\n" ++ ".g() { h(); }")
        = .ok q ∧ q.Joins 2 o p := by
  have hfirst : (Scan.tokenOutline .dart "try { f(); } catch (e) { } // ends").toOption.isSome
      = true := by
    decide +kernel
  have hsecond : (Scan.tokenOutline .dart ".g() { h(); }").toOption.isSome = true := by
    decide +kernel
  obtain ⟨o, ho⟩ := Option.isSome_iff_exists.1 hfirst
  obtain ⟨p, hp⟩ := Option.isSome_iff_exists.1 hsecond
  have ho := toOption_eq_some_iff.1 ho
  have hp := toOption_eq_some_iff.1 hp
  obtain ⟨hboth, hjoins⟩ := tokenOutline_append_semicolon ho ".g() { h(); }"
  obtain ⟨q, hq⟩ := hboth.2 ⟨p, hp⟩
  have hlines : "try { f(); } catch (e) { } // ends".toList.count '\n' + 2 = 2 := by decide +kernel
  have hjoined := hjoins p q hp hq
  rw [hlines] at hjoined
  exact ⟨o, p, q, ho, hp, hq, hjoined⟩

end SdkAudit
