import SdkAudit.Proofs.Outline.Braces
import SdkAudit.Proofs.Outline.Plant
import SdkAudit.Proofs.Source.Below

/-!
# Texts in the body of a `try`

A text that has an outline can be put between the lines `try {` and `} catch (e) {` and `}`, and has
its outline there: one line further down, with the body of the `try` in the place of the file.  All
its calls are guarded then.

* `inTry` — a text in the body of a `try`;
* `Nesting.tryStatement`, `Outline.ofNesting_tryStatement` — the nesting of a `try` statement, and
  its outline;
* `tokenOutline_inTry` — **a text keeps its outline in the body of a `try`**;
* `Outline.isGuarded_tryOutline` — **where all its scopes are guarded**.
-/

namespace SdkAudit

open Nesting Outline

variable {flavor : Flavor}

/-- A text in the body of a `try`. -/
def inTry (source : String) : String := "try \x7b\n" ++ source ++ "\n\x7d catch (e) \x7b\n\x7d"

/-! ### The statement -/

def wordAt (text : String) (line column start : Nat) : Token :=
  ⟨.name text, ⟨line, column⟩, start, start + text.length⟩

def signAt (c : Char) (line column start : Nat) : Token :=
  ⟨.sign c, ⟨line, column⟩, start, start + 1⟩

/-- What stands before the body of a `try`. -/
def beforeBody : List Token := [wordAt "try" 0 0 0, signAt '\x7b' 0 4 4]

/-- What stands behind the body of a `try`. -/
def behindBody : List Token := [
  signAt '\x7d' 0 0 0, wordAt "catch" 0 2 2, signAt '(' 0 8 8, wordAt "e" 0 9 9, signAt ')' 0 10 10,
  signAt '\x7b' 0 12 12, signAt '\x7d' 1 0 14]

theorem tokens_beforeBody (flavor : Flavor) :
    Lexer.tokens flavor "try \x7b".toList = .ok beforeBody := by
  cases flavor <;> decide +kernel

theorem tokens_behindBody (flavor : Flavor) :
    Lexer.tokens flavor "\x7d catch (e) \x7b\n\x7d".toList = .ok behindBody := by
  cases flavor <;> decide +kernel

/-- The nesting of a `try` statement with a body, and with what stands behind it somewhere else. -/
def Nesting.tryStatement (r : Relocation) (body : Nesting) : Nesting :=
  let tried := Nesting.group (.token .empty (wordAt "try" 0 0 0)) .curly (signAt '\x7b' 0 4 4) body
    ((signAt '\x7d' 0 0 0).relocate r)
  let caught := Nesting.group (.token tried ((wordAt "catch" 0 2 2).relocate r)) .round
    ((signAt '(' 0 8 8).relocate r) (.token .empty ((wordAt "e" 0 9 9).relocate r))
    ((signAt ')' 0 10 10).relocate r)
  .group caught .curly ((signAt '\x7b' 0 12 12).relocate r) .empty
    ((signAt '\x7d' 1 0 14).relocate r)

theorem Nesting.tokens_tryStatement (r : Relocation) (body : Nesting) :
    (tryStatement r body).tokens
      = beforeBody ++ (body.tokens ++ behindBody.map (Token.relocate r)) := by
  simp [tryStatement, tokens, beforeBody, behindBody]

theorem Nesting.IsProper.tryStatement {r : Relocation} {body : Nesting} (h : body.IsProper) :
    (tryStatement r body).IsProper :=
  ⟨⟨⟨⟨⟨trivial, rfl⟩, rfl, h, rfl⟩, rfl⟩, rfl, ⟨trivial, rfl⟩, rfl⟩, rfl, trivial, rfl⟩

/-! ### Its outline -/

namespace Outline

/-- The outline of a `try` statement before its body is told. -/
def tryScope : Outline := ({} : Outline).addScope .guarded fileScope

/-- The outline of a `try` statement whose body has an outline. -/
def tryOutline (o : Outline) : Outline := (tryScope.plant 1 o).addScope .guarded fileScope

/-- **The outline of a `try` statement** has that of its body in a guarded scope. -/
theorem ofNesting_tryStatement (r : Relocation) (body : Nesting) :
    ofNesting flavor (tryStatement r body) = (ofNesting flavor body).tryOutline := by
  have hbody : addNesting flavor 1 tryScope [] body = tryScope.plant 1 (ofNesting flavor body) :=
    addNesting_eq_plant 1 tryScope [] body
  rw [tryOutline, ← hbody]
  rfl

theorem seat_tryScope (id : ScopeId) : tryScope.seat 1 id = id + 1 := by
  cases id with
  | zero => rfl
  | succ id =>
    show 2 + id = id + 1 + 1
    omega

theorem calls_tryOutline (o : Outline) :
    o.tryOutline.calls = o.calls.map (Call.reseat (· + 1)) := by
  have hseat : tryScope.seat 1 = (· + 1) := funext seat_tryScope
  show #[] ++ o.calls.map (Call.reseat (tryScope.seat 1)) = _
  rw [hseat, Array.empty_append]

theorem isTree_tryScope : tryScope.IsTree where
  root := rfl
  parent := by
    intro id scope hget
    cases id with
    | zero =>
      obtain rfl := Option.some.inj hget
      exact ⟨0, le_rfl, rfl⟩
    | succ id =>
      have hlt := (Array.getElem?_eq_some_iff.1 hget).1
      have hsize : tryScope.scopes.size = 2 := rfl
      omega

/-- **The body of a `try` guards every scope in it.** -/
theorem isGuarded_tryOutline {o : Outline} (ho : o.IsTree) {id : ScopeId}
    (hid : id < o.scopes.size) : o.tryOutline.isGuarded (id + 1) = true := by
  have hplanted : (tryScope.plant 1 o).isGuarded (tryScope.seat 1 id) = true := by
    have hscope : tryScope.isGuarded 1 = true := by decide
    have hsize : 1 < tryScope.scopes.size := by decide
    rw [isGuarded_plant_seat isTree_tryScope ho hsize hid, hscope, Bool.or_true]
  rw [seat_tryScope] at hplanted
  exact isGuarded_addScope hplanted

end Outline

/-- **A text keeps its outline in the body of a `try`**, one line further down. -/
theorem tokenOutline_inTry {source : String} {o : Outline}
    (h : Scan.tokenOutline flavor source = .ok o) :
    Scan.tokenOutline flavor (inTry source) = .ok (o.relocate (.down 1 6)).tryOutline := by
  obtain ⟨ts, n, hlex, hread, rfl⟩ := tokenOutline_eq_ok_iff.1 h
  obtain ⟨hn, rfl⟩ := ofTokens_eq_ok_iff.1 hread
  have htext : (inTry source).toList = "try \x7b".toList ++
      '\n' :: (source.toList ++ '\n' :: "\x7d catch (e) \x7b\n\x7d".toList) := by
    simp [inTry, String.toList_append]
  have hbody := (Lexer.tokens_line hlex).2 ⟨behindBody, tokens_behindBody flavor, rfl⟩
  have hall := (Lexer.tokens_line (tokens_beforeBody flavor)).2 ⟨_, hbody, rfl⟩
  have hplace : Relocation.down ("try \x7b".toList.count '\n' + 1) ("try \x7b".toList.length + 1)
      = .down 1 6 := rfl
  rw [← htext, hplace, List.map_append, ← Nesting.tokens_relocate, List.map_map] at hall
  generalize source.toList.count '\n' + 1 = lines at hall
  generalize source.toList.length + 1 = chars at hall
  have hmoved : Token.relocate (.down 1 6) ∘ Token.relocate (.down lines chars)
      = Token.relocate (.down (lines + 1) (chars + 6)) :=
    funext fun t => t.relocate_down_down 1 6
  rw [hmoved, ← Nesting.tokens_tryStatement] at hall
  refine tokenOutline_eq_ok_iff.2 ⟨_, _, hall, ofTokens_eq_ok_iff.2 ⟨?_, rfl⟩, ?_⟩
  · exact hn.relocate.tryStatement
  · rw [ofNesting_tryStatement, ofNesting_relocate]

end SdkAudit
