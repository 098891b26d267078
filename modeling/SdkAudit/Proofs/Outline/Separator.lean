import SdkAudit.Proofs.Nesting.Append
import SdkAudit.Proofs.Outline.Chain
import SdkAudit.Proofs.Outline.Plant

/-!
# Semicolons keep outlines apart

What braces and round brackets mean is told from the tokens around them: from the chain of names on
their left, from what stands before that, and from the next two tokens on their right.  None of this
looks past a semicolon, so nestings with a semicolon between them have the outlines that they have
by themselves, the second after the first.

* `Outline.chainFrom_append`, `Outline.guards_append`, `Outline.callAt?_append` — nothing looks past
  a semicolon to the left;
* `Outline.opensBody_append`, `Outline.addNesting_before_semicolon` — nor to the right;
* `Outline.ofNesting_append` — **the outline of two nestings with a semicolon between them**.
-/

namespace SdkAudit

open Nesting

variable {flavor : Flavor} {first : Nesting} {t : Token}

theorem Token.name?_of_isSign {c : Char} (h : t.isSign c = true) : t.name? = none := by
  rw [isSign_iff] at h
  rw [name?, h]

theorem Token.isName_of_isSign {c : Char} (h : t.isSign c = true) (word : String) :
    t.isName word = false := by
  rw [isSign_iff] at h
  rw [isName, h]
  rfl

theorem Token.isSign_of_isSign {c d : Char} (h : t.isSign c = true) (hne : c ≠ d) :
    t.isSign d = false := by
  rw [isSign_iff] at h
  simp [isSign, h, hne]

/-! ### To the left of a semicolon -/

/-- The link with more before it. -/
def Nesting.Link.behind (before : Nesting) (l : Link) : Link :=
  { l with before := before.append l.before }

namespace Outline

def Chain.behind (before : Nesting) (chain : Chain) : Chain :=
  { chain with before := before.append chain.before }

theorem named?_append (ht : t.isSign ';' = true) (n : Nesting) :
    ((Nesting.token first t).append n).named? = n.named?.map (Link.behind (.token first t)) := by
  cases n with
  | empty => simp [named?, Token.name?_of_isSign ht]
  | token before u =>
    simp only [append, named?, Option.map_map]
    rfl
  | group => rfl

theorem marked?_append (ht : t.isSign ';' = true) (n : Nesting) :
    ((Nesting.token first t).append n).marked? = n.marked?.map (Link.behind (.token first t)) := by
  cases n with
  | empty => simp [marked?, Token.isSign_of_isSign ht]
  | token before u =>
    simp only [append, marked?, named?_append ht]
    split_ifs <;> rfl
  | group => rfl

theorem link?_append (ht : t.isSign ';' = true) (n : Nesting) :
    ((Nesting.token first t).append n).link? = n.link?.map (Link.behind (.token first t)) := by
  cases n with
  | empty => simp [link?, Token.isSign_of_isSign ht]
  | token before u =>
    simp only [append, link?, named?_append ht, marked?_append ht]
    split_ifs
    · cases before.named? <;> rfl
    · rfl
  | group => rfl

theorem endsWithDot_append (ht : t.isSign ';' = true) (n : Nesting) :
    ((Nesting.token first t).append n).endsWithDot = n.endsWithDot := by
  cases n with
  | empty => exact Token.isSign_of_isSign ht (by decide)
  | token | group => rfl

/-- **A chain of names does not go past a semicolon.** -/
theorem chainFrom_append (ht : t.isSign ';' = true) (names : List String) (position : Position)
    (n : Nesting) : chainFrom names position ((Nesting.token first t).append n)
      = (chainFrom names position n).behind (.token first t) := by
  induction n using Nesting.link_induction generalizing names position with
  | link n l hlink ih =>
    have hlink' : ((Nesting.token first t).append n).link? = some (l.behind (.token first t)) := by
      rw [link?_append ht, hlink]
      rfl
    rw [chainFrom_of_link hlink', chainFrom_of_link hlink]
    exact ih (l.name :: names) l.position
  | last n hlink =>
    have hlink' : ((Nesting.token first t).append n).link? = none := by
      rw [link?_append ht, hlink]
      rfl
    rw [chainFrom_of_last hlink', chainFrom_of_last hlink, endsWithDot_append ht]
    rfl

theorem chainEnding?_append (ht : t.isSign ';' = true) (n : Nesting) :
    chainEnding? ((Nesting.token first t).append n)
      = (chainEnding? n).map (Chain.behind (.token first t)) := by
  cases n with
  | empty => simp [chainEnding?, Token.name?_of_isSign ht]
  | token before u =>
    simp only [append, chainEnding?]
    cases u.name? with
    | none => rfl
    | some name =>
      simp only [chainFrom_append ht]
      split_ifs <;> rfl
  | group => rfl

/-- The last token before something that follows a semicolon. -/
theorem last?_append (n : Nesting) :
    ((Nesting.token first t).append n).last? = some (n.last?.getD t) := by
  cases n <;> rfl

theorem any_last?_append (ht : t.isSign ';' = true) (n : Nesting) (word : String) :
    ((Nesting.token first t).append n).last?.any (·.isName word)
      = n.last?.any (·.isName word) := by
  rw [last?_append]
  cases n.last? with
  | none => exact Token.isName_of_isSign ht word
  | some u => rfl

/-- **A pair of braces does not look past a semicolon.** -/
theorem guards_append (ht : t.isSign ';' = true) (n : Nesting) :
    guards flavor ((Nesting.token first t).append n) = guards flavor n := by
  cases n with
  | empty =>
    simp [guards, Token.isName_of_isSign ht, Token.name?_of_isSign ht]
  | token before u => simp only [append, guards, any_last?_append ht]
  | group before kind opener inner closer =>
    cases kind <;> simp only [append, guards, any_last?_append ht]

theorem isDeclaration_append (ht : t.isSign ';' = true) (chain : Chain) (after : List Token) :
    isDeclaration flavor (chain.behind (.token first t)) after
      = isDeclaration flavor chain after := by
  simp only [isDeclaration, Chain.behind, last?_append]
  cases chain.before.last? with
  | none =>
    cases flavor <;>
      simp [Token.name?_of_isSign ht, Token.isSign_of_isSign ht]
  | some u => rfl

/-- **A pair of round brackets does not look past a semicolon.** -/
theorem callAt?_append (ht : t.isSign ';' = true) (before inner : Nesting) (after : List Token)
    (scope : ScopeId) : callAt? flavor ((Nesting.token first t).append before) inner after scope
      = callAt? flavor before inner after scope := by
  simp only [callAt?, chainEnding?_append ht]
  cases chainEnding? before with
  | none => rfl
  | some chain =>
    have hsame : (chain.behind (.token first t)).onExpression = chain.onExpression := rfl
    simp only [Option.map_some, isDeclaration_append ht, hsame]
    split_ifs <;> rfl

/-! ### To the right of a semicolon -/

theorem opensBody_append (ht : t.isSign ';' = true) (after rest : List Token) :
    opensBody (after ++ t :: rest) = opensBody after := by
  match after with
  | [] =>
    simp [opensBody, Token.isSign_of_isSign ht, Token.isName_of_isSign ht]
  | [u] => simp [opensBody, Token.isSign_of_isSign ht]
  | u :: v :: after => rfl

theorem isDeclaration_before_semicolon (ht : t.isSign ';' = true) (chain : Chain)
    (after rest : List Token) :
    isDeclaration flavor chain (after ++ t :: rest) = isDeclaration flavor chain after := by
  unfold isDeclaration
  rw [opensBody_append ht]

theorem callAt?_before_semicolon (ht : t.isSign ';' = true) (before inner : Nesting)
    (after rest : List Token) (scope : ScopeId) :
    callAt? flavor before inner (after ++ t :: rest) scope
      = callAt? flavor before inner after scope := by
  unfold callAt?
  simp only [isDeclaration_before_semicolon ht]

/-- **What follows a semicolon changes nothing.** -/
theorem addNesting_before_semicolon (ht : t.isSign ';' = true) (scope : ScopeId) (o : Outline)
    (after rest : List Token) (n : Nesting) :
    addNesting flavor scope o (after ++ t :: rest) n = addNesting flavor scope o after n := by
  induction n generalizing after with
  | empty => rfl
  | token before u ih => exact ih (u :: after)
  | group before kind opener inner closer _ _ => simp only [addNesting, callAt?_before_semicolon ht]

/-! ### Both together -/

theorem addNesting_append (ht : t.isSign ';' = true) (scope : ScopeId) (o : Outline)
    (after : List Token) (n : Nesting) :
    addNesting flavor scope o after ((Nesting.token first t).append n)
      = addNesting flavor scope (addNesting flavor scope o [] first) after n := by
  induction n generalizing after with
  | empty => exact addNesting_before_semicolon ht scope o [] after first
  | token before u ih => exact ih (u :: after)
  | group before kind opener inner closer ih _ =>
    simp only [append, addNesting, ih, guards_append ht, callAt?_append ht]

/-- **The outline of two nestings with a semicolon between them** is that of the first, with that of
the second planted in the file. -/
theorem ofNesting_append (ht : t.isSign ';' = true) (n : Nesting) :
    ofNesting flavor ((Nesting.token first t).append n)
      = (ofNesting flavor first).plant fileScope (ofNesting flavor n) := by
  rw [ofNesting, addNesting_append ht, addNesting_eq_plant]
  rfl

end Outline

end SdkAudit
