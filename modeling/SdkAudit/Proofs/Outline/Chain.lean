import Mathlib
import SdkAudit.Outline.OfNesting

/-!
# Chains, link by link

A chain of names is followed to the left over dots, with a question mark or an exclamation mark
before a dot now and then.  Whatever the dot looks like, each step takes one link off the end of the
tokens, so what is said of one link carries over to chains.

* `Nesting.link?` — the link at the end of a nesting, if there is one;
* `Outline.chainFrom_eq` — **a chain is followed link by link**;
* `Nesting.link_induction` — induction along the links.
-/

namespace SdkAudit

namespace Nesting

/-- A name that a dot follows: the name, where it stands and what stands before it. -/
structure Link where
  name : String
  position : Position
  before : Nesting

def named? : Nesting → Option Link
  | .token before t => t.name?.map fun name => ⟨name, t.position, before⟩
  | _ => none

/-- The name before a question mark or an exclamation mark at the end of a nesting. -/
def marked? : Nesting → Option Link
  | .token rest mark => if mark.isSign '?' || mark.isSign '!' then rest.named? else none
  | _ => none

def link? : Nesting → Option Link
  | .token rest dot => if dot.isSign '.' then rest.named? <|> rest.marked? else none
  | _ => none

def endsWithDot : Nesting → Bool
  | .token _ dot => dot.isSign '.'
  | _ => false

theorem named?_eq_some {n : Nesting} {l : Link} (h : n.named? = some l) :
    ∃ t, n = .token l.before t ∧ t.name? = some l.name ∧ t.position = l.position := by
  cases n with
  | empty | group => cases h
  | token before t =>
    obtain ⟨name, hname, rfl⟩ := Option.map_eq_some_iff.1 h
    exact ⟨t, rfl, hname, rfl⟩

/-- A link is a name with one or two tokens behind it. -/
theorem link?_eq_some {n : Nesting} {l : Link} (h : n.link? = some l) :
    ∃ t, t.name? = some l.name ∧ t.position = l.position ∧
      ((∃ dot, n = .token (.token l.before t) dot) ∨
        ∃ mark dot, n = .token (.token (.token l.before t) mark) dot) := by
  cases n with
  | empty | group => cases h
  | token rest dot =>
    rw [link?] at h
    split_ifs at h
    rw [Option.orElse_eq_some] at h
    rcases h with hnamed | ⟨-, hmarked⟩
    · obtain ⟨t, rfl, hname, hposition⟩ := named?_eq_some hnamed
      exact ⟨t, hname, hposition, .inl ⟨dot, rfl⟩⟩
    · cases rest with
      | empty | group => cases hmarked
      | token rest mark =>
        rw [marked?] at hmarked
        split_ifs at hmarked
        obtain ⟨t, rfl, hname, hposition⟩ := named?_eq_some hmarked
        exact ⟨t, hname, hposition, .inr ⟨mark, dot, rfl⟩⟩

theorem sizeOf_before_lt {n : Nesting} {l : Link} (h : n.link? = some l) :
    sizeOf l.before < sizeOf n := by
  obtain ⟨t, -, -, ⟨dot, rfl⟩ | ⟨mark, dot, rfl⟩⟩ := link?_eq_some h
  · simp
    omega
  · simp
    omega

/-- Induction along the links at the end of a nesting. -/
theorem link_induction {motive : Nesting → Prop}
    (link : ∀ n l, n.link? = some l → motive l.before → motive n)
    (last : ∀ n, n.link? = none → motive n) (n : Nesting) : motive n := by
  induction hsize : sizeOf n using Nat.strong_induction_on generalizing n with
  | h size ih =>
    cases hlink : n.link? with
    | none => exact last n hlink
    | some l => exact link n l hlink (ih _ (hsize ▸ sizeOf_before_lt hlink) l.before rfl)

end Nesting

open Nesting

namespace Outline

/-- **A chain is followed link by link.** -/
theorem chainFrom_eq (names : List String) (position : Position) (n : Nesting) :
    chainFrom names position n = match n.link? with
      | some l => chainFrom (l.name :: names) l.position l.before
      | none => ⟨names, position, n, n.endsWithDot⟩ := by
  cases n with
  | empty | group => rfl
  | token rest dot =>
    by_cases hdot : dot.isSign '.' = true
    · cases rest with
      | empty | group => simp [chainFrom, link?, named?, marked?, endsWithDot, hdot]
      | token rest t =>
        cases hname : t.name? with
        | some name => cases rest <;> simp [chainFrom, link?, named?, hdot, hname]
        | none =>
          by_cases hmark : t.isSign '?' = true ∨ t.isSign '!' = true
          · cases rest with
            | empty | group =>
              simp [chainFrom, link?, named?, marked?, endsWithDot, hdot, hname]
            | token before u =>
              cases hu : u.name? <;>
                simp [chainFrom, link?, named?, marked?, endsWithDot, hdot, hname, hmark, hu]
          · cases rest <;>
              simp [chainFrom, link?, named?, marked?, endsWithDot, hdot, hname, hmark]
    · rw [Bool.not_eq_true] at hdot
      cases rest with
      | empty | group => simp [chainFrom, link?, endsWithDot, hdot]
      | token rest t => cases rest <;> simp [chainFrom, link?, endsWithDot, hdot]

theorem chainFrom_of_link {names : List String} {position : Position} {n : Nesting} {l : Link}
    (h : n.link? = some l) :
    chainFrom names position n = chainFrom (l.name :: names) l.position l.before := by
  rw [chainFrom_eq, h]

theorem chainFrom_of_last {names : List String} {position : Position} {n : Nesting}
    (h : n.link? = none) :
    chainFrom names position n = ⟨names, position, n, n.endsWithDot⟩ := by
  rw [chainFrom_eq, h]

end Outline

end SdkAudit
