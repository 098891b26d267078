import Mathlib

/-!
# Checked steps

Counts that are lowered and items that are asked for by their number can go wrong: the count may be
zero, and there may not be so many items.  Here such a step is checked, and a check that fails stops
whatever the step belongs to.

* `Halt`, `Checked` — why steps stop, and what comes of them otherwise;
* `Checked.lower`, `Checked.look`, `Checked.put` — one less, the item at a number, and another item
  in its place;
* `Checked.refusing` — steps that go wrong only by refusing a text.
-/

namespace SdkAudit

/-- Why checked steps stop. -/
inductive Halt where
  /-- The text is refused. -/
  | refused
  /-- A count was to be lowered that is zero. -/
  | belowZero
  /-- An item was asked for that is not there. -/
  | outOfRange
  /-- There were more calls than characters. -/
  | exhausted
deriving DecidableEq, Repr

/-- What comes of steps that are checked. -/
abbrev Checked (α : Type) := Except Halt α

namespace Checked

variable {α β : Type}

/-- One less. -/
def lower : Nat → Checked Nat
  | 0 => .error .belowZero
  | n + 1 => .ok n

/-- The item with so many items before it. -/
def look (items : List α) (i : Nat) : Checked α :=
  match items[i]? with
  | some a => .ok a
  | none => .error .outOfRange

/-- The items with another one in place of the one with so many before it. -/
def put (items : List α) (i : Nat) (a : α) : Checked (List α) :=
  if i < items.length then .ok (items.set i a) else .error .outOfRange

@[simp] theorem lower_succ (n : Nat) : lower (n + 1) = .ok n := rfl

@[simp] theorem ok_bind (a : α) (f : α → Checked β) : ((Except.ok a : Checked α) >>= f) = f a := rfl

/-- Steps behind others are only taken if nothing stopped those. -/
theorem exists_of_bind {x : Checked α} {f : α → Checked β} {b : β} (h : (x >>= f) = .ok b) :
    ∃ a, x = .ok a ∧ f a = .ok b := by
  cases x with
  | error halt => cases h
  | ok a => exact ⟨a, rfl, h⟩

@[simp] theorem pure_eq (a : α) : (pure a : Checked α) = .ok a := rfl

/-- What came of steps without checks, with nothing but a refusal for the reason of one. -/
def refusing {ε : Type} : Except ε α → Checked α
  | .ok a => .ok a
  | .error _ => .error .refused

theorem look_eq {items : List α} {i : Nat} {a : α} (h : items[i]? = some a) :
    look items i = .ok a := by
  rw [look, h]

/-- A step for each item, where each comes to what is said of the item it belongs to. -/
theorem mapM_eq {γ : Type} {related : α → γ → Prop} {f : α → Checked β} {g : γ → β}
    (hf : ∀ a c, related a c → f a = .ok (g c)) {items : List α} {others : List γ}
    (h : List.Forall₂ related items others) : items.mapM f = .ok (others.map g) := by
  induction h with
  | nil => rfl
  | cons hhead _ ih =>
    rw [List.mapM_cons, hf _ _ hhead, ih]
    rfl

/-- An item is put between those that stand before it and those that stand behind it. -/
theorem put_append (before : List α) (a b : α) (after : List α) :
    put (before ++ a :: after) before.length b = .ok (before ++ b :: after) := by
  rw [put, if_pos (by simp)]
  simp

end Checked

end SdkAudit
