import Mathlib
import SdkAudit.Compliance

/-!
# Findings in file order

Findings are sorted by their positions, and findings that share a position keep the order in which
they were made.  A sorted list of findings is known from what it has at every position, so sorting
goes along with leaving findings out.

* `RuleSet.inFileOrder` — findings, sorted;
* `RuleSet.filter_position_inFileOrder` — **findings that share a position keep their order**;
* `RuleSet.eq_of_filter_position` — sorted findings are known from those at every position;
* `RuleSet.filter_inFileOrder` — **leaving findings out and sorting can be exchanged**.
-/

namespace SdkAudit

namespace Position

theorem notAfter_iff {p q : Position} :
    p.notAfter q = true ↔ p.line < q.line ∨ p.line = q.line ∧ p.column ≤ q.column := by
  simp [notAfter]

theorem notAfter_self (p : Position) : p.notAfter p = true := by
  simp [notAfter]

theorem notAfter_trans {p q r : Position} (h : p.notAfter q = true) (h' : q.notAfter r = true) :
    p.notAfter r = true := by
  rw [notAfter_iff] at *
  omega

theorem notAfter_total (p q : Position) : (p.notAfter q || q.notAfter p) = true := by
  rw [Bool.or_eq_true, notAfter_iff, notAfter_iff]
  omega

theorem notAfter_antisymm {p q : Position} (h : p.notAfter q = true) (h' : q.notAfter p = true) :
    p = q := by
  rw [notAfter_iff] at h h'
  obtain ⟨line, column⟩ := p
  obtain ⟨line', column'⟩ := q
  simp only at h h'
  rw [mk.injEq]
  omega

end Position

namespace Diagnostic

def notAfter (a b : Diagnostic) : Bool := a.position.notAfter b.position

theorem notAfter_trans (a b c : Diagnostic) (h : a.notAfter b = true) (h' : b.notAfter c = true) :
    a.notAfter c = true :=
  Position.notAfter_trans h h'

theorem notAfter_total (a b : Diagnostic) : (a.notAfter b || b.notAfter a) = true :=
  Position.notAfter_total _ _

theorem notAfter_of_eq {a b : Diagnostic} (h : a.position = b.position) : a.notAfter b = true := by
  rw [notAfter, h, Position.notAfter_self]

end Diagnostic

namespace RuleSet

def inFileOrder (findings : List Diagnostic) : List Diagnostic :=
  findings.mergeSort Diagnostic.notAfter

/-- Every finding stands no later than those that come after it. -/
def InFileOrder (findings : List Diagnostic) : Prop :=
  findings.Pairwise fun a b => a.notAfter b = true

variable {findings : List Diagnostic}

theorem diagnostics_structured (rules : RuleSet) (o : Outline) :
    rules.diagnostics (.structured o) = inFileOrder (rules.outlineFindings o) := rfl

theorem inFileOrder_perm (findings : List Diagnostic) : (inFileOrder findings).Perm findings :=
  List.mergeSort_perm _ _

theorem mem_inFileOrder {d : Diagnostic} : d ∈ inFileOrder findings ↔ d ∈ findings :=
  (inFileOrder_perm findings).mem_iff

theorem inFileOrder_sorted (findings : List Diagnostic) : InFileOrder (inFileOrder findings) :=
  List.pairwise_mergeSort Diagnostic.notAfter_trans Diagnostic.notAfter_total findings

/-- **Findings that share a position keep their order.** -/
theorem filter_position_inFileOrder (findings : List Diagnostic) (p : Position) :
    (inFileOrder findings).filter (·.position = p) = findings.filter (·.position = p) := by
  have hall : InFileOrder (findings.filter (·.position = p)) := by
    refine List.pairwise_of_forall_mem_list fun a ha b hb => Diagnostic.notAfter_of_eq ?_
    rw [of_decide_eq_true (List.mem_filter.1 ha).2, of_decide_eq_true (List.mem_filter.1 hb).2]
  have hsub : (findings.filter (·.position = p)).Sublist (inFileOrder findings) :=
    List.sublist_mergeSort Diagnostic.notAfter_trans Diagnostic.notAfter_total hall
      List.filter_sublist
  have hfilter : (findings.filter (·.position = p)).Sublist
      ((inFileOrder findings).filter (·.position = p)) := by
    have := hsub.filter (·.position = p)
    simpa only [List.filter_filter, Bool.and_self] using this
  exact (hfilter.eq_of_length ((inFileOrder_perm findings).filter _).length_eq.symm).symm

/-- Findings that are the same at every position are the same. -/
theorem mem_iff_of_filter_position {ds es : List Diagnostic}
    (h : ∀ p, ds.filter (·.position = p) = es.filter (·.position = p)) (d : Diagnostic) :
    d ∈ ds ↔ d ∈ es := by
  have hboth : ∀ l : List Diagnostic, d ∈ l.filter (·.position = d.position) ↔ d ∈ l := by simp
  rw [← hboth ds, h, hboth]

/-- The first of sorted findings comes no later than any of them. -/
theorem InFileOrder.head_notAfter {d e : Diagnostic} (h : InFileOrder (d :: findings))
    (he : e ∈ d :: findings) : d.notAfter e = true := by
  rcases List.mem_cons.1 he with rfl | he
  · exact Diagnostic.notAfter_of_eq rfl
  · exact (List.pairwise_cons.1 h).1 e he

/-- **Sorted findings are known from those at every position.** -/
theorem eq_of_filter_position {ds es : List Diagnostic} (hds : InFileOrder ds)
    (hes : InFileOrder es)
    (h : ∀ p, ds.filter (·.position = p) = es.filter (·.position = p)) : ds = es := by
  have hmem := mem_iff_of_filter_position h
  induction ds generalizing es with
  | nil => exact (List.eq_nil_iff_forall_not_mem.2 fun d hd => by simpa using (hmem d).2 hd).symm
  | cons d ds ih =>
    cases es with
    | nil => exact absurd ((hmem d).1 List.mem_cons_self) List.not_mem_nil
    | cons e es =>
      -- each of the two first findings is in the other list, so neither comes before the other
      have hle := hds.head_notAfter ((hmem e).2 List.mem_cons_self)
      have hge := hes.head_notAfter ((hmem d).1 List.mem_cons_self)
      have hpos : d.position = e.position := Position.notAfter_antisymm hle hge
      have hfirst := h d.position
      rw [List.filter_cons_of_pos (by simp), List.filter_cons_of_pos (by simp [hpos])] at hfirst
      obtain ⟨rfl, -⟩ := List.cons.inj hfirst
      have hrest : ∀ p, ds.filter (·.position = p) = es.filter (·.position = p) := by
        intro p
        have hp := h p
        by_cases hdp : d.position = p
        · rw [List.filter_cons_of_pos (by simp [hdp]),
            List.filter_cons_of_pos (by simp [hdp])] at hp
          exact (List.cons.inj hp).2
        · rwa [List.filter_cons_of_neg (by simp [hdp]),
            List.filter_cons_of_neg (by simp [hdp])] at hp
      rw [ih hds.of_cons hes.of_cons hrest (mem_iff_of_filter_position hrest)]

/-- **Leaving findings out and sorting can be exchanged.** -/
theorem filter_inFileOrder (keep : Diagnostic → Bool) (findings : List Diagnostic) :
    (inFileOrder findings).filter keep = inFileOrder (findings.filter keep) := by
  refine eq_of_filter_position ((inFileOrder_sorted findings).filter keep)
    (inFileOrder_sorted _) fun p => ?_
  rw [List.filter_comm, filter_position_inFileOrder, filter_position_inFileOrder, List.filter_comm]

/-- Findings that are moved without changing their order are sorted as before. -/
theorem map_inFileOrder (move : Diagnostic → Diagnostic) (findings : List Diagnostic)
    (hkeep : ∀ a ∈ findings, ∀ b ∈ findings, a.notAfter b = (move a).notAfter (move b)) :
    (inFileOrder findings).map move = inFileOrder (findings.map move) :=
  List.map_mergeSort hkeep

end RuleSet

end SdkAudit
