import Mathlib

namespace Beignet.Data

variable {α κ : Type*} [LinearOrder κ] {key : α → κ} {le : α → α → Prop}

def RefinesKey (key : α → κ) (le : α → α → Prop) : Prop :=
  ∀ a b, (le a b → key a ≤ key b) ∧ (¬ le a b → key b ≤ key a)

def RefinesAt (key : α → κ) (le : α → α → Prop) (a b : α) : Prop :=
  (le a b → key a ≤ key b) ∧ (¬ le a b → key b ≤ key a)

section Sorting

variable [DecidableRel le] {l m : List α}

theorem pairwise_orderedInsert_of_refinesAt {a : α} (refines : ∀ b ∈ l, RefinesAt key le a b)
    (sorted : (l.map key).Pairwise (· ≤ ·)) : ((l.orderedInsert le a).map key).Pairwise (· ≤ ·) := by
  induction l with
  | nil => simp
  | cons b rest ih =>
    rw [List.map_cons, List.pairwise_cons] at sorted
    rw [List.orderedInsert_cons]
    have head := refines b List.mem_cons_self
    by_cases before : le a b
    · have below := head.1 before
      rw [if_pos before, List.map_cons, List.map_cons, List.pairwise_cons]
      refine ⟨?_, List.pairwise_cons.mpr sorted⟩
      intro k member
      rcases List.mem_cons.mp member with rfl | later
      · exact below
      · exact below.trans (sorted.1 k later)
    · have above := head.2 before
      rw [if_neg before, List.map_cons, List.pairwise_cons]
      refine ⟨?_, ih (fun c inside => refines c (List.mem_cons_of_mem _ inside)) sorted.2⟩
      intro k member
      obtain ⟨c, inside, rfl⟩ := List.mem_map.mp member
      rcases (List.mem_orderedInsert le).mp inside with rfl | later
      · exact above
      · exact sorted.1 _ (List.mem_map_of_mem later)

theorem pairwise_insertionSort_of_refinesAt (refines : l.Pairwise (RefinesAt key le)) :
    ((l.insertionSort le).map key).Pairwise (· ≤ ·) := by
  induction refines with
  | nil => simp
  | cons first _ ih =>
    exact pairwise_orderedInsert_of_refinesAt (fun b inside => first b ((List.mem_insertionSort le).mp inside)) ih

theorem map_insertionSort_eq (left : l.Pairwise (RefinesAt key le)) (right : m.Pairwise (RefinesAt key le))
    (same : (l.map key).Perm (m.map key)) : (l.insertionSort le).map key = (m.insertionSort le).map key := by
  have sorts := fun l => (List.perm_insertionSort le l).map key
  exact List.Perm.eq_of_pairwise (fun _ _ _ _ below above => le_antisymm below above)
    (pairwise_insertionSort_of_refinesAt left) (pairwise_insertionSort_of_refinesAt right)
    (((sorts l).trans same).trans (sorts m).symm)

end Sorting

end Beignet.Data
