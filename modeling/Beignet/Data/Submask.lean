import Mathlib

namespace Beignet.Data

def Submask (a b : Nat) : Prop := ∀ i, a.testBit i = true → b.testBit i = true

def top (k n : Nat) : Nat := n >>> k <<< k

@[simp] theorem testBit_top (k n i : Nat) : (top k n).testBit i = (decide (k ≤ i) && n.testBit i) := by
  by_cases high : k ≤ i
  · simp [top, Nat.testBit_shiftLeft, Nat.testBit_shiftRight, high]
  · simp [top, Nat.testBit_shiftLeft, high]

theorem top_eq (k n : Nat) : top k n = n / 2 ^ k * 2 ^ k := by
  rw [top, Nat.shiftLeft_eq, Nat.shiftRight_eq_div_pow]

@[simp] theorem top_zero (n : Nat) : top 0 n = n := by simp [top]

theorem top_top {j k : Nat} (order : j ≤ k) (n : Nat) : top k (top j n) = top k n := by
  refine Nat.eq_of_testBit_eq fun i => ?_
  simp only [testBit_top]
  by_cases high : k ≤ i
  · simp [high, order.trans high]
  · simp [high]

theorem top_submask (k n : Nat) : Submask (top k n) n := by
  intro i set
  rw [testBit_top, Bool.and_eq_true] at set
  exact set.2

theorem top_eq_of_between {k n m : Nat} (above : top k n ≤ m) (below : m ≤ n) : top k m = top k n := by
  rw [top_eq] at above
  rw [top_eq, top_eq]
  have lower : n / 2 ^ k ≤ m / 2 ^ k := (Nat.le_div_iff_mul_le (Nat.two_pow_pos k)).mpr above
  have upper : m / 2 ^ k ≤ n / 2 ^ k := Nat.div_le_div_right below
  rw [le_antisymm upper lower]

namespace Submask

theorem le {a b : Nat} (sub : Submask a b) : a ≤ b := by
  have same : a &&& b = a := by
    refine Nat.eq_of_testBit_eq fun i => ?_
    rw [Nat.testBit_and]
    cases set : a.testBit i with
    | false => rfl
    | true => simp [sub i set]
  rw [← same]
  exact Nat.and_le_right

theorem exists_top_difference {a b : Nat} (differ : a ≠ b) :
    ∃ t, a.testBit t ≠ b.testBit t ∧ ∀ i, t < i → a.testBit i = b.testBit i := by
  have nonzero : a ^^^ b ≠ 0 := fun same => differ (Nat.xor_eq_zero_iff.mp same)
  obtain ⟨t, set, above⟩ := Nat.exists_most_significant_bit nonzero
  refine ⟨t, ?_, fun i higher => ?_⟩
  · rw [Nat.testBit_xor] at set
    exact fun same => by simp [same] at set
  · have clear := above i higher
    rw [Nat.testBit_xor] at clear
    simpa using clear

theorem eq_top_of_greatest {l e : Nat} (sub : Submask l e) (proper : l ≠ e)
    (greatest : ∀ j, l < j → Submask j e → j = e) : ∃ t, e.testBit t = true ∧ top t e = e ∧ top (t + 1) e = l := by
  obtain ⟨t, differ, above⟩ := exists_top_difference proper
  have clear : l.testBit t = false := by
    cases set : l.testBit t with
    | false => rfl
    | true => exact absurd ((set.trans (sub t set).symm)) differ
  have set : e.testBit t = true := by
    rw [clear] at differ
    simpa using differ.symm
  have upper : l < top t e := by
    refine Nat.lt_of_testBit t clear (by simp [set]) fun i higher => ?_
    rw [above i higher]
    simp [higher.le]
  have lowest : top t e = e := greatest _ upper (top_submask t e)
  refine ⟨t, set, lowest, Nat.eq_of_testBit_eq fun i => ?_⟩
  rw [testBit_top]
  rcases lt_trichotomy i t with below | rfl | higher
  · have none : e.testBit i = false := by
      rw [← lowest, testBit_top]
      simp [below]
    cases hit : l.testBit i with
    | false => simp [none]
    | true => exact absurd (sub i hit) (by simp [none])
  · simp [clear]
  · simp [Nat.succ_le_of_lt higher, above i higher]

end Submask

theorem filter_or_of_ordered {α : Type*} {r : α → α → Prop} {p q : α → Bool} {l : List α}
    (ordered : l.Pairwise r) (first : ∀ a b, p a = true → q b = true → ¬ r b a)
    (disjoint : ∀ a, p a = true → q a = false) : l.filter (fun a => p a || q a) = l.filter p ++ l.filter q := by
  induction l with
  | nil => rfl
  | cons a rest ih =>
    obtain ⟨after, ordered⟩ := List.pairwise_cons.mp ordered
    have ih := ih ordered
    cases here : p a with
    | true => simp [here, disjoint a here, ih]
    | false =>
      cases there : q a with
      | false => simp [here, there, ih]
      | true =>
        have none : rest.filter p = [] := by
          rw [List.filter_eq_nil_iff]
          exact fun b member hit => first b a hit there (after b member)
        simp [here, there, ih, none]

end Beignet.Data
