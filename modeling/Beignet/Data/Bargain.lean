import Mathlib

namespace Beignet.Data

/-! Two parties bargain over a number. Each takes an offer that is in its own range, and answers any other
    with the midpoint between that offer and its own last one, pulled into its range. -/

structure Range where
  lo : Nat
  hi : Nat
  deriving DecidableEq, Repr

namespace Range

instance : Membership Nat Range := ⟨fun r n => r.lo ≤ n ∧ n ≤ r.hi⟩

theorem mem_iff {r : Range} {n : Nat} : n ∈ r ↔ r.lo ≤ n ∧ n ≤ r.hi := Iff.rfl

instance (r : Range) (n : Nat) : Decidable (n ∈ r) := inferInstanceAs (Decidable (r.lo ≤ n ∧ n ≤ r.hi))

def clamp (r : Range) (n : Nat) : Nat := min (max n r.lo) r.hi

def counter (r : Range) (last offer : Nat) : Nat := r.clamp ((last + offer) / 2)

variable {r mine theirs : Range} {last offer : Nat}

theorem counter_mem {k : Nat} (inhabited : k ∈ r) (last offer : Nat) : r.counter last offer ∈ r := by
  rw [mem_iff] at inhabited ⊢
  unfold counter clamp
  omega

/-- With a number that both take, an offer that is turned down and answered in vain is two apart from the last
    one at least, and the answer halves the distance. -/
theorem dist_counter {k : Nat} (common : k ∈ mine ∧ k ∈ theirs) (own : last ∈ mine) (given : offer ∈ theirs)
    (refused : offer ∉ mine) (again : mine.counter last offer ∉ theirs) :
    2 ≤ Nat.dist last offer ∧ 2 * Nat.dist offer (mine.counter last offer) ≤ Nat.dist last offer + 1 := by
  simp only [mem_iff] at common own given refused again
  unfold counter clamp at again ⊢
  unfold Nat.dist
  omega

end Range

def bargain : Nat → Range → Range → Nat → Nat → Option Nat
  | 0, _, _, _, _ => none
  | n + 1, mine, theirs, last, offer =>
    if offer ∈ mine then some offer else bargain n theirs mine offer (mine.counter last offer)

variable {mine theirs : Range} {last offer n : Nat}

theorem bargain_of_mem (taken : offer ∈ mine) : bargain (n + 1) mine theirs last offer = some offer := by
  simp [bargain, taken]

theorem bargain_settles {k : Nat} (common : k ∈ mine ∧ k ∈ theirs) (own : last ∈ mine) (given : offer ∈ theirs)
    (near : Nat.dist last offer ≤ 2 ^ n) :
    ∃ agreed, bargain (n + 2) mine theirs last offer = some agreed ∧ agreed ∈ mine ∧ agreed ∈ theirs := by
  induction n generalizing mine theirs last offer with
  | zero =>
    by_cases taken : offer ∈ mine
    · exact ⟨offer, bargain_of_mem taken, taken, given⟩
    · have counter := Range.counter_mem common.1 last offer
      by_cases met : mine.counter last offer ∈ theirs
      · refine ⟨mine.counter last offer, ?_, counter, met⟩
        rw [bargain, if_neg taken, bargain_of_mem met]
      · have apart := (Range.dist_counter common own given taken met).1
        omega
  | succ n ih =>
    by_cases taken : offer ∈ mine
    · exact ⟨offer, bargain_of_mem taken, taken, given⟩
    · have counter := Range.counter_mem common.1 last offer
      have step : bargain (n + 1 + 2) mine theirs last offer =
          bargain (n + 2) theirs mine offer (mine.counter last offer) := by
        rw [bargain, if_neg taken]
      by_cases met : mine.counter last offer ∈ theirs
      · exact ⟨mine.counter last offer, by rw [step, bargain_of_mem met], counter, met⟩
      · have halved := (Range.dist_counter common own given taken met).2
        have nearer : Nat.dist offer (mine.counter last offer) ≤ 2 ^ n := by
          rw [Nat.pow_succ] at near
          omega
        obtain ⟨agreed, settles, ours, its⟩ := ih common.symm given counter nearer
        exact ⟨agreed, step.trans settles, its, ours⟩

end Beignet.Data
