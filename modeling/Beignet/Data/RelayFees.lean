import Mathlib

namespace Beignet.Data

/-! Relays in a row that each keep a base fee and a proportional part, in units of `1 / m`. The terms of a
    row are folded into one pair of terms, rounded up at every hop; on the way each relay inverts its own
    fee, again rounding up. How far the roundings can drift is kept multiplied by `m`. -/

structure FeeTerms where
  base : Nat
  prop : Nat
  deriving DecidableEq, Repr

namespace FeeTerms

variable (m : Nat)

def none : FeeTerms := ⟨0, 0⟩

def fold (up down : FeeTerms) : FeeTerms :=
  ⟨up.base + down.base + (down.base * up.prop) ⌈/⌉ m, up.prop + down.prop + (up.prop * down.prop) ⌈/⌉ m⟩

def invert (t : FeeTerms) (amount : Nat) : Nat := ((amount - t.base) * m) ⌈/⌉ (m + t.prop)

structure Within (d : Nat) (t : FeeTerms) (k amount : Nat) : Prop where
  lower : m * (d + t.base) + d * t.prop < m * (amount + 1)
  upper : m * amount ≤ m * (d + t.base) + d * t.prop + k * (2 * m + d)

variable {m} {d k amount : Nat} {t up down : FeeTerms}

theorem ceilDiv_bounds {a b : Nat} (pos : 0 < b) : a ≤ b * (a ⌈/⌉ b) ∧ b * (a ⌈/⌉ b) < a + b := by
  refine ⟨le_smul_ceilDiv pos, ?_⟩
  rw [Nat.ceilDiv_eq_add_pred_div]
  have := Nat.mul_div_le (a + b - 1) b
  omega

theorem within_sent (pos : 0 < m) : Within m d t 0 (d + t.base + d * t.prop / m) := by
  have floor := Nat.div_add_mod (d * t.prop) m
  have below := Nat.mod_lt (d * t.prop) pos
  constructor
  · rw [mul_add m _ 1, mul_add m (d + t.base)]
    omega
  · rw [mul_add m (d + t.base)]
    omega

theorem within_of_covers (pos : 0 < m) (covers : d + t.base + d * t.prop / m ≤ amount) :
    Within m d t (m * amount) amount := by
  constructor
  · have below := Nat.lt_mul_div_succ (d * t.prop) pos
    have scaled := Nat.mul_le_mul_left m covers
    linarith
  · have drift := Nat.le_mul_of_pos_right (m * amount) (show 0 < 2 * m + d by omega)
    omega

theorem Within.covers (within : Within m d t k amount) : d + t.base + d * t.prop / m ≤ amount := by
  have lower := within.lower
  have floor := Nat.mul_div_le (d * t.prop) m
  have : m * (d + t.base + d * t.prop / m) < m * (amount + 1) := by
    rw [mul_add m (d + t.base)]
    omega
  exact Nat.lt_succ_iff.mp (Nat.lt_of_mul_lt_mul_left this)

theorem Within.invert (pos : 0 < m) (within : Within m d (fold m up down) k amount) :
    Within m d down (k + 1) (up.invert m amount) := by
  have fee : up.base ≤ d + (fold m up down).base := by
    simp only [fold]
    omega
  obtain ⟨rest, rfl⟩ : ∃ rest, amount = up.base + rest :=
    Nat.exists_eq_add_of_le (fee.trans ((Nat.le_add_right _ _).trans within.covers))
  obtain ⟨baseLow, baseHigh⟩ := ceilDiv_bounds (a := down.base * up.prop) pos
  obtain ⟨propLow, propHigh⟩ := ceilDiv_bounds (a := up.prop * down.prop) pos
  obtain ⟨outLow, outHigh⟩ := ceilDiv_bounds (a := rest * m) (Nat.add_pos_left pos up.prop)
  have lower := within.lower
  have upper := within.upper
  simp only [fold] at lower upper
  have out : up.invert m (up.base + rest) = (rest * m) ⌈/⌉ (m + up.prop) := by
    rw [FeeTerms.invert, Nat.add_sub_cancel_left]
  rw [out]
  generalize (down.base * up.prop) ⌈/⌉ m = baseUp at *
  generalize (up.prop * down.prop) ⌈/⌉ m = propUp at *
  generalize (rest * m) ⌈/⌉ (m + up.prop) = forwarded at *
  -- Both bounds are compared after multiplying by `m + up.prop`, where the exact fees cancel.
  have dPropLow := Nat.mul_le_mul_left d propLow
  have dPropHigh := Nat.mul_le_mul_left d propHigh.le
  constructor
  · by_contra short
    rw [not_lt] at short
    have scaled := Nat.mul_le_mul_left (m + up.prop) short
    have received := Nat.mul_le_mul_left m outLow
    have paid := Nat.mul_lt_mul_of_pos_left lower pos
    have bases := Nat.mul_le_mul_left m baseLow
    have kept : 0 ≤ m * up.prop := Nat.zero_le _
    linarith
  · by_contra more
    rw [not_le] at more
    have scaled := Nat.mul_lt_mul_of_pos_left more (Nat.add_pos_left pos up.prop)
    have received := Nat.mul_lt_mul_of_pos_left outHigh pos
    have paid := Nat.mul_le_mul_left m upper
    have bases := Nat.mul_le_mul_left m baseHigh.le
    have drift : up.prop * m ≤ up.prop * ((k + 1) * (2 * m + d)) := by
      apply Nat.mul_le_mul_left
      exact le_trans (by omega) (Nat.le_mul_of_pos_left (2 * m + d) k.succ_pos)
    linarith

theorem Within.relay (pos : 0 < m) {ups : List FeeTerms} (within : Within m d (ups.foldr (fold m) t) k amount) :
    Within m d t (k + ups.length) (ups.foldl (fun amount up => up.invert m amount) amount) := by
  induction ups generalizing k amount with
  | nil => exact within
  | cons up rest ih =>
    have passed := ih (within.invert pos)
    rw [Nat.add_right_comm] at passed
    exact passed

theorem fold_none : fold m t none = t := by simp [fold, none]

theorem Within.deliver (pos : 0 < m) (within : Within m d t k amount) :
    d ≤ t.invert m amount ∧ m * t.invert m amount ≤ m * d + (k + 1) * (2 * m + d) ∧
      t.invert m amount + (t.base + d * t.prop / m) ≤ amount := by
  have covers := within.covers
  rw [← fold_none (m := m) (t := t)] at within
  have passed := within.invert pos
  have lower := passed.lower
  have upper := passed.upper
  simp only [none, add_zero, mul_zero] at lower upper
  refine ⟨Nat.lt_succ_iff.mp (Nat.lt_of_mul_lt_mul_left lower), upper, ?_⟩
  obtain ⟨kept, rfl⟩ := Nat.exists_eq_add_of_le covers
  have floor := Nat.mul_div_le (d * t.prop) m
  generalize d * t.prop / m = fee at *
  have rest : d + t.base + fee + kept - t.base = d + fee + kept := by omega
  rw [FeeTerms.invert, rest]
  suffices bound : ((d + fee + kept) * m) ⌈/⌉ (m + t.prop) ≤ d + kept by omega
  rw [ceilDiv_le_iff_le_smul (Nat.add_pos_left pos _), smul_eq_mul]
  have gain : 0 ≤ t.prop * kept := Nat.zero_le _
  linarith

end FeeTerms

end Beignet.Data
