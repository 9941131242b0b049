import Mathlib

namespace Beignet.Data

/-! Numbers of one width written as numbers of another, through their bits. -/

section Bits

def bitsOf : Nat → Nat → List Bool
  | 0, _ => []
  | width + 1, value => bitsOf width (value / 2) ++ [decide (value % 2 = 1)]

variable (bits : List Bool)

def numberOf : Nat := bits.foldl (fun value bit => value * 2 + bit.toNat) 0

theorem length_bitsOf (width value : Nat) : (bitsOf width value).length = width := by
  induction width generalizing value with
  | zero => rfl
  | succ width ih => simp [bitsOf, ih]

theorem numberOf_concat (bit : Bool) : numberOf (bits ++ [bit]) = numberOf bits * 2 + bit.toNat := by
  simp [numberOf]

theorem numberOf_bitsOf {width value : Nat} (fits : value < 2 ^ width) : numberOf (bitsOf width value) = value := by
  induction width generalizing value with
  | zero =>
    have zero : value = 0 := by simpa using fits
    rw [zero]
    rfl
  | succ width ih =>
    have high : value / 2 < 2 ^ width := by
      rw [Nat.pow_succ] at fits
      omega
    rw [bitsOf, numberOf_concat, ih high]
    rcases Nat.mod_two_eq_zero_or_one value with even | odd
    · simp [even]
      omega
    · simp [odd]
      omega

theorem bitsOf_numberOf : bitsOf bits.length (numberOf bits) = bits := by
  induction bits using List.reverseRecOn with
  | nil => rfl
  | append_singleton bits bit ih =>
    have low : bit.toNat < 2 := Bool.toNat_lt bit
    have high : (numberOf bits * 2 + bit.toNat) / 2 = numberOf bits := by omega
    have last : decide ((numberOf bits * 2 + bit.toNat) % 2 = 1) = bit := by
      cases bit <;> simp
    rw [List.length_append, List.length_singleton, bitsOf, numberOf_concat, high, last, ih]

end Bits

section Groups

def spread (width : Nat) (values : List Nat) : List Bool := values.flatMap (bitsOf width)

def groups (width : Nat) : Nat → List Bool → List Nat
  | 0, _ => []
  | count + 1, bits => numberOf (bits.take width) :: groups width count (bits.drop width)

theorem length_groups (width count : Nat) (bits : List Bool) : (groups width count bits).length = count := by
  induction count generalizing bits with
  | zero => rfl
  | succ count ih => simp [groups, ih]

theorem length_spread (width : Nat) (values : List Nat) : (spread width values).length = width * values.length := by
  induction values with
  | nil => simp [spread]
  | cons value rest ih =>
    have tail : spread width (value :: rest) = bitsOf width value ++ spread width rest := rfl
    rw [tail, List.length_append, length_bitsOf, ih, List.length_cons]
    ring

theorem groups_spread {width : Nat} {values : List Nat} (fits : ∀ value ∈ values, value < 2 ^ width)
    (rest : List Bool) : groups width values.length (spread width values ++ rest) = values := by
  induction values with
  | nil => rfl
  | cons value others ih =>
    have whole : spread width (value :: others) ++ rest = bitsOf width value ++ (spread width others ++ rest) := by
      simp [spread]
    have size := length_bitsOf width value
    rw [List.length_cons, groups, whole, List.take_left' size, List.drop_left' size,
      numberOf_bitsOf (fits value (by simp)), ih fun other member => fits other (by simp [member])]

theorem spread_groups {width count : Nat} {bits : List Bool} (size : bits.length = width * count) :
    spread width (groups width count bits) = bits := by
  induction count generalizing bits with
  | zero =>
    have empty : bits = [] := List.eq_nil_of_length_eq_zero (by simpa using size)
    rw [empty]
    rfl
  | succ count ih =>
    have taken : (bits.take width).length = width := by
      rw [List.length_take, size]
      exact Nat.min_eq_left (Nat.le_mul_of_pos_right width (Nat.succ_pos count))
    have left : (bits.drop width).length = width * count := by
      rw [List.length_drop, size, Nat.mul_succ]
      omega
    have first : bitsOf width (numberOf (bits.take width)) = bits.take width := by
      have whole := bitsOf_numberOf (bits.take width)
      rwa [taken] at whole
    have tail := ih left
    show bitsOf width (numberOf (bits.take width)) ++ spread width (groups width count (bits.drop width)) = bits
    rw [first, tail, List.take_append_drop]

end Groups

section Conversion

def regroupPadded (given wanted : Nat) (values : List Nat) : List Nat :=
  let bits := spread given values
  let count := (bits.length + (wanted - 1)) / wanted
  groups wanted count (bits ++ List.replicate (wanted * count - bits.length) false)

def regroupExact (given wanted : Nat) (values : List Nat) : Option (List Nat) :=
  let bits := spread given values
  let count := bits.length / wanted
  let left := bits.drop (wanted * count)
  if given ≤ left.length ∨ left.any id then none else some (groups wanted count bits)

theorem length_regroupPadded (wide narrow : Nat) (values : List Nat) :
    (regroupPadded wide narrow values).length = (wide * values.length + (narrow - 1)) / narrow := by
  rw [regroupPadded, length_groups, length_spread]

theorem regroupExact_regroupPadded {wide narrow : Nat} (positive : 0 < narrow) (wider : narrow ≤ wide)
    {values : List Nat} (fits : ∀ value ∈ values, value < 2 ^ wide) :
    regroupExact narrow wide (regroupPadded wide narrow values) = some values := by
  have size := length_spread wide values
  obtain ⟨count, counted⟩ : ∃ count, count = ((spread wide values).length + (narrow - 1)) / narrow := ⟨_, rfl⟩
  have enough : (spread wide values).length ≤ narrow * count := by
    have split := Nat.div_add_mod ((spread wide values).length + (narrow - 1)) narrow
    have small := Nat.mod_lt ((spread wide values).length + (narrow - 1)) positive
    rw [← counted] at split
    omega
  have little : narrow * count - (spread wide values).length < narrow := by
    have split := Nat.div_add_mod ((spread wide values).length + (narrow - 1)) narrow
    rw [← counted] at split
    omega
  have padded : spread narrow (regroupPadded wide narrow values) =
      spread wide values ++ List.replicate (narrow * count - (spread wide values).length) false := by
    rw [regroupPadded, ← counted]
    apply spread_groups
    rw [List.length_append, List.length_replicate]
    omega
  have whole : (spread narrow (regroupPadded wide narrow values)).length / wide = values.length := by
    rw [padded, List.length_append, List.length_replicate, size, Nat.add_comm,
      Nat.add_mul_div_left _ _ (by omega), Nat.div_eq_of_lt (by omega), Nat.zero_add]
  rw [regroupExact, whole]
  rw [padded, List.drop_left' size, List.length_replicate, if_neg (by
    rintro (long | nonzero)
    · omega
    · simp at nonzero), groups_spread fits]

end Conversion

end Beignet.Data
