import Beignet.Data.Basic

namespace Beignet.Data

def writeBE : Nat → Nat → Bytes
  | 0, _ => []
  | width + 1, value => writeBE width (value / 256) ++ [Fin.ofNat 256 value]

def readBE (bytes : Bytes) : Nat := bytes.foldl (fun acc byte => acc * 256 + byte.val) 0

@[simp] theorem length_writeBE (width value : Nat) : (writeBE width value).length = width := by
  induction width generalizing value with
  | zero => rfl
  | succ width ih => simp [writeBE, ih]

variable (bytes : Bytes)

theorem readBE_concat (byte : Fin 256) : readBE (bytes ++ [byte]) = readBE bytes * 256 + byte.val := by
  simp [readBE]

theorem readBE_append (high low : Bytes) : readBE (high ++ low) = readBE high * 256 ^ low.length + readBE low := by
  induction low using List.reverseRecOn with
  | nil => simp [readBE]
  | append_singleton low byte ih =>
    rw [← List.append_assoc, readBE_concat, readBE_concat, ih, List.length_append, List.length_singleton,
      Nat.pow_succ]
    ring

theorem readBE_lt : readBE bytes < 256 ^ bytes.length := by
  induction bytes using List.reverseRecOn with
  | nil => simp [readBE]
  | append_singleton bytes byte ih =>
    have last := byte.isLt
    rw [readBE_concat, List.length_append, List.length_singleton, Nat.pow_succ]
    omega

theorem readBE_writeBE {width value : Nat} (fits : value < 256 ^ width) : readBE (writeBE width value) = value := by
  induction width generalizing value with
  | zero =>
    have zero : value = 0 := by simpa using fits
    rw [zero]
    rfl
  | succ width ih =>
    have high : value / 256 < 256 ^ width := by
      rw [Nat.pow_succ] at fits
      exact Nat.div_lt_of_lt_mul (by rwa [Nat.mul_comm])
    rw [writeBE, readBE_concat, ih high, Fin.val_ofNat]
    exact Nat.div_add_mod' value 256

theorem writeBE_readBE : writeBE bytes.length (readBE bytes) = bytes := by
  induction bytes using List.reverseRecOn with
  | nil => rfl
  | append_singleton bytes byte ih =>
    have last := byte.isLt
    have high : (readBE bytes * 256 + byte.val) / 256 = readBE bytes := by omega
    have low : Fin.ofNat 256 (readBE bytes * 256 + byte.val) = byte := by
      apply Fin.ext
      rw [Fin.val_ofNat]
      omega
    rw [List.length_append, List.length_singleton, writeBE, readBE_concat, high, low, ih]

def slice (data : Bytes) (offset width : Nat) : Bytes := (data.drop offset).take width

theorem length_slice {data : Bytes} {offset width : Nat} (inside : offset + width ≤ data.length) :
    (slice data offset width).length = width := by
  rw [slice, List.length_take, List.length_drop]
  omega

theorem slice_add (data : Bytes) (offset first second : Nat) :
    slice data offset (first + second) = slice data offset first ++ slice data (offset + first) second := by
  rw [slice, slice, slice, List.take_add, List.drop_drop]

variable {data bytes : Bytes} {offset : Nat}

theorem slice_eq_iff : slice data offset bytes.length = bytes ↔ bytes <+: data.drop offset := by
  rw [slice, List.prefix_iff_eq_take]
  exact eq_comm

theorem add_length_le_of_prefix_drop (nonempty : bytes ≠ [])
    (starts : bytes <+: data.drop offset) : offset + bytes.length ≤ data.length := by
  have fits := starts.length_le
  rw [List.length_drop] at fits
  have positive := List.length_pos_iff.mpr nonempty
  omega

theorem append_prefix_drop {data first second : Bytes} : first ++ second <+: data.drop offset ↔
      first <+: data.drop offset ∧ second <+: data.drop (offset + first.length) := by
  rw [← List.drop_drop]
  constructor
  · rintro ⟨rest, whole⟩
    rw [← whole]
    refine ⟨⟨second ++ rest, by simp⟩, ⟨rest, ?_⟩⟩
    rw [List.append_assoc, List.drop_left]
  · rintro ⟨⟨tail, whole⟩, starts⟩
    rw [← whole, List.drop_left] at starts
    rw [← whole]
    exact (List.prefix_append_right_inj first).mpr starts

end Beignet.Data
