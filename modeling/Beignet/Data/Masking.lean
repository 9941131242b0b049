import Beignet.Data.BigEndian

namespace Beignet.Data

/-! Byte strings under the XOR of a stream, taken from any position of the stream. -/

theorem xor_xor_cancel (a b : Fin 256) : (a ^^^ b) ^^^ b = a := by
  have small : a.val ^^^ b.val < 256 := Nat.xor_lt_two_pow (n := 8) a.isLt b.isLt
  apply Fin.ext
  rw [Fin.xor_val, Fin.xor_val, Nat.mod_eq_of_lt small, Nat.xor_assoc, Nat.xor_self, Nat.xor_zero,
    Nat.mod_eq_of_lt a.isLt]

theorem xor_zero (a : Fin 256) : a ^^^ 0 = a := by
  apply Fin.ext
  rw [Fin.xor_val, Fin.val_zero, Nat.xor_zero, Nat.mod_eq_of_lt a.isLt]

theorem zero_xor (a : Fin 256) : 0 ^^^ a = a := by
  apply Fin.ext
  rw [Fin.xor_val, Fin.val_zero, Nat.zero_xor, Nat.mod_eq_of_lt a.isLt]

def mask (stream : Nat → Fin 256) : Nat → Bytes → Bytes
  | _, [] => []
  | start, byte :: rest => (byte ^^^ stream start) :: mask stream (start + 1) rest

variable {stream : Nat → Fin 256} {start : Nat} (bytes : Bytes) (count : Nat)

@[simp] theorem mask_nil : mask stream start [] = [] := rfl

@[simp] theorem mask_cons (byte : Fin 256) :
    mask stream start (byte :: bytes) = (byte ^^^ stream start) :: mask stream (start + 1) bytes := rfl

@[simp] theorem length_mask : (mask stream start bytes).length = bytes.length := by
  induction bytes generalizing start with
  | nil => rfl
  | cons byte rest ih => simp [ih]

@[simp] theorem mask_mask : mask stream start (mask stream start bytes) = bytes := by
  induction bytes generalizing start with
  | nil => rfl
  | cons byte rest ih => simp [ih, xor_xor_cancel]

theorem mask_append (first second : Bytes) : mask stream start (first ++ second) =
      mask stream start first ++ mask stream (start + first.length) second := by
  induction first generalizing start with
  | nil => rfl
  | cons byte rest ih => simp [ih, Nat.add_assoc, Nat.add_comm 1]

theorem take_mask (bytes : Bytes) : (mask stream start bytes).take count = mask stream start (bytes.take count) := by
  induction bytes generalizing start count with
  | nil => simp
  | cons byte rest ih => cases count <;> simp [ih]

theorem drop_mask (bytes : Bytes) :
    (mask stream start bytes).drop count = mask stream (start + count) (bytes.drop count) := by
  induction bytes generalizing start count with
  | nil => simp
  | cons byte rest ih =>
    cases count with
    | zero => rfl
    | succ count => simp [ih, Nat.add_assoc, Nat.add_comm 1]

theorem mask_zero : mask (fun _ => 0) start bytes = bytes := by
  induction bytes generalizing start with
  | nil => rfl
  | cons byte rest ih => rw [mask_cons, ih, xor_zero]

theorem mask_replicate {spelled : Bytes} {shift count : Nat} (past : shift ≤ start)
    (inside : start - shift + count ≤ spelled.length) :
    mask (fun pos => spelled.getD (pos - shift) 0) start (List.replicate count 0) =
      (spelled.drop (start - shift)).take count := by
  induction count generalizing start with
  | zero => simp
  | succ count ih =>
    have lt : start - shift < spelled.length := by omega
    have next : start + 1 - shift = start - shift + 1 := by omega
    rw [List.replicate_succ, mask_cons, ih (by omega) (by omega), zero_xor, next,
      List.drop_eq_getElem_cons lt, List.take_succ_cons, List.getD_eq_getElem?_getD,
      List.getElem?_eq_getElem lt, Option.getD_some]

end Beignet.Data
