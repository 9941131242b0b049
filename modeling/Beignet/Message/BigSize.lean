import Beignet.Data.BigEndian

namespace Beignet.Message

open Beignet.Data

/-- The last error is the one of `writeBigUInt64BE`. -/
def encodeBigSize (value : Nat) : Except String Bytes :=
  if value < 0xfd then .ok [Fin.ofNat 256 value]
  else if value < 0x10000 then .ok (0xfd :: writeBE 2 value)
  else if value < 0x100000000 then .ok (0xfe :: writeBE 4 value)
  else if value < 0x10000000000000000 then .ok (0xff :: writeBE 8 value)
  else .error "The value of \"value\" is out of range"

structure BigSizeResult where
  value : Nat
  bytesRead : Nat
  deriving DecidableEq, Repr

def readWide (data : Bytes) (offset width least : Nat) : Except String BigSizeResult :=
  if data.length < offset + (width + 1) then
    .error s!"BigSize: unexpected end of data for {width}-byte value"
  else
    let value := readBE (slice data (offset + 1) width)
    if value < least then .error s!"BigSize: non-canonical encoding for value {value}"
    else .ok ⟨value, width + 1⟩

def decodeBigSize (data : Bytes) (offset : Nat) : Except String BigSizeResult :=
  match data[offset]? with
  | none => .error "BigSize: unexpected end of data"
  | some first =>
    if first < 0xfd then .ok ⟨first.val, 1⟩
    else if first = 0xfd then readWide data offset 2 0xfd
    else if first = 0xfe then readWide data offset 4 0x10000
    else readWide data offset 8 0x100000000

structure BigSizeParts where
  hi : Nat
  lo : Nat
  bytesRead : Nat
  deriving DecidableEq, Repr

def readBigSizeParts (data : Bytes) (offset : Nat) : Except String BigSizeParts :=
  match data[offset]? with
  | none => .error "BigSize: unexpected end of data"
  | some first =>
    if first < 0xfd then .ok ⟨0, first.val, 1⟩
    else if first = 0xfd then
      (readWide data offset 2 0xfd).map fun r => ⟨0, r.value, r.bytesRead⟩
    else if first = 0xfe then
      (readWide data offset 4 0x10000).map fun r => ⟨0, r.value, r.bytesRead⟩
    else if data.length < offset + 9 then .error "BigSize: unexpected end of data for 8-byte value"
    else
      let hi := readBE (slice data (offset + 1) 4)
      let lo := readBE (slice data (offset + 5) 4)
      if hi = 0 then .error s!"BigSize: non-canonical encoding for value {lo}" else .ok ⟨hi, lo, 9⟩

variable {value : Nat} {bytes : Bytes} {data : Bytes} {offset width least : Nat} {r : BigSizeResult}

theorem encodeBigSize_ok_iff : encodeBigSize value = .ok bytes ↔ (value < 0xfd ∧ bytes = [Fin.ofNat 256 value]) ∨
      (0xfd ≤ value ∧ value < 256 ^ 2 ∧ bytes = 0xfd :: writeBE 2 value) ∨
      (0x10000 ≤ value ∧ value < 256 ^ 4 ∧ bytes = 0xfe :: writeBE 4 value) ∨
      (0x100000000 ≤ value ∧ value < 256 ^ 8 ∧ bytes = 0xff :: writeBE 8 value) := by
  unfold encodeBigSize
  split_ifs with one three five nine
  · rw [Except.ok.injEq, eq_comm]
    simp [one, show ¬ 253 ≤ value by omega, show ¬ 65536 ≤ value by omega, show ¬ 4294967296 ≤ value by omega]
  · rw [Except.ok.injEq, eq_comm]
    simp [one, three, show 253 ≤ value by omega, show ¬ 65536 ≤ value by omega, show ¬ 4294967296 ≤ value by omega]
  · rw [Except.ok.injEq, eq_comm]
    simp [one, three, five, show 65536 ≤ value by omega, show ¬ 4294967296 ≤ value by omega]
  · rw [Except.ok.injEq, eq_comm]
    simp [one, three, five, nine, show 4294967296 ≤ value by omega]
  · simp [one, three, five, nine]

theorem readWide_ok_iff : readWide data offset width least = .ok r ↔
      r.bytesRead = width + 1 ∧ least ≤ r.value ∧ r.value < 256 ^ width ∧
        data.length ≥ offset + (width + 1) ∧ writeBE width r.value <+: data.drop (offset + 1) := by
  unfold readWide
  by_cases short : data.length < offset + (width + 1)
  · simp [short]
  have length : (slice data (offset + 1) width).length = width := length_slice (by omega)
  have bound : readBE (slice data (offset + 1) width) < 256 ^ width := by
    have fits := readBE_lt (slice data (offset + 1) width)
    rwa [length] at fits
  have written : writeBE width (readBE (slice data (offset + 1) width)) = slice data (offset + 1) width := by
    have back := writeBE_readBE (slice data (offset + 1) width)
    rwa [length] at back
  rw [if_neg short]
  constructor
  · intro accepted
    dsimp only at accepted
    split at accepted
    case isTrue => exact absurd accepted (by simp)
    case isFalse large =>
      obtain rfl := Except.ok.inj accepted
      refine ⟨rfl, not_lt.mp large, bound, not_lt.mp short, ?_⟩
      rw [written]
      exact List.take_prefix width _
  · rintro ⟨size, large, fits, -, starts⟩
    have same : readBE (slice data (offset + 1) width) = r.value := by
      rw [← slice_eq_iff, length_writeBE] at starts
      rw [starts, readBE_writeBE fits]
    simp only [same, not_lt.mpr large, if_false]
    rw [← size]

theorem readMarked_ok_iff {first : Fin 256} (marker : data[offset]? = some first) :
    readWide data offset width least = .ok r ↔
      r.bytesRead = (first :: writeBE width r.value).length ∧ least ≤ r.value ∧ r.value < 256 ^ width ∧
        first :: writeBE width r.value <+: data.drop offset := by
  obtain ⟨inside, here⟩ := List.getElem?_eq_some_iff.mp marker
  rw [readWide_ok_iff, List.drop_eq_getElem_cons inside, here, List.cons_prefix_cons, List.length_cons,
    length_writeBE]
  constructor
  · rintro ⟨size, large, fits, -, starts⟩
    exact ⟨size, large, fits, rfl, starts⟩
  · rintro ⟨size, large, fits, -, starts⟩
    have room := starts.length_le
    rw [length_writeBE, List.length_drop] at room
    exact ⟨size, large, fits, by omega, starts⟩

theorem decodeBigSize_ok_iff {offset : Nat} : decodeBigSize data offset = .ok r ↔
      ∃ bytes, encodeBigSize r.value = .ok bytes ∧ r.bytesRead = bytes.length ∧ bytes <+: data.drop offset := by
  unfold decodeBigSize
  cases marker : data[offset]? with
  | none =>
    have past : data.drop offset = [] := List.drop_eq_nil_of_le (List.getElem?_eq_none_iff.mp marker)
    simp only [reduceCtorEq, past, List.prefix_nil, false_iff, not_exists]
    rintro bytes ⟨encoded, -, rfl⟩
    simp [encodeBigSize_ok_iff] at encoded
  | some first =>
    obtain ⟨inside, here⟩ := List.getElem?_eq_some_iff.mp marker
    have head : data.drop offset = first :: data.drop (offset + 1) := by
      rw [List.drop_eq_getElem_cons inside, here]
    constructor
    · intro accepted
      dsimp only at accepted
      split_ifs at accepted with one three five
      · obtain rfl := Except.ok.inj accepted
        refine ⟨[first], encodeBigSize_ok_iff.mpr (.inl ⟨one, by simp⟩), rfl, ?_⟩
        rw [head]
        exact ⟨_, rfl⟩
      · obtain ⟨size, large, fits, starts⟩ := (readMarked_ok_iff marker).mp accepted
        exact ⟨_, encodeBigSize_ok_iff.mpr (.inr (.inl ⟨large, fits, by rw [three]⟩)), size, starts⟩
      · obtain ⟨size, large, fits, starts⟩ := (readMarked_ok_iff marker).mp accepted
        exact ⟨_, encodeBigSize_ok_iff.mpr (.inr (.inr (.inl ⟨large, fits, by rw [five]⟩))), size, starts⟩
      · have nine : first = 0xff := by
          have bound := first.isLt
          have notThree : first.val ≠ 253 := fun same => three (Fin.ext same)
          have notFive : first.val ≠ 254 := fun same => five (Fin.ext same)
          have notOne : ¬ first.val < 253 := one
          exact Fin.ext (show first.val = 255 by omega)
        obtain ⟨size, large, fits, starts⟩ := (readMarked_ok_iff marker).mp accepted
        exact ⟨_, encodeBigSize_ok_iff.mpr (.inr (.inr (.inr ⟨large, fits, by rw [nine]⟩))), size, starts⟩
    · rintro ⟨bytes, encoded, size, starts⟩
      rw [encodeBigSize_ok_iff] at encoded
      rcases encoded with ⟨small, rfl⟩ | ⟨large, fits, rfl⟩ | ⟨large, fits, rfl⟩ | ⟨large, fits, rfl⟩
      all_goals obtain rfl := (List.cons_prefix_cons.mp (head ▸ starts)).1
      · have value : (Fin.ofNat 256 r.value).val = r.value := Nat.mod_eq_of_lt (by omega)
        have low : Fin.ofNat 256 r.value < 253 := by
          rw [Fin.lt_def, value]
          exact small
        simp only [low, if_true, value]
        exact congrArg (fun read => Except.ok (BigSizeResult.mk r.value read)) size.symm
      · exact (readMarked_ok_iff marker).mpr ⟨size, large, fits, starts⟩
      · exact (readMarked_ok_iff marker).mpr ⟨size, large, fits, starts⟩
      · exact (readMarked_ok_iff marker).mpr ⟨size, large, fits, starts⟩

theorem encodeBigSize_isOk_iff : (∃ bytes, encodeBigSize value = .ok bytes) ↔ value < 2 ^ 64 := by
  constructor
  · rintro ⟨bytes, encoded⟩
    rw [encodeBigSize_ok_iff] at encoded
    omega
  · intro bound
    unfold encodeBigSize
    split_ifs
    all_goals first | exact ⟨_, rfl⟩ | omega

theorem encodeBigSize_length_pos (encoded : encodeBigSize value = .ok bytes) : 0 < bytes.length := by
  rw [encodeBigSize_ok_iff] at encoded
  rcases encoded with ⟨-, rfl⟩ | ⟨-, -, rfl⟩ | ⟨-, -, rfl⟩ | ⟨-, -, rfl⟩ <;> simp

end Beignet.Message
