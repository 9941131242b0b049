import Beignet.Data.Basic
import Beignet.Data.Regroup

namespace Beignet.Invoice

open Beignet.Data

section Buffers

/-- `bech32.toWords`. -/
def bufferToWords (data : Bytes) : List Nat := regroupPadded 8 5 (data.map Fin.val)

/-- `bech32.fromWords`, which throws on leftover bits that are not a short padding of zeros. -/
def wordsToBuffer (words : List Nat) : Except String Bytes :=
  match regroupExact 5 8 words with
  | none => .error "Excess or non-zero padding"
  | some values => .ok (values.map (Fin.ofNat 256))

theorem length_bufferToWords (data : Bytes) : (bufferToWords data).length = (8 * data.length + 4) / 5 := by
  rw [bufferToWords, length_regroupPadded, List.length_map]

theorem wordsToBuffer_bufferToWords (data : Bytes) : wordsToBuffer (bufferToWords data) = .ok data := by
  have fits : ∀ value ∈ data.map Fin.val, value < 2 ^ 8 := by
    intro value member
    obtain ⟨byte, -, rfl⟩ := List.mem_map.mp member
    exact byte.isLt
  have same : (data.map Fin.val).map (Fin.ofNat 256) = data := by
    rw [List.map_map]
    conv_rhs => rw [← List.map_id data]
    apply List.map_congr_left
    intro byte _
    exact Fin.ofNat_val_eq_self byte
  rw [wordsToBuffer, bufferToWords, regroupExact_regroupPadded (by decide) (by decide) fits]
  dsimp only
  rw [same]

end Buffers

section Integers

def encodeUintToWords : Nat → Nat → List Nat
  | _, 0 => []
  | value, count + 1 => encodeUintToWords (value / 32) count ++ [value % 32]

def decodeUintFromWords (words : List Nat) : Nat := words.foldl (fun value word => value * 32 + word) 0

theorem length_encodeUintToWords (value count : Nat) : (encodeUintToWords value count).length = count := by
  induction count generalizing value with
  | zero => rfl
  | succ count ih => simp [encodeUintToWords, ih]

theorem decodeUintFromWords_encodeUintToWords (value count : Nat) :
    decodeUintFromWords (encodeUintToWords value count) = value % 32 ^ count := by
  induction count generalizing value with
  | zero => simp [encodeUintToWords, decodeUintFromWords, Nat.mod_one]
  | succ count ih =>
    have step : decodeUintFromWords (encodeUintToWords value (count + 1)) =
        decodeUintFromWords (encodeUintToWords (value / 32) count) * 32 + value % 32 := by
      simp [encodeUintToWords, decodeUintFromWords]
    rw [step, ih, Nat.pow_succ', Nat.mod_mul]
    ring

def varIntLoop (value : Nat) (words : List Nat) : List Nat :=
  if value = 0 then words else varIntLoop (value / 32) (value % 32 :: words)
termination_by value

def encodeVarInt (value : Nat) : List Nat := if value = 0 then [0] else varIntLoop value []

theorem foldl_varIntLoop (value : Nat) (words : List Nat) :
    (varIntLoop value words).foldl (fun value word => value * 32 + word) 0 =
      words.foldl (fun value word => value * 32 + word) value := by
  induction value using Nat.strong_induction_on generalizing words with
  | _ value ih =>
    rw [varIntLoop]
    split
    · rename_i zero
      rw [zero]
    · rename_i positive
      rw [ih (value / 32) (Nat.div_lt_self (by omega) (by decide)), List.foldl_cons]
      congr 1
      omega

theorem decodeUintFromWords_encodeVarInt (value : Nat) : decodeUintFromWords (encodeVarInt value) = value := by
  unfold encodeVarInt decodeUintFromWords
  split
  · rename_i zero
    rw [zero]
    rfl
  · rw [foldl_varIntLoop]
    rfl

end Integers

section TaggedFields

def encodeTaggedField (type : Nat) (dataWords : List Nat) : Except String (List Nat) :=
  let len := dataWords.length
  if len > 1023 then
    .error s!"Tagged field data length {len} exceeds the BOLT 11 maximum of 1023 words"
  else .ok ([type, len / 32, len % 32] ++ dataWords)

structure TaggedField where
  type : Nat
  dataWords : List Nat
  rest : List Nat

def decodeTaggedField (words : List Nat) : Except String TaggedField :=
  match words with
  | type :: high :: low :: after =>
    let len := high * 32 + low
    let available := after.length
    if len > available then
      .error s!"Tagged field truncated: need {len} data words but only {available} available"
    else .ok ⟨type, after.take len, after.drop len⟩
  | _ => .error "Tagged field truncated: not enough words for header"

variable {type : Nat} {dataWords field : List Nat}

theorem encodeTaggedField_eq_ok (encoded : encodeTaggedField type dataWords = .ok field) :
    field = type :: dataWords.length / 32 :: dataWords.length % 32 :: dataWords := by
  unfold encodeTaggedField at encoded
  dsimp only at encoded
  split at encoded
  · cases encoded
  · cases encoded
    rfl

theorem decodeTaggedField_encodeTaggedField
    (encoded : encodeTaggedField type dataWords = .ok field) (rest : List Nat) :
    decodeTaggedField (field ++ rest) = .ok ⟨type, dataWords, rest⟩ := by
  have len : dataWords.length / 32 * 32 + dataWords.length % 32 = dataWords.length := Nat.div_add_mod' _ 32
  rw [encodeTaggedField_eq_ok encoded]
  show decodeTaggedField (type :: dataWords.length / 32 :: dataWords.length % 32 :: (dataWords ++ rest)) = _
  unfold decodeTaggedField
  dsimp only
  rw [len, if_neg (by simp), List.take_left, List.drop_left]

end TaggedFields

end Beignet.Invoice
