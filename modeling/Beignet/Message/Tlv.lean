import Beignet.Message.BigSize

namespace Beignet.Message

open Beignet.Data

/-- The double nearest to a natural number, ties to the even significand. -/
def toNumber (n : Nat) : Nat :=
  let unit := 2 ^ (n.log2 - 52)
  let kept := n / unit
  let rest := n % unit
  let up := unit < 2 * rest ∨ (unit = 2 * rest ∧ kept % 2 = 1)
  (if up then kept + 1 else kept) * unit

theorem toNumber_of_lt {n : Nat} (small : n < 2 ^ 53) : toNumber n = n := by
  have exponent : n.log2 - 52 = 0 := by
    rcases Nat.eq_zero_or_pos n with rfl | positive
    · rfl
    · have below := (Nat.log2_lt (by omega)).mpr small
      omega
  simp [toNumber, exponent, Nat.mod_one]

theorem le_toNumber {n : Nat} (large : 2 ^ 53 ≤ n) : 2 ^ 53 ≤ toNumber n := by
  have nonzero : n ≠ 0 := by omega
  have exponent : 53 ≤ n.log2 := (Nat.le_log2 nonzero).mpr large
  have kept : 2 ^ 52 ≤ n / 2 ^ (n.log2 - 52) := by
    rw [Nat.le_div_iff_mul_le (Nat.two_pow_pos _), ← Nat.pow_add]
    rw [show 52 + (n.log2 - 52) = n.log2 by omega]
    exact Nat.log2_self_le nonzero
  have unit : 2 ≤ 2 ^ (n.log2 - 52) := by
    calc 2 = 2 ^ 1 := rfl
      _ ≤ 2 ^ (n.log2 - 52) := Nat.pow_le_pow_right (by decide) (by omega)
  have product : 2 ^ 52 * 2 ≤ (n / 2 ^ (n.log2 - 52)) * 2 ^ (n.log2 - 52) := Nat.mul_le_mul kept unit
  refine le_trans product (Nat.mul_le_mul_right _ ?_)
  split <;> omega

structure TlvRecord where
  type : Nat
  value : Bytes
  deriving DecidableEq, Repr

def encodeTlvRecord (record : TlvRecord) : Except String Bytes := do
  let typeBytes ← encodeBigSize record.type
  let lengthBytes ← encodeBigSize record.value.length
  return typeBytes ++ (lengthBytes ++ record.value)

def firstDisorder : List TlvRecord → Option (TlvRecord × TlvRecord)
  | first :: second :: rest =>
    if second.type ≤ first.type then some (first, second) else firstDisorder (second :: rest)
  | _ => none

def encodeRecords : List TlvRecord → Except String Bytes
  | [] => .ok []
  | record :: rest => do
    let first ← encodeTlvRecord record
    let others ← encodeRecords rest
    return first ++ others

def encodeTlvStream (records : List TlvRecord) : Except String Bytes :=
  match firstDisorder records with
  | some (⟨previous, _⟩, ⟨type, _⟩) =>
    .error s!"TLV records must be in strictly increasing order: type {type} follows {previous}"
  | none => encodeRecords records

def unknownRequired (knownTypes : Option (List Nat)) (type : Nat) : Bool :=
  match knownTypes with
  | none => false
  | some known => type % 2 == 0 && !known.contains type

/-- One turn of the loop of `decodeTlvStream`: a record and where the next one starts. -/
def decodeTlvRecord (data : Bytes) (knownTypes : Option (List Nat)) (pos : Nat) (lastType : Int) :
    Except String (TlvRecord × Nat) := do
  let ⟨recordType, typeSize⟩ ← decodeBigSize data pos
  if (recordType : Int) ≤ lastType then
    .error s!"TLV stream not in order: type {recordType} follows {lastType}"
  else do
    let ⟨length, lengthSize⟩ ← decodeBigSize data (pos + typeSize)
    let start := pos + typeSize + lengthSize
    let recordLength := toNumber length
    if data.length < toNumber (start + recordLength) then
      let available := data.length - start
      .error s!"TLV record type {recordType}: expected {recordLength} bytes but only {available} available"
    else if unknownRequired knownTypes recordType then .error s!"Unknown required TLV type: {recordType}"
    else .ok (⟨recordType, slice data start recordLength⟩, start + recordLength)

variable {record : TlvRecord}

theorem encodeTlvRecord_ok_iff {bytes : Bytes} :
    encodeTlvRecord record = .ok bytes ↔ ∃ typeBytes, encodeBigSize record.type = .ok typeBytes ∧
      ∃ lengthBytes, encodeBigSize record.value.length = .ok lengthBytes ∧
        typeBytes ++ (lengthBytes ++ record.value) = bytes := by
  simp only [encodeTlvRecord, bind_eq_ok_iff, pure, Except.pure, Except.ok.injEq]

theorem toNumber_add_le_iff {limit start length : Nat} (small : limit < 2 ^ 53) :
    ¬ limit < toNumber (start + toNumber length) ↔ start + length ≤ limit := by
  constructor
  · intro passes
    have exactLength : length < 2 ^ 53 := by
      by_contra large
      have high := le_toNumber (n := start + toNumber length)
        (le_trans (le_toNumber (not_lt.mp large)) (Nat.le_add_left _ _))
      omega
    rw [toNumber_of_lt exactLength] at passes
    have exactSum : start + length < 2 ^ 53 := by
      by_contra large
      have high := le_toNumber (not_lt.mp large)
      omega
    rw [toNumber_of_lt exactSum] at passes
    omega
  · intro fits
    rw [toNumber_of_lt (n := length) (by omega), toNumber_of_lt (by omega)]
    omega

variable {known : Option (List Nat)} {data : Bytes} {lastType : Int} {pos next : Nat} {rest : List TlvRecord}
  {bytes : Bytes}

theorem decodeTlvRecord_ok_iff (small : data.length < 2 ^ 53) :
    decodeTlvRecord data known pos lastType = .ok (record, next) ↔
      lastType < record.type ∧ unknownRequired known record.type = false ∧
        ∃ bytes, encodeTlvRecord record = .ok bytes ∧ next = pos + bytes.length ∧ bytes <+: data.drop pos := by
  unfold decodeTlvRecord
  simp only [bind_eq_ok_iff, encodeTlvRecord_ok_iff]
  constructor
  · rintro ⟨⟨type, typeSize⟩, typeRead, accepted⟩
    dsimp only at accepted
    split at accepted
    case isTrue => exact absurd accepted (by simp)
    case isFalse later =>
      obtain ⟨⟨length, lengthSize⟩, lengthRead, accepted⟩ := bind_eq_ok_iff.mp accepted
      dsimp only at accepted
      split_ifs at accepted with beyond unknown
      have fits := (toNumber_add_le_iff small).mp beyond
      have exactLength : toNumber length = length := toNumber_of_lt (by omega)
      simp only [exactLength, Except.ok.injEq, Prod.mk.injEq] at accepted
      obtain ⟨rfl, rfl⟩ := accepted
      obtain ⟨typeBytes, typeEncoded, typeLength, typeStarts⟩ := decodeBigSize_ok_iff.mp typeRead
      obtain ⟨lengthBytes, lengthEncoded, lengthLength, lengthStarts⟩ := decodeBigSize_ok_iff.mp lengthRead
      simp only at typeEncoded typeLength lengthEncoded lengthLength
      subst typeLength lengthLength
      have size : (slice data (pos + typeBytes.length + lengthBytes.length) length).length = length :=
        length_slice fits
      refine ⟨not_le.mp later, by simpa using unknown, _, ⟨typeBytes, typeEncoded, lengthBytes, ?_, rfl⟩, ?_, ?_⟩
      · rw [size]
        exact lengthEncoded
      · simp only [List.length_append, size]
        omega
      · rw [append_prefix_drop, append_prefix_drop]
        exact ⟨typeStarts, lengthStarts, List.take_prefix _ _⟩
  · rintro ⟨later, known, bytes, ⟨typeBytes, typeEncoded, lengthBytes, lengthEncoded, rfl⟩, rfl, starts⟩
    obtain ⟨typeStarts, rest⟩ := append_prefix_drop.mp starts
    obtain ⟨lengthStarts, valueStarts⟩ := append_prefix_drop.mp rest
    refine ⟨⟨record.type, typeBytes.length⟩, decodeBigSize_ok_iff.mpr ⟨typeBytes, typeEncoded, rfl, typeStarts⟩, ?_⟩
    rw [if_neg (not_le.mpr later), bind_eq_ok_iff]
    refine ⟨⟨record.value.length, lengthBytes.length⟩,
      decodeBigSize_ok_iff.mpr ⟨lengthBytes, lengthEncoded, rfl, lengthStarts⟩, ?_⟩
    have fits : pos + typeBytes.length + lengthBytes.length + record.value.length ≤ data.length := by
      have nonempty := encodeBigSize_length_pos typeEncoded
      have whole := add_length_le_of_prefix_drop (by simp [List.length_pos_iff.mp nonempty]) starts
      simp only [List.length_append] at whole
      omega
    have exactLength : toNumber record.value.length = record.value.length := toNumber_of_lt (by omega)
    dsimp only
    rw [if_neg ((toNumber_add_le_iff small).mpr fits), known, exactLength, slice_eq_iff.mpr valueStarts]
    simp [Nat.add_assoc]

theorem lt_of_decodeTlvRecord (accepted : decodeTlvRecord data known pos lastType = .ok (record, next)) :
    pos < next := by
  obtain ⟨⟨type, typeSize⟩, typeRead, accepted⟩ := bind_eq_ok_iff.mp accepted
  obtain ⟨typeBytes, typeEncoded, typeLength, -⟩ := decodeBigSize_ok_iff.mp typeRead
  have nonempty := encodeBigSize_length_pos typeEncoded
  dsimp only at accepted typeLength
  split at accepted
  case isTrue => exact absurd accepted (by simp)
  case isFalse =>
    obtain ⟨⟨length, lengthSize⟩, -, accepted⟩ := bind_eq_ok_iff.mp accepted
    dsimp only at accepted
    split_ifs at accepted
    simp only [Except.ok.injEq, Prod.mk.injEq] at accepted
    omega

def decodeRecords (data : Bytes) (knownTypes : Option (List Nat)) (pos : Nat) (lastType : Int) :
    Except String (List TlvRecord × Nat) :=
  if pos < data.length then
    match _accepted : decodeTlvRecord data knownTypes pos lastType with
    | .error message => .error message
    | .ok (record, next) =>
      (decodeRecords data knownTypes next record.type).map fun (rest, stop) => (record :: rest, stop)
  else .ok ([], pos)
termination_by data.length - pos
decreasing_by
  have forward := lt_of_decodeTlvRecord _accepted
  omega

def decodeTlvStream (data : Bytes) (offset : Nat) (knownTypes : Option (List Nat)) :
    Except String (List TlvRecord × Nat) :=
  (decodeRecords data knownTypes offset (-1)).map fun (records, stop) => (records, stop - offset)

theorem decodeRecords_nil_iff {pos stop : Nat} :
    decodeRecords data known pos lastType = .ok ([], stop) ↔ data.length ≤ pos ∧ pos = stop := by
  rw [decodeRecords]
  split
  case isTrue more =>
    refine iff_of_false ?_ (by omega)
    split
    case h_1 => simp
    case h_2 => cases decodeRecords data known _ _ <;> simp [Except.map]
  case isFalse done => simp [not_lt.mp done]

theorem decodeRecords_cons_iff {pos stop : Nat} : decodeRecords data known pos lastType = .ok (record :: rest, stop) ↔
      pos < data.length ∧ ∃ next, decodeTlvRecord data known pos lastType = .ok (record, next) ∧
        decodeRecords data known next record.type = .ok (rest, stop) := by
  rw [decodeRecords]
  split
  case isFalse done => simp [done]
  case isTrue more =>
    simp only [more, true_and]
    split
    case h_1 message refused => simp [refused]
    case h_2 head next accepted =>
      simp only [accepted, Except.ok.injEq, Prod.mk.injEq]
      constructor
      · intro whole
        cases others : decodeRecords data known next head.type with
        | error message => simp [others, Except.map] at whole
        | ok found =>
          simp only [others, Except.map, Except.ok.injEq, Prod.mk.injEq, List.cons.injEq] at whole
          obtain ⟨⟨rfl, rfl⟩, rfl⟩ := whole
          exact ⟨next, ⟨rfl, rfl⟩, others⟩
      · rintro ⟨_, ⟨rfl, rfl⟩, others⟩
        simp [others, Except.map]

theorem encodeTlvRecord_length_pos (encoded : encodeTlvRecord record = .ok bytes) : 0 < bytes.length := by
  obtain ⟨typeBytes, typeEncoded, lengthBytes, -, rfl⟩ := encodeTlvRecord_ok_iff.mp encoded
  have nonempty := encodeBigSize_length_pos typeEncoded
  rw [List.length_append]
  omega

theorem encodeRecords_cons_iff :
    encodeRecords (record :: rest) = .ok bytes ↔ ∃ first, encodeTlvRecord record = .ok first ∧
      ∃ others, encodeRecords rest = .ok others ∧ first ++ others = bytes := by
  simp only [encodeRecords, bind_eq_ok_iff, pure, Except.pure, Except.ok.injEq]

variable {records : List TlvRecord}

theorem decodeRecords_ok_iff (small : data.length < 2 ^ 53) {pos : Nat} (inside : pos ≤ data.length) {stop : Nat} :
    decodeRecords data known pos lastType = .ok (records, stop) ↔
      (lastType :: records.map fun record => (record.type : Int)).IsChain (· < ·) ∧
      (∀ record ∈ records, unknownRequired known record.type = false) ∧
      encodeRecords records = .ok (data.drop pos) ∧ stop = data.length := by
  induction records generalizing pos lastType with
  | nil =>
    rw [decodeRecords_nil_iff]
    simp only [encodeRecords, Except.ok.injEq, @eq_comm _ [], List.drop_eq_nil_iff]
    simp
    omega
  | cons record rest ih =>
    rw [decodeRecords_cons_iff, encodeRecords_cons_iff]
    simp only [decodeTlvRecord_ok_iff small, List.map_cons, List.isChain_cons_cons, List.forall_mem_cons]
    constructor
    · rintro ⟨-, next, ⟨later, known, bytes, encoded, rfl, starts⟩, others⟩
      have nonempty := encodeTlvRecord_length_pos encoded
      have within := add_length_le_of_prefix_drop (List.length_pos_iff.mp nonempty) starts
      obtain ⟨ordered, knownRest, encodedRest, stopped⟩ := (ih within).mp others
      refine ⟨⟨later, ordered⟩, ⟨known, knownRest⟩, ⟨bytes, encoded, _, encodedRest, ?_⟩, stopped⟩
      rw [← List.drop_drop]
      obtain ⟨tail, whole⟩ := starts
      rw [← whole, List.drop_left]
    · rintro ⟨⟨later, ordered⟩, ⟨known, knownRest⟩, ⟨bytes, encoded, tail, encodedRest, whole⟩, stopped⟩
      have nonempty := encodeTlvRecord_length_pos encoded
      have starts : bytes <+: data.drop pos := ⟨tail, whole⟩
      have within := add_length_le_of_prefix_drop (List.length_pos_iff.mp nonempty) starts
      have remaining : data.drop (pos + bytes.length) = tail := by
        rw [← List.drop_drop, ← whole, List.drop_left]
      refine ⟨by omega, _, ⟨later, known, bytes, encoded, rfl, starts⟩, (ih within).mpr ?_⟩
      exact ⟨ordered, knownRest, by rw [remaining]; exact encodedRest, stopped⟩

theorem firstDisorder_eq_none_iff : firstDisorder records = none ↔ records.IsChain fun a b => a.type < b.type := by
  induction records with
  | nil => simp [firstDisorder]
  | cons first rest ih =>
    cases rest with
    | nil => simp [firstDisorder]
    | cons second rest =>
      rw [firstDisorder, List.isChain_cons_cons, ← ih]
      split
      case isTrue wrong => simp [not_lt.mpr wrong]
      case isFalse right => simp [not_le.mp right]

theorem encodeTlvStream_ok_iff {bytes : Bytes} : encodeTlvStream records = .ok bytes ↔
      (records.IsChain fun a b => a.type < b.type) ∧ encodeRecords records = .ok bytes := by
  rw [encodeTlvStream, ← firstDisorder_eq_none_iff]
  cases firstDisorder records with
  | none => simp
  | some pair => simp

structure StreamRecords (known : Option (List Nat)) (records : List TlvRecord) : Prop where
  increasing : records.IsChain fun a b => a.type < b.type
  fits : ∀ record ∈ records, record.type < 2 ^ 64 ∧ record.value.length < 2 ^ 64
  accepted : ∀ record ∈ records, unknownRequired known record.type = false

theorem encodeTlvRecord_isOk_iff :
    (∃ bytes, encodeTlvRecord record = .ok bytes) ↔ record.type < 2 ^ 64 ∧ record.value.length < 2 ^ 64 := by
  simp only [encodeTlvRecord_ok_iff, ← encodeBigSize_isOk_iff]
  constructor
  · rintro ⟨_, typeBytes, typeEncoded, lengthBytes, lengthEncoded, -⟩
    exact ⟨⟨typeBytes, typeEncoded⟩, lengthBytes, lengthEncoded⟩
  · rintro ⟨⟨typeBytes, typeEncoded⟩, lengthBytes, lengthEncoded⟩
    exact ⟨_, typeBytes, typeEncoded, lengthBytes, lengthEncoded, rfl⟩

theorem encodeRecords_isOk_iff : (∃ bytes, encodeRecords records = .ok bytes) ↔
      ∀ record ∈ records, record.type < 2 ^ 64 ∧ record.value.length < 2 ^ 64 := by
  induction records with
  | nil => simp [encodeRecords]
  | cons record rest ih =>
    rw [List.forall_mem_cons, ← ih, ← encodeTlvRecord_isOk_iff]
    simp only [encodeRecords_cons_iff]
    constructor
    · rintro ⟨_, first, encoded, others, encodedRest, -⟩
      exact ⟨⟨first, encoded⟩, others, encodedRest⟩
    · rintro ⟨⟨first, encoded⟩, others, encodedRest⟩
      exact ⟨_, first, encoded, others, encodedRest, rfl⟩

theorem isChain_from_minus_one : ((-1 : Int) :: records.map fun record => (record.type : Int)).IsChain (· < ·) ↔
      records.IsChain fun a b => a.type < b.type := by
  cases records with
  | nil => simp
  | cons first rest =>
    have same := List.isChain_map (R := fun a b : Int => a < b) (fun record : TlvRecord => (record.type : Int))
      (l := first :: rest)
    simp only [Nat.cast_lt] at same
    rw [← same, List.map_cons, List.isChain_cons_cons, and_iff_right (by omega)]

theorem decodeTlvStream_ok_iff (small : data.length < 2 ^ 53) {read : Nat} :
    decodeTlvStream data 0 known = .ok (records, read) ↔
      (StreamRecords known records ∧ encodeTlvStream records = .ok data) ∧ read = data.length := by
  have spec : decodeRecords data known 0 (-1) = .ok (records, read) ↔ _ :=
    decodeRecords_ok_iff small (Nat.zero_le _)
  rw [isChain_from_minus_one, List.drop_zero] at spec
  have same : decodeTlvStream data 0 known = decodeRecords data known 0 (-1) := by
    rw [decodeTlvStream]
    cases decodeRecords data known 0 (-1) <;> rfl
  rw [same, spec, encodeTlvStream_ok_iff]
  constructor
  · rintro ⟨increasing, accepted, encoded, rfl⟩
    exact ⟨⟨⟨increasing, encodeRecords_isOk_iff.mp ⟨data, encoded⟩, accepted⟩, increasing, encoded⟩, rfl⟩
  · rintro ⟨⟨⟨-, -, accepted⟩, increasing, encoded⟩, rfl⟩
    exact ⟨increasing, accepted, encoded, rfl⟩

/-- Streams are canonical in both directions, for buffers of any length a double can count. -/
theorem tlv_stream_canonical (known : Option (List Nat)) :
    (∀ records, StreamRecords known records → ∃ bytes, encodeTlvStream records = .ok bytes ∧
      (bytes.length < 2 ^ 53 → decodeTlvStream bytes 0 known = .ok (records, bytes.length))) ∧
    ∀ data : Bytes, data.length < 2 ^ 53 → ((∃ result, decodeTlvStream data 0 known = .ok result) ↔
        ∃! records, StreamRecords known records ∧ encodeTlvStream records = .ok data) ∧
      ∀ records read, decodeTlvStream data 0 known = .ok (records, read) →
        encodeTlvStream records = .ok data ∧ read = data.length := by
  refine ⟨fun records stream => ?_, fun data small => ⟨⟨?_, ?_⟩, ?_⟩⟩
  · obtain ⟨bytes, encoded⟩ := encodeRecords_isOk_iff.mpr stream.fits
    have written := encodeTlvStream_ok_iff.mpr ⟨stream.increasing, encoded⟩
    exact ⟨bytes, written, fun small => (decodeTlvStream_ok_iff small).mpr ⟨⟨stream, written⟩, rfl⟩⟩
  · rintro ⟨⟨records, read⟩, decoded⟩
    refine ⟨records, ((decodeTlvStream_ok_iff small).mp decoded).1, fun others encoding => ?_⟩
    -- two lists with one encoding would both be what the buffer decodes to
    have again : decodeTlvStream data 0 known = .ok (others, data.length) :=
      (decodeTlvStream_ok_iff small).mpr ⟨encoding, rfl⟩
    rw [decoded, Except.ok.injEq, Prod.mk.injEq] at again
    exact again.1.symm
  · rintro ⟨records, encoding, -⟩
    exact ⟨(records, data.length), (decodeTlvStream_ok_iff small).mpr ⟨encoding, rfl⟩⟩
  · intro records read decoded
    obtain ⟨⟨-, encoded⟩, stopped⟩ := (decodeTlvStream_ok_iff small).mp decoded
    exact ⟨encoded, stopped⟩

theorem tlv_stream_canonical_two_records :
    decodeTlvStream [1, 1, 7, 0xfd, 1, 1, 0] 0 (some [2]) = .ok ([⟨1, [7]⟩, ⟨257, []⟩], 7) ∧
      encodeTlvStream [⟨1, [7]⟩, ⟨257, []⟩] = .ok [1, 1, 7, 0xfd, 1, 1, 0] := by
  have stream : StreamRecords (some [2]) [⟨1, [7]⟩, ⟨257, []⟩] := ⟨by decide, by decide, by decide⟩
  obtain ⟨bytes, encoded, decoded⟩ := (tlv_stream_canonical (some [2])).1 _ stream
  have same : Except.ok bytes = Except.ok [1, 1, 7, 0xfd, 1, 1, 0] := encoded.symm.trans rfl
  obtain rfl := Except.ok.inj same
  have back := decoded (by decide)
  exact ⟨back, (((tlv_stream_canonical (some [2])).2 _ (by decide)).2 _ _ back).1⟩

end Beignet.Message
