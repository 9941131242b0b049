import Beignet.Message.Tlv

namespace Beignet.Onion

open Beignet.Data Beignet.Message

/-- `IHopPayload`. The custom records are a map in insertion order. -/
structure HopPayload where
  shortChannelId : Option Bytes
  amountToForwardMsat : Nat
  outgoingCltvValue : Nat
  paymentSecret : Option Bytes
  totalMsat : Option Nat
  encryptedRecipientData : Option Bytes
  blindingPoint : Option Bytes
  totalAmountMsat : Option Nat
  customRecords : Option (List TlvRecord)
  omitForwardAmounts : Bool
  deriving DecidableEq, Repr

def keysendTlvType : Nat := 5482373484

section Encoding

def encodeTruncatedUint (value : Nat) : Bytes :=
  if value = 0 then [] else writeBE (value.log2 / 8 + 1) value

variable (p : HopPayload)

def HopPayload.records : List TlvRecord :=
  (if p.omitForwardAmounts then []
    else [⟨2, encodeTruncatedUint p.amountToForwardMsat⟩, ⟨4, encodeTruncatedUint p.outgoingCltvValue⟩]) ++
  (p.shortChannelId.map fun scid => ⟨6, scid⟩).toList ++
  (p.paymentSecret.map fun secret =>
    ⟨8, secret ++ encodeTruncatedUint (p.totalMsat.getD p.amountToForwardMsat)⟩).toList ++
  (p.encryptedRecipientData.map fun data => ⟨10, data⟩).toList ++
  (p.blindingPoint.map fun point => ⟨12, point⟩).toList ++
  (p.totalAmountMsat.map fun total => ⟨18, encodeTruncatedUint total⟩).toList ++
  p.customRecords.getD []

def HopPayload.sortedRecords : List TlvRecord :=
  p.records.mergeSort fun a b => a.type ≤ b.type

def encodeHopPayload : Except String Bytes := do
  let tlvData ← encodeRecords p.sortedRecords
  let lengthPrefix ← encodeBigSize tlvData.length
  return lengthPrefix ++ tlvData

end Encoding

section Decoding

structure PayloadError where
  message : String
  tlvType : Nat
  offset : Nat
  deriving DecidableEq, Repr

structure PayloadFields where
  amountToForwardMsat : Option Nat := none
  outgoingCltvValue : Option Nat := none
  shortChannelId : Option Bytes := none
  payment : Option (Bytes × Nat) := none
  encryptedRecipientData : Option Bytes := none
  blindingPoint : Option Bytes := none
  totalAmountMsat : Option Nat := none
  customRecords : Option (List TlvRecord) := none
  prevTlvType : Option Nat := none
  deriving DecidableEq, Repr

namespace PayloadFields

variable (fields : PayloadFields)

def withCustom (record : TlvRecord) : PayloadFields :=
  { fields with customRecords := some (fields.customRecords.getD [] ++ [record]) }

def take (record : TlvRecord) : Except String PayloadFields :=
  let value := record.value
  let size := value.length
  match record.type with
  | 2 => .ok { fields with amountToForwardMsat := some (readBE value) }
  | 4 => .ok { fields with outgoingCltvValue := some (toNumber (readBE value)) }
  | 6 =>
    if size ≠ 8 then .error s!"short_channel_id must be 8 bytes, got {size}"
    else .ok { fields with shortChannelId := some value }
  | 8 =>
    if size < 32 then .error s!"payment_data must be at least 32 bytes, got {size}"
    else .ok { fields with payment := some (value.take 32, readBE (value.drop 32)) }
  | 10 => .ok { fields with encryptedRecipientData := some value }
  | 12 =>
    if size ≠ 33 then .error s!"blinding_point must be 33 bytes, got {size}"
    else .ok { fields with blindingPoint := some value }
  | 18 => .ok { fields with totalAmountMsat := some (readBE value) }
  | type =>
    if type = keysendTlvType then .ok (fields.withCustom record)
    else if type % 2 = 0 then .error s!"Unknown required TLV type {type} in hop payload"
    else .ok (fields.withCustom record)

def finish : Except PayloadError HopPayload :=
  let hasAmount := fields.amountToForwardMsat.isSome
  let hasCltv := fields.outgoingCltvValue.isSome
  if (hasAmount ≠ hasCltv ∨ fields.encryptedRecipientData = none) ∧ hasAmount = false then
    .error ⟨"Hop payload lacks amt_to_forward", 2, 0⟩
  else if (hasAmount ≠ hasCltv ∨ fields.encryptedRecipientData = none) ∧ hasCltv = false then
    .error ⟨"Hop payload lacks outgoing_cltv_value", 4, 0⟩
  else
    .ok
      { shortChannelId := fields.shortChannelId
        amountToForwardMsat := fields.amountToForwardMsat.getD 0
        outgoingCltvValue := fields.outgoingCltvValue.getD 0
        paymentSecret := fields.payment.map Prod.fst
        totalMsat := fields.payment.map Prod.snd
        encryptedRecipientData := fields.encryptedRecipientData
        blindingPoint := fields.blindingPoint
        totalAmountMsat := fields.totalAmountMsat
        customRecords := fields.customRecords
        omitForwardAmounts := !hasAmount && !hasCltv }

end PayloadFields

def plainError {α : Type} (result : Except String α) : Except PayloadError α :=
  result.mapError fun message => ⟨message, 0, 0⟩

def PayloadFields.outOfOrder (fields : PayloadFields) (tlvType : Nat) : Option String :=
  fields.prevTlvType.bind fun previous => refuseIf (tlvType ≤ previous)
    s!"Hop payload TLV type {tlvType} out of order after {previous} (invalid_onion_payload)"

def readRecord (buf : Bytes) (payloadEnd streamStart : Nat) (fields : PayloadFields) (offset : Nat) :
    Except PayloadError (PayloadFields × Nat) := do
  let ⟨typeValue, typeSize⟩ ← plainError (decodeBigSize buf offset)
  let tlvType := toNumber typeValue
  let invalid := fun message => PayloadError.mk message tlvType (offset - streamStart)
  match fields.outOfOrder tlvType with
  | some message => .error (invalid message)
  | none => do
    let ⟨lengthValue, lengthSize⟩ ← plainError (decodeBigSize buf (offset + typeSize))
    let start := offset + typeSize + lengthSize
    let tlvLength := toNumber lengthValue
    if payloadEnd < toNumber (start + tlvLength) then
      .error (invalid "Hop payload TLV extends beyond the payload")
    else do
      let taken ← (fields.take ⟨tlvType, slice buf start tlvLength⟩).mapError invalid
      return ({ taken with prevTlvType := some tlvType }, start + tlvLength)

/-- Every record takes two bytes at least, so the length of the payload bounds the turns of the loop. -/
def readPayload (buf : Bytes) (payloadEnd streamStart : Nat) :
    Nat → PayloadFields → Nat → Except PayloadError (PayloadFields × Nat)
  | 0, fields, offset => .ok (fields, offset)
  | turns + 1, fields, offset =>
    if offset < payloadEnd then do
      let (fields, offset) ← readRecord buf payloadEnd streamStart fields offset
      readPayload buf payloadEnd streamStart turns fields offset
    else .ok (fields, offset)

structure DecodedPayload where
  payload : HopPayload
  bytesRead : Nat
  deriving DecidableEq, Repr

def decodeHopPayload (buf : Bytes) (offset : Nat) : Except PayloadError DecodedPayload := do
  let ⟨payloadLength, lengthSize⟩ ← plainError (decodeBigSize buf offset)
  let streamStart := offset + lengthSize
  let payloadEnd := toNumber (streamStart + toNumber payloadLength)
  if buf.length < payloadEnd then .error ⟨"Hop payload extends beyond buffer", 0, 0⟩
  else if payloadLength < 2 then
    .error ⟨s!"Invalid hop payload length {payloadLength} (invalid_onion_payload)", 0, 0⟩
  else do
    let (fields, stop) ← readPayload buf payloadEnd streamStart payloadLength {} streamStart
    let payload ← fields.finish
    return ⟨payload, stop - offset⟩

end Decoding

section Reading

def PayloadFields.absorb (fields : PayloadFields) (record : TlvRecord) (place : Nat) :
    Except PayloadError PayloadFields :=
  let tlvType := toNumber record.type
  let invalid := fun message => PayloadError.mk message tlvType place
  match fields.outOfOrder tlvType with
  | some message => .error (invalid message)
  | none => do
    let taken ← (fields.take ⟨tlvType, record.value⟩).mapError invalid
    return { taken with prevTlvType := some tlvType }

variable {buf bytes : Bytes} {payloadEnd streamStart offset : Nat} {fields : PayloadFields}

theorem plainError_decodeBigSize {value : Nat} {encoded : Bytes} (written : encodeBigSize value = .ok encoded)
    (starts : encoded <+: buf.drop offset) : plainError (decodeBigSize buf offset) = .ok ⟨value, encoded.length⟩ := by
  rw [(decodeBigSize_ok_iff (r := ⟨value, encoded.length⟩)).mpr ⟨encoded, written, rfl, starts⟩]
  rfl

theorem readRecord_encoded {record : TlvRecord} (encoded : encodeTlvRecord record = .ok bytes)
    (starts : bytes <+: buf.drop offset) (inside : offset + bytes.length ≤ payloadEnd) (small : payloadEnd < 2 ^ 53) :
    readRecord buf payloadEnd streamStart fields offset =
      (fields.absorb record (offset - streamStart)).map fun taken => (taken, offset + bytes.length) := by
  obtain ⟨typeBytes, typeWritten, lengthBytes, lengthWritten, rfl⟩ := encodeTlvRecord_ok_iff.mp encoded
  rw [append_prefix_drop, append_prefix_drop] at starts
  obtain ⟨typeStarts, lengthStarts, valueStarts⟩ := starts
  rw [List.length_append, List.length_append] at inside
  have exactLength : toNumber record.value.length = record.value.length := toNumber_of_lt (by omega)
  have fits : ¬ payloadEnd < toNumber (offset + typeBytes.length + lengthBytes.length +
      record.value.length) := by
    rw [toNumber_of_lt (by omega)]
    omega
  have value : slice buf (offset + typeBytes.length + lengthBytes.length) record.value.length =
      record.value := slice_eq_iff.mpr valueStarts
  have stop : offset + (typeBytes ++ (lengthBytes ++ record.value)).length =
      offset + typeBytes.length + lengthBytes.length + record.value.length := by
    simp only [List.length_append]
    omega
  simp only [readRecord, PayloadFields.absorb, plainError_decodeBigSize typeWritten typeStarts,
    plainError_decodeBigSize lengthWritten lengthStarts, exactLength, fits, value, stop, bind, Except.bind,
    if_false]
  cases fields.outOfOrder (toNumber record.type) with
  | some message => rfl
  | none =>
    dsimp only
    cases fields.take ⟨toNumber record.type, record.value⟩ with
    | error message => rfl
    | ok taken => rfl

def absorbAll : PayloadFields → Nat → List TlvRecord → Except PayloadError PayloadFields
  | fields, _, [] => .ok fields
  | fields, place, record :: rest => do
    let taken ← fields.absorb record place
    let encoded ← plainError (encodeTlvRecord record)
    absorbAll taken (place + encoded.length) rest

theorem readPayload_encoded {records : List TlvRecord} {turns : Nat}
    (encoded : encodeRecords records = .ok bytes) (starts : bytes <+: buf.drop offset)
    (whole : offset + bytes.length = payloadEnd) (small : payloadEnd < 2 ^ 53)
    (after : streamStart ≤ offset) (enough : bytes.length ≤ turns) :
    readPayload buf payloadEnd streamStart turns fields offset =
      (absorbAll fields (offset - streamStart) records).map fun taken => (taken, payloadEnd) := by
  induction records generalizing bytes offset fields turns with
  | nil =>
    cases encoded
    have done : offset = payloadEnd := by simpa using whole
    cases turns with
    | zero => simp [readPayload, absorbAll, done, Except.map]
    | succ turns => simp [readPayload, absorbAll, done, Except.map]
  | cons record rest ih =>
    obtain ⟨first, firstEncoded, others, othersEncoded, rfl⟩ := encodeRecords_cons_iff.mp encoded
    obtain ⟨firstStarts, othersStart⟩ := append_prefix_drop.mp starts
    have positive := encodeTlvRecord_length_pos firstEncoded
    rw [List.length_append] at whole enough
    cases turns with
    | zero => omega
    | succ turns =>
      have more : offset < payloadEnd := by omega
      have place : offset + first.length - streamStart = offset - streamStart + first.length := by omega
      rw [readPayload, if_pos more, readRecord_encoded firstEncoded firstStarts (by omega) small, absorbAll,
        firstEncoded]
      cases fields.absorb record (offset - streamStart) with
      | error e => rfl
      | ok taken =>
        have step : readPayload buf payloadEnd streamStart turns taken (offset + first.length) = _ :=
          ih othersEncoded othersStart (by omega) (by omega) (by omega)
        rw [place] at step
        exact step

def HopPayload.reread (p : HopPayload) (tlvLength bytesRead : Nat) : Except PayloadError DecodedPayload :=
  if tlvLength < 2 then
    .error ⟨s!"Invalid hop payload length {tlvLength} (invalid_onion_payload)", 0, 0⟩
  else do
    let fields ← absorbAll {} 0 p.sortedRecords
    let payload ← fields.finish
    return ⟨payload, bytesRead⟩

variable {p : HopPayload}

theorem decodeHopPayload_encoded (encoded : encodeHopPayload p = .ok bytes) :
    ∃ tlvLength, ∀ rest, (bytes ++ rest).length < 2 ^ 53 →
      decodeHopPayload (bytes ++ rest) 0 = p.reread tlvLength bytes.length := by
  simp only [encodeHopPayload, bind_eq_ok_iff, pure, Except.pure, Except.ok.injEq] at encoded
  obtain ⟨tlvData, recordsEncoded, lengthPrefix, lengthWritten, rfl⟩ := encoded
  refine ⟨tlvData.length, fun rest small => ?_⟩
  have starts : lengthPrefix ++ tlvData <+: (lengthPrefix ++ tlvData ++ rest).drop 0 := ⟨rest, rfl⟩
  obtain ⟨lengthStarts, dataStarts⟩ := append_prefix_drop.mp starts
  rw [Nat.zero_add] at dataStarts
  simp only [List.length_append] at small
  have exactLength : toNumber tlvData.length = tlvData.length := toNumber_of_lt (by omega)
  have exactEnd : toNumber (lengthPrefix.length + tlvData.length) = lengthPrefix.length + tlvData.length :=
    toNumber_of_lt (by omega)
  have inside : ¬ (lengthPrefix ++ tlvData ++ rest).length < lengthPrefix.length + tlvData.length := by
    simp only [List.length_append]
    omega
  have read : readPayload (lengthPrefix ++ tlvData ++ rest) (lengthPrefix.length + tlvData.length)
      lengthPrefix.length tlvData.length {} lengthPrefix.length = _ :=
    readPayload_encoded recordsEncoded dataStarts rfl (by omega) le_rfl le_rfl
  rw [Nat.sub_self] at read
  simp only [decodeHopPayload, plainError_decodeBigSize lengthWritten lengthStarts, bind, Except.bind,
    Nat.zero_add, exactLength, exactEnd, inside, read, HopPayload.reread, if_false]
  by_cases short : tlvData.length < 2
  · rw [if_pos short, if_pos short]
  · rw [if_neg short, if_neg short]
    cases absorbAll {} 0 p.sortedRecords with
    | error e => rfl
    | ok fields =>
      cases finished : fields.finish with
      | error e => simp [Except.map, finished]
      | ok payload => simp [Except.map, finished, pure, Except.pure]

theorem HopPayload.reread_ok {p q : HopPayload} {tlvLength bytesRead count : Nat}
    (read : p.reread tlvLength bytesRead = .ok ⟨q, count⟩) : count = bytesRead := by
  unfold HopPayload.reread at read
  split at read
  · cases read
  · simp only [bind_eq_ok_iff, pure, Except.pure, Except.ok.injEq] at read
    obtain ⟨fields, -, payload, -, same⟩ := read
    cases same
    rfl

theorem decodeHopPayload_append {rest : Bytes} (encoded : encodeHopPayload p = .ok bytes)
    (small : (bytes ++ rest).length < 2 ^ 53) : decodeHopPayload (bytes ++ rest) 0 = decodeHopPayload bytes 0 := by
  obtain ⟨tlvLength, reads⟩ := decodeHopPayload_encoded encoded
  have alone := reads [] (by
    rw [List.append_nil]
    rw [List.length_append] at small
    omega)
  rw [List.append_nil] at alone
  rw [reads rest small, alone]

theorem bytesRead_of_decoded {p q : HopPayload} {count : Nat} (encoded : encodeHopPayload p = .ok bytes)
    (small : bytes.length < 2 ^ 53) (read : decodeHopPayload bytes 0 = .ok ⟨q, count⟩) : count = bytes.length := by
  obtain ⟨tlvLength, reads⟩ := decodeHopPayload_encoded encoded
  have alone := reads [] (by rwa [List.append_nil])
  rw [List.append_nil, read] at alone
  exact HopPayload.reread_ok alone.symm

def HopPayload.readsBack (p : HopPayload) : Bool :=
  match encodeHopPayload p with
  | .ok bytes => decodeHopPayload bytes 0 = .ok ⟨p, bytes.length⟩
  | .error _ => false

def HopPayload.encoded (p : HopPayload) : Bytes := (encodeHopPayload p).toOption.getD []

def HopPayload.Encodable (p : HopPayload) : Prop := encodeHopPayload p = .ok p.encoded

def HopPayload.shiftSize (p : HopPayload) : Nat := p.encoded.length + 32

theorem HopPayload.encodable_of_ok (encoded : encodeHopPayload p = .ok bytes) : p.Encodable := by
  rw [HopPayload.Encodable, HopPayload.encoded, encoded]
  rfl

theorem HopPayload.encodable_of_readsBack (reads : p.readsBack) : p.Encodable := by
  cases encoded : encodeHopPayload p with
  | ok bytes => exact encodable_of_ok encoded
  | error problem => simp [readsBack, encoded] at reads

theorem HopPayload.readsBack_iff (encodable : p.Encodable) :
    p.readsBack ↔ decodeHopPayload p.encoded 0 = .ok ⟨p, p.encoded.length⟩ := by
  unfold HopPayload.readsBack
  rw [encodable]
  exact decide_eq_true_iff

end Reading

end Beignet.Onion
