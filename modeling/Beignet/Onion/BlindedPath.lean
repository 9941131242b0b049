import Beignet.Invoice.BlindedPaths
import Beignet.Onion.Delivery
import Beignet.Onion.Failures

namespace Beignet.Onion

open Beignet.Data Beignet.Message Beignet.Invoice

structure PaymentRelay where
  cltvExpiryDelta : Nat
  feeProportionalMillionths : Nat
  feeBaseMsat : Nat

structure PaymentConstraints where
  maxCltvExpiry : Nat
  htlcMinimumMsat : Nat

structure BlindedHopData where
  padding : Option Bytes := none
  shortChannelId : Option Bytes := none
  nextNodeId : Option Bytes := none
  pathId : Option Bytes := none
  nextPathKeyOverride : Option Bytes := none
  paymentRelay : Option PaymentRelay := none
  paymentConstraints : Option PaymentConstraints := none
  holdHtlc : Bool := false
  holdRegistrationId : Option Bytes := none

def PaymentRelay.encode (relay : PaymentRelay) : Except String Bytes := do
  let delta ← writeUIntBE 2 relay.cltvExpiryDelta
  let proportional ← writeUIntBE 4 relay.feeProportionalMillionths
  return delta ++ proportional ++ encodeTruncatedUint relay.feeBaseMsat

def PaymentConstraints.encode (constraints : PaymentConstraints) : Except String Bytes := do
  let expiry ← writeUIntBE 4 constraints.maxCltvExpiry
  return expiry ++ encodeTruncatedUint constraints.htlcMinimumMsat

def encodeHold (holdHtlc : Bool) (holdRegistrationId : Option Bytes) : Except String (List Bytes) :=
  if holdHtlc = false then .ok []
  else if holdRegistrationId.any (·.length ≠ 32) then .error "hold registration id must be 32 bytes"
  else .ok [holdRegistrationId.getD []]

/-- The record of a field, for the values that it has: one or none. -/
def fieldRecord (type : Nat) (values : List Bytes) : List TlvRecord := values.map (⟨type, ·⟩)

variable (data : BlindedHopData) (prim : SphinxPrimitives)

/-- The records after the padding. -/
def BlindedHopData.records : Except String (List TlvRecord) := do
  let relay ← data.paymentRelay.toList.mapM PaymentRelay.encode
  let constraints ← data.paymentConstraints.toList.mapM PaymentConstraints.encode
  let hold ← encodeHold data.holdHtlc data.holdRegistrationId
  return fieldRecord 2 data.shortChannelId.toList ++ fieldRecord 4 data.nextNodeId.toList ++
    fieldRecord 6 data.pathId.toList ++ fieldRecord 8 data.nextPathKeyOverride.toList ++ fieldRecord 10 relay ++
    fieldRecord 12 constraints ++ fieldRecord 65537 hold

def encodeBlindedHopData : Except String Bytes := do
  let records ← data.records
  encodeTlvStream (fieldRecord 1 data.padding.toList ++ records)

/-- ChaCha20-Poly1305 under a zero nonce, which appends a tag of 16 bytes. -/
structure BlindingCipher where
  encryptBlindedData : Bytes → Bytes → Bytes
  length_encrypt : ∀ key plaintext, (encryptBlindedData key plaintext).length = plaintext.length + 16

def SphinxPrimitives.computeBlindedNodeId (nodePubkey sharedSecret : Bytes) : Bytes :=
  prim.pointMultiply nodePubkey
    (prim.generateKey [98, 108, 105, 110, 100, 101, 100, 95, 110, 111, 100, 101, 95, 105, 100] sharedSecret)

-- The chain of blinding keys is that of the ephemeral keys of an onion.
def constructBlindedPath (cipher : BlindingCipher) (blindingSecret : Bytes)
    (nodePubkeys : List Bytes) (hopDataList : List BlindedHopData) : Except String BlindedPath :=
  if nodePubkeys.length = 0 then .error "Path must have at least one node"
  else if nodePubkeys.length ≠ hopDataList.length then .error "Must have same number of nodes and hop data"
  else do
    let sharedSecrets := prim.computeSharedSecrets blindingSecret nodePubkeys
    let basePlaintexts ← hopDataList.mapM encodeBlindedHopData
    let baseLengths := basePlaintexts.map List.length
    let maxLen := baseLengths.foldr max 0
    let paddedPlaintexts ← (hopDataList.zip baseLengths).mapM fun (data, baseLength) =>
      encodeBlindedHopData { data with padding := some (List.replicate (maxLen - baseLength) 0) }
    let blindedHops := ((nodePubkeys.zip sharedSecrets).zip paddedPlaintexts).map
      fun ((pubkey, sharedSecret), plaintext) =>
        ⟨prim.computeBlindedNodeId pubkey sharedSecret, cipher.encryptBlindedData (prim.rho sharedSecret) plaintext⟩
    return ⟨nodePubkeys.headD [], prim.getPublicKey blindingSecret, blindedHops⟩

section Sizes

def bigSizeLength (value : Nat) : Nat :=
  if value < 0xfd then 1 else if value < 0x10000 then 3 else if value < 0x100000000 then 5 else 9

def recordSize (record : TlvRecord) : Nat :=
  bigSizeLength record.type + (bigSizeLength record.value.length + record.value.length)

/-- What a field takes up, behind a type of `typeSize` bytes. -/
def fieldSize (typeSize : Nat) (lengths : List Nat) : Nat :=
  (lengths.map fun n => typeSize + (bigSizeLength n + n)).sum

/-- The bytes that the data of a hop take up without padding. -/
def BlindedHopData.size (data : BlindedHopData) : Nat :=
  fieldSize 1 (data.shortChannelId.toList.map List.length) + fieldSize 1 (data.nextNodeId.toList.map List.length) +
    fieldSize 1 (data.pathId.toList.map List.length) +
    fieldSize 1 (data.nextPathKeyOverride.toList.map List.length) +
    fieldSize 1 (data.paymentRelay.toList.map fun relay => 6 + (encodeTruncatedUint relay.feeBaseMsat).length) +
    fieldSize 1 (data.paymentConstraints.toList.map fun bounds =>
      4 + (encodeTruncatedUint bounds.htlcMinimumMsat).length) +
    fieldSize 5 (if data.holdHtlc then [(data.holdRegistrationId.getD []).length] else [])

variable {bytes : Bytes}

theorem length_encodeBigSize {value : Nat} (encoded : encodeBigSize value = .ok bytes) :
    bytes.length = bigSizeLength value := by
  unfold bigSizeLength
  rcases encodeBigSize_ok_iff.mp encoded with ⟨small, rfl⟩ | ⟨least, small, rfl⟩ | ⟨least, small, rfl⟩ |
    ⟨least, small, rfl⟩
  · rw [if_pos small, List.length_singleton]
  all_goals
    rw [List.length_cons, length_writeBE]
    split_ifs <;> omega

theorem length_encodeRecords {records : List TlvRecord}
    (encoded : encodeRecords records = .ok bytes) : bytes.length = (records.map recordSize).sum := by
  induction records generalizing bytes with
  | nil =>
    obtain rfl := Except.ok.inj encoded
    rfl
  | cons record rest ih =>
    obtain ⟨first, encodedFirst, others, encodedOthers, rfl⟩ := encodeRecords_cons_iff.mp encoded
    obtain ⟨typeBytes, typed, lengthBytes, measured, rfl⟩ := encodeTlvRecord_ok_iff.mp encodedFirst
    simp only [List.length_append, List.map_cons, List.sum_cons, ih encodedOthers, length_encodeBigSize typed,
      length_encodeBigSize measured, recordSize]

theorem sum_fieldRecord (type : Nat) (values : List Bytes) :
    ((fieldRecord type values).map recordSize).sum = fieldSize (bigSizeLength type) (values.map List.length) := by
  rw [fieldRecord, fieldSize, List.map_map, List.map_map]
  rfl

theorem length_writeUIntBE {width value : Nat} (written : writeUIntBE width value = .ok bytes) :
    bytes.length = width := by
  unfold writeUIntBE at written
  split at written
  · obtain rfl := Except.ok.inj written
    exact length_writeBE _ _
  · simp at written

theorem lengths_of_mapM {α : Type} {f : α → Except String Bytes} {size : α → Nat} {outs : List Bytes}
    {items : List α} (sized : ∀ item ∈ items, ∀ out, f item = .ok out → out.length = size item)
    (done : items.mapM f = .ok outs) : outs.map List.length = items.map size := by
  induction items generalizing outs with
  | nil =>
    obtain rfl := Except.ok.inj done
    rfl
  | cons item rest ih =>
    simp only [List.mapM_cons, bind_eq_ok_iff, pure, Except.pure, Except.ok.injEq] at done
    obtain ⟨out, first, others, remaining, rfl⟩ := done
    rw [List.forall_mem_cons] at sized
    rw [List.map_cons, List.map_cons, sized.1 out first, ih sized.2 remaining]

variable {data : BlindedHopData} {bytes : Bytes}

theorem length_relay {relay : PaymentRelay} (encoded : relay.encode = .ok bytes) :
    bytes.length = 6 + (encodeTruncatedUint relay.feeBaseMsat).length := by
  simp only [PaymentRelay.encode, bind_eq_ok_iff, pure, Except.pure, Except.ok.injEq] at encoded
  obtain ⟨delta, wroteDelta, proportional, wroteProportional, rfl⟩ := encoded
  simp only [List.length_append, length_writeUIntBE wroteDelta, length_writeUIntBE wroteProportional]

theorem length_constraints {bounds : PaymentConstraints} (encoded : bounds.encode = .ok bytes) :
    bytes.length = 4 + (encodeTruncatedUint bounds.htlcMinimumMsat).length := by
  simp only [PaymentConstraints.encode, bind_eq_ok_iff, pure, Except.pure, Except.ok.injEq] at encoded
  obtain ⟨expiry, written, rfl⟩ := encoded
  rw [List.length_append, length_writeUIntBE written]

theorem length_hold {holdHtlc : Bool} {id : Option Bytes} {values : List Bytes}
    (encoded : encodeHold holdHtlc id = .ok values) :
    values.map List.length = if holdHtlc then [(id.getD []).length] else [] := by
  unfold encodeHold at encoded
  split_ifs at encoded with absent wrong
  · obtain rfl := Except.ok.inj encoded
    rw [absent]
    rfl
  · obtain rfl := Except.ok.inj encoded
    rw [if_pos (Bool.eq_true_of_not_eq_false absent)]
    rfl

theorem BlindedHopData.sum_records {records : List TlvRecord} (listed : data.records = .ok records) :
    (records.map recordSize).sum = data.size := by
  simp only [BlindedHopData.records, bind_eq_ok_iff, pure, Except.pure, Except.ok.injEq] at listed
  obtain ⟨relay, encodedRelay, bounds, encodedBounds, hold, encodedHold, rfl⟩ := listed
  simp only [List.map_append, List.sum_append, sum_fieldRecord, length_hold encodedHold,
    lengths_of_mapM (fun _ _ _ encoded => length_relay encoded) encodedRelay,
    lengths_of_mapM (fun _ _ _ encoded => length_constraints encoded) encodedBounds]
  rfl

theorem length_encodeBlindedHopData (encoded : encodeBlindedHopData data = .ok bytes) :
    bytes.length = fieldSize 1 (data.padding.toList.map List.length) + data.size := by
  obtain ⟨records, listed, streamed⟩ := bind_eq_ok_iff.mp encoded
  rw [length_encodeRecords (encodeTlvStream_ok_iff.mp streamed).2, List.map_append, List.sum_append,
    sum_fieldRecord, BlindedHopData.sum_records listed]
  rfl

end Sizes

section Blobs

variable {prim : SphinxPrimitives} {cipher : BlindingCipher} {blindingSecret : Bytes}
  {nodePubkeys : List Bytes} {hopDataList : List BlindedHopData} {path : BlindedPath}

def longest (hopDataList : List BlindedHopData) : Nat := (hopDataList.map (·.size)).foldr max 0

theorem longest_isGreatest (nonempty : hopDataList ≠ []) : (∃ data ∈ hopDataList, data.size = longest hopDataList) ∧
      ∀ data ∈ hopDataList, data.size ≤ longest hopDataList := by
  have sizes : hopDataList.map (·.size) ≠ [] := by simpa using nonempty
  have greatest := List.maximum_eq_coe_iff.mp (List.foldr_max_of_ne_nil sizes).symm
  exact ⟨List.mem_map.mp greatest.1, List.forall_mem_map.mp greatest.2⟩

-- The padding record adds its own header, whose length field grows with the padding.
theorem blob_lengths (unpadded : ∀ data ∈ hopDataList, data.padding = none)
    (built : constructBlindedPath prim cipher blindingSecret nodePubkeys hopDataList = .ok path) :
    hopDataList ≠ [] ∧ path.blindedHops.map (·.encryptedData.length) = hopDataList.map fun data =>
      fieldSize 1 [longest hopDataList - data.size] + data.size + 16 := by
  unfold constructBlindedPath at built
  split_ifs at built with empty different
  simp only [bind_eq_ok_iff, pure, Except.pure, Except.ok.injEq] at built
  obtain ⟨bases, encodedBases, padded, encodedPadded, rfl⟩ := built
  have baseLengths : bases.map List.length = hopDataList.map (·.size) :=
    lengths_of_mapM (fun data member base encoded => by
      rw [length_encodeBlindedHopData encoded, unpadded data member]
      exact Nat.zero_add _) encodedBases
  rw [baseLengths, ← List.map_prod_left_eq_zip] at encodedPadded
  have paddedLengths : padded.map List.length = (hopDataList.map fun data => (data, data.size)).map fun item =>
      fieldSize 1 [longest hopDataList - item.2] + item.1.size :=
    lengths_of_mapM (fun item member plaintext encoded => by
      rw [length_encodeBlindedHopData encoded, Option.toList_some, List.map_singleton, List.length_replicate]
      rfl) encodedPadded
  have count : padded.length = hopDataList.length := by simpa using congrArg List.length paddedLengths
  have secrets := prim.length_sharedSecrets blindingSecret (prim.getPublicKey blindingSecret) nodePubkeys
  have plain : ((nodePubkeys.zip (prim.computeSharedSecrets blindingSecret nodePubkeys)).zip padded).map Prod.snd =
      padded := by
    apply List.map_snd_zip
    rw [List.length_zip, SphinxPrimitives.computeSharedSecrets, secrets]
    omega
  constructor
  · rintro rfl
    exact different empty
  · have lengths := congrArg (List.map (· + 16)) (plain ▸ paddedLengths)
    simpa only [List.map_map, Function.comp_def, cipher.length_encrypt] using lengths

/-- The blobs of a path are of one length exactly when the data of no two hops differ in size by more than 252
    bytes. -/
theorem blobs_level_iff (unpadded : ∀ data ∈ hopDataList, data.padding = none)
    (built : constructBlindedPath prim cipher blindingSecret nodePubkeys hopDataList = .ok path) :
    (∀ a ∈ path.blindedHops, ∀ b ∈ path.blindedHops, a.encryptedData.length = b.encryptedData.length) ↔
      ∀ a ∈ hopDataList, ∀ b ∈ hopDataList, b.size ≤ a.size + 252 := by
  obtain ⟨nonempty, lengths⟩ := blob_lengths unpadded built
  obtain ⟨⟨top, topMember, topSize⟩, below⟩ := longest_isGreatest nonempty
  have small (n : Nat) : bigSizeLength n = 1 ↔ n ≤ 252 := by
    unfold bigSizeLength
    split_ifs <;> omega
  have blobSize (data) (member : data ∈ hopDataList) : fieldSize 1 [longest hopDataList - data.size] + data.size =
      longest hopDataList + 1 + bigSizeLength (longest hopDataList - data.size) := by
    have := below data member
    simp only [fieldSize, List.map_singleton, List.sum_singleton]
    omega
  calc _ ↔ ∀ m ∈ path.blindedHops.map (·.encryptedData.length),
        ∀ n ∈ path.blindedHops.map (·.encryptedData.length), m = n := by simp only [List.forall_mem_map]
    _ ↔ ∀ a ∈ hopDataList, bigSizeLength (longest hopDataList - a.size) = 1 := by
      rw [lengths]
      simp only [List.forall_mem_map]
      constructor
      · intro level a member
        have same := level a member top topMember
        rw [blobSize a member, blobSize top topMember, topSize, Nat.sub_self, (small 0).mpr (by omega)] at same
        omega
      · intro level a aMember b bMember
        rw [blobSize a aMember, blobSize b bMember, level a aMember, level b bMember]
    _ ↔ _ := by
      simp only [small]
      constructor
      · intro near a aMember b bMember
        have := near a aMember
        have := below b bMember
        omega
      · intro near a member
        have := near a member top topMember
        omega

def appendingTag : BlindingCipher := ⟨fun _ plaintext => plaintext ++ List.replicate 16 0, by simp⟩

def shortPathId : List BlindedHopData := [{ shortChannelId := some [1, 2] }, { pathId := some [7] }]

theorem short_path_id_level : ∃ path,
    constructBlindedPath .repeating appendingTag [1] [[2], [3]] shortPathId = .ok path ∧
      ∀ a ∈ path.blindedHops, ∀ b ∈ path.blindedHops, a.encryptedData.length = b.encryptedData.length := by
  obtain ⟨path, built⟩ : ∃ path,
    constructBlindedPath .repeating appendingTag [1] [[2], [3]] shortPathId = .ok path := ⟨_, rfl⟩
  exact ⟨path, built, (blobs_level_iff (by decide) built).mpr (by decide)⟩

/-- A hop without data next to one with a path id of 300 bytes: its blob is two bytes longer. -/
theorem long_path_id_visible : (constructBlindedPath .repeating appendingTag [1] [[2], [3]]
    [{}, { pathId := some (List.replicate 300 0) }]).map (fun path =>
      path.blindedHops.map (·.encryptedData.length)) = .ok [324, 322] := by
  decide +kernel

end Blobs

end Beignet.Onion
