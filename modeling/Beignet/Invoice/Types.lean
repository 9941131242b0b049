import Beignet.Data.BigEndian
import Beignet.Invoice.Amount
import Beignet.Invoice.Words

namespace Beignet.Invoice

open Beignet.Data

section Tags

inductive TagType
  | paymentHash
  | routingInfo
  | featureBits
  | expiry
  | fallbackAddress
  | description
  | paymentSecret
  | payeePubkey
  | descriptionHash
  | minFinalCltvExpiry
  | metadata
  | blindedPaths
  deriving DecidableEq, Repr

def TagType.number : TagType → Nat
  | .paymentHash => 1
  | .routingInfo => 3
  | .featureBits => 5
  | .expiry => 6
  | .fallbackAddress => 9
  | .description => 13
  | .paymentSecret => 16
  | .payeePubkey => 19
  | .descriptionHash => 23
  | .minFinalCltvExpiry => 24
  | .metadata => 27
  | .blindedPaths => 25

def TagType.all : List TagType :=
  [.paymentHash, .routingInfo, .featureBits, .expiry, .fallbackAddress, .description, .paymentSecret, .payeePubkey,
    .descriptionHash, .minFinalCltvExpiry, .metadata, .blindedPaths]

def TagType.ofNumber (number : Nat) : Option TagType := TagType.all.find? (·.number = number)

theorem TagType.ofNumber_number (tag : TagType) : TagType.ofNumber tag.number = some tag := by
  cases tag <;> decide

/-- The lengths in words of the fields that have only one; a field of another length is skipped. -/
def TagType.fixedLength : TagType → Option Nat
  | .paymentHash => some 52
  | .paymentSecret => some 52
  | .descriptionHash => some 52
  | .payeePubkey => some 53
  | _ => none

end Tags

section Features

structure FeatureFlags where
  bits : Finset Nat
  deriving DecidableEq

variable (features : FeatureFlags) (place : Nat → Nat) {words : List Nat}

def FeatureFlags.listSetBits : List Nat := features.bits.sort (· ≤ ·)

def encodeFeatureBits : List Nat :=
  let setBits := features.listSetBits
  match setBits.getLast? with
  | none => [0]
  | some maxBit =>
    let wordCount := maxBit / 5 + 1
    setBits.foldl (fun words bit => words.modify (wordCount - 1 - bit / 5) (· ||| 2 ^ (bit % 5)))
      (List.replicate wordCount 0)

def decodeFeatureBits (words : List Nat) : FeatureFlags :=
  let found := (List.range words.length).reverse.flatMap fun w =>
    (List.range 5).filterMap fun b =>
      if (words.getD w 0).testBit b then some ((words.length - 1 - w) * 5 + b) else none
  ⟨found.toFinset⟩

theorem mem_decodeFeatureBits {bit : Nat} : bit ∈ (decodeFeatureBits words).bits ↔
      bit / 5 < words.length ∧ (words.getD (words.length - 1 - bit / 5) 0).testBit (bit % 5) = true := by
  simp only [decodeFeatureBits, List.mem_toFinset, List.mem_flatMap, List.mem_reverse, List.mem_range,
    List.mem_filterMap, Option.ite_none_right_eq_some, Option.some.injEq]
  constructor
  · rintro ⟨w, inside, b, small, set, rfl⟩
    have high : ((words.length - 1 - w) * 5 + b) / 5 = words.length - 1 - w := by omega
    have low : ((words.length - 1 - w) * 5 + b) % 5 = b := by omega
    rw [high, low, show words.length - 1 - (words.length - 1 - w) = w by omega]
    exact ⟨by omega, set⟩
  · rintro ⟨inside, set⟩
    exact ⟨words.length - 1 - bit / 5, by omega, bit % 5, by omega, set, by omega⟩

theorem testBit_foldl_modify {bits : List Nat} (i b : Nat) (inside : i < words.length) :
    ((bits.foldl (fun words bit => words.modify (place bit) (· ||| 2 ^ (bit % 5))) words).getD i 0).testBit b = true ↔
      (words.getD i 0).testBit b = true ∨ ∃ bit ∈ bits, place bit = i ∧ bit % 5 = b := by
  induction bits generalizing words with
  | nil => simp
  | cons bit rest ih =>
    rw [List.foldl_cons, ih (by rwa [List.length_modify])]
    have here : ((words.modify (place bit) (· ||| 2 ^ (bit % 5))).getD i 0).testBit b = true ↔
        (words.getD i 0).testBit b = true ∨ place bit = i ∧ bit % 5 = b := by
      rw [List.getD_eq_getElem?_getD, List.getD_eq_getElem?_getD, List.getElem?_modify]
      rw [List.getElem?_eq_getElem inside]
      by_cases same : place bit = i
      · simp [same, Nat.testBit_or, Nat.testBit_two_pow]
      · simp [same]
    rw [here]
    constructor
    · rintro ((before | ⟨placed, low⟩) | ⟨other, member, placed, low⟩)
      · exact .inl before
      · exact .inr ⟨bit, List.mem_cons_self, placed, low⟩
      · exact .inr ⟨other, List.mem_cons_of_mem _ member, placed, low⟩
    · rintro (before | ⟨other, member, placed, low⟩)
      · exact .inl (.inl before)
      · rcases List.mem_cons.mp member with rfl | member
        · exact .inl (.inr ⟨placed, low⟩)
        · exact .inr ⟨other, member, placed, low⟩

theorem length_foldl_modify (bits : List Nat) (words : List Nat) :
    (bits.foldl (fun words bit => words.modify (place bit) (· ||| 2 ^ (bit % 5))) words).length = words.length := by
  induction bits generalizing words with
  | nil => rfl
  | cons bit rest ih => rw [List.foldl_cons, ih, List.length_modify]

theorem decodeFeatureBits_encodeFeatureBits : decodeFeatureBits (encodeFeatureBits features) = features := by
  have members : ∀ bit, bit ∈ features.listSetBits ↔ bit ∈ features.bits := fun bit => Finset.mem_sort _
  obtain ⟨bits⟩ := features
  unfold encodeFeatureBits
  dsimp only
  cases last : (FeatureFlags.listSetBits ⟨bits⟩).getLast? with
  | none =>
    have none : ∀ bit, bit ∉ bits := by
      intro bit member
      rw [← members, List.getLast?_eq_none_iff.mp last] at member
      cases member
    rw [Finset.eq_empty_of_forall_notMem none]
    decide
  | some maxBit =>
    have below : ∀ bit ∈ bits, bit ≤ maxBit := by
      intro bit member
      rw [← members] at member
      have sorted : (FeatureFlags.listSetBits ⟨bits⟩).Pairwise (· ≤ ·) := Finset.pairwise_sort _ _
      have whole : (FeatureFlags.listSetBits ⟨bits⟩).dropLast ++ [maxBit] = FeatureFlags.listSetBits ⟨bits⟩ :=
        List.dropLast_append_getLast? maxBit last
      rw [← whole] at sorted member
      rcases List.mem_append.mp member with earlier | same
      · exact (List.pairwise_append.mp sorted).2.2 bit earlier maxBit (by simp)
      · exact (List.mem_singleton.mp same).le
    dsimp only
    rw [FeatureFlags.mk.injEq]
    ext bit
    have size := length_foldl_modify (fun bit => maxBit / 5 + 1 - 1 - bit / 5) (FeatureFlags.listSetBits ⟨bits⟩)
      (List.replicate (maxBit / 5 + 1) 0)
    rw [List.length_replicate] at size
    rw [mem_decodeFeatureBits, size, testBit_foldl_modify (fun bit => maxBit / 5 + 1 - 1 - bit / 5) _ _
      (by rw [List.length_replicate]; omega)]
    constructor
    · rintro ⟨inside, clear | ⟨other, member, place, low⟩⟩
      · rw [List.getD_eq_getElem?_getD, List.getElem?_replicate] at clear
        split at clear <;> simp at clear
      · have bound := below other ((members other).mp member)
        have same : bit = other := by omega
        exact same ▸ (members other).mp member
    · intro member
      have bound := below bit member
      exact ⟨by omega, .inr ⟨bit, (members bit).mpr member, rfl, rfl⟩⟩

end Features

section Routing

def writeUInt (width value : Nat) : Except String Bytes :=
  if value < 256 ^ width then .ok (writeBE width value) else .error "The value of \"value\" is out of range."

variable {bytes : Bytes} {hops : List RoutingHintHop}

theorem writeUInt_eq_ok {width value : Nat} (written : writeUInt width value = .ok bytes) :
    bytes.length = width ∧ readBE bytes = value := by
  unfold writeUInt at written
  split at written
  · rename_i fits
    cases written
    exact ⟨length_writeBE width value, readBE_writeBE fits⟩
  · cases written

@[ext]
structure RoutingHintHop where
  pubkey : Bytes
  shortChannelId : Bytes
  feeBaseMsat : Nat
  feeProportionalMillionths : Nat
  cltvExpiryDelta : Nat
  pubkey_length : pubkey.length = 33
  shortChannelId_length : shortChannelId.length = 8
  deriving DecidableEq

def routingHopBytes : Nat := 51

def encodeHop (hop : RoutingHintHop) : Except String Bytes := do
  let base ← writeUInt 4 hop.feeBaseMsat
  let proportional ← writeUInt 4 hop.feeProportionalMillionths
  let delta ← writeUInt 2 hop.cltvExpiryDelta
  return hop.pubkey ++ (hop.shortChannelId ++ (base ++ (proportional ++ delta)))

def encodeHops : List RoutingHintHop → Except String Bytes
  | [] => return []
  | hop :: rest => do
    let first ← encodeHop hop
    let others ← encodeHops rest
    return first ++ others

def encodeRoutingInfo (hops : List RoutingHintHop) : Except String (List Nat) := do
  let bytes ← encodeHops hops
  return bufferToWords bytes

def readHop (data : Bytes) (enough : routingHopBytes ≤ data.length) : RoutingHintHop where
  pubkey := slice data 0 33
  shortChannelId := slice data 33 8
  feeBaseMsat := readBE (slice data 41 4)
  feeProportionalMillionths := readBE (slice data 45 4)
  cltvExpiryDelta := readBE (slice data 49 2)
  pubkey_length := length_slice (by unfold routingHopBytes at enough; omega)
  shortChannelId_length := length_slice (by unfold routingHopBytes at enough; omega)

def readHops (data : Bytes) : List RoutingHintHop :=
  if enough : routingHopBytes ≤ data.length then readHop data enough :: readHops (data.drop routingHopBytes) else []
termination_by data.length
decreasing_by
  rw [List.length_drop]
  unfold routingHopBytes at *
  omega

def decodeRoutingInfo (words : List Nat) : Except String (List RoutingHintHop) := do
  let data ← wordsToBuffer words
  return readHops data

theorem slice_past {before : Bytes} {size offset : Nat} (length : before.length = size) (past : size ≤ offset)
    (data : Bytes) (width : Nat) : slice (before ++ data) offset width = slice data (offset - size) width := by
  rw [slice, slice, List.drop_append, List.drop_eq_nil_of_le (by omega), List.nil_append, length]

theorem slice_append_left {data : Bytes} {width : Nat} (size : data.length = width) (after : Bytes) :
    slice (data ++ after) 0 width = data := by
  rw [slice, List.drop_zero, List.take_left' size]

theorem encodeHop_eq_ok {hop : RoutingHintHop} (encoded : encodeHop hop = .ok bytes) :
    bytes.length = routingHopBytes ∧ ∀ rest enough, readHop (bytes ++ rest) enough = hop := by
  simp only [encodeHop, bind_eq_ok_iff] at encoded
  obtain ⟨base, wroteBase, proportional, wroteProportional, delta, wroteDelta, encoded⟩ := encoded
  cases encoded
  obtain ⟨baseLength, readBase⟩ := writeUInt_eq_ok wroteBase
  obtain ⟨proportionalLength, readProportional⟩ := writeUInt_eq_ok wroteProportional
  obtain ⟨deltaLength, readDelta⟩ := writeUInt_eq_ok wroteDelta
  have keyLength := hop.pubkey_length
  have idLength := hop.shortChannelId_length
  constructor
  · simp only [List.length_append, keyLength, idLength, baseLength, proportionalLength, deltaLength]
    rfl
  · intro rest enough
    -- Each part is at the offset where the parts before it end.
    simp only [readHop, List.append_assoc, slice_past keyLength, slice_past idLength, slice_past baseLength,
      slice_past proportionalLength, slice_append_left keyLength, slice_append_left idLength,
      slice_append_left baseLength, slice_append_left proportionalLength, slice_append_left deltaLength,
      readBase, readProportional, readDelta, Nat.reduceLeDiff, Nat.reduceSub]

theorem readHops_encodeHops (encoded : encodeHops hops = .ok bytes) : readHops bytes = hops := by
  induction hops generalizing bytes with
  | nil =>
    cases encoded
    rw [readHops, dif_neg (by decide)]
  | cons hop rest ih =>
    unfold encodeHops at encoded
    obtain ⟨first, wrote, encoded⟩ := bind_eq_ok_iff.mp encoded
    obtain ⟨others, wroteOthers, encoded⟩ := bind_eq_ok_iff.mp encoded
    cases encoded
    obtain ⟨size, reads⟩ := encodeHop_eq_ok wrote
    rw [readHops, dif_pos (by rw [List.length_append]; omega), reads, List.drop_left' size, ih wroteOthers]

theorem decodeRoutingInfo_encodeRoutingInfo {words : List Nat}
    (encoded : encodeRoutingInfo hops = .ok words) : decodeRoutingInfo words = .ok hops := by
  unfold encodeRoutingInfo at encoded
  obtain ⟨bytes, wrote, encoded⟩ := bind_eq_ok_iff.mp encoded
  cases encoded
  unfold decodeRoutingInfo
  rw [wordsToBuffer_bufferToWords]
  show Except.ok (readHops bytes) = _
  rw [readHops_encodeHops wrote]

end Routing

section Fallback

structure FallbackAddress where
  version : Nat
  hash : Bytes
  deriving DecidableEq

def encodeFallbackAddress (address : FallbackAddress) : List Nat := address.version :: bufferToWords address.hash

def decodeFallbackAddress (words : List Nat) : Except String FallbackAddress :=
  match words with
  | [] => .error "Fallback address field is empty"
  | version :: rest => do
    let hash ← wordsToBuffer rest
    return ⟨version, hash⟩

theorem decodeFallbackAddress_encodeFallbackAddress (address : FallbackAddress) :
    decodeFallbackAddress (encodeFallbackAddress address) = .ok address := by
  unfold decodeFallbackAddress encodeFallbackAddress
  dsimp only
  rw [wordsToBuffer_bufferToWords]
  rfl

end Fallback

section Text

def utf8 (text : String) : Bytes := text.toUTF8.data.toList.map UInt8.toFin

/-- `toString('utf8')`: bytes that are no text are replaced. -/
def ofUtf8 (replaced : Bytes → String) (bytes : Bytes) : String :=
  (String.fromUTF8? ⟨(bytes.map UInt8.ofFin).toArray⟩).getD (replaced bytes)

theorem ofUtf8_utf8 (replaced : Bytes → String) (text : String) : ofUtf8 replaced (utf8 text) = text := by
  have bytes : (⟨((utf8 text).map UInt8.ofFin).toArray⟩ : ByteArray) = text.toByteArray := by
    have same : (utf8 text).map UInt8.ofFin = text.toByteArray.data.toList := by
      rw [utf8, List.map_map]
      conv_rhs => rw [← List.map_id text.toByteArray.data.toList]
      apply List.map_congr_left
      intro byte _
      rfl
    rw [same]
  unfold ofUtf8
  rw [bytes, String.fromUTF8?, dif_pos text.isValidUTF8]
  rfl

end Text

end Beignet.Invoice
