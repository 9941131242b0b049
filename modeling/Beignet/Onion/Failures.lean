import Beignet.Onion.Packet

namespace Beignet.Onion

open Beignet.Data

structure OnionFailure where
  failureCode : Nat
  failureData : Bytes
  deriving DecidableEq, Repr

structure AttributedFailure where
  originIndex : Nat
  failure : OnionFailure
  deriving DecidableEq, Repr

def failurePayloadLength : Nat := 256

/-- `writeUInt16BE` and `writeUInt32BE`. -/
def writeUIntBE (width value : Nat) : Except String Bytes :=
  if value < 256 ^ width then .ok (writeBE width value) else .error "The value of \"value\" is out of range"

def readUInt16BE (buf : Bytes) : Except String Nat :=
  if buf.length < 2 then .error "Attempt to access memory outside buffer bounds" else .ok (readBE (buf.take 2))

def encodeFailurePayload (failureCode : Nat) (failureData : Bytes) : Except String Bytes := do
  let failureLen := 2 + failureData.length
  if failureLen > failurePayloadLength then throw "Failure data too large"
  let padLen := failurePayloadLength - failureLen
  let code ← writeUIntBE 2 failureCode
  return writeBE 2 failureLen ++ (code ++ failureData ++ (writeBE 2 padLen ++ List.replicate padLen 0))

def readFailureLen (lenAndPad : Bytes) : Except String Nat :=
  if lenAndPad.length ≥ 2 then readUInt16BE lenAndPad else .ok 0

/-- What `decryptFailureMessage` makes of the part under a HMAC that matches. -/
def decodeFailure (lenAndPad : Bytes) : Except String OnionFailure := do
  let len ← readFailureLen lenAndPad
  if len < 2 ∨ 2 + len > lenAndPad.length then return ⟨0, []⟩
  let payload := slice lenAndPad 2 len
  let failureCode ← readUInt16BE payload
  return ⟨failureCode, payload.drop 2⟩

namespace SphinxPrimitives

variable (prim : SphinxPrimitives) (sharedSecret : Bytes) (sharedSecrets : List Bytes)

def um : Bytes := prim.generateKey [117, 109] sharedSecret

def ammag : Bytes := prim.generateKey [97, 109, 109, 97, 103] sharedSecret

def createFailureMessage (failureCode : Nat) (failureData : Bytes) : Except String Bytes := do
  let plaintext ← encodeFailurePayload failureCode failureData
  let hmac := prim.hmacSha256 (prim.um sharedSecret) plaintext
  return mask (prim.chacha20 (prim.ammag sharedSecret)) 0 (hmac ++ plaintext)

def wrapFailureMessage (sharedSecret message : Bytes) : Bytes :=
  mask (prim.chacha20 (prim.ammag sharedSecret)) 0 message

/-- The way back through the hops with these secrets, the last of them first. -/
def wrapThrough (message : Bytes) : Bytes :=
  sharedSecrets.foldr prim.wrapFailureMessage message

-- A message of less than 32 bytes is all HMAC, and no HMAC is as short.
def hmacMatches (sharedSecret decrypted : Bytes) : Bool :=
  decrypted.take 32 = prim.hmacSha256 (prim.um sharedSecret) (decrypted.drop 32)

/-- The loop of `decryptFailureMessage` from hop `i` on. -/
def decryptFrom (i : Nat) : List Bytes → Bytes → Except String (Option AttributedFailure)
  | [], _ => .ok none
  | sharedSecret :: rest, current => do
    let decrypted := mask (prim.chacha20 (prim.ammag sharedSecret)) 0 current
    if prim.hmacMatches sharedSecret decrypted then
      let failure ← decodeFailure (decrypted.drop 32)
      return some ⟨i, failure⟩
    else decryptFrom (i + 1) rest decrypted

def decryptFailureMessage (message : Bytes) : Except String (Option AttributedFailure) :=
  prim.decryptFrom 0 sharedSecrets message

end SphinxPrimitives

theorem readUInt16BE_of_le {buf : Bytes} (room : 2 ≤ buf.length) : readUInt16BE buf = .ok (readBE (buf.take 2)) := by
  rw [readUInt16BE, if_neg (Nat.not_lt.mpr room)]

theorem decodeFailure_isOk (lenAndPad : Bytes) : ∃ failure, decodeFailure lenAndPad = .ok failure := by
  -- Both reads are behind the length check that they need.
  have measured : ∃ len, readFailureLen lenAndPad = .ok len := by
    unfold readFailureLen
    split
    case isTrue room => exact ⟨_, readUInt16BE_of_le room⟩
    case isFalse => exact ⟨0, rfl⟩
  obtain ⟨len, measured⟩ := measured
  rw [decodeFailure, measured]
  by_cases outside : len < 2 ∨ 2 + len > lenAndPad.length
  · exact ⟨⟨0, []⟩, if_pos outside⟩
  · have whole : (slice lenAndPad 2 len).length = len := length_slice (by omega)
    have read : readUInt16BE (slice lenAndPad 2 len) = _ := readUInt16BE_of_le (by omega)
    exact ⟨⟨_, (slice lenAndPad 2 len).drop 2⟩, (if_neg outside).trans (by rw [read]; rfl)⟩

theorem encodeFailurePayload_eq {code : Nat} {data : Bytes} (isCode : code < 0x10000) (fits : data.length ≤ 254) :
    encodeFailurePayload code data = .ok (writeBE 2 (2 + data.length) ++ (writeBE 2 code ++ data ++
      (writeBE 2 (254 - data.length) ++ List.replicate (254 - data.length) 0))) := by
  have small : ¬ 2 + data.length > failurePayloadLength := by
    simp only [failurePayloadLength]
    omega
  have pad : failurePayloadLength - (2 + data.length) = 254 - data.length := by
    simp only [failurePayloadLength]
    omega
  simp only [encodeFailurePayload, writeUIntBE, if_neg small, if_pos (show code < 256 ^ 2 from isCode), pad]
  rfl

theorem decodeFailure_payload {code : Nat} {data rest : Bytes} (isCode : code < 0x10000) (fits : data.length ≤ 254) :
    decodeFailure (writeBE 2 (2 + data.length) ++ (writeBE 2 code ++ data ++ rest)) = .ok ⟨code, data⟩ := by
  have len : readFailureLen (writeBE 2 (2 + data.length) ++ (writeBE 2 code ++ data ++ rest)) =
      .ok (2 + data.length) := by
    rw [readFailureLen, if_pos (by simp), readUInt16BE_of_le (by simp), List.take_left' (by simp), readBE_writeBE (by omega)]
  have payload : slice (writeBE 2 (2 + data.length) ++ (writeBE 2 code ++ data ++ rest)) 2
      (2 + data.length) = writeBE 2 code ++ data := by
    rw [slice, List.drop_left' (by simp), List.take_left' (by simp)]
  have read : readUInt16BE (writeBE 2 code ++ data) = .ok code := by
    rw [readUInt16BE_of_le (by simp), List.take_left' (by simp), readBE_writeBE (by omega)]
  rw [decodeFailure, len]
  refine (if_neg ?_).trans ?_
  · simp only [List.length_append, length_writeBE]
    omega
  · rw [payload, read, List.drop_left' (by simp)]
    rfl

namespace SphinxPrimitives

variable {prim : SphinxPrimitives}

theorem decryptFrom_isOk (i : Nat) (sharedSecrets : List Bytes) (message : Bytes) :
    ∃ result, prim.decryptFrom i sharedSecrets message = .ok result ∧
      ∀ found ∈ result, found.originIndex < i + sharedSecrets.length := by
  induction sharedSecrets generalizing i message with
  | nil => exact ⟨none, rfl, by simp⟩
  | cons secret rest ih =>
    rw [decryptFrom]
    split
    case isTrue =>
      obtain ⟨failure, decoded⟩ :=
        decodeFailure_isOk ((mask (prim.chacha20 (prim.ammag secret)) 0 message).drop 32)
      rw [decoded]
      exact ⟨some ⟨i, failure⟩, rfl, by simp⟩
    case isFalse =>
      obtain ⟨result, decrypted, below⟩ := ih (i + 1) (mask (prim.chacha20 (prim.ammag secret)) 0 message)
      refine ⟨result, decrypted, fun found member => ?_⟩
      have := below found member
      rw [List.length_cons]
      omega

theorem decryptFrom_origin (macLength : ∀ key msg, (prim.hmacSha256 key msg).length = 32) (i : Nat)
    {secret plaintext : Bytes} {failure : OnionFailure} (rest : List Bytes)
    (decoded : decodeFailure plaintext = .ok failure) :
    prim.decryptFrom i (secret :: rest) (mask (prim.chacha20 (prim.ammag secret)) 0
      (prim.hmacSha256 (prim.um secret) plaintext ++ plaintext)) = .ok (some ⟨i, failure⟩) := by
  have body : (prim.hmacSha256 (prim.um secret) plaintext ++ plaintext).drop 32 = plaintext :=
    List.drop_left' (macLength _ _)
  have matched : prim.hmacMatches secret (prim.hmacSha256 (prim.um secret) plaintext ++ plaintext) = true := by
    rw [hmacMatches, body, List.take_left' (macLength _ _), decide_eq_true rfl]
  rw [decryptFrom, mask_mask, if_pos matched, body, decoded]
  rfl

/-- Each hop that the failure passed is peeled off and not blamed, as long as its HMAC does not match. -/
theorem decryptFrom_wrapThrough (before rest : List Bytes) (i : Nat) {message : Bytes}
    (unmatched : ∀ j (below : j < before.length),
      prim.hmacMatches before[j] (prim.wrapThrough (before.drop (j + 1)) message) = false) :
    prim.decryptFrom i (before ++ rest) (prim.wrapThrough before message) =
      prim.decryptFrom (i + before.length) rest message := by
  induction before generalizing i with
  | nil => rfl
  | cons secret others ih =>
    have peeled : mask (prim.chacha20 (prim.ammag secret)) 0 (prim.wrapThrough (secret :: others) message) =
        prim.wrapThrough others message := mask_mask _
    have passed : prim.hmacMatches secret (prim.wrapThrough others message) = false :=
      unmatched 0 (Nat.succ_pos _)
    rw [List.cons_append, decryptFrom, peeled, passed, if_neg Bool.false_ne_true,
      ih (i + 1) fun j below => unmatched (j + 1) (Nat.succ_lt_succ below), List.length_cons]
    congr 1
    omega

/-- The sender blames the hop that failed, with its code and its data, unless a HMAC of a hop before it matches
    by accident; and no message makes the sender throw. -/
theorem failure_attributed (macLength : ∀ key msg, (prim.hmacSha256 key msg).length = 32) :
    (∀ (sharedSecrets : List Bytes) (k : Nat) (inside : k < sharedSecrets.length) (code : Nat) (data : Bytes),
      code < 0x10000 → data.length ≤ 254 →
      ∃ message, prim.createFailureMessage sharedSecrets[k] code data = .ok message ∧
        ((∀ i (below : i < k), prim.hmacMatches sharedSecrets[i]
            (prim.wrapThrough ((sharedSecrets.take k).drop (i + 1)) message) = false) →
          prim.decryptFailureMessage sharedSecrets (prim.wrapThrough (sharedSecrets.take k) message) =
            .ok (some ⟨k, code, data⟩))) ∧ ∀ (sharedSecrets : List Bytes) (message : Bytes),
      ∃ result, prim.decryptFailureMessage sharedSecrets message = .ok result ∧
        ∀ found ∈ result, found.originIndex < sharedSecrets.length := by
  constructor
  · intro sharedSecrets k inside code data isCode fits
    refine ⟨_, by rw [createFailureMessage, encodeFailurePayload_eq isCode fits]; rfl, fun unmatched => ?_⟩
    have split : sharedSecrets = sharedSecrets.take k ++ sharedSecrets[k] :: sharedSecrets.drop (k + 1) := by
      rw [← List.drop_eq_getElem_cons inside, List.take_append_drop]
    have count : (sharedSecrets.take k).length = k := List.length_take_of_le inside.le
    have passed : ∀ j (below : j < (sharedSecrets.take k).length), prim.hmacMatches (sharedSecrets.take k)[j]
        (prim.wrapThrough ((sharedSecrets.take k).drop (j + 1)) _) = false := fun j below => by
      rw [List.getElem_take]
      exact unmatched j (count ▸ below)
    have peeled := decryptFrom_wrapThrough _ (sharedSecrets[k] :: sharedSecrets.drop (k + 1)) 0 passed
    rw [← split, decryptFrom_origin macLength _ _ (decodeFailure_payload isCode fits), count, Nat.zero_add] at peeled
    exact peeled
  · intro sharedSecrets message
    obtain ⟨result, decrypted, below⟩ := prim.decryptFrom_isOk 0 sharedSecrets message
    rw [Nat.zero_add] at below
    exact ⟨result, decrypted, below⟩

/-- Keys and streams of one repeated byte. -/
def repeating : SphinxPrimitives where
  getPublicKey key := key
  isValidPublicKey _ := true
  ecdh _ point := point
  pointMultiply point _ := point
  privateMultiply key _ := key
  sha256 msg := msg
  hmacSha256 key msg := List.replicate 32 (key.headD 0 + msg.headD 0)
  chacha20 key _ := key.headD 0

theorem second_hop_blamed : ∃ message, repeating.createFailureMessage [1] 0x1007 [5, 6] = .ok message ∧
    repeating.decryptFailureMessage [[0], [1], [2]] (repeating.wrapFailureMessage [0] message) =
      .ok (some ⟨1, 0x1007, [5, 6]⟩) := by
  have macLength : ∀ key msg, (repeating.hmacSha256 key msg).length = 32 := fun _ _ => List.length_replicate
  obtain ⟨message, created, attributed⟩ := (failure_attributed macLength).1 [[0], [1], [2]] 1 (by decide)
    0x1007 [5, 6] (by decide) (by decide)
  refine ⟨message, created, attributed fun i below => ?_⟩
  have first : i = 0 := by omega
  subst first
  have checked : (repeating.createFailureMessage [1] 0x1007 [5, 6]).map (repeating.hmacMatches [0]) =
      .ok false := by decide
  have made : repeating.createFailureMessage [1] 0x1007 [5, 6] = .ok message := created
  rw [made] at checked
  exact Except.ok.inj checked

end SphinxPrimitives

end Beignet.Onion
