import Beignet.Onion.Overflow

namespace Beignet.Onion

open Beignet.Data Beignet.Message

variable (target : Bytes) (packet : OnionPacket)

/-- `source.copy(target, start)`, which stops at the end of the target. -/
def copyInto (start : Nat) (source : Bytes) : Bytes :=
  target.take start ++ (source ++ target.drop (start + source.length)).take (target.length - start)

def encodeOnionPacket : Bytes :=
  let riLen := packet.routingInfo.length
  let buf := copyInto (List.replicate (66 + riLen) 0) 0 [Fin.ofNat 256 packet.version]
  copyInto (copyInto (copyInto buf 1 packet.ephemeralKey) 34 packet.routingInfo) (34 + riLen) packet.hmac

@[simp] theorem length_copyInto (start : Nat) (source : Bytes) :
    (copyInto target start source).length = target.length := by
  simp only [copyInto, List.length_append, List.length_take, List.length_drop]
  omega

theorem length_encodeOnionPacket : (encodeOnionPacket packet).length = 66 + packet.routingInfo.length := by
  simp [encodeOnionPacket]

section Bounds

variable {buf : Bytes} {payloadEnd streamStart offset stop : Nat} {fields taken : PayloadFields}

theorem plainError_eq_ok {α : Type} {result : Except String α} {a : α} :
    plainError result = .ok a ↔ result = .ok a := by
  cases result <;> simp [plainError, Except.mapError]

theorem readRecord_stop (small : payloadEnd < 2 ^ 53)
    (read : readRecord buf payloadEnd streamStart fields offset = .ok (taken, stop)) :
    offset < stop ∧ stop ≤ payloadEnd := by
  obtain ⟨tlvType, typed, read⟩ := bind_eq_ok_iff.mp read
  obtain ⟨bytes, encoded, typeSize, -⟩ := decodeBigSize_ok_iff.mp (plainError_eq_ok.mp typed)
  have nonempty := encodeBigSize_length_pos encoded
  dsimp only at read
  split at read
  · cases read
  obtain ⟨length, -, read⟩ := bind_eq_ok_iff.mp read
  split at read
  · cases read
  rename_i inside
  obtain ⟨_, -, ended⟩ := bind_eq_ok_iff.mp read
  cases ended
  have ends := (toNumber_add_le_iff small).mp inside
  rw [toNumber_of_lt (by omega)]
  omega

theorem readPayload_stop {turns : Nat} (small : payloadEnd < 2 ^ 53) (before : offset ≤ payloadEnd)
    (enough : payloadEnd ≤ offset + turns)
    (read : readPayload buf payloadEnd streamStart turns fields offset = .ok (taken, stop)) : stop = payloadEnd := by
  induction turns generalizing fields offset with
  | zero =>
    cases read
    omega
  | succ turns ih =>
    rw [readPayload] at read
    split at read
    · obtain ⟨⟨next, place⟩, first, rest⟩ := bind_eq_ok_iff.mp read
      obtain ⟨past, within⟩ := readRecord_stop small first
      exact ih within (by omega) rest
    · cases read
      omega

theorem decodeHopPayload_bytesRead {decoded : DecodedPayload} (small : buf.length < 2 ^ 53)
    (read : decodeHopPayload buf 0 = .ok decoded) :
    ∃ length, decodeBigSize buf 0 = .ok length ∧ decoded.bytesRead = length.bytesRead + length.value := by
  obtain ⟨length, declared, read⟩ := bind_eq_ok_iff.mp read
  refine ⟨length, plainError_eq_ok.mp declared, ?_⟩
  dsimp only at read
  split at read
  · cases read
  rename_i inside
  have ends := (toNumber_add_le_iff small).mp inside
  rw [toNumber_of_lt (n := length.value) (by omega), toNumber_of_lt (by omega)] at read
  split at read
  · cases read
  obtain ⟨⟨fields, stop⟩, looped, read⟩ := bind_eq_ok_iff.mp read
  obtain ⟨payload, -, done⟩ := bind_eq_ok_iff.mp read
  cases done
  have whole := readPayload_stop (by omega) (by omega) le_rfl looped
  dsimp only
  omega

end Bounds

structure TakenFrom (plain : Bytes) (peeled : ProcessedOnion) (decoded : DecodedPayload) : Prop where
  read : decodeHopPayload plain 0 = .ok decoded
  payload : peeled.hopPayload = decoded.payload
  hmac : peeled.nextPacket.hmac = slice plain decoded.bytesRead 32
  routingInfo : peeled.nextPacket.routingInfo = slice plain (decoded.bytesRead + 32) routingInfoLength

namespace SphinxPrimitives

section Peeling

variable (prim : SphinxPrimitives) (packet : OnionPacket) (nodePrivkey : Bytes)

def decrypted : Bytes := prim.opened (prim.ecdh nodePrivkey packet.ephemeralKey) packet.routingInfo

structure PeelsInside (peeled : ProcessedOnion) : Prop where
  inside : ∃ decoded, TakenFrom (prim.decrypted packet nodePrivkey) peeled decoded ∧
    decoded.bytesRead + 32 ≤ routingInfoLength
  routingInfo : peeled.nextPacket.routingInfo.length = routingInfoLength
  onion : (encodeOnionPacket peeled.nextPacket).length = 1366

def DeclaresRoom : Prop :=
  ∃ length, decodeBigSize (prim.decrypted packet nodePrivkey) 0 = .ok length ∧
    length.bytesRead + length.value + 32 ≤ routingInfoLength

variable {prim packet nodePrivkey} {associatedData : Option Bytes} {peeled : ProcessedOnion}
  (processed : prim.processOnionPacket packet nodePrivkey associatedData = .ok peeled)
include processed

theorem processOnionPacket_takenFrom : packet.routingInfo.length = routingInfoLength ∧
      ∃ decoded, TakenFrom (prim.decrypted packet nodePrivkey) peeled decoded := by
  unfold processOnionPacket at processed
  dsimp only at processed
  split at processed
  · cases processed
  split at processed
  · cases processed
  rename_i sized
  split at processed
  · cases processed
  split at processed
  · cases processed
  split at processed
  · cases processed
  rename_i decoded
  cases processed
  exact ⟨not_not.mp sized, _, decoded, rfl, rfl, rfl⟩

theorem peelsInside_iff :
    prim.PeelsInside packet nodePrivkey peeled ↔ prim.DeclaresRoom packet nodePrivkey := by
  obtain ⟨sized, decoded, taken⟩ := processOnionPacket_takenFrom processed
  have size : (prim.decrypted packet nodePrivkey).length = routingInfoLength + routingInfoLength := by
    rw [decrypted, opened, length_mask, List.length_append, List.length_replicate, sized]
  have small : (prim.decrypted packet nodePrivkey).length < 2 ^ 53 := by
    rw [size]
    decide
  obtain ⟨length, declared, ends⟩ := decodeHopPayload_bytesRead small taken.read
  constructor
  · rintro ⟨⟨again, takenAgain, inside⟩, -, -⟩
    cases taken.read.symm.trans takenAgain.read
    exact ⟨length, declared, ends ▸ inside⟩
  · rintro ⟨again, declaredAgain, room⟩
    cases declared.symm.trans declaredAgain
    rw [← ends] at room
    have next : peeled.nextPacket.routingInfo.length = routingInfoLength := by
      rw [taken.routingInfo]
      exact length_slice (by omega)
    refine ⟨⟨decoded, taken, room⟩, next, ?_⟩
    rw [length_encodeOnionPacket, next]
    rfl

end Peeling

def onionNaming (payloadLength recordLength : Bytes) : OnionPacket where
  version := onionVersion
  ephemeralKey := []
  routingInfo :=
    let records := payloadLength ++ [2, 0, 4, 0, 5] ++ recordLength
    records ++ List.replicate (routingInfoLength - records.length) 0
  hmac := 2 :: List.replicate 31 0

theorem peelsInside_short :
    ∃ peeled, (spelling [] 0).processOnionPacket (onionNaming [6] [0]) [] none = .ok peeled ∧
      (spelling [] 0).PeelsInside (onionNaming [6] [0]) [] peeled := by
  have opens : ((spelling [] 0).processOnionPacket (onionNaming [6] [0]) [] none).toOption.isSome = true := by
    decide +kernel
  cases processed : (spelling [] 0).processOnionPacket (onionNaming [6] [0]) [] none with
  | error e => simp [processed, Except.toOption] at opens
  | ok peeled =>
    have room : decodeBigSize ((spelling [] 0).decrypted (onionNaming [6] [0]) []) 0 = .ok ⟨6, 1⟩ := by
      decide
    exact ⟨peeled, rfl, (peelsInside_iff processed).mpr ⟨_, room, by decide⟩⟩

/-- A payload of 1400 bytes is taken: its end and its HMAC are keystream, and 1165 bytes are passed on. -/
theorem overlong_payload_peeled :
    let packet := onionNaming [0xfd, 5, 0x78] [0xfd, 5, 0x70]
    packet.routingInfo.length = 1300 ∧
      (decodeHopPayload ((spelling [] 0).decrypted packet []) 0).toOption.map DecodedPayload.bytesRead = some 1403 ∧
      ((spelling [] 0).processOnionPacket packet [] none).toOption.map
        (fun peeled => peeled.nextPacket.routingInfo.length) = some 1165 := by
  decide +kernel

end SphinxPrimitives

end Beignet.Onion
