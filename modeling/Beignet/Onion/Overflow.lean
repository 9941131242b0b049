import Beignet.Onion.Delivery

namespace Beignet.Onion

open Beignet.Data
open HopPayload (shiftSize)

namespace SphinxPrimitives

variable {prim : SphinxPrimitives} {associatedData : Option Bytes} {payloads : List HopPayload} {layer : Layer}

section Criterion

variable {sessionKey : Bytes} {route : List RouteHop}

structure Carries (route : List RouteHop) (payloads : List HopPayload) : Prop where
  meant : route.map RouteHop.payload = payloads
  nonempty : payloads ≠ []
  few : payloads.length ≤ 20
  encodable : ∀ p ∈ payloads, p.Encodable

section

variable (carries : Carries route payloads)
include carries

theorem Carries.exists_wraps_iff (lawful : prim.Lawful) :
    (∃ layer, prim.Wraps associatedData (prim.padStream sessionKey) [] sessionKey route layer) ↔
      (∀ p ∈ payloads, p.shiftSize ≤ routingInfoLength) ∧
      (payloads.dropLast.map shiftSize).sum ≤ routingInfoLength := by
  obtain ⟨rfl, nonempty, -, -⟩ := carries
  have routed : route ≠ [] := by simpa using nonempty
  rw [SphinxPrimitives.exists_wraps_iff lawful length_padStream routed, ← List.map_dropLast, List.map_map,
    List.forall_mem_map, List.length_nil, Nat.zero_add]
  rfl

theorem Carries.totalOrRefused_iff : prim.totalOrRefused associatedData sessionKey route ↔
      ∀ layer, prim.Wraps associatedData (prim.padStream sessionKey) [] sessionKey route layer →
        prim.delivers associatedData (prim.sealedUnder sessionKey layer)
          (route.zip (prim.secretsOf sessionKey route)) := by
  obtain ⟨rfl, nonempty, few, encodable⟩ := carries
  have built : ∀ packet, prim.constructOnionPacket sessionKey (prim.hopsOf route) associatedData = .ok packet ↔
      ∃ layer, prim.Wraps associatedData (prim.padStream sessionKey) [] sessionKey route layer ∧
        packet = prim.sealedUnder sessionKey layer := fun packet =>
    constructOnionPacket_ok_iff (by simpa using nonempty) (by simpa using few)
      (List.forall_mem_map.mp encodable)
  unfold totalOrRefused
  cases result : prim.constructOnionPacket sessionKey (prim.hopsOf route) associatedData with
  | error message =>
    refine iff_of_true rfl fun layer wraps => ?_
    rw [(built _).mpr ⟨layer, wraps, rfl⟩] at result
    cases result
  | ok packet =>
    obtain ⟨layer, wraps, rfl⟩ := (built _).mp result
    constructor
    · intro delivered other otherWraps
      have same : Except.ok layer = Except.ok other := wraps.symm.trans otherWraps
      cases same
      exact delivered
    · intro delivered
      exact delivered layer wraps

theorem Carries.total_of_refused (lawful : prim.Lawful) (refused : (∃ p ∈ payloads, routingInfoLength < p.shiftSize) ∨
      routingInfoLength < (payloads.dropLast.map shiftSize).sum) :
    prim.totalOrRefused associatedData sessionKey route := by
  rw [carries.totalOrRefused_iff]
  intro layer wraps
  obtain ⟨room, short⟩ := (carries.exists_wraps_iff lawful).mp ⟨layer, wraps⟩
  rcases refused with ⟨p, member, large⟩ | long
  · exact absurd (room p member) (Nat.not_le.mpr large)
  · exact absurd short (Nat.not_le.mpr long)

theorem Carries.total_iff_of_fits (lawful : prim.Lawful) (fits : (payloads.map shiftSize).sum ≤ routingInfoLength) :
    prim.totalOrRefused associatedData sessionKey route ↔ ∀ p ∈ payloads, p.readsBack := by
  have accepted : ∃ layer, prim.Wraps associatedData (prim.padStream sessionKey) [] sessionKey route layer := by
    refine (carries.exists_wraps_iff lawful).mpr ⟨fun p member => ?_, ?_⟩
    · have part := List.single_le_sum (by simp) _ (List.mem_map_of_mem (f := shiftSize) member)
      exact part.trans fits
    · have part := ((List.dropLast_sublist payloads).map shiftSize).sum_le_sum (by simp)
      exact part.trans fits
  have reads : ∀ layer, prim.Wraps associatedData (prim.padStream sessionKey) [] sessionKey route layer →
      (prim.delivers associatedData (prim.sealedUnder sessionKey layer)
        (route.zip (prim.secretsOf sessionKey route)) ↔ ∀ p ∈ payloads, p.readsBack) := by
    intro layer wraps
    obtain ⟨rfl, nonempty, -, encodable⟩ := carries
    rw [List.forall_mem_map]
    refine wraps.delivers_iff lawful length_padStream (List.forall_mem_map.mp encodable)
      (by simpa using nonempty) ?_
    rw [List.map_map] at fits
    simpa [Function.comp_def] using fits
  obtain ⟨layer, wraps⟩ := accepted
  rw [carries.totalOrRefused_iff]
  constructor
  · intro delivered
    exact (reads layer wraps).mp (delivered layer wraps)
  · intro readsBack other otherWraps
    exact (reads other otherWraps).mpr readsBack

end

end Criterion

section Spoiled

def spoiled (payload : HopPayload) : Bytes :=
  payload.encoded ++ (List.replicate 31 0 ++ 1 :: List.replicate (routingInfoLength - payload.shiftSize) 0)

theorem length_spoiled {payload : HopPayload} (room : payload.shiftSize ≤ routingInfoLength) :
    (spoiled payload).length = routingInfoLength := by
  unfold shiftSize at room
  simp only [spoiled, shiftSize, List.length_append, List.length_replicate, List.length_cons]
  omega

theorem take_spoiled {payload : HopPayload} {padding : Bytes} {count : Nat} (before : count < payload.shiftSize) :
    (content payload.encoded ⟨padding, zeroHmac⟩).take count = (spoiled payload).take count := by
  have zeros : zeroHmac = List.replicate 31 0 ++ [0] := rfl
  have reach : count ≤ (payload.encoded ++ List.replicate 31 0).length := by
    unfold shiftSize at before
    rw [List.length_append, List.length_replicate]
    omega
  rw [content, spoiled]
  dsimp only
  rw [zeros, List.append_assoc, ← List.append_assoc, List.take_append_of_le_length reach,
    ← List.append_assoc, List.take_append_of_le_length reach]

variable {padding key nodePrivkey : Bytes} {payload : HopPayload}

theorem Wraps.lost_of_spoiled {filled : Nat} (wraps : prim.Wraps associatedData padding
      ((spoiled payload).drop (routingInfoLength - filled)) key [⟨nodePrivkey, payload⟩] layer)
    (lawful : prim.Lawful) (padded : padding.length = routingInfoLength)
    (encodable : payload.Encodable) (room : payload.shiftSize ≤ routingInfoLength)
    (short : filled ≤ routingInfoLength) (exceeds : routingInfoLength < filled + payload.shiftSize)
    (silent : prim.stream (prim.ecdh key (prim.getPublicKey nodePrivkey)) = fun _ => 0) :
    ¬ prim.delivers associatedData (prim.sealedUnder key layer) ([⟨nodePrivkey, payload⟩].zip (prim.secretsOf key [⟨nodePrivkey, payload⟩])) := by
  have length_fill : ((spoiled payload).drop (routingInfoLength - filled)).length = filled := by
    rw [List.length_drop, length_spoiled room]
    omega
  have before : routingInfoLength - filled < payload.shiftSize := by omega
  have routingInfo : layer.routingInfo = spoiled payload := by
    have written := wrapHops_last padded (wraps.single lawful)
    rw [length_fill, silent, mask_zero, take_spoiled before, List.take_append_drop] at written
    exact written
  have plain : prim.opened (prim.ecdh key (prim.getPublicKey nodePrivkey)) layer.routingInfo =
      payload.encoded ++ ((List.replicate 31 0 ++ [1]) ++ (List.replicate (routingInfoLength - payload.shiftSize) 0 ++
          List.replicate routingInfoLength 0)) := by
    rw [opened, silent, mask_zero, routingInfo, spoiled]
    simp only [List.append_assoc, List.cons_append, List.nil_append]
  have length_hmac : (List.replicate 31 0 ++ [1] : Bytes).length = 32 := rfl
  rw [wraps.delivers_last lawful padded encodable length_hmac plain]
  rintro ⟨-, final⟩
  revert final
  decide

end Spoiled

section Collision

structure Spells (prim : SphinxPrimitives) (spelled : Bytes) (shift : Nat) : Prop where
  lawful : prim.Lawful
  nextKey : ∀ nodePubkey, prim.nextKey [] nodePubkey = []
  silentSecret : prim.ecdh [] (prim.getPublicKey []) = []
  spellingSecret : prim.ecdh [] (prim.getPublicKey [0]) = [0]
  silent : prim.stream [] = fun _ => 0
  spells : prim.stream [0] = fun pos => spelled.getD (pos - shift) 0

variable (spelled : Bytes) (shift : Nat)

def spelling : SphinxPrimitives where
  getPublicKey key := key
  isValidPublicKey _ := true
  ecdh a b := List.replicate (a.length + b.length) 0
  pointMultiply point _ := point
  privateMultiply key _ := key
  sha256 msg := msg
  hmacSha256 _ msg := (if msg = [0] then 1 else 2) :: List.replicate 31 0
  chacha20 key pos := if key.head? = some 1 then spelled.getD (pos - shift) 0 else 0

theorem spelling_lawful : (spelling spelled shift).Lawful where
  ecdh_comm a b := by
    show List.replicate (a.length + b.length) 0 = List.replicate (b.length + a.length) 0
    rw [Nat.add_comm]
  blinds _ _ := rfl
  valid _ := rfl
  length_hmac _ _ := rfl
  hmac_ne_zero key msg := by
    intro zero
    have first := congrArg List.head? zero
    by_cases single : msg = [0]
    · simp [spelling, single, zeroHmac] at first
    · simp [spelling, single, zeroHmac] at first

theorem spelling_spells : (spelling spelled shift).Spells spelled shift where
  lawful := spelling_lawful spelled shift
  nextKey _ := rfl
  silentSecret := rfl
  spellingSecret := rfl
  silent := by
    funext pos
    simp [stream, rho, generateKey, spelling]
  spells := by
    funext pos
    simp [stream, rho, generateKey, spelling]

variable {spelled : Bytes} {shift : Nat} (front : List HopPayload)

theorem Spells.extend_silent (spells : prim.Spells spelled shift) (count size : Nat) :
    prim.extendFiller (List.replicate count 0) [] size = List.replicate (count + (size + 32)) 0 := by
  simp only [extendFiller, spells.silent, mask_zero, List.take_append_drop, List.replicate_append_replicate]

theorem Spells.extend_spelling (spells : prim.Spells spelled shift) {size count : Nat}
    (shifts : shift = size + 32) (room : count + (size + 32) ≤ routingInfoLength) (whole : spelled.length = routingInfoLength) :
    prim.extendFiller (List.replicate count 0) [0] size =
      spelled.drop (routingInfoLength - (count + (size + 32))) := by
  rw [extendFiller_of_le (by rw [List.length_replicate]; omega), spells.spells, shifts,
    List.replicate_append_replicate, List.length_replicate, mask_replicate (by omega) (by omega),
    List.take_of_length_le (by rw [List.length_drop]; omega), Nat.sub_sub]

def marked (p q : HopPayload) : List RouteHop :=
  front.map (RouteHop.mk []) ++ [⟨[0], p⟩, ⟨[], q⟩]

theorem map_payload_marked (p q : HopPayload) : (marked front p q).map RouteHop.payload = front ++ [p, q] := by
  simp [marked, Function.comp_def]

variable {front : List HopPayload} {p q : HopPayload} {padding : Bytes}

theorem Spells.lost (spells : prim.Spells (spoiled q) p.shiftSize) (padded : padding.length = routingInfoLength)
    (encodable : ∀ payload ∈ front ++ [p, q], payload.Encodable) (room : q.shiftSize ≤ routingInfoLength)
    {count : Nat} (exceeds : routingInfoLength < count + ((front ++ [p, q]).map shiftSize).sum)
    (wraps : prim.Wraps associatedData padding (List.replicate count 0) [] (marked front p q) layer) :
    ¬ prim.delivers associatedData (prim.sealedUnder [] layer)
      ((marked front p q).zip (prim.secretsOf [] (marked front p q))) := by
  induction front generalizing count layer with
  | nil =>
    have shifts : p.shiftSize = p.encoded.length + 32 := by
      rw [shiftSize]
    have pEncodable : p.Encodable := encodable p (by simp)
    have qEncodable : q.Encodable := encodable q (by simp)
    have short : count + (p.encoded.length + 32) ≤ routingInfoLength := by
      have fits := ((exists_wraps_iff spells.lawful padded (by simp [marked])).mp ⟨layer, wraps⟩).2
      simpa [marked, shiftSize] using fits
    obtain ⟨inner, innerWraps, delivers⟩ :=
      wraps.delivers_inner spells.lawful padded pEncodable (List.cons_ne_nil _ _)
    dsimp only at innerWraps
    rw [spells.nextKey, spells.spellingSecret, spells.extend_spelling shifts short (length_spoiled room)] at innerWraps
    have silent : prim.stream (prim.ecdh [] (prim.getPublicKey [])) = fun _ => 0 := by
      rw [spells.silentSecret, spells.silent]
    have exceeds : routingInfoLength < count + (p.encoded.length + 32) + q.shiftSize := by
      simpa [shiftSize, Nat.add_assoc] using exceeds
    have lost := innerWraps.lost_of_spoiled spells.lawful padded qEncodable room short exceeds silent
    intro delivered
    have rest := (delivers.mp delivered).2
    rw [spells.nextKey] at rest
    exact lost rest
  | cons first front ih =>
    obtain ⟨firstEncodable, encodable⟩ := List.forall_mem_cons.mp encodable
    obtain ⟨inner, innerWraps, delivers⟩ :=
      wraps.delivers_inner spells.lawful padded firstEncodable (by simp)
    dsimp only at innerWraps
    rw [spells.nextKey, spells.silentSecret, spells.extend_silent] at innerWraps
    intro delivered
    have rest := (delivers.mp delivered).2
    rw [spells.nextKey] at rest
    refine ih encodable ?_ innerWraps rest
    simpa [shiftSize, Nat.add_assoc] using exceeds

end Collision

section Totality

theorem exists_last_two (nonempty : payloads ≠ []) (room : ∀ p ∈ payloads, p.shiftSize ≤ routingInfoLength)
    (exceeds : routingInfoLength < (payloads.map shiftSize).sum) : ∃ front p q, payloads = front ++ [p, q] := by
  obtain ⟨init, q, rfl⟩ := (List.eq_nil_or_concat' payloads).resolve_left nonempty
  rcases List.eq_nil_or_concat' init with rfl | ⟨front, p, rfl⟩
  · have fits := room q (by simp)
    simp only [List.nil_append, List.map_cons, List.map_nil, List.sum_cons, List.sum_nil] at exceeds
    omega
  · exact ⟨front, p, q, by simp⟩

theorem spelling_undelivered {front : List HopPayload} {p q : HopPayload}
    (few : (front ++ [p, q]).length ≤ 20) (encodable : ∀ payload ∈ front ++ [p, q], payload.Encodable)
    (room : ∀ payload ∈ front ++ [p, q], payload.shiftSize ≤ routingInfoLength)
    (short : ((front ++ [p, q]).dropLast.map shiftSize).sum ≤ routingInfoLength)
    (exceeds : routingInfoLength < ((front ++ [p, q]).map shiftSize).sum) :
    ¬ (spelling (spoiled q) p.shiftSize).totalOrRefused none [] (marked front p q) := by
  have spells := spelling_spells (spoiled q) p.shiftSize
  have carries : Carries (marked front p q) (front ++ [p, q]) :=
    ⟨map_payload_marked front p q, by simp, few, encodable⟩
  rw [carries.totalOrRefused_iff]
  intro delivered
  obtain ⟨layer, wraps⟩ := (carries.exists_wraps_iff spells.lawful).mpr ⟨room, short⟩
  have unfilled : routingInfoLength < 0 + ((front ++ [p, q]).map shiftSize).sum := by
    rw [Nat.zero_add]
    exact exceeds
  exact spells.lost length_padStream encodable (room q (by simp)) unfilled wraps (delivered layer wraps)

def largePayload : HopPayload where
  shortChannelId := none
  amountToForwardMsat := 0
  outgoingCltvValue := 0
  paymentSecret := none
  totalMsat := none
  encryptedRecipientData := some (List.replicate 700 0)
  blindingPoint := none
  totalAmountMsat := none
  customRecords := none
  omitForwardAmounts := true

theorem largePayload_fits : largePayload.readsBack ∧ largePayload.shiftSize = 739 := by decide +kernel

end Totality

end SphinxPrimitives

end Beignet.Onion
