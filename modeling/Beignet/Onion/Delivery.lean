import Beignet.Onion.Alignment

namespace Beignet.Onion

open Beignet.Data

structure RouteHop where
  nodePrivkey : Bytes
  payload : HopPayload
  deriving DecidableEq, Repr

namespace SphinxPrimitives

section Route

variable (prim : SphinxPrimitives) (associatedData : Option Bytes) (sessionKey : Bytes)
  (route : List RouteHop)

def hopsOf : List Hop :=
  route.map fun hop => ⟨prim.getPublicKey hop.nodePrivkey, hop.payload⟩

def secretsOf : List Bytes :=
  prim.computeSharedSecrets sessionKey (route.map fun hop => prim.getPublicKey hop.nodePrivkey)

def delivers : OnionPacket → List (RouteHop × Bytes) → Bool
  | _, [] => true
  | packet, (hop, secret) :: rest =>
    match prim.processOnionPacket packet hop.nodePrivkey associatedData with
    | .error _ => false
    | .ok processed => processed.hopPayload = hop.payload ∧ processed.sharedSecret = secret ∧
        isFinalHop processed.nextPacket = rest.isEmpty ∧ delivers processed.nextPacket rest

def totalOrRefused : Bool :=
  match prim.constructOnionPacket sessionKey (prim.hopsOf route) associatedData with
  | .error _ => true
  | .ok packet => prim.delivers associatedData packet (route.zip (prim.secretsOf sessionKey route))

def sealedUnder (key : Bytes) (layer : Layer) : OnionPacket :=
  ⟨onionVersion, prim.getPublicKey key, layer.routingInfo, layer.hmac⟩

def nextKey (key nodePubkey : Bytes) : Bytes :=
  prim.privateMultiply key
    (prim.computeBlindingFactor (prim.getPublicKey key) (prim.ecdh key nodePubkey))

end Route

variable {prim : SphinxPrimitives} {associatedData : Option Bytes}

theorem secretsOf_cons (lawful : prim.Lawful) (key : Bytes) (hop : RouteHop) (rest : List RouteHop) :
    prim.secretsOf key (hop :: rest) = prim.ecdh key (prim.getPublicKey hop.nodePrivkey) ::
      prim.secretsOf (prim.nextKey key (prim.getPublicKey hop.nodePrivkey)) rest := by
  unfold secretsOf computeSharedSecrets nextKey
  rw [List.map_cons, sharedSecrets, lawful.blinds]

section Peeling

variable {key hmac after : Bytes} {hop : RouteHop} {layer : Layer}

theorem processOnionPacket_opened (lawful : prim.Lawful) (sized : layer.Sized)
    (authentic : layer.hmac = prim.layerHmac (prim.ecdh key (prim.getPublicKey hop.nodePrivkey))
      layer.routingInfo associatedData) :
    prim.processOnionPacket (prim.sealedUnder key layer) hop.nodePrivkey associatedData =
      let secret := prim.ecdh key (prim.getPublicKey hop.nodePrivkey)
      let extended := prim.opened secret layer.routingInfo
      match decodeHopPayload extended 0 with
      | .error e => .error (payloadFailure secret e)
      | .ok ⟨hopPayload, bytesRead⟩ => .ok ⟨hopPayload, prim.sealedUnder
          (prim.nextKey key (prim.getPublicKey hop.nodePrivkey))
          ⟨slice extended (bytesRead + 32) routingInfoLength, slice extended bytesRead 32⟩, secret⟩ := by
  have secret := lawful.ecdh_comm hop.nodePrivkey key
  have valid := lawful.valid key
  unfold processOnionPacket sealedUnder opened
  dsimp only
  cases decoded : decodeHopPayload (mask (prim.stream (prim.ecdh key (prim.getPublicKey hop.nodePrivkey))) 0
    (layer.routingInfo ++ List.replicate routingInfoLength 0)) 0 with
  | error e =>
    simp only [ne_eq, not_true_eq_false, if_false, sized.routingInfo, valid, secret, authentic, decoded,
      Bool.true_eq_false]
  | ok found =>
    simp only [ne_eq, not_true_eq_false, if_false, sized.routingInfo, valid, secret, authentic, decoded, nextKey,
      lawful.blinds, Bool.true_eq_false]

theorem delivers_cons_iff (lawful : prim.Lawful) (sized : layer.Sized) (length_hmac : hmac.length = 32)
    (encodable : hop.payload.Encodable)
    (authentic : layer.hmac = prim.layerHmac (prim.ecdh key (prim.getPublicKey hop.nodePrivkey))
      layer.routingInfo associatedData)
    (plain : prim.opened (prim.ecdh key (prim.getPublicKey hop.nodePrivkey)) layer.routingInfo =
      hop.payload.encoded ++ (hmac ++ after)) {rest : List (RouteHop × Bytes)} :
    prim.delivers associatedData (prim.sealedUnder key layer)
        ((hop, prim.ecdh key (prim.getPublicKey hop.nodePrivkey)) :: rest) ↔
      hop.payload.readsBack ∧ (hmac = zeroHmac ↔ rest = []) ∧
      prim.delivers associatedData (prim.sealedUnder (prim.nextKey key (prim.getPublicKey hop.nodePrivkey))
        ⟨after.take routingInfoLength, hmac⟩) rest := by
  have small : (hop.payload.encoded ++ (hmac ++ after)).length < 2 ^ 53 := by
    rw [← plain, opened, length_mask, List.length_append, sized.routingInfo, List.length_replicate]
    decide
  have decoded := decodeHopPayload_append encodable small
  rw [delivers, processOnionPacket_opened lawful sized authentic]
  simp only [plain, decoded]
  cases read : decodeHopPayload hop.payload.encoded 0 with
  | error e => simp [HopPayload.readsBack_iff encodable, read]
  | ok found =>
    obtain ⟨found, count⟩ := found
    have exact := bytesRead_of_decoded encodable (by
      rw [List.length_append] at small
      omega) read
    subst exact
    have nextHmac : slice (hop.payload.encoded ++ (hmac ++ after)) hop.payload.encoded.length 32 = hmac := by
      rw [slice, List.drop_left, List.take_left' length_hmac]
    have nextInfo : slice (hop.payload.encoded ++ (hmac ++ after)) (hop.payload.encoded.length + 32) routingInfoLength =
        after.take routingInfoLength := by
      rw [slice, ← List.drop_drop, List.drop_left, List.drop_left' length_hmac]
    have final : isFinalHop (prim.sealedUnder (prim.nextKey key (prim.getPublicKey hop.nodePrivkey))
        ⟨after.take routingInfoLength, hmac⟩) = rest.isEmpty ↔ (hmac = zeroHmac ↔ rest = []) := by
      rw [Bool.eq_iff_iff, List.isEmpty_iff, isFinalHop, decide_eq_true_iff, sealedUnder]
    simp only [HopPayload.readsBack_iff encodable, read, nextHmac, nextInfo, decide_eq_true_eq, final, true_and,
      Except.ok.injEq, DecodedPayload.mk.injEq, and_true]

end Peeling

section Chain

variable {key padding fill : Bytes} {hop : RouteHop} {route : List RouteHop} {layer : Layer}

def layersOf (prim : SphinxPrimitives) (key : Bytes) (route : List RouteHop) : List (Bytes × Bytes) :=
  (prim.secretsOf key route).zip (route.map fun hop => hop.payload.encoded)

theorem layersOf_cons (lawful : prim.Lawful) (key : Bytes) (hop : RouteHop) (rest : List RouteHop) :
    prim.layersOf key (hop :: rest) = (prim.ecdh key (prim.getPublicKey hop.nodePrivkey), hop.payload.encoded) ::
        prim.layersOf (prim.nextKey key (prim.getPublicKey hop.nodePrivkey)) rest := by
  rw [layersOf, secretsOf_cons lawful, List.map_cons, List.zip_cons_cons, layersOf]

def Wraps (prim : SphinxPrimitives) (associatedData : Option Bytes) (padding fill key : Bytes)
    (route : List RouteHop) (layer : Layer) : Prop :=
  prim.wrapHops associatedData (prim.fillerFrom fill (sizes (prim.layersOf key route))) padding
    (prim.layersOf key route) = .ok layer

theorem Wraps.delivers_inner (wraps : prim.Wraps associatedData padding fill key (hop :: route) layer)
    (lawful : prim.Lawful) (padded : padding.length = routingInfoLength) (encodable : hop.payload.Encodable)
    (inside : route ≠ []) : ∃ inner, prim.Wraps associatedData padding
        (prim.extendFiller fill (prim.ecdh key (prim.getPublicKey hop.nodePrivkey)) hop.payload.encoded.length)
        (prim.nextKey key (prim.getPublicKey hop.nodePrivkey)) route inner ∧
      (prim.delivers associatedData (prim.sealedUnder key layer)
          ((hop :: route).zip (prim.secretsOf key (hop :: route))) ↔
        hop.payload.readsBack ∧ prim.delivers associatedData
          (prim.sealedUnder (prim.nextKey key (prim.getPublicKey hop.nodePrivkey)) inner)
          (route.zip (prim.secretsOf (prim.nextKey key (prim.getPublicKey hop.nodePrivkey)) route))) := by
  unfold Wraps at wraps ⊢
  rw [layersOf_cons lawful] at wraps
  have authentic := authentic_wrapHops lawful padded wraps
  have sized := sized_wrapHops lawful padded wraps
  cases route with
  | nil => exact absurd rfl inside
  | cons next rest =>
    rw [layersOf_cons lawful] at wraps ⊢
    obtain ⟨inner, after, innerWraps, plain, innerInfo⟩ := opened_inner lawful padded wraps
    have innerSized := sized_wrapHops lawful padded innerWraps
    have innerAuthentic := authentic_wrapHops lawful padded innerWraps
    refine ⟨inner, innerWraps, ?_⟩
    rw [secretsOf_cons lawful, List.zip_cons_cons,
      delivers_cons_iff lawful sized innerSized.hmac encodable authentic plain, innerInfo]
    have notFinal : inner.hmac ≠ zeroHmac := by
      rw [innerAuthentic]
      exact lawful.hmac_ne_zero _ _
    rw [secretsOf_cons lawful]
    simp [notFinal]

theorem Wraps.single (wraps : prim.Wraps associatedData padding fill key [hop] layer) (lawful : prim.Lawful) :
    prim.wrapHops associatedData (prim.fillerFrom fill
        (sizes [(prim.ecdh key (prim.getPublicKey hop.nodePrivkey), hop.payload.encoded)])) padding
      [(prim.ecdh key (prim.getPublicKey hop.nodePrivkey), hop.payload.encoded)] = .ok layer := by
  rw [Wraps, layersOf_cons lawful] at wraps
  exact wraps

theorem Wraps.delivers_last (wraps : prim.Wraps associatedData padding fill key [hop] layer)
    (lawful : prim.Lawful) (padded : padding.length = routingInfoLength) (encodable : hop.payload.Encodable)
    {hmac after : Bytes} (length_hmac : hmac.length = 32)
    (plain : prim.opened (prim.ecdh key (prim.getPublicKey hop.nodePrivkey)) layer.routingInfo =
      hop.payload.encoded ++ (hmac ++ after)) :
    prim.delivers associatedData (prim.sealedUnder key layer) ([hop].zip (prim.secretsOf key [hop])) ↔
      hop.payload.readsBack ∧ hmac = zeroHmac := by
  have authentic := authentic_wrapHops lawful padded (wraps.single lawful)
  have sized := sized_wrapHops lawful padded (wraps.single lawful)
  rw [secretsOf_cons lawful, List.zip_cons_cons, delivers_cons_iff lawful sized length_hmac encodable authentic plain]
  simp [delivers]

theorem Wraps.delivers_iff (wraps : prim.Wraps associatedData padding fill key route layer)
    (lawful : prim.Lawful) (padded : padding.length = routingInfoLength)
    (encodable : ∀ hop ∈ route, hop.payload.Encodable) (nonempty : route ≠ [])
    (fits : fill.length + (route.map fun hop => hop.payload.shiftSize).sum ≤ routingInfoLength) :
    prim.delivers associatedData (prim.sealedUnder key layer) (route.zip (prim.secretsOf key route)) ↔
      ∀ hop ∈ route, hop.payload.readsBack := by
  induction route generalizing key fill layer with
  | nil => exact absurd rfl nonempty
  | cons hop route ih =>
    obtain ⟨hopEncodable, encodable⟩ := List.forall_mem_cons.mp encodable
    rw [List.forall_mem_cons]
    by_cases last : route = []
    · subst last
      obtain ⟨after, plain⟩ := opened_last padded (wraps.single lawful)
        (by simpa [HopPayload.shiftSize] using fits)
      rw [wraps.delivers_last lawful padded hopEncodable rfl plain]
      simp
    · obtain ⟨inner, innerWraps, delivers⟩ := wraps.delivers_inner lawful padded hopEncodable last
      rw [delivers, ih innerWraps encodable last]
      rw [length_extendFiller]
      rw [List.map_cons, List.sum_cons] at fits
      unfold HopPayload.shiftSize at fits ⊢
      omega

theorem length_sharedSecrets (currentKey ephemeralPub : Bytes) (hops : List Bytes) :
    (prim.sharedSecrets currentKey ephemeralPub hops).length = hops.length := by
  induction hops generalizing currentKey ephemeralPub with
  | nil => rfl
  | cons hop rest ih => rw [sharedSecrets, List.length_cons, ih, List.length_cons]

theorem map_snd_layersOf (prim : SphinxPrimitives) (key : Bytes) (route : List RouteHop) :
    (prim.layersOf key route).map Prod.snd = route.map fun hop => hop.payload.encoded := by
  apply List.map_snd_zip
  rw [secretsOf, computeSharedSecrets, length_sharedSecrets, List.length_map, List.length_map]

theorem length_fillerFrom (fill : Bytes) (hops : List (Bytes × Nat)) :
    (prim.fillerFrom fill hops).length = fill.length + (hops.dropLast.map fun hop => hop.2 + 32).sum := by
  unfold fillerFrom
  induction hops.dropLast generalizing fill with
  | nil => rfl
  | cons hop rest ih =>
    rw [List.foldl_cons, ih, length_extendFiller, List.map_cons, List.sum_cons, Nat.add_assoc]

theorem exists_wraps_iff (lawful : prim.Lawful) (padded : padding.length = routingInfoLength)
    (nonempty : route ≠ []) : (∃ layer, prim.Wraps associatedData padding fill key route layer) ↔
      (∀ hop ∈ route, hop.payload.shiftSize ≤ routingInfoLength) ∧
      fill.length + (route.dropLast.map fun hop => hop.payload.shiftSize).sum ≤ routingInfoLength := by
  have payloads := map_snd_layersOf prim key route
  have layered : prim.layersOf key route ≠ [] := by
    intro none
    rw [none, List.map_nil, eq_comm, List.map_eq_nil_iff] at payloads
    exact nonempty payloads
  have room : (∀ hop ∈ prim.layersOf key route, hop.2.length + 32 ≤ routingInfoLength) ↔
      ∀ hop ∈ route, hop.payload.shiftSize ≤ routingInfoLength := by
    have mapped : (∀ bytes ∈ (prim.layersOf key route).map Prod.snd, bytes.length + 32 ≤ routingInfoLength) ↔
        ∀ bytes ∈ route.map fun hop => hop.payload.encoded, bytes.length + 32 ≤ routingInfoLength := by
      rw [payloads]
    rw [List.forall_mem_map, List.forall_mem_map] at mapped
    exact mapped
  have sum : ((sizes (prim.layersOf key route)).dropLast.map fun hop => hop.2 + 32) =
      route.dropLast.map fun hop => hop.payload.shiftSize := by
    have mapped := congrArg (List.map fun bytes : Bytes => bytes.length + 32) (congrArg List.dropLast payloads)
    rw [← List.map_dropLast, ← List.map_dropLast, List.map_map, List.map_map] at mapped
    rw [sizes, ← List.map_dropLast, List.map_map]
    exact mapped
  unfold Wraps
  rw [wrapHops_isOk_iff lawful padded, room, length_fillerFrom, sum]
  simp only [layered, ne_eq, not_false_eq_true, forall_const]

end Chain

section Construction

variable {sessionKey : Bytes} {route : List RouteHop}

def padStream (prim : SphinxPrimitives) (sessionKey : Bytes) : Bytes :=
  mask (prim.chacha20 (prim.pad sessionKey)) 0 (List.replicate routingInfoLength 0)

theorem length_padStream : (prim.padStream sessionKey).length = routingInfoLength := by
  rw [padStream, length_mask, List.length_replicate]

theorem mapM_encodeHopPayload (encodable : ∀ hop ∈ route, hop.payload.Encodable) :
    (prim.hopsOf route).mapM (fun hop => encodeHopPayload hop.payload) =
      .ok (route.map fun hop => hop.payload.encoded) := by
  induction route with
  | nil => rfl
  | cons hop rest ih =>
    obtain ⟨first, others⟩ := List.forall_mem_cons.mp encodable
    have tail := ih others
    unfold hopsOf at tail ⊢
    rw [List.map_cons, List.mapM_cons, tail, first]
    rfl

theorem constructOnionPacket_ok_iff (nonempty : route ≠ []) (few : route.length ≤ 20)
    (encodable : ∀ hop ∈ route, hop.payload.Encodable) {packet : OnionPacket} :
    prim.constructOnionPacket sessionKey (prim.hopsOf route) associatedData = .ok packet ↔
      ∃ layer, prim.Wraps associatedData (prim.padStream sessionKey) [] sessionKey route layer ∧
        packet = prim.sealedUnder sessionKey layer := by
  have encodedPayloads : (prim.hopsOf route).mapM (fun hop => encodeHopPayload hop.payload) =
      .ok (route.map fun hop => hop.payload.encoded) := mapM_encodeHopPayload encodable
  have pubkeys : (prim.hopsOf route).map Hop.pubkey =
      route.map fun hop => prim.getPublicKey hop.nodePrivkey := by
    simp [hopsOf, List.map_map, Function.comp_def]
  have filler : prim.generateFiller (prim.secretsOf sessionKey route)
      ((route.map fun hop => hop.payload.encoded).map List.length) =
      prim.fillerFrom [] (sizes (prim.layersOf sessionKey route)) := by
    rw [generateFiller, sizes, layersOf, List.zip_map_right]
    rfl
  have some : (prim.hopsOf route).length ≠ 0 := by
    simpa [hopsOf] using nonempty
  have few : ¬ 20 < (prim.hopsOf route).length := by
    simpa [hopsOf] using few
  unfold constructOnionPacket
  rw [if_neg some, if_neg few, pubkeys]
  simp only [encodedPayloads, bind_eq_ok_iff, pure, Except.pure, Except.ok.injEq]
  rw [← secretsOf]
  constructor
  · rintro ⟨_, rfl, layer, wraps, rfl⟩
    rw [filler] at wraps
    exact ⟨layer, wraps, rfl⟩
  · rintro ⟨layer, wraps, rfl⟩
    refine ⟨_, rfl, layer, ?_, rfl⟩
    rw [filler]
    exact wraps

end Construction

end SphinxPrimitives

end Beignet.Onion
