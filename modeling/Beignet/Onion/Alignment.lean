import Beignet.Onion.Packet

namespace Beignet.Onion

open Beignet.Data

namespace SphinxPrimitives

/-- What is asked of the cryptography: both ends of an exchange compute one secret, a private key and its
    public key are blinded alike, and an HMAC has 32 bytes that are not all zero. -/
structure Lawful (prim : SphinxPrimitives) : Prop where
  ecdh_comm : ∀ a b, prim.ecdh a (prim.getPublicKey b) = prim.ecdh b (prim.getPublicKey a)
  blinds : ∀ key factor, prim.getPublicKey (prim.privateMultiply key factor) =
    prim.pointMultiply (prim.getPublicKey key) factor
  valid : ∀ key, prim.isValidPublicKey (prim.getPublicKey key) = true
  length_hmac : ∀ key msg, (prim.hmacSha256 key msg).length = 32
  hmac_ne_zero : ∀ key msg, prim.hmacSha256 key msg ≠ zeroHmac

variable {prim : SphinxPrimitives} {associatedData : Option Bytes}

section Layers

theorem length_extendFiller (filler secret : Bytes) (size : Nat) :
    (prim.extendFiller filler secret size).length = filler.length + (size + 32) := by
  simp only [extendFiller, List.length_append, length_mask, List.length_take, List.length_drop, List.length_replicate]
  omega

theorem extendFiller_of_le {filler secret : Bytes} {size : Nat} (fits : filler.length ≤ routingInfoLength) :
    prim.extendFiller filler secret size = mask (prim.stream secret) (routingInfoLength - filler.length)
        (filler ++ List.replicate (size + 32) 0) := by
  simp [extendFiller, Nat.sub_eq_zero_of_le fits]

theorem applyFiller_ok_iff {filler routingInfo result : Bytes} (whole : routingInfo.length = routingInfoLength) :
    applyFiller filler routingInfo = .ok result ↔ filler.length ≤ routingInfoLength ∧
      result = routingInfo.take (routingInfoLength - filler.length) ++ filler := by
  unfold applyFiller
  split
  · rename_i empty
    rw [List.length_eq_zero_iff] at empty
    subst empty
    simp [List.take_of_length_le whole.le, eq_comm]
  · split
    · rename_i long
      simp [Nat.not_le.mpr long]
    · rename_i fits
      simp [Nat.not_lt.mp fits, eq_comm]

structure Layer.Sized (layer : Layer) : Prop where
  routingInfo : layer.routingInfo.length = routingInfoLength
  hmac : layer.hmac.length = 32

def content (payload : Bytes) (inner : Layer) : Bytes :=
  payload ++ (inner.hmac ++ inner.routingInfo.take (routingInfoLength - (payload.length + 32)))

variable {payload : Bytes} {inner : Layer} {filler : Option Bytes}

theorem length_content (sized : inner.Sized) (fits : payload.length + 32 ≤ routingInfoLength) :
    (content payload inner).length = routingInfoLength := by
  simp only [content, List.length_append, List.length_take, sized.routingInfo, sized.hmac]
  omega

theorem drop_content (sized : inner.Sized) {count : Nat} (past : payload.length + 32 ≤ count) :
    (content payload inner).drop count = (inner.routingInfo.take (routingInfoLength - (payload.length + 32))).drop
        (count - (payload.length + 32)) := by
  rw [content, ← List.append_assoc, List.drop_append, List.drop_eq_nil_of_le, List.nil_append,
    List.length_append, sized.hmac]
  rw [List.length_append, sized.hmac]
  exact past

theorem wrapHop_ok_iff {secret payload : Bytes} {inner layer : Layer} (sized : inner.Sized) :
    prim.wrapHop associatedData filler secret payload inner = .ok layer ↔
      payload.length + 32 ≤ routingInfoLength ∧ (filler.getD []).length ≤ routingInfoLength ∧
      layer.routingInfo = (mask (prim.stream secret) 0 (content payload inner)).take
        (routingInfoLength - (filler.getD []).length) ++ filler.getD [] ∧
      layer.hmac = prim.layerHmac secret layer.routingInfo associatedData := by
  unfold wrapHop
  dsimp only
  split
  · rename_i large
    simp [Nat.not_le.mpr large]
  · rename_i fits
    rw [Nat.not_lt] at fits
    have whole : (mask (prim.stream secret) 0 (content payload inner)).length = routingInfoLength := by
      rw [length_mask, length_content sized fits]
    simp only [bind_eq_ok_iff, pure, Except.pure, Except.ok.injEq, List.append_assoc]
    constructor
    · rintro ⟨routingInfo, filled, rfl⟩
      rw [← content, applyFiller_ok_iff whole] at filled
      exact ⟨fits, filled.1, filled.2, rfl⟩
    · rintro ⟨-, short, filled, hmac⟩
      refine ⟨layer.routingInfo, ?_, by rw [← hmac]⟩
      rw [← content, applyFiller_ok_iff whole]
      exact ⟨short, filled⟩

theorem exists_wrapHop {secret payload : Bytes} (sized : inner.Sized)
    (fits : payload.length + 32 ≤ routingInfoLength) (short : (filler.getD []).length ≤ routingInfoLength) :
    ∃ layer, prim.wrapHop associatedData filler secret payload inner = .ok layer := by
  let routingInfo := (mask (prim.stream secret) 0 (content payload inner)).take
    (routingInfoLength - (filler.getD []).length) ++ filler.getD []
  exact ⟨⟨routingInfo, prim.layerHmac secret routingInfo associatedData⟩,
    (wrapHop_ok_iff sized).mpr ⟨fits, short, rfl, rfl⟩⟩

section

variable (lawful : prim.Lawful)
include lawful

theorem sized_wrapHop {secret payload : Bytes} {inner layer : Layer} (sized : inner.Sized)
    (wrapped : prim.wrapHop associatedData filler secret payload inner = .ok layer) : layer.Sized := by
  obtain ⟨fits, short, routingInfo, hmac⟩ := (wrapHop_ok_iff sized).mp wrapped
  constructor
  · rw [routingInfo, List.length_append, List.length_take, length_mask, length_content sized fits]
    omega
  · rw [hmac]
    exact lawful.length_hmac _ _

variable {filler padding : Bytes}

variable {layer : Layer}

variable {layers : List (Bytes × Bytes)} {hop : Bytes × Bytes} {rest : List (Bytes × Bytes)} {fill : Bytes}

theorem sized_wrapHops (padded : padding.length = routingInfoLength)

    (wrapped : prim.wrapHops associatedData filler padding layers = .ok layer) : layer.Sized := by
  induction layers generalizing layer with
  | nil =>
    cases wrapped
    exact ⟨padded, rfl⟩
  | cons hop rest ih =>
    obtain ⟨inner, innerWrapped, wrapped⟩ := bind_eq_ok_iff.mp wrapped
    exact sized_wrapHop lawful (ih innerWrapped) wrapped

theorem authentic_wrapHops (padded : padding.length = routingInfoLength)
    (wrapped : prim.wrapHops associatedData filler padding (hop :: rest) = .ok layer) :
    layer.hmac = prim.layerHmac hop.1 layer.routingInfo associatedData := by
  obtain ⟨inner, innerWrapped, wrapped⟩ := bind_eq_ok_iff.mp wrapped
  exact ((wrapHop_ok_iff (sized_wrapHops lawful padded innerWrapped)).mp wrapped).2.2.2

theorem wrapHops_isOk_iff (padded : padding.length = routingInfoLength) :
    (∃ layer, prim.wrapHops associatedData filler padding layers = .ok layer) ↔
      (∀ hop ∈ layers, hop.2.length + 32 ≤ routingInfoLength) ∧
      (layers ≠ [] → filler.length ≤ routingInfoLength) := by
  induction layers with
  | nil => exact ⟨fun _ => by simp, fun _ => ⟨_, rfl⟩⟩
  | cons hop rest ih =>
    constructor
    · rintro ⟨layer, wrapped⟩
      obtain ⟨inner, innerWrapped, wrapped⟩ := bind_eq_ok_iff.mp wrapped
      obtain ⟨fits, short, -⟩ := (wrapHop_ok_iff (sized_wrapHops lawful padded innerWrapped)).mp wrapped
      obtain ⟨others, restShort⟩ := ih.mp ⟨inner, innerWrapped⟩
      refine ⟨List.forall_mem_cons.mpr ⟨fits, others⟩, fun _ => ?_⟩
      by_cases last : rest = []
      · rw [if_pos last] at short
        exact short
      · exact restShort last
    · rintro ⟨fit, short⟩
      obtain ⟨fits, others⟩ := List.forall_mem_cons.mp fit
      have short := short (List.cons_ne_nil _ _)
      obtain ⟨inner, innerWrapped⟩ := ih.mpr ⟨others, fun _ => short⟩
      have given : ((if rest = [] then some filler else none).getD []).length ≤ routingInfoLength := by
        split
        · exact short
        · exact Nat.zero_le _
      obtain ⟨layer, wrapped⟩ := exists_wrapHop (sized_wrapHops lawful padded innerWrapped) fits given
      exact ⟨layer, bind_eq_ok_iff.mpr ⟨inner, innerWrapped, wrapped⟩⟩

def sizes (layers : List (Bytes × Bytes)) : List (Bytes × Nat) := layers.map fun hop => (hop.1, hop.2.length)

omit lawful in
theorem fillerFrom_sizes_cons (fill : Bytes) (hop next : Bytes × Bytes) (rest : List (Bytes × Bytes)) :
    prim.fillerFrom fill (sizes (hop :: next :: rest)) =
      prim.fillerFrom (prim.extendFiller fill hop.1 hop.2.length) (sizes (next :: rest)) := by
  unfold fillerFrom sizes
  simp only [List.map_cons, List.dropLast_cons_cons, List.foldl_cons]

theorem wrapHops_tail (padded : padding.length = routingInfoLength) (nonempty : layers ≠ [])
    (wrapped : prim.wrapHops associatedData (prim.fillerFrom fill (sizes layers)) padding layers = .ok layer) :
    fill.length ≤ routingInfoLength ∧ layer.routingInfo.drop (routingInfoLength - fill.length) = fill := by
  induction layers generalizing layer fill with
  | nil => exact absurd rfl nonempty
  | cons hop rest ih =>
    obtain ⟨inner, innerWrapped, wrapped⟩ := bind_eq_ok_iff.mp wrapped
    have sized := sized_wrapHops lawful padded innerWrapped
    obtain ⟨fits, short, routingInfo, -⟩ := (wrapHop_ok_iff sized).mp wrapped
    cases rest with
    | nil =>
      -- The innermost layer is overwritten with the filler itself.
      have short : fill.length ≤ routingInfoLength := short
      have routingInfo : layer.routingInfo = (mask (prim.stream hop.1) 0 (content hop.2 inner)).take
        (routingInfoLength - fill.length) ++ fill := routingInfo
      refine ⟨short, ?_⟩
      rw [routingInfo]
      apply List.drop_left'
      rw [List.length_take, length_mask, length_content sized fits]
      omega
    | cons next rest =>
      rw [fillerFrom_sizes_cons] at innerWrapped
      obtain ⟨innerShort, innerTail⟩ := ih (by simp) innerWrapped
      rw [length_extendFiller] at innerShort innerTail
      have shorter : fill.length ≤ routingInfoLength := by omega
      have routingInfo : layer.routingInfo = mask (prim.stream hop.1) 0 (content hop.2 inner) := by
        rw [routingInfo]
        simp [List.take_of_length_le, length_content sized fits]
      refine ⟨shorter, ?_⟩
      -- The part of the inner layer that is shifted to the end holds the filler under one more stream.
      have tail : (content hop.2 inner).drop (routingInfoLength - fill.length) =
          (prim.extendFiller fill hop.1 hop.2.length).take fill.length := by
        rw [← innerTail, drop_content sized (by omega), List.drop_take]
        rw [show routingInfoLength - (hop.2.length + 32) -
            (routingInfoLength - fill.length - (hop.2.length + 32)) = fill.length by omega,
          Nat.sub_sub]
      rw [routingInfo, drop_mask, Nat.zero_add, tail, extendFiller_of_le shorter, take_mask, mask_mask,
        List.take_left']
      rfl

omit lawful in
theorem wrapHops_last (padded : padding.length = routingInfoLength)
    (wrapped : prim.wrapHops associatedData (prim.fillerFrom fill (sizes [hop])) padding [hop] = .ok layer) :
    layer.routingInfo = mask (prim.stream hop.1) 0
        ((content hop.2 ⟨padding, zeroHmac⟩).take (routingInfoLength - fill.length)) ++ fill := by
  obtain ⟨inner, innermost, wrapped⟩ := bind_eq_ok_iff.mp wrapped
  cases innermost
  obtain ⟨-, -, routingInfo, -⟩ := (wrapHop_ok_iff ⟨padded, rfl⟩).mp wrapped
  rw [← take_mask]
  exact routingInfo

def opened (prim : SphinxPrimitives) (secret routingInfo : Bytes) : Bytes :=
  mask (prim.stream secret) 0 (routingInfo ++ List.replicate routingInfoLength 0)

theorem opened_inner (padded : padding.length = routingInfoLength) {hop next : Bytes × Bytes}
    (wrapped : prim.wrapHops associatedData (prim.fillerFrom fill (sizes (hop :: next :: rest))) padding
      (hop :: next :: rest) = .ok layer) : ∃ inner after, prim.wrapHops associatedData
        (prim.fillerFrom (prim.extendFiller fill hop.1 hop.2.length) (sizes (next :: rest))) padding
        (next :: rest) = .ok inner ∧ prim.opened hop.1 layer.routingInfo = hop.2 ++ (inner.hmac ++ after) ∧
      after.take routingInfoLength = inner.routingInfo := by
  obtain ⟨inner, innerWrapped, wrapped⟩ := bind_eq_ok_iff.mp wrapped
  have sized := sized_wrapHops lawful padded innerWrapped
  obtain ⟨fits, -, routingInfo, -⟩ := (wrapHop_ok_iff sized).mp wrapped
  have routingInfo : layer.routingInfo = mask (prim.stream hop.1) 0 (content hop.2 inner) := by
    rw [routingInfo]
    simp [List.take_of_length_le, length_content sized fits]
  rw [fillerFrom_sizes_cons] at innerWrapped
  obtain ⟨innerShort, innerTail⟩ := wrapHops_tail lawful padded (by simp) innerWrapped
  rw [length_extendFiller] at innerShort innerTail
  -- Behind the filler of the hops before, the inner layer ends in this hop's stream past the packet.
  have tail : inner.routingInfo.drop (routingInfoLength - (hop.2.length + 32)) =
      mask (prim.stream hop.1) routingInfoLength (List.replicate (hop.2.length + 32) 0) := by
    have past := congrArg (List.drop fill.length) innerTail
    rw [List.drop_drop, extendFiller_of_le (by omega), drop_mask, List.drop_left,
      show routingInfoLength - (fill.length + (hop.2.length + 32)) + fill.length =
        routingInfoLength - (hop.2.length + 32) by omega,
      Nat.sub_add_cancel (by omega)] at past
    exact past
  refine ⟨inner, inner.routingInfo.take (routingInfoLength - (hop.2.length + 32)) ++
    mask (prim.stream hop.1) routingInfoLength (List.replicate routingInfoLength 0), innerWrapped, ?_, ?_⟩
  · rw [opened, routingInfo, mask_append, mask_mask, length_mask, length_content sized fits, Nat.zero_add, content]
    simp only [List.append_assoc]
  · have length : (inner.routingInfo.take (routingInfoLength - (hop.2.length + 32))).length =
        routingInfoLength - (hop.2.length + 32) := by
      rw [List.length_take, sized.routingInfo]
      omega
    rw [List.take_append, List.take_of_length_le (by omega), length, take_mask, List.take_replicate,
      Nat.sub_sub_self fits, Nat.min_eq_left fits, ← tail, List.take_append_drop]

end

theorem opened_last (padded : padding.length = routingInfoLength)
    (wrapped : prim.wrapHops associatedData (prim.fillerFrom fill (sizes [hop])) padding [hop] = .ok layer)
    (fits : fill.length + (hop.2.length + 32) ≤ routingInfoLength) :
    ∃ after, prim.opened hop.1 layer.routingInfo = hop.2 ++ (zeroHmac ++ after) := by
  have routingInfo := wrapHops_last padded wrapped
  have kept : (content hop.2 ⟨padding, zeroHmac⟩).take (routingInfoLength - fill.length) =
      hop.2 ++ (zeroHmac ++ (padding.take (routingInfoLength - (hop.2.length + 32))).take
        (routingInfoLength - fill.length - hop.2.length - 32)) := by
    rw [content, List.take_append, List.take_of_length_le (by omega), List.take_append,
      List.take_of_length_le (by simp [zeroHmac]; omega)]
    rfl
  rw [opened, routingInfo, List.append_assoc, mask_append, mask_mask, kept, List.append_assoc, List.append_assoc]
  exact ⟨_, rfl⟩

end Layers

end SphinxPrimitives

end Beignet.Onion
