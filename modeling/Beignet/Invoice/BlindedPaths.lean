import Beignet.Invoice.Types

namespace Beignet.Invoice

open Beignet.Data

structure BlindedHop where
  blindedNodeId : Bytes
  encryptedData : Bytes

structure BlindedPath where
  introductionNodeId : Bytes
  blindingPoint : Bytes
  blindedHops : List BlindedHop

structure BlindedPayInfo where
  feeBaseMsat : Nat
  feeProportionalMillionths : Nat
  cltvExpiryDelta : Nat
  htlcMinimumMsat : Nat
  htlcMaximumMsat : Nat
  features : Option Bytes

structure BlindedPaymentPath where
  path : BlindedPath
  payInfo : BlindedPayInfo

section Encoding

def byteText (byte : Option (Fin 256)) : String :=
  match byte with
  | none => "undefined"
  | some value => toString value.val

def isSciddirOrPubkey (first : Bytes) : Bool :=
  (first.length = 33 ∧ (first.head? = some 2 ∨ first.head? = some 3)) ∨
    (first.length = 9 ∧ (first.head? = some 0 ∨ first.head? = some 1))

def encodeBlindedHops : List BlindedHop → Except String Bytes
  | [] => return []
  | hop :: rest => do
    let length ← writeUInt 2 hop.encryptedData.length
    let others ← encodeBlindedHops rest
    return hop.blindedNodeId ++ (length ++ (hop.encryptedData ++ others))

def encodeBlindedPath (path : BlindedPath) : Except String Bytes :=
  let len := path.introductionNodeId.length
  let byte := byteText path.introductionNodeId.head?
  if isSciddirOrPubkey path.introductionNodeId = false then
    .error s!"blinded_path first_node_id is not a valid sciddir_or_pubkey (len={len}, first byte={byte})"
  else do
    let hops ← encodeBlindedHops path.blindedHops
    return path.introductionNodeId ++ (path.blindingPoint ++ ([Fin.ofNat 256 path.blindedHops.length] ++ hops))

def encodeBlindedPayInfo (info : BlindedPayInfo) : Except String Bytes := do
  let features := info.features.getD []
  let base ← writeUInt 4 info.feeBaseMsat
  let proportional ← writeUInt 4 info.feeProportionalMillionths
  let delta ← writeUInt 2 info.cltvExpiryDelta
  let minimum ← writeUInt 8 info.htlcMinimumMsat
  let maximum ← writeUInt 8 info.htlcMaximumMsat
  let flen ← writeUInt 2 features.length
  return base ++ (proportional ++ (delta ++ (minimum ++ (maximum ++ (flen ++ features)))))

def encodeBlindedEntries : List BlindedPaymentPath → Except String Bytes
  | [] => return []
  | entry :: rest => do
    let path ← encodeBlindedPath entry.path
    let info ← encodeBlindedPayInfo entry.payInfo
    let others ← encodeBlindedEntries rest
    return path ++ (info ++ others)

def encodeInvoiceBlindedPaymentPaths (entries : List BlindedPaymentPath) : Except String Bytes := do
  let bytes ← encodeBlindedEntries entries
  return Fin.ofNat 256 entries.length :: bytes

end Encoding

section Decoding

variable (isValidPublicKey : Bytes → Bool) (buf : Bytes)

def decodeBlindedHops : Nat → Bytes → Except String (List BlindedHop × Bytes)
  | 0, buf => .ok ([], buf)
  | count + 1, buf =>
    let blindedNodeId := slice buf 0 33
    let encLen := readBE (slice buf 33 2)
    if buf.length < 35 then .error "blinded_path truncated at hop"
    else if isValidPublicKey blindedNodeId = false then .error "blinded_path blinded_node_id is not a valid point"
    else if buf.length < 35 + encLen then .error "blinded_path truncated at hop encrypted data"
    else do
      let (others, rest) ← decodeBlindedHops count (buf.drop (35 + encLen))
      return (⟨blindedNodeId, slice buf 35 encLen⟩ :: others, rest)

def sciddirOrPubkeyLength (disc : Option (Fin 256)) : Option Nat :=
  if disc = some 2 ∨ disc = some 3 then some 33 else if disc = some 0 ∨ disc = some 1 then some 9 else none

def decodeBlindedPath : Except String (BlindedPath × Bytes) :=
  match sciddirOrPubkeyLength buf.head? with
  | none =>
    let disc := byteText buf.head?
    .error s!"blinded_path first_node_id has invalid sciddir_or_pubkey discriminator {disc}"
  | some firstLen =>
    let introductionNodeId := slice buf 0 firstLen
    let blindingPoint := slice buf firstLen 33
    let numHops := readBE (slice buf (firstLen + 33) 1)
    if buf.length < firstLen + 33 + 1 then .error "blinded_path truncated"
    else if firstLen = 33 ∧ isValidPublicKey introductionNodeId = false then
      .error "blinded_path first_node_id is not a valid point"
    else if isValidPublicKey blindingPoint = false then .error "blinded_path path_key is not a valid point"
    else if numHops = 0 then .error "blinded_path has zero hops"
    else do
      let (blindedHops, rest) ← decodeBlindedHops isValidPublicKey numHops (buf.drop (firstLen + 33 + 1))
      return (⟨introductionNodeId, blindingPoint, blindedHops⟩, rest)

def decodeBlindedPayInfo : Except String (BlindedPayInfo × Bytes) :=
  let flen := readBE (slice buf 26 2)
  if buf.length < 28 then .error "blinded_payinfo truncated"
  else if buf.length < 28 + flen then .error "blinded_payinfo truncated at features"
  else
    .ok
      ({ feeBaseMsat := readBE (slice buf 0 4)
         feeProportionalMillionths := readBE (slice buf 4 4)
         cltvExpiryDelta := readBE (slice buf 8 2)
         htlcMinimumMsat := readBE (slice buf 10 8)
         htlcMaximumMsat := readBE (slice buf 18 8)
         features := if flen > 0 then some (slice buf 28 flen) else none },
        buf.drop (28 + flen))

def decodeBlindedEntries : Nat → Bytes → Except String (List BlindedPaymentPath)
  | 0, _ => return []
  | count + 1, buf => do
    let (path, afterPath) ← decodeBlindedPath isValidPublicKey buf
    let (payInfo, rest) ← decodeBlindedPayInfo afterPath
    let others ← decodeBlindedEntries count rest
    return ⟨path, payInfo⟩ :: others

def decodeInvoiceBlindedPaymentPaths : Except String (List BlindedPaymentPath) :=
  decodeBlindedEntries isValidPublicKey (readBE (slice buf 0 1)) (buf.drop 1)

def blindedPathsReadable (entries : List BlindedPaymentPath) : Bool :=
  match encodeInvoiceBlindedPaymentPaths entries with
  | .error _ => false
  | .ok bytes => (decodeInvoiceBlindedPaymentPaths isValidPublicKey bytes).isOk

end Decoding

section WellFormed

variable (isValidPublicKey : Bytes → Bool)

def ValidPoint (point : Bytes) : Prop := point.length = 33 ∧ isValidPublicKey point = true

structure BlindedPath.WellFormed (path : BlindedPath) : Prop where
  introduction : path.introductionNodeId.length = 33 → isValidPublicKey path.introductionNodeId = true
  blindingPoint : ValidPoint isValidPublicKey path.blindingPoint
  someHop : path.blindedHops ≠ []
  countFits : path.blindedHops.length < 256
  hops : ∀ hop ∈ path.blindedHops, ValidPoint isValidPublicKey hop.blindedNodeId

variable {isValidPublicKey}

variable {bytes : Bytes} {entries : List BlindedPaymentPath}

theorem decodeBlindedHops_encodeBlindedHops {hops : List BlindedHop}
    (valid : ∀ hop ∈ hops, ValidPoint isValidPublicKey hop.blindedNodeId)
    (encoded : encodeBlindedHops hops = .ok bytes) (rest : Bytes) :
    decodeBlindedHops isValidPublicKey hops.length (bytes ++ rest) = .ok (hops, rest) := by
  induction hops generalizing bytes with
  | nil =>
    cases encoded
    rfl
  | cons hop others ih =>
    unfold encodeBlindedHops at encoded
    obtain ⟨length, wroteLength, encoded⟩ := bind_eq_ok_iff.mp encoded
    obtain ⟨after, wroteAfter, encoded⟩ := bind_eq_ok_iff.mp encoded
    cases encoded
    obtain ⟨lengthSize, readLength⟩ := writeUInt_eq_ok wroteLength
    obtain ⟨keySize, keyValid⟩ := valid hop List.mem_cons_self
    have tail := ih (fun other member => valid other (List.mem_cons_of_mem _ member)) wroteAfter
    have dropped : (hop.blindedNodeId ++ (length ++ hop.encryptedData) ++ (after ++ rest)).drop
        (35 + hop.encryptedData.length) = after ++ rest := by
      apply List.drop_left'
      simp only [List.length_append, keySize, lengthSize]
      omega
    simp only [List.append_assoc] at dropped
    simp only [List.append_assoc, List.length_cons, decodeBlindedHops, slice_past keySize, slice_past lengthSize,
      slice_append_left keySize, slice_append_left lengthSize, slice_append_left rfl, readLength, dropped, tail,
      keyValid, Nat.reduceLeDiff, Nat.reduceSub]
    rw [if_neg (by simp only [List.length_append]; omega), if_neg (by decide),
      if_neg (by simp only [List.length_append]; omega)]
    rfl

theorem sciddirOrPubkeyLength_head? {first : Bytes} (valid : isSciddirOrPubkey first = true) :
    sciddirOrPubkeyLength first.head? = some first.length ∧ first ≠ [] := by
  simp only [isSciddirOrPubkey, decide_eq_true_eq] at valid
  rcases valid with ⟨size, two | three⟩ | ⟨size, zero | one⟩
  · rw [two, size]
    exact ⟨rfl, fun empty => by rw [empty] at size; cases size⟩
  · rw [three, size]
    exact ⟨rfl, fun empty => by rw [empty] at size; cases size⟩
  · rw [zero, size]
    exact ⟨rfl, fun empty => by rw [empty] at size; cases size⟩
  · rw [one, size]
    exact ⟨rfl, fun empty => by rw [empty] at size; cases size⟩

theorem decodeBlindedPath_encodeBlindedPath {path : BlindedPath}
    (wellFormed : path.WellFormed isValidPublicKey) (encoded : encodeBlindedPath path = .ok bytes) (rest : Bytes) :
    decodeBlindedPath isValidPublicKey (bytes ++ rest) = .ok (path, rest) := by
  unfold encodeBlindedPath at encoded
  dsimp only at encoded
  split at encoded
  · cases encoded
  · rename_i valid
    obtain ⟨hops, wroteHops, encoded⟩ := bind_eq_ok_iff.mp encoded
    cases encoded
    rw [Bool.not_eq_false] at valid
    obtain ⟨firstLen, nonempty⟩ := sciddirOrPubkeyLength_head? valid
    obtain ⟨pointSize, pointValid⟩ := wellFormed.blindingPoint
    have someHop := List.length_pos_iff.mpr wellFormed.someHop
    have count : readBE (slice ([Fin.ofNat 256 path.blindedHops.length] ++ (hops ++ rest)) 0 1) =
        path.blindedHops.length := by
      show 0 * 256 + path.blindedHops.length % 256 = _
      rw [Nat.mod_eq_of_lt wellFormed.countFits]
      omega
    have read := decodeBlindedHops_encodeBlindedHops wellFormed.hops wroteHops rest
    have dropped : (path.introductionNodeId ++ (path.blindingPoint ++ [Fin.ofNat 256 path.blindedHops.length]) ++
        (hops ++ rest)).drop (path.introductionNodeId.length + 33 + 1) = hops ++ rest := by
      apply List.drop_left'
      simp only [List.length_append, List.length_singleton, pointSize, Nat.add_assoc]
    have keyRead : ¬ (path.introductionNodeId.length = 33 ∧ isValidPublicKey path.introductionNodeId = false) := by
      rintro ⟨size, invalid⟩
      rw [wellFormed.introduction size] at invalid
      cases invalid
    simp only [List.append_assoc] at dropped
    simp only [decodeBlindedPath, List.append_assoc, List.head?_append_of_ne_nil _ nonempty, firstLen,
      slice_past (rfl : path.introductionNodeId.length = _), slice_past pointSize, slice_append_left pointSize,
      slice_append_left (rfl : path.introductionNodeId.length = _), le_refl, Nat.le_add_right, Nat.sub_self,
      Nat.add_sub_cancel_left, count, pointValid, dropped, read, if_neg keyRead]
    rw [if_neg (by simp only [List.length_append, List.length_singleton]; omega), if_neg (by decide),
      if_neg (by omega)]
    rfl

def BlindedPayInfo.normalized (info : BlindedPayInfo) : BlindedPayInfo :=
  { info with features := info.features.filter (· ≠ []) }

theorem decodeBlindedPayInfo_encodeBlindedPayInfo {info : BlindedPayInfo}
    (encoded : encodeBlindedPayInfo info = .ok bytes) (rest : Bytes) :
    decodeBlindedPayInfo (bytes ++ rest) = .ok (info.normalized, rest) := by
  simp only [encodeBlindedPayInfo, bind_eq_ok_iff] at encoded
  obtain ⟨base, wroteBase, proportional, wroteProportional, delta, wroteDelta, minimum, wroteMinimum, maximum,
    wroteMaximum, flen, wroteFlen, encoded⟩ := encoded
  cases encoded
  obtain ⟨baseSize, readBase⟩ := writeUInt_eq_ok wroteBase
  obtain ⟨proportionalSize, readProportional⟩ := writeUInt_eq_ok wroteProportional
  obtain ⟨deltaSize, readDelta⟩ := writeUInt_eq_ok wroteDelta
  obtain ⟨minimumSize, readMinimum⟩ := writeUInt_eq_ok wroteMinimum
  obtain ⟨maximumSize, readMaximum⟩ := writeUInt_eq_ok wroteMaximum
  obtain ⟨flenSize, readFlen⟩ := writeUInt_eq_ok wroteFlen
  have features : (if 0 < (info.features.getD []).length then some (info.features.getD []) else none) =
      info.features.filter (· ≠ []) := by
    cases info.features with
    | none => rfl
    | some features => cases features <;> rfl
  generalize info.features.getD [] = bytes at *
  have dropped : (base ++ (proportional ++ (delta ++ (minimum ++ (maximum ++ (flen ++ bytes))))) ++ rest).drop
      (28 + bytes.length) = rest := by
    apply List.drop_left'
    simp only [List.length_append, baseSize, proportionalSize, deltaSize, minimumSize, maximumSize, flenSize]
    omega
  simp only [List.append_assoc] at dropped
  -- Each part is at the offset where the parts before it end.
  simp only [decodeBlindedPayInfo, List.append_assoc, slice_past baseSize, slice_past proportionalSize,
    slice_past deltaSize, slice_past minimumSize, slice_past maximumSize, slice_past flenSize,
    slice_append_left baseSize, slice_append_left proportionalSize, slice_append_left deltaSize,
    slice_append_left minimumSize, slice_append_left maximumSize, slice_append_left flenSize,
    slice_append_left rfl, readBase, readProportional, readDelta, readMinimum, readMaximum, readFlen, dropped,
    Nat.reduceLeDiff, Nat.reduceSub]
  rw [if_neg (by simp only [List.length_append]; omega), if_neg (by simp only [List.length_append]; omega)]
  simp only [gt_iff_lt, features, BlindedPayInfo.normalized]

theorem decodeBlindedEntries_encodeBlindedEntries
    (wellFormed : ∀ entry ∈ entries, entry.path.WellFormed isValidPublicKey)
    (encoded : encodeBlindedEntries entries = .ok bytes) :
    decodeBlindedEntries isValidPublicKey entries.length bytes =
      .ok (entries.map fun entry => ⟨entry.path, entry.payInfo.normalized⟩) := by
  induction entries generalizing bytes with
  | nil => rfl
  | cons entry others ih =>
    simp only [encodeBlindedEntries, bind_eq_ok_iff] at encoded
    obtain ⟨path, wrotePath, info, wroteInfo, after, wroteAfter, encoded⟩ := encoded
    cases encoded
    have first := decodeBlindedPath_encodeBlindedPath (wellFormed entry List.mem_cons_self) wrotePath (info ++ after)
    have second := decodeBlindedPayInfo_encodeBlindedPayInfo wroteInfo after
    have tail := ih (fun other member => wellFormed other (List.mem_cons_of_mem _ member)) wroteAfter
    show (decodeBlindedPath isValidPublicKey (path ++ (info ++ after)) >>= _) = _
    rw [first]
    show (decodeBlindedPayInfo (info ++ after) >>= _) = _
    rw [second]
    show (decodeBlindedEntries isValidPublicKey others.length after >>= _) = _
    rw [tail]
    rfl

theorem blindedPathsReadable_of_wellFormed
    (wellFormed : ∀ entry ∈ entries, entry.path.WellFormed isValidPublicKey) (fits : entries.length < 256)
    (encoded : encodeInvoiceBlindedPaymentPaths entries = .ok bytes) :
    blindedPathsReadable isValidPublicKey entries = true := by
  have written := encoded
  unfold encodeInvoiceBlindedPaymentPaths at written
  obtain ⟨after, wrote, written⟩ := bind_eq_ok_iff.mp written
  cases written
  have count : readBE (slice (Fin.ofNat 256 entries.length :: after) 0 1) = entries.length := by
    show 0 * 256 + entries.length % 256 = _
    rw [Nat.mod_eq_of_lt fits]
    omega
  unfold blindedPathsReadable
  rw [encoded]
  dsimp only
  rw [decodeInvoiceBlindedPaymentPaths, count]
  show (decodeBlindedEntries isValidPublicKey entries.length after).isOk = true
  rw [decodeBlindedEntries_encodeBlindedEntries wellFormed wrote]
  rfl

end WellFormed

end Beignet.Invoice
