import Beignet.Channel.Updates

namespace Beignet.Channel

open Beignet.Data Beignet.Keys
open Reply (state sent)
open Verdict (FailsOnly fail)

/-! The commitment round: signing the peer's commitment, accepting ours, and the revocation that
    closes the round. -/

/-- What the signer can tell of a signature, and the nonces it derives. -/
structure Verifier where
  commitmentSig : CommitmentTx → Bytes → Bool
  htlcSigs : BuiltCommitment → List Bytes → Bool
  partialSig : CommitmentTx → Bytes → Bytes → Bytes → Bool
  taprootHtlcSigs : BuiltCommitment → List Bytes → Bool
  verificationNonce : Bytes → Nat → Bytes

namespace HtlcEntry

variable (e : HtlcEntry)

def commitPending : HtlcEntry :=
  if e.state = .pending then { e with state := .committed } else e

def addUncovered : Bool := e.addRemoteCommitted = some false && e.state.live

/-- A removal is new to the commitment we sign; the peer's own must be revoked for first. -/
def removalUncovered : Bool :=
  e.removalRemoteCommitted = some false && e.removalLocallyRevoked ≠ some false && !e.state.live

/-- The peer's add is on the commitment we sign and the peer has yet to revoke the one before. -/
def receivedAddUncovered : Bool :=
  e.addRemotelyRevoked = some false && e.addLocallyRevoked ≠ some false && e.state.live

def stampCover : HtlcEntry :=
  { e with
    commitCoverPending := if e.addUncovered || e.removalUncovered then some true else e.commitCoverPending
    addCoverPending := if e.receivedAddUncovered then some true else e.addCoverPending }

def acceptSigned : HtlcEntry :=
  { e with
    addRemoteSigned :=
      if e.direction = .offered ∧ e.addRemoteCommitted ≠ some false ∧ e.state ≠ .failed then some true
      else e.addRemoteSigned
    addLocallyRevoked := if e.addLocallyRevoked = some false then some true else e.addLocallyRevoked
    removalLocallyRevoked :=
      if e.removalLocallyRevoked = some false ∧ e.state.live = false then some true
      else e.removalLocallyRevoked }

def owesSignature : Bool :=
  (e.addLocallyRevoked = some false && e.state.live) ||
    (e.removalLocallyRevoked = some false && !e.state.live)

def acknowledge : HtlcEntry :=
  { e with
    commitCoverPending := if e.commitCoverPending = some true then some false else e.commitCoverPending
    addRemoteCommitted :=
      if e.commitCoverPending = some true ∧ e.state.live = true then some true else e.addRemoteCommitted
    removalRemoteCommitted :=
      if e.commitCoverPending = some true ∧ e.state.live = false then some true
      else e.removalRemoteCommitted
    addCoverPending := if e.addCoverPending = some true then some false else e.addCoverPending
    addRemotelyRevoked := if e.addCoverPending = some true then some true else e.addRemotelyRevoked }

def settled (e : HtlcEntry) : Bool := e.removalRemoteCommitted ≠ some false && !e.state.live

def localCredit : Int :=
  match e.state, e.direction with
  | .fulfilled, .received => e.amountMsat
  | .failed, .offered => e.amountMsat
  | _, _ => 0

def remoteCredit : Int :=
  match e.state, e.direction with
  | .fulfilled, .offered => e.amountMsat
  | .failed, .received => e.amountMsat
  | _, _ => 0

def retained : Bool := e.direction = .received && e.addLocallyRevoked ≠ some false

def forwards : Bool :=
  e.direction = .received && receivedAddIrrevocablyCommitted e && e.forwardEmitted ≠ some true

def markForwarded : HtlcEntry :=
  if e.forwards then { e with forwardEmitted := some true } else e

variable (e : HtlcEntry)

@[simp] theorem commitPending_key : e.commitPending.key = e.key := by
  unfold commitPending
  split <;> rfl

/-- The mark is on one field, so whatever does not read it is kept. -/
theorem markForwarded_eq : e.markForwarded = { e with forwardEmitted := e.markForwarded.forwardEmitted } := by
  unfold markForwarded
  split <;> rfl

@[simp] theorem markForwarded_key : e.markForwarded.key = e.key := by
  rw [markForwarded_eq]
  rfl

end HtlcEntry

namespace ChannelState

def commitmentSent (s : ChannelState) : ChannelState :=
  { s with
    lastSentWasRevoke := false
    pendingFeerateCommitted :=
      if s.pendingFeeratePerKw.isSome ∧ (s.role = .opener ∨ s.pendingFeerateSignable = true) then true
      else s.pendingFeerateCommitted
    pendingLeaseBlockheightCommitted :=
      if s.pendingLeaseBlockheight.isSome ∧ s.pendingLeaseBlockheightSignable = true then true
      else s.pendingLeaseBlockheightCommitted
    htlcs := s.htlcs.map (fun e => e.stampCover.commitPending) fun e => e.stampCover.commitPending_key
    remoteRevocationNumber := some s.remoteRevocationCount
    remoteCommitmentNumber := s.remoteCommitmentNumber + 1
    needsCommitment := false
    pendingLocalUpdatesSignedCount := s.pendingLocalUpdates.length }

end ChannelState

def signCommitment (prim : Primitives) (s : ChannelState) (signature : Bytes)
    (htlcSignatures : List Bytes) (partialSignatureWithNonce : Option Bytes) : Reply :=
  let taproot := isTaprootChannel s.channelType
  Verdict.orAccept s
    [ refuseIf (s.operational = false) (.error "Cannot sign commitment: wrong state"),
      refuseIf (taproot = true ∧ partialSignatureWithNonce.map List.length ≠ some 98)
        (.error "Taproot commitment_signed requires a partial_signature_with_nonce"),
      ((nextSignedPoint s).bind fun point => funderOutputTrimmedRefusal prim s .remoteSide point
        (s.remoteCommitmentNumber + 1)).map .fail ]
    ⟨s.commitmentSent, [.persistState, .sendMessage (.commitmentSigned
        { signature := if taproot then List.replicate 64 0 else signature
          htlcSignatures := htlcSignatures
          partialSignatureWithNonce := if taproot then partialSignatureWithNonce else none })]⟩

section CommitmentSigned

variable (prim : Primitives) (ver : Verifier) (s : ChannelState) (msg : CommitmentSigned)

def nextLocalNumber : Nat := s.localCommitmentNumber + 1

def nextLocalPoint : Bytes := getPerCommitmentPoint prim s.localPerCommitmentSeed (nextLocalNumber s)

def nextLocalCommitment : Option BuiltCommitment :=
  buildLocalCommitment prim s (nextLocalPoint prim s) (nextLocalNumber s) false

def CommitmentTx.htlcCount (tx : CommitmentTx) : Nat :=
  tx.outputs.countP fun o => match o.kind with
    | .htlc _ _ => true
    | _ => false

def htlcSignaturesValid (valid : BuiltCommitment → List Bytes → Bool) (built : BuiltCommitment) : Bool :=
  msg.htlcSignatures.length = built.tx.htlcCount && valid built msg.htlcSignatures

def ecdsaChecks : List (Option Verdict) :=
  let cid := hex s.channelId
  let commitNum := s.localCommitmentNumber
  let htlcs := s.htlcs.size
  let phase := s.phase.name
  [ refuseIf (s.hasSigner = false ∨ s.remoteBasepoints = none)
      (.error "Cannot verify commitment signature: no signer or remote basepoints"),
    match nextLocalCommitment prim s with
    | none => some (.answer [.throws "Channel state not ready for commitment building"])
    | some built => firstRefusal [
        refuseIf (ver.commitmentSig built.tx msg.signature = false)
          (.fail (s!"Invalid commitment signature on channel {cid} " ++
            s!"(commitNum={commitNum}, htlcs={htlcs}, state={phase})")),
        refuseIf (htlcSignaturesValid msg ver.htlcSigs built = false)
          (.fail "Invalid HTLC signature")] ]

def taprootChecks : List (Option Verdict) :=
  match s.localNextNonce, s.remoteBasepoints with
  | some nonce, some _ =>
    [ match nextLocalCommitment prim s with
      | none => some (.answer [.throws "Channel state not ready for commitment building"])
      | some built => firstRefusal [
          refuseIf (htlcSignaturesValid msg ver.taprootHtlcSigs built = false)
            (.fail "Invalid taproot HTLC signature"),
          match msg.partialSignatureWithNonce with
          | some p =>
            if p.length ≠ 98 then
              some (.fail "Taproot commitment message missing a valid partial_signature_with_nonce")
            else
              refuseIf (ver.partialSig built.tx (p.take 32) nonce (p.drop 32) = false)
                (.fail "Invalid taproot partial signature")
          | none =>
            some (.fail "Taproot commitment message missing a valid partial_signature_with_nonce")] ]
  | _, _ =>
    [some (.error ("Cannot verify taproot commitment partial: no verification nonce or " ++ "remote basepoints"))]

def ChannelState.storeSignature : ChannelState :=
  let taproot := isTaprootChannel s.channelType
  { s with
    remoteHtlcSignatures := msg.htlcSignatures
    remoteCommitmentSignature :=
      if taproot then msg.partialSignatureWithNonce.map fun p => p.take 32 else some msg.signature
    remoteSigningNonce :=
      if taproot then msg.partialSignatureWithNonce.map fun p => p.drop 32 else s.remoteSigningNonce }

/-- A staged value of the peer's may be signed back once the peer has signed for it. -/
def becomesSignable (staged : Option Nat) (signable : Bool) : Bool :=
  staged.isSome && s.role = .acceptor && !signable

/-- `handleCommitmentSigned` after its checks: the flags move on and the commitment before is
    revoked. -/
def ChannelState.commitmentAccepted : ChannelState :=
  let feeSignable := becomesSignable s s.pendingFeeratePerKw s.pendingFeerateSignable
  let leaseSignable := becomesSignable s s.pendingLeaseBlockheight s.pendingLeaseBlockheightSignable
  { s.storeSignature msg with
    lastSignedCommitFeeratePerKw := some (getLocalCommitmentFeeRate s false)
    lastSignedCommitLeaseBlockheight := getLocalCommitmentLeaseBlockheight s false
    awaitingLocalFeeCommitment := false
    signedLocalRemovals := []
    pendingFeerateSignable := s.pendingFeerateSignable || feeSignable
    pendingLeaseBlockheightSignable := s.pendingLeaseBlockheightSignable || leaseSignable
    needsCommitment := s.needsCommitment || feeSignable || leaseSignable ||
      s.htlcs.values.any HtlcEntry.owesSignature
    htlcs := s.htlcs.map (fun e => e.acceptSigned.commitPending) fun e => e.acceptSigned.commitPending_key
    localCommitmentNumber := s.localCommitmentNumber + 1
    restoreRevokedRisk := false
    lastSentWasRevoke := true
    localNextNonce :=
      if isTaprootChannel s.channelType then
        some (ver.verificationNonce s.localPerCommitmentSeed (s.localCommitmentNumber + 2))
      else s.localNextNonce }

def handleCommitmentSigned : Reply :=
  let taproot := isTaprootChannel s.channelType
  let next := s.localCommitmentNumber + 2
  Verdict.orAccept s
    (refuseIf (s.operational = false) (.error "Unexpected commitment_signed") ::
      (funderOutputTrimmedRefusal prim s .localSide (nextLocalPoint prim s) (nextLocalNumber s)).map .fail ::
      if taproot then taprootChecks prim ver s msg else ecdsaChecks prim ver s msg)
    ⟨s.commitmentAccepted ver msg, [.persistState, .sendMessage (.revokeAndAck
        { perCommitmentSecret :=
            getPerCommitmentSecret prim s.localPerCommitmentSeed s.localCommitmentNumber
          nextPerCommitmentPoint := getPerCommitmentPoint prim s.localPerCommitmentSeed next
          nextLocalNonce :=
            if taproot then some (ver.verificationNonce s.localPerCommitmentSeed next) else none })]⟩

end CommitmentSigned

namespace ChannelState

variable (s : ChannelState)

def promoteFee : ChannelState :=
  let promoted := if s.pendingFeerateCommitted then s.pendingFeeratePerKw else none
  { s with
    localConfig := match promoted, s.role with
      | some rate, .opener => { s.localConfig with feeratePerKw := rate }
      | _, _ => s.localConfig
    awaitingLocalFeeCommitment := match promoted, s.role with
      | some _, .opener => true
      | _, _ => s.awaitingLocalFeeCommitment
    remoteConfig := match promoted, s.role with
      | some rate, .acceptor => { s.remoteConfig with feeratePerKw := rate }
      | _, _ => s.remoteConfig
    pendingFeeratePerKw := if promoted.isSome then none else s.pendingFeeratePerKw
    pendingFeerateSignable := if promoted.isSome then false else s.pendingFeerateSignable
    pendingFeerateCommitted := if promoted.isSome then false else s.pendingFeerateCommitted }

def promoteLease : ChannelState :=
  let promoted := if s.pendingLeaseBlockheightCommitted then s.pendingLeaseBlockheight else none
  { s with
    leaseCommitBlockheight := if promoted.isSome then promoted else s.leaseCommitBlockheight
    pendingLeaseBlockheight := if promoted.isSome then none else s.pendingLeaseBlockheight
    pendingLeaseBlockheightSignable :=
      if promoted.isSome then false else s.pendingLeaseBlockheightSignable
    pendingLeaseBlockheightCommitted :=
      if promoted.isSome then false else s.pendingLeaseBlockheightCommitted }

def acknowledgedHtlcs : HtlcMap := s.htlcs.map HtlcEntry.acknowledge fun _ => rfl

def settledHtlcs : List HtlcEntry := s.acknowledgedHtlcs.values.filter HtlcEntry.settled

def settleRemovals : ChannelState :=
  { s with
    htlcs := s.acknowledgedHtlcs.filter fun e => !e.settled
    localBalanceMsat := s.localBalanceMsat + (s.settledHtlcs.map HtlcEntry.localCredit).sum
    remoteBalanceMsat := s.remoteBalanceMsat + (s.settledHtlcs.map HtlcEntry.remoteCredit).sum
    signedLocalRemovals := s.signedLocalRemovals ++ s.settledHtlcs.filter HtlcEntry.retained }

def acknowledgeUpdates : ChannelState :=
  { s with
    pendingLocalUpdates := s.pendingLocalUpdates.drop s.pendingLocalUpdatesSignedCount
    pendingLocalUpdatesSignedCount := 0 }

def forwardCommitted : ChannelState :=
  { s with htlcs := s.htlcs.map HtlcEntry.markForwarded HtlcEntry.markForwarded_key }

def revocationAccepted : ChannelState :=
  s.acknowledgeUpdates.settleRemovals.promoteFee.promoteLease.forwardCommitted

theorem revocationAccepted_phase : s.revocationAccepted.phase = s.phase := rfl

end ChannelState

section RevokeAndAck

variable (prim : Primitives) (s : ChannelState) (msg : RevokeAndAck)

def revocationChecks : List (Option Verdict) :=
  [ refuseIf (s.operational = false) (.error "Unexpected revoke_and_ack"),
    refuseIf (∃ point ∈ s.remoteCurrentPerCommitmentPoint, prim.pointFromSecret msg.perCommitmentSecret ≠ point)
      (.fail "revoke_and_ack secret does not match committed per-commitment point"),
    refuseIf (s.remoteCommitmentNumber ≤ s.remoteRevocationCountForRaa)
      (.error "Unexpected revoke_and_ack: no outstanding commitment") ]

def ChannelState.rotatePoints (store : ShaChainStore) : ChannelState :=
  { s with
    shaChainStore := store
    remoteRevocationNumber := some (s.remoteRevocationCountForRaa + 1)
    remoteCurrentPerCommitmentPoint := s.remoteNextPerCommitmentPoint }

def forwardedHtlcs (accepted : ChannelState) : List Notice :=
  (accepted.htlcs.values.filter HtlcEntry.forwards).map fun e =>
    .htlcForwarded e.id e.amountMsat e.paymentHash

def handleRevokeAndAck : Reply :=
  Verdict.orAccept s (revocationChecks prim s msg) <|
    match s.shaChainStore.addSecret prim.sha256 (maxIndex - s.remoteRevocationCountForRaa)
        msg.perCommitmentSecret with
    | none => (Verdict.fail "Invalid per-commitment secret").reply s
    | some store =>
      let rotated := s.rotatePoints store
      if prim.isValidPublicKey msg.nextPerCommitmentPoint = false then
        (Verdict.fail "revoke_and_ack has an invalid next_per_commitment_point").reply rotated
      else
        let pointed := { rotated with remoteNextPerCommitmentPoint := some msg.nextPerCommitmentPoint }
        if isTaprootChannel s.channelType = true ∧ msg.nextLocalNonce.map List.length ≠ some 66 then
          (Verdict.fail "Taproot revoke_and_ack missing a valid next_local_nonce").reply pointed
        else
          ⟨pointed.revocationAccepted, .persistState ::
            (forwardedHtlcs pointed.settleRemovals).map .notify⟩

end RevokeAndAck

def HtlcEntry.afterRevocation (e : HtlcEntry) : Option HtlcEntry :=
  if e.acknowledge.settled then none else some e.acknowledge.markForwarded

theorem HtlcEntry.afterRevocation_eq_some {e after : HtlcEntry} :
    e.afterRevocation = some after ↔ e.acknowledge.settled = false ∧ e.acknowledge.markForwarded = after := by
  cases settled : e.acknowledge.settled <;> simp [afterRevocation, settled]

namespace ChannelState

variable (s : ChannelState) (k : HtlcDirection × Nat)

@[simp] theorem get?_commitmentSent :
    s.commitmentSent.htlcs.get? k = (s.htlcs.get? k).map fun e => e.stampCover.commitPending :=
  KeyedMap.get?_map _ _ _ fun e => e.stampCover.commitPending_key

@[simp] theorem get?_commitmentAccepted (ver : Verifier) (msg : CommitmentSigned) :
    (s.commitmentAccepted ver msg).htlcs.get? k = (s.htlcs.get? k).map fun e => e.acceptSigned.commitPending :=
  KeyedMap.get?_map _ _ _ fun e => e.acceptSigned.commitPending_key

theorem get?_acknowledgedHtlcs : s.acknowledgedHtlcs.get? k = (s.htlcs.get? k).map HtlcEntry.acknowledge :=
  KeyedMap.get?_map _ _ HtlcEntry.acknowledge fun _ => rfl

@[simp] theorem get?_revocationAccepted :
    s.revocationAccepted.htlcs.get? k = (s.htlcs.get? k).bind HtlcEntry.afterRevocation := by
  change ((s.acknowledgedHtlcs.filter fun e => !e.settled).map HtlcEntry.markForwarded
    HtlcEntry.markForwarded_key).get? k = _
  rw [KeyedMap.get?_map, KeyedMap.get?_filter, get?_acknowledgedHtlcs]
  cases s.htlcs.get? k with
  | none => rfl
  | some e => cases through : e.acknowledge.settled <;> simp [HtlcEntry.afterRevocation, through]

theorem mem_revocationAccepted (e : HtlcEntry) :
    e ∈ s.revocationAccepted.htlcs.values ↔ ∃ before ∈ s.htlcs.values, before.afterRevocation = some e := by
  change e ∈ ((s.htlcs.values.map HtlcEntry.acknowledge).filter _).map HtlcEntry.markForwarded ↔ _
  simp [HtlcEntry.afterRevocation_eq_some, and_assoc]

end ChannelState

section Outcomes

variable (prim : Primitives) (ver : Verifier) (s : ChannelState) (msg : CommitmentSigned)
  (store : ShaChainStore) (next : Option Bytes)

theorem signCommitment_cases (signature : Bytes) (htlcSigs : List Bytes) (partialSig : Option Bytes) :
    let r := signCommitment prim s signature htlcSigs partialSig
    r.Unchanged s ∨ r.Failed s ∨
      s.operational = true ∧ r.state = s.commitmentSent ∧ ∃ msg, r.sent = [.commitmentSigned msg] := by
  intro r
  refine (Verdict.orAccept_cases s _ _).imp_right (.imp_right fun both => ?_)
  obtain ⟨silent, accepted⟩ := both
  simp only [List.forall_mem_singleton, List.forall_mem_cons, refuseIf_eq_none, Bool.not_eq_false] at silent
  exact ⟨silent.1, congrArg state accepted, _, congrArg sent accepted⟩

def Unverifiable : Prop :=
  nextLocalCommitment prim s = none ∨ s.remoteBasepoints = none ∨
    if isTaprootChannel s.channelType then s.localNextNonce = none else s.hasSigner = false

theorem failsOnly_firstRefusal {checks : List (Option Verdict)}
    (strict : ∀ check ∈ checks, FailsOnly check) : FailsOnly (firstRefusal checks) := by
  intro verdict spoken
  exact strict _ (firstRefusal_eq_some spoken) verdict rfl

theorem ecdsaChecks_because (plain : isTaprootChannel s.channelType = false) :
    ∀ check ∈ ecdsaChecks prim ver s msg, FailsOnly check ∨ (check ≠ none → Unverifiable prim s) := by
  simp only [ecdsaChecks, List.forall_mem_singleton, List.forall_mem_cons]
  refine ⟨.inr fun spoken => ?_, ?_⟩
  · rw [ne_eq, refuseIf_eq_none, not_not] at spoken
    rcases spoken with unsigned | unknown
    · exact .inr (.inr (by simpa [plain] using unsigned))
    · exact .inr (.inl unknown)
  · cases built : nextLocalCommitment prim s with
    | none => exact .inr fun _ => .inl built
    | some commitment =>
      exact .inl (failsOnly_firstRefusal (by simp [fail]))

theorem taprootChecks_because (taproot : isTaprootChannel s.channelType = true) :
    ∀ check ∈ taprootChecks prim ver s msg, FailsOnly check ∨ (check ≠ none → Unverifiable prim s) := by
  unfold taprootChecks
  cases nonce : s.localNextNonce with
  | none => exact fun check _ => .inr fun _ => .inr (.inr (by simp [taproot, nonce]))
  | some nonce' =>
    cases keys : s.remoteBasepoints with
    | none => exact fun check _ => .inr fun _ => .inr (.inl keys)
    | some basepoints =>
      simp only [List.mem_cons, List.not_mem_nil, or_false, forall_eq]
      cases built : nextLocalCommitment prim s with
      | none => exact .inr fun _ => .inl built
      | some commitment =>
        refine .inl (failsOnly_firstRefusal ?_)
        simp only [List.forall_mem_singleton, List.forall_mem_cons]
        refine ⟨Verdict.failsOnly_refuseIf_fail _ _ _, fun verdict spoken => ?_⟩
        split at spoken
        · split at spoken
          · exact ⟨_, _, (Option.some.inj spoken).symm⟩
          · exact Verdict.failsOnly_refuseIf_fail _ _ _ verdict spoken
        · exact ⟨_, _, (Option.some.inj spoken).symm⟩

theorem nextLocalCommitment_isSome {msg : CommitmentSigned}
    (silent : ∀ check ∈ (if isTaprootChannel s.channelType then taprootChecks prim ver s msg
      else ecdsaChecks prim ver s msg), check = none) : (nextLocalCommitment prim s).isSome = true := by
  cases built : nextLocalCommitment prim s with
  | some commitment => rfl
  | none =>
    exfalso
    split at silent
    · unfold taprootChecks at silent
      split at silent
      · simp [built] at silent
      · simp at silent
    · simp [ecdsaChecks, built] at silent

def revocationFor : RevokeAndAck :=
  let next := s.localCommitmentNumber + 2
  { perCommitmentSecret := getPerCommitmentSecret prim s.localPerCommitmentSeed s.localCommitmentNumber
    nextPerCommitmentPoint := getPerCommitmentPoint prim s.localPerCommitmentSeed next
    nextLocalNonce :=
      if isTaprootChannel s.channelType then some (ver.verificationNonce s.localPerCommitmentSeed next)
      else none }

theorem handleCommitmentSigned_cases (msg : CommitmentSigned) :
    let r := handleCommitmentSigned prim ver s msg
    r.Unchanged s ∧ (s.operational = false ∨ Unverifiable prim s) ∨ r.Failed s ∨
      s.operational = true ∧ (nextLocalCommitment prim s).isSome = true ∧
        r.state = s.commitmentAccepted ver msg ∧ r.sent = [.revokeAndAck (revocationFor prim ver s)] := by
  intro r
  have why : ∀ check ∈ refuseIf (s.operational = false) (.error "Unexpected commitment_signed") ::
      (funderOutputTrimmedRefusal prim s .localSide (nextLocalPoint prim s) (nextLocalNumber s)).map .fail ::
      if isTaprootChannel s.channelType then taprootChecks prim ver s msg else ecdsaChecks prim ver s msg,
      FailsOnly check ∨ (check ≠ none → s.operational = false ∨ Unverifiable prim s) := by
    simp only [List.mem_cons, forall_eq_or_imp, Verdict.failsOnly_map_fail, true_or, true_and]
    refine ⟨.inr fun spoken => ?_, ?_⟩
    · rw [ne_eq, refuseIf_eq_none, not_not] at spoken
      exact .inl spoken
    · split
      · rename_i taproot
        exact fun check member => (taprootChecks_because prim ver s msg taproot check member).imp_right
          fun because spoken => .inr (because spoken)
      · rename_i plain
        exact fun check member => (ecdsaChecks_because prim ver s msg (Bool.eq_false_of_not_eq_true plain)
          check member).imp_right fun because spoken => .inr (because spoken)
  refine (Verdict.orAccept_because s _ _ why).imp_right (.imp_right fun ⟨silent, accepted⟩ => ?_)
  simp only [List.mem_cons, forall_eq_or_imp, refuseIf_eq_none, Bool.not_eq_false] at silent
  exact ⟨silent.1, nextLocalCommitment_isSome prim ver s silent.2.2, congrArg state accepted, congrArg sent accepted⟩

def ChannelState.pointsRotated (store : ShaChainStore) (next : Option Bytes) : ChannelState :=
  { s.rotatePoints store with remoteNextPerCommitmentPoint := next }

structure Reveals (msg : RevokeAndAck) (store : ShaChainStore) (next : Option Bytes) : Prop where
  outstanding : s.remoteRevocationCountForRaa < s.remoteCommitmentNumber
  point : ∀ point ∈ s.remoteCurrentPerCommitmentPoint, prim.pointFromSecret msg.perCommitmentSecret = point
  stored : s.shaChainStore.addSecret prim.sha256 (maxIndex - s.remoteRevocationCountForRaa)
    msg.perCommitmentSecret = some store
  next : next = s.remoteNextPerCommitmentPoint ∨ next = some msg.nextPerCommitmentPoint

theorem handleRevokeAndAck_cases (msg : RevokeAndAck) :
    let r := handleRevokeAndAck prim s msg
    r.Unchanged s ∧ (s.operational = false ∨ s.remoteCommitmentNumber ≤ s.remoteRevocationCountForRaa) ∨
      r.Failed s ∨ s.operational = true ∧ ∃ store next, Reveals prim s msg store next ∧ r.sent = [] ∧
          (r.state = { s.pointsRotated store next with phase := .errored } ∨
            r.state = (s.pointsRotated store next).revocationAccepted) := by
  intro r
  have why : ∀ check ∈ revocationChecks prim s msg, FailsOnly check ∨
      (check ≠ none → s.operational = false ∨ s.remoteCommitmentNumber ≤ s.remoteRevocationCountForRaa) := by
    simp only [revocationChecks, List.forall_mem_singleton, List.forall_mem_cons,
      fail, Verdict.failsOnly_refuseIf_fail, true_or, true_and, ne_eq, refuseIf_eq_none, not_not]
    exact ⟨.inr .inl, .inr .inr⟩
  rcases Verdict.orAccept_because s _ _ why with unchanged | failed | ⟨silent, accepted⟩
  · exact .inl unchanged
  · exact .inr (.inl failed)
  · simp only [revocationChecks, List.forall_mem_singleton, List.forall_mem_cons,
      refuseIf_eq_none, Bool.not_eq_false, not_le] at silent
    obtain ⟨operational, point, outstanding⟩ := silent
    have reply : r = _ := accepted
    split at reply
    · exact .inr (.inl ⟨congrArg state reply, congrArg sent reply⟩)
    rename_i store stored
    have secret : ∀ point ∈ s.remoteCurrentPerCommitmentPoint,
        prim.pointFromSecret msg.perCommitmentSecret = point := by simpa using point
    refine .inr (.inr ⟨operational, store, ?_⟩)
    split at reply
    · exact ⟨s.remoteNextPerCommitmentPoint, ⟨outstanding, secret, stored, .inl rfl⟩, congrArg sent reply,
        .inl (congrArg state reply)⟩
    · refine ⟨some msg.nextPerCommitmentPoint, ⟨outstanding, secret, stored, .inr rfl⟩, ?_⟩
      split at reply
      · exact ⟨congrArg sent reply, .inl (congrArg state reply)⟩
      refine ⟨?_, .inr (congrArg state reply)⟩
      rw [reply]
      simp [sent]

@[simp] theorem ChannelState.pointsRotated_htlcs : (s.pointsRotated store next).htlcs = s.htlcs := rfl

@[simp] theorem ChannelState.pointsRotated_localHtlcCounter : (s.pointsRotated store next).localHtlcCounter = s.localHtlcCounter := rfl

@[simp] theorem ChannelState.revocationAccepted_localHtlcCounter :
    s.revocationAccepted.localHtlcCounter = s.localHtlcCounter := rfl

end Outcomes

end Beignet.Channel
