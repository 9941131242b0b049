import Beignet.Channel.Protocol

namespace Beignet.Channel

open Beignet.Data
open Reply (state sent)
open Verdict (orAccept_cases FailsOnly fail orAccept_because)

/-! Adding, removing and repricing: the update messages of a channel with no splice pending. -/

namespace HtlcEntry

def settleAs (intent : HtlcState) (e : HtlcEntry) : HtlcEntry :=
  { e with state := intent, removalRemoteCommitted := some false }

def removeAs (intent : HtlcState) (e : HtlcEntry) : HtlcEntry :=
  { e with state := intent, removalRemoteCommitted := some false, removalLocallyRevoked := some false }

end HtlcEntry

namespace ChannelState

variable (s : ChannelState) (entry : HtlcEntry) (id : Nat) (feeratePerKw : Nat) (disposition : HtlcState)

def queueUpdate (update : PendingUpdate) : ChannelState :=
  { s with pendingLocalUpdates := s.pendingLocalUpdates ++ [update], needsCommitment := true }

def offer : ChannelState :=
  { s with
    htlcs := s.htlcs.set entry
    localHtlcCounter := s.localHtlcCounter + 1
    localBalanceMsat := s.localBalanceMsat - entry.amountMsat }

def receive : ChannelState :=
  { s with
    htlcs := s.htlcs.set entry
    remoteBalanceMsat := s.remoteBalanceMsat - entry.amountMsat }

def settleReceived : ChannelState :=
  { s with htlcs := s.htlcs.modify (.received, id) (HtlcEntry.settleAs disposition) fun _ => rfl }

def removeOffered : ChannelState :=
  { s with htlcs := s.htlcs.modify (.offered, id) (HtlcEntry.removeAs disposition) fun _ => rfl }

def stageFee : ChannelState :=
  { s with
    pendingFeeratePerKw := some feeratePerKw
    pendingFeerateSignable := false
    pendingFeerateCommitted := false }

/-- A staged rate the peer has signed for already is the committed one before the next is staged. -/
def stagePeerFee : ChannelState :=
  { s.stageFee feeratePerKw with
    remoteConfig := match s.pendingFeeratePerKw, s.pendingFeerateSignable with
      | some rate, true => { s.remoteConfig with feeratePerKw := rate }
      | _, _ => s.remoteConfig }

section Lookups

variable (s : ChannelState) (k : HtlcDirection × Nat) (entry : HtlcEntry) (id : Nat) (intent : HtlcState)

@[simp] theorem queueUpdate_htlcs (update : PendingUpdate) : (s.queueUpdate update).htlcs = s.htlcs := rfl

@[simp] theorem get?_offer : (s.offer entry).htlcs.get? k = if k = entry.key then some entry else s.htlcs.get? k :=
  KeyedMap.get?_set ..

@[simp] theorem get?_receive :
    (s.receive entry).htlcs.get? k = if k = entry.key then some entry else s.htlcs.get? k :=
  KeyedMap.get?_set ..

@[simp] theorem get?_settleReceived : (s.settleReceived id intent).htlcs.get? k =
      if k = (.received, id) then (s.htlcs.get? k).map (HtlcEntry.settleAs intent) else s.htlcs.get? k :=
  KeyedMap.get?_modify _ _ _ (HtlcEntry.settleAs intent) fun _ => rfl

@[simp] theorem get?_removeOffered : (s.removeOffered id intent).htlcs.get? k =
      if k = (.offered, id) then (s.htlcs.get? k).map (HtlcEntry.removeAs intent) else s.htlcs.get? k :=
  KeyedMap.get?_modify _ _ _ (HtlcEntry.removeAs intent) fun _ => rfl

end Lookups

end ChannelState

def recencyHoldMessage (s : ChannelState) : String :=
  if s.reestablishSecretMissing then
    "Cannot add HTLC: this node could not produce the per-commitment secret its own " ++
      "channel_reestablish owes the peer, so its state cannot be proven current and its " ++
      "on-chain HTLC backstops are disabled"
  else if s.restoreRecencyUnproven then
    "Cannot add HTLC: channel was restored from a Recovery Capsule and its state cannot be proven " ++
      "current, so its on-chain HTLC backstops are disabled"
  else
    "Cannot add HTLC: the peer claimed at channel_reestablish that this channel state is behind and " ++
      "showed no proof, so its state cannot be proven current and its on-chain HTLC backstops are disabled"

def offeredEntry (s : ChannelState) (amountMsat : Nat) (paymentHash : Bytes) (cltvExpiry : Nat)
    (onionRoutingPacket : Bytes) (blindingPoint : Option Bytes) : HtlcEntry where
  id := s.localHtlcCounter
  amountMsat := amountMsat
  paymentHash := paymentHash
  cltvExpiry := cltvExpiry
  onionRoutingPacket := onionRoutingPacket
  direction := .offered
  state := .pending
  blindingPoint := blindingPoint
  addRemoteCommitted := some false
  addRemoteSigned := some false

def validateOutgoingHtlc (prim : Primitives) (s : ChannelState) (amountMsat cltvExpiry : Nat) :
    List (Option Verdict) :=
  let phase := s.phase.name
  let height := s.currentBlockHeight
  let totalInFlight := totalInFlightMsat s .offered + amountMsat
  let emptied := localCommitmentEmptyRefusal prim s
    { localBalanceMsat := some (s.localBalanceMsat - amountMsat)
      addedHtlc := some
        { id := s.localHtlcCounter
          amountMsat := amountMsat
          paymentHash := List.replicate 32 0
          cltvExpiry := cltvExpiry
          onionRoutingPacket := []
          direction := .offered
          state := .pending } }
  [ refuseIf (s.restoreRevokedRisk = true)
      (.coded ("Cannot add HTLC: the peer holds the revocation for this commitment, so its on-chain " ++
        "HTLC backstops are disabled") .held),
    refuseIf (s.isRecencyUnproven = true) (.coded (recencyHoldMessage s) .held),
    refuseIf (s.phase ≠ .normal)
      (.coded s!"Cannot add HTLC: channel in {phase} state" .wrongState),
    refuseIf (s.fundingUnaccounted = true)
      (.coded ("Cannot add HTLC: the funding transaction is in neither the mempool nor the chain, " ++
        "so the channel is quarantined") .held),
    refuseIf (s.quiescing = true) (.coded "Cannot add HTLC: channel is quiescing" .wrongState),
    refuseIf (500000000 ≤ cltvExpiry)
      (.coded s!"HTLC cltv_expiry {cltvExpiry} is not a block height (>= 500000000)" .invalidParams),
    refuseIf (0 < height ∧ cltvExpiry ≤ height)
      (.coded s!"HTLC cltv_expiry {cltvExpiry} has already expired at height {height}" .invalidParams),
    refuseIf (amountMsat = 0) (.coded "HTLC amount must be positive" .invalidParams),
    refuseIf (amountMsat < s.remoteConfig.htlcMinimumMsat)
      (.coded "HTLC amount below remote minimum" .limitExceeded),
    refuseIf (s.remoteConfig.maxAcceptedHtlcs ≤ countPendingHtlcs s .offered)
      (.coded "Max pending HTLCs exceeded" .limitExceeded),
    refuseIf (s.remoteConfig.maxHtlcValueInFlightMsat < totalInFlight)
      (.coded "Max HTLC value in flight exceeded" .limitExceeded),
    refuseIf (getSpendableOutboundMsat s < amountMsat)
      (.coded "Insufficient balance for HTLC" .insufficientBalance),
    (remoteFunderFeeRefusal s [amountMsat]).map fun reason => .coded reason .insufficientBalance,
    refuseIf (isDustHtlc s amountMsat = true ∧ maxDustHtlcExposureMsat < dustExposureMsat s + amountMsat)
      (.coded "Dust HTLC exposure limit exceeded" .limitExceeded),
    if s.localReserveWaived || s.remoteReserveWaived then
      emptied.map fun reason => .coded reason .insufficientBalance
    else none ]

def addHtlc (prim : Primitives) (s : ChannelState) (amountMsat : Nat) (paymentHash : Bytes)
    (cltvExpiry : Nat) (onionRoutingPacket : Bytes) (blindingPoint : Option Bytes)
    (skimmedFeeMsat : Option Nat) : Reply :=
  let entry := offeredEntry s amountMsat paymentHash cltvExpiry onionRoutingPacket blindingPoint
  Verdict.orAccept s
    (refuseIf (∃ fee ∈ skimmedFeeMsat, 0xffffffffffffffff < fee)
        (.answer [.throws "skimmedFeeMsat must fit in u64"]) ::
      validateOutgoingHtlc prim s amountMsat cltvExpiry)
    ⟨(s.offer entry).queueUpdate (.addHtlc entry.id amountMsat paymentHash),
      [.persistState, .sendMessage (.updateAddHtlc
        { id := entry.id
          amountMsat := amountMsat
          paymentHash := paymentHash
          cltvExpiry := cltvExpiry
          onionRoutingPacket := onionRoutingPacket
          blindingPoint := blindingPoint
          skimmedFeeMsat := skimmedFeeMsat })]⟩

section Inbound

variable (prim : Primitives) (s : ChannelState) (msg : UpdateAddHtlc)

def remoteRequiredMsat : Nat :=
  let candidate : List Candidate := [⟨msg.amountMsat, .received⟩]
  s.localConfig.channelReserveSatoshis * 1000 +
    match s.role with
    | .acceptor =>
      max (remoteFunderLocalCostMsat s (getLocalCommitmentFeeRate s false) candidate)
        (remoteFunderLocalCostMsat s (getRemoteCommitmentFeeRate s) candidate)
    | .opener => 0

/-- The HTLC is taken and failed back: as the opener we cannot pay for it above our reserve. -/
def funderFeeFailback : Bool :=
  let sender := funderSenderView s [⟨msg.amountMsat, .received⟩]
  let climbOut := inSplicedClimbOut s = true ∧ 0 < sender.balanceMsat - sender.costMsat
  s.role = .opener ∧ funderHeadroomMsat s sender.balanceMsat < sender.costMsat ∧ ¬ climbOut

/-- Below the dust limit the opener's own output would go, and the channel fails instead. -/
def funderFeeRefusal : Option Verdict :=
  let sender := funderSenderView s [⟨msg.amountMsat, .received⟩]
  let headroom := funderHeadroomMsat s sender.balanceMsat
  let floor := funderConservativeView s [⟨msg.amountMsat, .received⟩]
  let outputFloorMsat := max s.localConfig.dustLimitSatoshis s.remoteConfig.dustLimitSatoshis * 1000
  let outputMsat := s.localBalanceMsat + floor.creditMsat - floor.costMsat
  let wire := "Cannot afford commitment fee for inbound HTLC above channel reserve"
  let balance := s.localBalanceMsat
  let reserve := s.remoteConfig.channelReserveSatoshis
  let senderBalance := sender.balanceMsat
  let senderRate := sender.feeratePerKw
  let senderUntrimmed := sender.untrimmed
  let senderCost := sender.costMsat
  let floorRate := floor.feeratePerKw
  let floorUntrimmed := floor.untrimmed
  let floorCost := floor.costMsat
  let floorCredit := floor.creditMsat
  let amount := msg.amountMsat
  refuseIf (funderFeeFailback s msg = true ∧ outputMsat < outputFloorMsat)
    (.failChannel wire (some (
      s!"{wire}: localBalanceMsat={balance} reserveSats={reserve} " ++
      s!"senderViewBalanceMsat={senderBalance} senderViewHeadroomMsat={headroom} " ++
      s!"senderViewFeeratePerKw={senderRate} senderViewUntrimmedHtlcs={senderUntrimmed} " ++
      s!"senderViewRequiredMsat={senderCost} floorFeeratePerKw={floorRate} " ++
      s!"floorUntrimmedHtlcs={floorUntrimmed} floorRequiredMsat={floorCost} " ++
      s!"floorCreditMsat={floorCredit} outputMsat={outputMsat} " ++
      s!"outputFloorMsat={outputFloorMsat} htlcAmountMsat={amount}")))

def raised (p : Prop) [Decidable p] : Option Bool := if p then some true else none

def receivedEntry : HtlcEntry where
  id := msg.id
  amountMsat := msg.amountMsat
  paymentHash := msg.paymentHash
  cltvExpiry := msg.cltvExpiry
  onionRoutingPacket := msg.onionRoutingPacket
  direction := .received
  state := .pending
  blindingPoint := msg.blindingPoint
  dustExposureFailback := raised (isDustHtlc s msg.amountMsat = true ∧
    maxDustHtlcExposureMsat < dustExposureMsat s + msg.amountMsat)
  expiredOnArrival := raised (0 < s.currentBlockHeight ∧ msg.cltvExpiry ≤ s.currentBlockHeight)
  funderFeeFailback := raised (funderFeeFailback s msg = true)
  addedWhileRestoreUnproven := raised (s.isRecencyUnproven = true ∨ s.restoreRevokedRisk = true)
  addedWhileFundingUnaccounted := raised (s.fundingUnaccounted = true)

def repeatedAdd : Option Verdict :=
  let id := msg.id
  (s.htlcs.get? (.received, msg.id)).map fun existing =>
    if existing.amountMsat = msg.amountMsat ∧ existing.paymentHash = msg.paymentHash ∧
        existing.cltvExpiry = msg.cltvExpiry ∧ existing.onionRoutingPacket = msg.onionRoutingPacket then
      .answer []
    else .fail s!"update_add_htlc reuses id {id} with different contents"

def validateIncomingHtlc : List (Option Verdict) :=
  let cltvExpiry := msg.cltvExpiry
  let totalInFlight := totalInFlightMsat s .received + msg.amountMsat
  let crossedOurShutdown := s.phase = .shuttingDown ∧ s.remoteShutdownScript = none
  let remaining : Int := s.remoteBalanceMsat - msg.amountMsat
  [ refuseIf (s.phase ≠ .normal ∧ ¬ crossedOurShutdown) (.error "Unexpected update_add_htlc"), repeatedAdd s msg,
    refuseIf (s.peerHasSentStfu = true) (.fail "update_add_htlc after your stfu"),
    refuseIf (msg.amountMsat = 0) (.fail "HTLC amount must be greater than 0"),
    refuseIf (msg.amountMsat < s.localConfig.htlcMinimumMsat) (.fail "HTLC amount below our minimum"),
    refuseIf (s.localConfig.maxAcceptedHtlcs ≤ countPendingHtlcs s .received)
      (.fail "Max inbound pending HTLCs exceeded"),
    refuseIf (s.localConfig.maxHtlcValueInFlightMsat < totalInFlight)
      (.fail "Max inbound HTLC value in flight exceeded"),
    refuseIf (remaining < remoteRequiredMsat s msg)
      (.fail "Remote cannot afford HTLC above channel reserve"),
    funderFeeRefusal s msg,
    refuseIf (500000000 ≤ cltvExpiry)
      (.fail s!"HTLC cltv_expiry {cltvExpiry} is not a block height (>= 500000000)"),
    (localCommitmentEmptyRefusal prim s
      { remoteBalanceMsat := some remaining, addedHtlc := some (receivedEntry s msg) }).map .fail ]

def handleUpdateAddHtlc : Reply :=
  Verdict.orAccept s (validateIncomingHtlc prim s msg)
    ⟨s.receive
      { receivedEntry s msg with addLocallyRevoked := some false, addRemotelyRevoked := some false }, []⟩

end Inbound

variable (entry : HtlcEntry) (s : ChannelState) (failureCode : Nat) (prim : Primitives)

def guardRepeatSettle (htlcId : Nat) (intent : HtlcState) : Option Verdict :=
  if entry.state = intent then some (.answer [])
  else
    match entry.state with
    | .fulfilled => some (.error s!"HTLC {htlcId} already fulfilled")
    | .failed => some (.error s!"HTLC {htlcId} already failed")
    | _ => none

def settleHtlc (verb : String) (early : Option Verdict) (htlcId : Nat)
    (intent : HtlcState) (check : HtlcEntry → Option Verdict) (update : PendingUpdate) (msg : Message) : Reply :=
  match s.htlcs.get? (.received, htlcId) with
  | none =>
    Verdict.orAccept s
      [ refuseIf (s.operational = false) (.error s!"Cannot {verb} HTLC: wrong state"),
        refuseIf (s.quiescing = true) (.error s!"Cannot {verb} HTLC: channel is quiescing"),
        early ]
      ((Verdict.error s!"HTLC {htlcId} not found").reply s)
  | some entry =>
    Verdict.orAccept s
      [ refuseIf (s.operational = false) (.error s!"Cannot {verb} HTLC: wrong state"),
        refuseIf (s.quiescing = true) (.error s!"Cannot {verb} HTLC: channel is quiescing"),
        early,
        check entry,
        guardRepeatSettle entry htlcId intent ]
      ⟨(s.settleReceived htlcId intent).queueUpdate update, [.persistState, .sendMessage msg]⟩

def fulfillHtlc (prim : Primitives) (s : ChannelState) (htlcId : Nat) (paymentPreimage : Bytes) : Reply :=
  settleHtlc s "fulfill" none htlcId .fulfilled
    (fun entry => refuseIf (prim.sha256 paymentPreimage ≠ entry.paymentHash)
      (.error "Invalid preimage for HTLC"))
    (.fulfillHtlc htlcId) (.updateFulfillHtlc htlcId paymentPreimage)

def failHtlc (s : ChannelState) (htlcId : Nat) (reason : Bytes) (direction : HtlcDirection) : Reply :=
  settleHtlc s "fail"
    (refuseIf (direction ≠ .received) (.error s!"Cannot fail offered HTLC {htlcId} off-chain"))
    htlcId .failed (fun _ => none) (.failHtlc htlcId) (.updateFailHtlc htlcId reason)

def lacksBadOnion : Bool := failureCode &&& 0x8000 = 0

def failMalformedHtlc (s : ChannelState) (htlcId : Nat) (sha256OfOnion : Bytes) (failureCode : Nat) : Reply :=
  settleHtlc s "fail"
    (refuseIf (lacksBadOnion failureCode = true)
      (.error s!"update_fail_malformed_htlc failure_code {failureCode} lacks BADONION"))
    htlcId .failed (fun _ => none) (.failMalformedHtlc htlcId)
    (.updateFailMalformedHtlc htlcId sha256OfOnion failureCode)

def addNotYetCommitted : Bool :=
  entry.state = .pending || entry.addRemoteCommitted = some false

def handleRemoval (name : String) (early : Option Verdict) (id : Nat)
    (intent : HtlcState) (check : HtlcEntry → Option Verdict) (notice : Notice) : Reply :=
  match s.htlcs.get? (.offered, id) with
  | none =>
    Verdict.orAccept s [refuseIf (s.operational = false) (.error s!"Unexpected {name}"), early]
      ((Verdict.error s!"HTLC {id} not found").reply s)
  | some entry =>
    Verdict.orAccept s
      [ refuseIf (s.operational = false) (.error s!"Unexpected {name}"), early, check entry,
        refuseIf (entry.state = intent) (.answer [notice]),
        refuseIf (addNotYetCommitted entry = true) (.fail s!"{name} for an HTLC not yet committed") ]
      ⟨s.removeOffered id intent, [.notify notice]⟩

def handleUpdateFulfillHtlc (s : ChannelState) (id : Nat) (paymentPreimage : Bytes) : Reply :=
  handleRemoval s "update_fulfill_htlc" none id .fulfilled
    (fun entry => refuseIf (prim.sha256 paymentPreimage ≠ entry.paymentHash)
      (.fail "Invalid preimage for offered HTLC"))
    (.htlcFulfilled id paymentPreimage)

def handleUpdateFailHtlc (id : Nat) (reason : Bytes) : Reply :=
  handleRemoval s "update_fail_htlc" none id .failed (fun _ => none) (.htlcFailed id reason none)

def malformedReason : Bytes :=
  [Fin.ofNat 256 (failureCode / 256), Fin.ofNat 256 failureCode, 0, 0]

def handleUpdateFailMalformedHtlc (id : Nat) (failureCode : Nat) : Reply :=
  handleRemoval s "update_fail_malformed_htlc"
    (refuseIf (lacksBadOnion failureCode = true)
      (.fail "update_fail_malformed_htlc: failure_code missing BADONION bit"))
    id .failed (fun _ => none) (.htlcFailed id (malformedReason failureCode) (some failureCode))

def minFeeratePerKw : Nat := 253
def maxFeeratePerKw : Nat := 100000

def validateOwnFee (s : ChannelState) (feeratePerKw : Nat) : List (Option Verdict) :=
  let newCost := funderCommitmentCostSats feeratePerKw (countActiveHtlcs s) s.channelType
  let headroomMsat := funderHeadroomMsat s s.localBalanceMsat
  [ refuseIf (s.phase ≠ .normal) (.coded "Cannot update fee: wrong state" .wrongState),
    refuseIf (s.role ≠ .opener) (.coded "Only opener can update fee" .notPermitted),
    refuseIf (s.quiescing = true) (.coded "Cannot update fee: channel is quiescing" .wrongState),
    refuseIf (feeratePerKw < minFeeratePerKw)
      (.coded "Fee rate below minimum relay fee (253 sat/kw)" .invalidParams),
    refuseIf (maxFeeratePerKw < feeratePerKw)
      (.coded "Fee rate above absolute maximum (100000 sat/kw)" .invalidParams),
    refuseIf (headroomMsat < newCost * 1000)
      (.coded "Fee rate would drain opener below channel reserve" .insufficientBalance),
    refuseIf (maxDustHtlcExposureMsat < dustExposureAtRateMsat s feeratePerKw)
      (.coded ("update_fee would raise dust HTLC exposure above limit " ++
        "(in-flight HTLCs would be trimmed)") .limitExceeded),
    refuseIf (s.pendingFeeratePerKw.isSome = true ∧ s.pendingFeerateCommitted = true)
      (.coded "Previous fee update still committing" .wrongState),
    (localCommitmentEmptyRefusal prim s { pendingFeeratePerKw := some feeratePerKw }).map
      fun reason => .coded reason .insufficientBalance ]

def updateFee (prim : Primitives) (s : ChannelState) (feeratePerKw : Nat) : Reply :=
  Verdict.orAccept s (validateOwnFee prim s feeratePerKw)
    ⟨(s.stageFee feeratePerKw).queueUpdate (.fee feeratePerKw),
      [.persistState, .sendMessage (.updateFee feeratePerKw)]⟩

def currentPeerRate : Nat :=
  let committed := s.remoteConfig.feeratePerKw
  max (s.pendingFeeratePerKw.getD 0) (if committed = 0 then minFeeratePerKw else committed)

def validatePeerFee (s : ChannelState) (feeratePerKw : Nat) : List (Option Verdict) :=
  let newCostMsat := remoteFunderLocalCostMsat s feeratePerKw []
  let headroomMsat := remoteFunderHeadroomMsat s s.remoteBalanceMsat
  [ refuseIf (s.operational = false) (.error "Unexpected update_fee"),
    refuseIf (s.role ≠ .acceptor) (.fail "Only opener can send update_fee"),
    refuseIf (feeratePerKw < minFeeratePerKw) (.fail "Fee rate below minimum relay fee (253 sat/kw)"),
    refuseIf (maxFeeratePerKw < feeratePerKw) (.fail "Fee rate above absolute maximum (100000 sat/kw)"),
    refuseIf (currentPeerRate s * 10 < feeratePerKw)
      (.fail "Fee rate unreasonably high (>10x current rate)"),
    refuseIf (headroomMsat < newCostMsat) (.fail "Fee rate would drain opener below channel reserve"),
    refuseIf (maxDustHtlcExposureMsat < dustExposureAtRateMsat s feeratePerKw)
      (.fail ("update_fee would raise dust HTLC exposure above limit " ++ "(in-flight HTLCs would be trimmed)")),
    (localCommitmentEmptyRefusal prim s { pendingFeeratePerKw := some feeratePerKw }).map .fail ]

def handleUpdateFee (s : ChannelState) (feeratePerKw : Nat) : Reply :=
  Verdict.orAccept s (validatePeerFee prim s feeratePerKw) ⟨s.stagePeerFee feeratePerKw, []⟩

section Outcomes

variable (prim : Primitives) (s : ChannelState)

theorem addHtlc_cases (amountMsat : Nat) (paymentHash : Bytes) (cltvExpiry : Nat)
    (onion : Bytes) (blinding : Option Bytes) (skimmed : Option Nat) :
    let r := addHtlc prim s amountMsat paymentHash cltvExpiry onion blinding skimmed
    let entry := offeredEntry s amountMsat paymentHash cltvExpiry onion blinding
    r.Unchanged s ∨ r.Failed s ∨ s.phase = .normal ∧ (amountMsat : Int) ≤ getSpendableOutboundMsat s ∧
        r.state = (s.offer entry).queueUpdate (.addHtlc entry.id amountMsat paymentHash) ∧
        r.sent = [.updateAddHtlc
          ⟨s.localHtlcCounter, amountMsat, paymentHash, cltvExpiry, onion, blinding, skimmed⟩] := by
  intro r entry
  refine (orAccept_cases s _ _).imp_right (.imp_right fun ⟨silent, accepted⟩ => ?_)
  simp only [validateOutgoingHtlc, List.mem_cons, forall_eq_or_imp, refuseIf_eq_none, ne_eq,
    not_not, not_lt] at silent
  obtain ⟨-, -, -, phase, -, -, -, -, -, -, -, -, affordable, -⟩ := silent
  exact ⟨phase, affordable, congrArg state accepted, congrArg sent accepted⟩

def incomingEntry (msg : UpdateAddHtlc) : HtlcEntry :=
  { receivedEntry s msg with addLocallyRevoked := some false, addRemotelyRevoked := some false }

theorem handleUpdateAddHtlc_cases (msg : UpdateAddHtlc) :
    let r := handleUpdateAddHtlc prim s msg
    r.Unchanged s ∧ (s.phase ≠ .normal ∨ ∃ e, s.htlcs.get? (.received, msg.id) = some e) ∨ r.Failed s ∨
      s.operational = true ∧ s.htlcs.get? (.received, msg.id) = none ∧
        (remoteRequiredMsat s msg : Int) ≤ s.remoteBalanceMsat - msg.amountMsat ∧
        r.state = s.receive (incomingEntry s msg) ∧ r.sent = [] := by
  intro r
  have why : ∀ check ∈ validateIncomingHtlc prim s msg, FailsOnly check ∨
      (check ≠ none → s.phase ≠ .normal ∨ ∃ e, s.htlcs.get? (.received, msg.id) = some e) := by
    simp only [validateIncomingHtlc, List.forall_mem_singleton, List.forall_mem_cons, fail,
      Verdict.failsOnly_refuseIf_fail, funderFeeRefusal, true_or, true_and]
    refine ⟨.inr fun spoken => ?_, .inr fun spoken => ?_, Verdict.failsOnly_map_fail _ |> .inl⟩
    · rw [ne_eq, refuseIf_eq_none, not_not] at spoken
      exact .inl spoken.1
    · simp only [repeatedAdd, ne_eq, Option.map_eq_none_iff] at spoken
      exact .inr (Option.ne_none_iff_exists'.mp spoken)
  refine (orAccept_because s _ _ why).imp_right (.imp_right fun ⟨silent, accepted⟩ => ?_)
  simp only [validateIncomingHtlc, List.forall_mem_singleton, List.forall_mem_cons, refuseIf_eq_none, repeatedAdd,
    Option.map_eq_none_iff, not_lt] at silent
  obtain ⟨phase, fresh, -, -, -, -, -, affordable, -⟩ := silent
  have operational : s.operational = true := by
    by_cases normal : s.phase = .normal
    · simp [ChannelState.operational, normal]
    · have crossed := not_not.mp fun straight => phase ⟨normal, straight⟩
      simp [ChannelState.operational, crossed.1]
  exact ⟨operational, fresh, affordable, congrArg state accepted, congrArg sent accepted⟩

theorem guardRepeatSettle_eq_none {entry : HtlcEntry} {htlcId : Nat} {intent : HtlcState}
    (silent : guardRepeatSettle entry htlcId intent = none) : entry.state.live = true := by
  unfold guardRepeatSettle at silent
  split at silent
  · cases silent
  · cases state : entry.state <;> simp_all [HtlcState.live]

theorem settleHtlc_cases (verb : String) (early : Option Verdict) (htlcId : Nat)
    (intent : HtlcState) (check : HtlcEntry → Option Verdict) (update : PendingUpdate) (msg : Message) :
    let r := settleHtlc s verb early htlcId intent check update msg
    r.Unchanged s ∨ r.Failed s ∨ ∃ entry,
      s.operational = true ∧ s.htlcs.get? (.received, htlcId) = some entry ∧ entry.state.live = true ∧
        r.state = (s.settleReceived htlcId intent).queueUpdate update ∧ r.sent = [msg] := by
  intro r
  simp only [r, settleHtlc]
  cases found : s.htlcs.get? (.received, htlcId) with
  | none =>
    rcases orAccept_cases s _ _ with unchanged | failed | ⟨-, missing⟩
    · exact .inl unchanged
    · exact .inr (.inl failed)
    · rw [missing]
      exact .inl ⟨rfl, rfl⟩
  | some entry =>
    refine (orAccept_cases s _ _).imp_right (.imp_right fun both => ?_)
    obtain ⟨silent, accepted⟩ := both
    simp only [List.forall_mem_singleton, List.forall_mem_cons, refuseIf_eq_none, Bool.not_eq_false] at silent
    exact ⟨entry, silent.1, rfl, guardRepeatSettle_eq_none silent.2.2.2.2,
      congrArg state accepted, congrArg sent accepted⟩

theorem handleRemoval_cases (name : String) {early : Option Verdict} (id : Nat) (intent : HtlcState)
    {check : HtlcEntry → Option Verdict} (notice : Notice) (strict : FailsOnly early)
    (strict' : ∀ e, FailsOnly (check e)) :
    let r := handleRemoval s name early id intent check notice
    r.Unchanged s ∧ (s.operational = false ∨ s.htlcs.get? (.offered, id) = none ∨
        ∃ e, s.htlcs.get? (.offered, id) = some e ∧ e.state = intent) ∨
      r.Failed s ∨ ∃ entry, s.operational = true ∧ s.htlcs.get? (.offered, id) = some entry ∧ early = none ∧
          check entry = none ∧ entry.state ≠ intent ∧ addNotYetCommitted entry = false ∧
          r.state = s.removeOffered id intent ∧ r.sent = [] := by
  intro r
  simp only [r, handleRemoval]
  cases found : s.htlcs.get? (.offered, id) with
  | none =>
    rcases orAccept_cases s _ _ with unchanged | failed | ⟨-, missing⟩
    · exact .inl ⟨unchanged, .inr (.inl rfl)⟩
    · exact .inr (.inl failed)
    · rw [missing]
      exact .inl ⟨⟨rfl, rfl⟩, .inr (.inl rfl)⟩
  | some entry =>
    have why : ∀ check' ∈ [refuseIf (s.operational = false) (.error s!"Unexpected {name}"), early,
        check entry, refuseIf (entry.state = intent) (.answer [notice]),
        refuseIf (addNotYetCommitted entry = true) (.fail s!"{name} for an HTLC not yet committed")],
        FailsOnly check' ∨ (check' ≠ none → s.operational = false ∨ some entry = none ∨
          ∃ e, some entry = some e ∧ e.state = intent) := by
      simp only [List.forall_mem_singleton, List.forall_mem_cons, strict,
        strict' entry, fail, Verdict.failsOnly_refuseIf_fail, true_or, true_and, and_true,
        ne_eq, refuseIf_eq_none, not_not]
      exact ⟨.inr .inl, .inr fun same => .inr (.inr ⟨entry, rfl, same⟩)⟩
    refine (orAccept_because s _ _ why).imp_right (.imp_right fun ⟨silent, accepted⟩ => ?_)
    simp only [List.forall_mem_singleton, List.forall_mem_cons,
      refuseIf_eq_none, Bool.not_eq_false, Bool.not_eq_true] at silent
    obtain ⟨operational, early, checked, other, committed⟩ := silent
    exact ⟨entry, operational, rfl, early, checked, other, committed, congrArg state accepted, congrArg sent accepted⟩

theorem updateFee_cases (rate : Nat) :
    let r := updateFee prim s rate
    r.Unchanged s ∨ r.Failed s ∨ s.phase = .normal ∧ s.role = .opener ∧
        ¬ (s.pendingFeeratePerKw.isSome = true ∧ s.pendingFeerateCommitted = true) ∧
        r.state = (s.stageFee rate).queueUpdate (.fee rate) ∧ r.sent = [.updateFee rate] := by
  intro r
  refine (orAccept_cases s _ _).imp_right (.imp_right fun ⟨silent, accepted⟩ => ?_)
  simp only [validateOwnFee, List.forall_mem_singleton, List.forall_mem_cons,
    refuseIf_eq_none, ne_eq, not_not] at silent
  obtain ⟨phase, role, -, -, -, -, -, uncommitted, -⟩ := silent
  exact ⟨phase, role, uncommitted, congrArg state accepted, congrArg sent accepted⟩

theorem handleUpdateFee_cases (rate : Nat) :
    let r := handleUpdateFee prim s rate
    r.Unchanged s ∧ s.operational = false ∨ r.Failed s ∨
      s.operational = true ∧ s.role = .acceptor ∧ r.state = s.stagePeerFee rate ∧ r.sent = [] := by
  intro r
  have why : ∀ check ∈ validatePeerFee prim s rate,
      FailsOnly check ∨ (check ≠ none → s.operational = false) := by
    simp only [validatePeerFee, List.forall_mem_singleton, List.forall_mem_cons,
      fail, Verdict.failsOnly_refuseIf_fail, true_or, true_and, ne_eq, refuseIf_eq_none, not_not]
    exact ⟨.inr id, .inl (Verdict.failsOnly_map_fail _)⟩
  refine (orAccept_because s _ _ why).imp_right (.imp_right fun both => ?_)
  obtain ⟨silent, accepted⟩ := both
  simp only [validatePeerFee, List.forall_mem_singleton, List.forall_mem_cons,
    refuseIf_eq_none, ne_eq, not_not, Bool.not_eq_false] at silent
  exact ⟨silent.1, silent.2.1, congrArg state accepted, congrArg sent accepted⟩

end Outcomes

end Beignet.Channel
