import Beignet.Splice.Driver

namespace Beignet.Splice

open Beignet.Data Beignet.Channel

/-! The updates of the window between `tx_signatures` and the lock. Each goes onto the commitments of
    both funding outputs, so each must be affordable on both. -/

namespace SplicingChannel

section Policy

variable (env : SpliceEnv) (c : SplicingChannel) (record : SpliceInFlight) (balanceMsat : Int)
  (msg : UpdateAddHtlc)

def getPendingSpliceLocalBalanceMsat : Int :=
  match c.splicedState env c.live with
  | some spliced => spliced.localBalanceMsat
  | none => c.live.localBalanceMsat + record.terms.localRelativeSatoshis * 1000

def pendingCapacity : Nat :=
  ((c.splicedState env c.live).map ChannelState.fundingSatoshis).getD record.newFundingSatoshis

def pendingSpliceKeptReserveSats : Nat :=
  if c.live.localReserveWaived then 0
  else max c.live.remoteConfig.channelReserveSatoshis
    (reserveWeKeep (c.pendingCapacity env record) c.live.localConfig.dustLimitSatoshis
      c.live.remoteConfig.dustLimitSatoshis c.live)

/-- `funderHeadroomMsat`, on the output that leaves less. -/
def pendingFunderHeadroomMsat : Int :=
  min (funderHeadroomMsat c.live balanceMsat)
    (c.getPendingSpliceLocalBalanceMsat env record + (balanceMsat - c.live.localBalanceMsat) -
      c.pendingSpliceKeptReserveSats env record * 1000)

/-- `remoteFunderHeadroomMsat`, on the output that leaves less. -/
def pendingRemoteFunderHeadroomMsat : Int :=
  let pendingMsat := match c.splicedState env c.live with
    | some spliced => spliced.remoteBalanceMsat
    | none => record.newFundingSatoshis * 1000 - c.getPendingSpliceLocalBalanceMsat env record -
        (c.live.htlcs.values.map fun e => (e.amountMsat : Int)).sum
  let reserveSats := if c.live.remoteReserveWaived then 0
    else max c.live.localConfig.channelReserveSatoshis
      (v2ReserveWeKeep (c.pendingCapacity env record) c.live.remoteConfig.dustLimitSatoshis
        c.live.localConfig.dustLimitSatoshis)
  min (remoteFunderHeadroomMsat c.live balanceMsat)
    (pendingMsat + (balanceMsat - c.live.remoteBalanceMsat) - reserveSats * 1000)

def pendingRemoteFunderFeeRefusal (amounts : List Nat) : Option String :=
  let view := remoteFunderSenderView c.live (amounts.map fun amountMsat => ⟨amountMsat, .offered⟩) 1
  refuseIf (c.live.role = .acceptor ∧ c.pendingRemoteFunderHeadroomMsat env record view.balanceMsat < view.costMsat)
    "Remote funder cannot afford commitment fee for HTLC"

def pendingRemoteFunderCeilingMsat (spendableMsat : Int) : Int :=
  let s := c.live
  let current := remoteFunderSenderView s [] 0
  let headroomMsat := c.pendingRemoteFunderHeadroomMsat env record current.balanceMsat
  let secondLevelFee :=
    secondLevelFeeSats (isAnchorChannel s.channelType) current.feeratePerKw .received
  let trimmedCapMsat : Int := (s.remoteConfig.dustLimitSatoshis + secondLevelFee) * 1000 - 1
  if s.role ≠ .acceptor then spendableMsat
  else if funderCostMsat s current.feeratePerKw (current.untrimmed + 2) ≤ headroomMsat then
    spendableMsat
  else if headroomMsat < current.costMsat then 0
  else min trimmedCapMsat spendableMsat

def spendableFor (s : ChannelState) (localMsat : Int) (keptReserveSats : Nat) : Int :=
  let reserveSats := if s.localReserveWaived then 0 else max keptReserveSats s.localConfig.dustLimitSatoshis
  let feeratePerKw := max (getLocalCommitmentFeeRate s false) (getRemoteCommitmentFeeRate s)
  let feeSats := match s.role with
    | .opener => funderCommitmentCostSats (feeratePerKw * 2) (countActiveHtlcs s + 2) s.channelType
    | .acceptor => 0
  max (localMsat - (reserveSats + feeSats) * 1000) 0

/-- `getSpendableOutboundMsat` while a splice awaits its depth. -/
def pendingSpendableOutboundMsat : Int :=
  c.pendingRemoteFunderCeilingMsat env record
    (min (spendableFor c.live c.live.localBalanceMsat c.live.remoteConfig.channelReserveSatoshis)
      (spendableFor c.live (c.getPendingSpliceLocalBalanceMsat env record)
        (c.pendingSpliceKeptReserveSats env record)))

def pendingFunderFeeFailback : Bool :=
  let sender := funderSenderView c.live [⟨msg.amountMsat, .received⟩]
  let climbOut := inSplicedClimbOut c.live = true ∧ 0 < sender.balanceMsat - sender.costMsat
  c.live.role = .opener ∧ c.pendingFunderHeadroomMsat env record sender.balanceMsat < sender.costMsat ∧ ¬ climbOut

/-- The text of the failure for the log is that of the live commitment. -/
def pendingFunderFeeRefusal : Option Verdict :=
  let s := c.live
  let floor := funderConservativeView s [⟨msg.amountMsat, .received⟩]
  let outputFloorMsat := max s.localConfig.dustLimitSatoshis s.remoteConfig.dustLimitSatoshis * 1000
  let balanceFloorMsat := min s.localBalanceMsat (c.getPendingSpliceLocalBalanceMsat env record)
  refuseIf (c.pendingFunderFeeFailback env record msg = true ∧
      balanceFloorMsat + floor.creditMsat - floor.costMsat < outputFloorMsat)
    (.fail "Cannot afford commitment fee for inbound HTLC above channel reserve")

/-- The half of `localCommitmentEmptyRefusal` that looks at the new output. -/
def pendingEmptyRefusal (overrides : UpdateOverrides) : Option String :=
  let waived := c.live.localReserveWaived || c.live.remoteReserveWaived
  let next := c.live.localCommitmentNumber + 1
  let refusal := emptyRefusal env.prim waived c.live.localConfig.dustLimitSatoshis
    (getPerCommitmentPoint env.prim c.live.localPerCommitmentSeed next) next
  match c.splicedState env (overrides.candidate c.live) with
  | none =>
    refuseIf (waived = true) "Cannot verify the pending-splice commitments until restoration completes"
  | some spliced =>
    let capacity := spliced.fundingSatoshis
    firstRefusal [
      refuseIf (spliced.localBalanceMsat < 0 ∨ spliced.remoteBalanceMsat < 0)
        s!"Update would overdraw the {capacity}-sat pending-splice capacity",
      refusal spliced "pending-splice commitment",
      match waived, overrides.pendingFeeratePerKw with
      | true, some rate =>
        refusal
          { spliced with
            localConfig := { spliced.localConfig with feeratePerKw := rate }
            remoteConfig := { spliced.remoteConfig with feeratePerKw := rate }
            pendingFeeratePerKw := none }
          "pending-splice commitment after the fee update commits"
      | _, _ => none]

end Policy

section Updates

variable (env : SpliceEnv) (c : SplicingChannel) (s : ChannelState) (record : SpliceInFlight)
  (input : ChannelInput)

/-- While the splice awaits its depth the update handlers take the channel for an open one. -/
def shown : ChannelState :=
  { s with phase := if s.phase = .splicing then .normal else s.phase }

def hidden : ChannelState :=
  { s with phase := if s.phase = .normal then .splicing else s.phase }

def liveChecks : ChannelInput → List (Option Verdict)
  | .addHtlc amount _ cltv _ _ _ => validateOutgoingHtlc env.prim (shown c.live) amount cltv
  | .receive (.updateAddHtlc msg) => validateIncomingHtlc env.prim (shown c.live) msg
  | .updateFee rate => validateOwnFee env.prim (shown c.live) rate
  | .receive (.updateFee rate) => validatePeerFee env.prim (shown c.live) rate
  | _ => []

def pendingChecks : ChannelInput → List (Option Verdict)
  | .addHtlc amount _ cltv _ _ _ =>
    let s := c.live
    let emptied := c.pendingEmptyRefusal env
      { localBalanceMsat := some (s.localBalanceMsat - amount)
        addedHtlc := some
          { id := s.localHtlcCounter
            amountMsat := amount
            paymentHash := List.replicate 32 0
            cltvExpiry := cltv
            onionRoutingPacket := []
            direction := .offered
            state := .pending } }
    [ refuseIf (c.pendingSpendableOutboundMsat env record < amount)
        (.coded "Insufficient balance for HTLC" .insufficientBalance),
      (c.pendingRemoteFunderFeeRefusal env record [amount]).map fun reason =>
        .coded reason .insufficientBalance,
      if s.localReserveWaived || s.remoteReserveWaived then
        emptied.map fun reason => .coded reason .insufficientBalance
      else none ]
  | .receive (.updateAddHtlc msg) =>
    [ c.pendingFunderFeeRefusal env record msg, (c.pendingEmptyRefusal env
        { remoteBalanceMsat := some (c.live.remoteBalanceMsat - msg.amountMsat)
          addedHtlc := some (receivedEntry c.live msg) }).map .fail ]
  | .updateFee rate =>
    let newCost := funderCommitmentCostSats rate (countActiveHtlcs c.live) c.live.channelType
    [ refuseIf (c.pendingFunderHeadroomMsat env record c.live.localBalanceMsat < newCost * 1000)
        (.coded "Fee rate would drain opener below channel reserve" .insufficientBalance),
      (c.pendingEmptyRefusal env { pendingFeeratePerKw := some rate }).map fun reason =>
        .coded reason .insufficientBalance ]
  | .receive (.updateFee rate) =>
    [(c.pendingEmptyRefusal env { pendingFeeratePerKw := some rate }).map .fail]
  | _ => []

/-- Where checks of both kinds refuse, those of the current output speak. -/
def pendingRefusal : Option Verdict :=
  if firstRefusal (c.liveChecks env input) ≠ none then none
  else firstRefusal (c.pendingChecks env record input)

/-- An HTLC that came in is failed back when it is unaffordable on either output. -/
def markFailback (next : ChannelState) : ChannelInput → ChannelState
  | .receive (.updateAddHtlc msg) =>
    if c.live.htlcs.has (.received, msg.id) then next
    else
      { next with
        htlcs := next.htlcs.modify (.received, msg.id)
          (fun e => { e with
            funderFeeFailback := raised (c.pendingFunderFeeFailback env record msg = true) })
          fun _ => rfl }
  | _ => next

/-- The peer's signatures and the end of a connection have handlers of their own. -/
def isUpdate : ChannelInput → Bool
  | .receive (.commitmentSigned _) | .disconnect | .resume => false
  | _ => true

def liveReply (reply : Reply) : Outcome := ({ c with live := reply.state }, reply.actions.map .channel)

def isOwnSignature : ChannelInput → Bool
  | .signCommitment _ _ _ => true
  | _ => false

def updateChannel : Outcome :=
  if isUpdate input = false then (c, [])
  else
    match c.isSplicePendingLock, c.spliceInFlight with
    | true, some record =>
      -- In the window our signature goes out in a batch.
      if isOwnSignature input then (c, [])
      else
        match c.pendingRefusal env record input with
        | some verdict => c.liveReply (verdict.reply c.live)
        | none =>
          let reply := (shown c.live).step env.prim env.ver input
          c.liveReply { reply with state := c.markFailback env record (hidden reply.state) input }
    | _, _ => c.liveReply (c.live.step env.prim env.ver input)

def signCommitmentBatch (signature : Bytes) (htlcSignatures : List Bytes) : Outcome :=
  let number := c.live.remoteCommitmentNumber + 1
  match c.spliceInFlight, c.splicedState env c.live, nextSignedPoint c.live with
  | some record, some spliced, some point =>
    if c.isSplicePendingLock = false then (c, [.error "Cannot sign commitment: wrong state"])
    else
      match funderOutputTrimmedRefusal env.prim spliced .remoteSide point number,
        buildRemoteCommitment env.prim spliced point number with
      | some trimmed, _ => c.failChannel trimmed
      | none, none => (c, [.throws])
      | none, some commitment =>
        let reply := Channel.signCommitment env.prim (shown c.live) signature htlcSignatures none
        let current := FundedCommitmentSigned.mk ⟨signature, htlcSignatures, none⟩ c.live.fundingTxid
        let splice := FundedCommitmentSigned.mk (env.signBuiltCommitment commitment) (some record.spliceTxid)
        let next := { c with live := hidden reply.state }
        if failedReply reply then (next, reply.actions.map .channel)
        else (next, [.persistState, .sendBatch current splice])
  | _, _, _ => (c, [.error "Cannot sign commitment: pending splice requires a commitment batch"])

end Updates

end SplicingChannel

end Beignet.Splice
