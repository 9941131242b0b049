import Beignet.Channel.Opening

namespace Beignet.Channel

open Beignet.Data

/-! The refusals are those of a channel with no splice pending, so only the live commitments count. -/

def maxDustHtlcExposureMsat : Nat := 5000000

section Dust

variable (s : ChannelState) (direction : HtlcDirection)

def isDustHtlcAtRate (amountMsat feeratePerKw : Nat) : Bool :=
  let dustLimitSats := max s.localConfig.dustLimitSatoshis s.remoteConfig.dustLimitSatoshis
  let secondLevelFee := secondLevelFeeSats (isAnchorChannel s.channelType) feeratePerKw .received
  amountMsat < (dustLimitSats + secondLevelFee) * 1000

def isDustHtlc (amountMsat : Nat) : Bool := isDustHtlcAtRate s amountMsat (getCommitmentFeeRate s false)

def dustExposureAtRateMsat (feeratePerKw : Nat) : Nat :=
  ((s.htlcs.values.filter fun e =>
    e.state.live && isDustHtlcAtRate s e.amountMsat feeratePerKw).map HtlcEntry.amountMsat).sum

def dustExposureMsat : Nat := dustExposureAtRateMsat s (getCommitmentFeeRate s false)

def countActiveHtlcs : Nat := s.htlcs.values.countP fun e => e.state.live

def countPendingHtlcs : Nat :=
  s.htlcs.values.countP fun e => e.direction = direction && e.state.live

def totalInFlightMsat : Nat :=
  ((s.htlcs.values.filter fun e =>
    e.direction = direction && e.state.live).map HtlcEntry.amountMsat).sum

end Dust

abbrev HtlcRow := Nat × HtlcDirection

def HtlcEntry.row (entry : HtlcEntry) : HtlcRow := (entry.amountMsat / 1000, entry.direction)

variable (s : ChannelState) (e : HtlcEntry) (candidates : List Candidate)

def countUntrimmedRows (rows : List HtlcRow) (dustLimitSats feeratePerKw : Nat) : Nat :=
  (filterUntrimmedHtlcs Prod.fst Prod.snd rows dustLimitSats feeratePerKw
    (isAnchorChannel s.channelType)).length

def funderCostMsat (feeratePerKw untrimmed : Nat) : Nat :=
  funderCommitmentCostSats feeratePerKw untrimmed s.channelType * 1000

structure Candidate where
  amountMsat : Nat
  direction : HtlcDirection

def Candidate.row (c : Candidate) : HtlcRow := (c.amountMsat / 1000, c.direction)

def remoteFunderLocalCostMsat (feeratePerKw : Nat) (candidates : List Candidate) : Nat :=
  let rows := (s.htlcs.values.filter fun e => e.state.live).map HtlcEntry.row ++ candidates.map Candidate.row
  funderCostMsat s feeratePerKw
    (countUntrimmedRows s rows s.localConfig.dustLimitSatoshis feeratePerKw)

structure FunderView where
  balanceMsat : Int
  untrimmed : Nat
  feeratePerKw : Nat
  costMsat : Nat

/-- Offered adds the peer has not committed and failed removals count as balance again. -/
def senderReturnsToUs : Bool :=
  e.direction = .offered &&
    ((e.state.live && e.addRemoteCommitted = some false) || e.state = .failed)

def senderHasRow : Bool :=
  match e.direction with
  | .offered => e.state.live && e.addRemoteCommitted ≠ some false
  | .received => e.state.live || e.removalRemoteCommitted = some false

def funderSenderView : FunderView :=
  let returned := ((s.htlcs.values.filter senderReturnsToUs).map HtlcEntry.amountMsat).sum
  let rows := (s.htlcs.values.filter senderHasRow).map HtlcEntry.row ++ candidates.map Candidate.row
  let feeratePerKw := getLocalCommitmentFeeRate s false
  let untrimmed := countUntrimmedRows s rows s.localConfig.dustLimitSatoshis feeratePerKw
  { balanceMsat := s.localBalanceMsat + returned
    untrimmed := untrimmed
    feeratePerKw := feeratePerKw
    costMsat := funderCostMsat s feeratePerKw untrimmed }

structure ConservativeView where
  untrimmed : Nat
  feeratePerKw : Nat
  costMsat : Nat
  creditMsat : Nat

def conservativelyPresent : Bool :=
  e.state.live ||
    match e.direction with
    | .received => e.removalRemoteCommitted = some false
    | .offered => e.removalLocallyRevoked = some false

def funderConservativeView : ConservativeView :=
  let rows := (s.htlcs.values.filter conservativelyPresent).map HtlcEntry.row ++ candidates.map Candidate.row
  let credited := s.htlcs.values.filter fun e =>
    !conservativelyPresent e && e.direction = .offered && e.state = .failed
  let creditMsat := (credited.map HtlcEntry.amountMsat).sum
  let dustLimitSats := min s.localConfig.dustLimitSatoshis s.remoteConfig.dustLimitSatoshis
  let priceAt (feeratePerKw : Nat) : ConservativeView :=
    let untrimmed := countUntrimmedRows s rows dustLimitSats feeratePerKw
    ⟨untrimmed, feeratePerKw, funderCostMsat s feeratePerKw untrimmed, creditMsat⟩
  let held := priceAt (getLocalCommitmentFeeRate s false)
  let signed := priceAt (getRemoteCommitmentFeeRate s)
  if signed.feeratePerKw = held.feeratePerKw then held
  else if held.costMsat < signed.costMsat then signed
  else held

def inSplicedClimbOut (view : ChannelState) : Bool := view.hasBeenSpliced && view.htlcs.size < 5

inductive CommitmentSide where
  | localSide
  | remoteSide
  deriving DecidableEq, Repr

namespace CommitmentSide

def feeRate (view : ChannelState) : CommitmentSide → Nat
  | localSide => getLocalCommitmentFeeRate view false
  | remoteSide => getRemoteCommitmentFeeRate view

def dustLimit (view : ChannelState) : CommitmentSide → Nat
  | localSide => view.localConfig.dustLimitSatoshis
  | remoteSide => view.remoteConfig.dustLimitSatoshis

def build (prim : Primitives) (view : ChannelState) (point : Bytes) (number : Nat) :
    CommitmentSide → Option BuiltCommitment
  | localSide => buildLocalCommitment prim view point number false
  | remoteSide => buildRemoteCommitment prim view point number

def ourOutput : CommitmentSide → OutputKind
  | localSide => .toLocal
  | remoteSide => .toRemote

end CommitmentSide

variable (prim : Primitives) (e : HtlcEntry) (s : ChannelState) (view : ChannelState) (balanceMsat : Int)

/-- Nothing is refused of an acceptor, of a channel without funding, and of one that cannot build. -/
def funderOutputTrimmedRefusal (side : CommitmentSide)
    (perCommitmentPoint : Bytes) (commitmentNumber : Nat) : Option String :=
  let balanceSats := view.localBalanceMsat.tdiv 1000
  if view.role ≠ .opener ∨ view.remoteBasepoints.isNone ∨ view.fundingTxid.isNone then none
  else if view.localReserveWaived = false ∧ balanceSats < side.dustLimit view then none
  else
    match side.build prim view perCommitmentPoint commitmentNumber with
    | none => none
    | some built =>
      if built.tx.hasOutput side.ourOutput then none
      else
        let feeSats :=
          funderCommitmentCostSats (side.feeRate view) built.htlcOutputs.length view.channelType
        let funderSats :=
          if view.localReserveWaived then built.funderBalanceMsat.tdiv 1000 else balanceSats
        if (view.localReserveWaived = true ∨ inSplicedClimbOut view = true) ∧
            feeSats ≤ funderSats ∧ built.tx.outs ≠ [] then none
        else some "Commitment would trim our output to fees"

def returnsToRemoteFunder : Bool :=
  match e.direction with
  | .received => (e.state.live && e.addLocallyRevoked = some false) || e.state = .failed
  | .offered => e.state = .fulfilled && e.removalLocallyRevoked ≠ some false

def remoteFunderHasRow : Bool :=
  match e.direction with
  | .received => e.state.live && e.addLocallyRevoked ≠ some false
  | .offered => e.state.live || e.removalLocallyRevoked = some false

def HtlcRow.onFunder (row : HtlcRow) : HtlcRow := (row.1, row.2.flip)

def remoteFunderSenderView (candidates : List Candidate) (extraSlots : Nat) : FunderView :=
  let returned := ((s.htlcs.values.filter returnsToRemoteFunder).map HtlcEntry.amountMsat).sum
  let rows := (s.htlcs.values.filter remoteFunderHasRow).map fun e => HtlcRow.onFunder e.row
  let candidateRows := candidates.map fun c => HtlcRow.onFunder c.row
  let feeratePerKw := getRemoteCommitmentFeeRate s
  let dustLimitSats := s.remoteConfig.dustLimitSatoshis
  let untrimmedCandidates := countUntrimmedRows s candidateRows dustLimitSats feeratePerKw
  let untrimmed := countUntrimmedRows s rows dustLimitSats feeratePerKw + untrimmedCandidates +
    if 0 < untrimmedCandidates then extraSlots else 0
  { balanceMsat := s.remoteBalanceMsat + returned
    untrimmed := untrimmed
    feeratePerKw := feeratePerKw
    costMsat := funderCostMsat s feeratePerKw untrimmed }

def funderHeadroomMsat : Int :=
  balanceMsat - s.remoteConfig.channelReserveSatoshis * 1000

def remoteFunderHeadroomMsat : Int :=
  balanceMsat - s.localConfig.channelReserveSatoshis * 1000

def remoteFunderFeeRefusal (amounts : List Nat) : Option String :=
  let view := remoteFunderSenderView s (amounts.map fun amountMsat => ⟨amountMsat, .offered⟩) 1
  refuseIf (s.role = .acceptor ∧ remoteFunderHeadroomMsat s view.balanceMsat < view.costMsat)
    "Remote funder cannot afford commitment fee for HTLC"

def remoteFunderCeilingMsat (spendableMsat : Int) : Int :=
  let current := remoteFunderSenderView s [] 0
  let headroomMsat := remoteFunderHeadroomMsat s current.balanceMsat
  let secondLevelFee :=
    secondLevelFeeSats (isAnchorChannel s.channelType) current.feeratePerKw .received
  let trimmedCapMsat : Int := (s.remoteConfig.dustLimitSatoshis + secondLevelFee) * 1000 - 1
  if s.role ≠ .acceptor then spendableMsat
  else if funderCostMsat s current.feeratePerKw (current.untrimmed + 2) ≤ headroomMsat then
    spendableMsat
  else if headroomMsat < current.costMsat then 0
  else min trimmedCapMsat spendableMsat

/-- The reserve we keep, the opener's fee at twice the rate with two HTLCs more, and what the
    remote funder can carry bound what we may add. -/
def getSpendableOutboundMsat : Int :=
  let reserveSats := if s.localReserveWaived then 0
    else max s.remoteConfig.channelReserveSatoshis s.localConfig.dustLimitSatoshis
  let feeratePerKw := max (getLocalCommitmentFeeRate s false) (getRemoteCommitmentFeeRate s)
  let feeSats := match s.role with
    | .opener => funderCommitmentCostSats (feeratePerKw * 2) (countActiveHtlcs s + 2) s.channelType
    | .acceptor => 0
  let requiredMsat : Int := (reserveSats + feeSats) * 1000
  remoteFunderCeilingMsat s (max (s.localBalanceMsat - requiredMsat) 0)

structure UpdateOverrides where
  localBalanceMsat : Option Int := none
  remoteBalanceMsat : Option Int := none
  pendingFeeratePerKw : Option Nat := none
  addedHtlc : Option HtlcEntry := none

def UpdateOverrides.candidate (o : UpdateOverrides) (s : ChannelState) : ChannelState :=
  { s with
    localBalanceMsat := o.localBalanceMsat.getD s.localBalanceMsat
    remoteBalanceMsat := o.remoteBalanceMsat.getD s.remoteBalanceMsat
    pendingFeeratePerKw := o.pendingFeeratePerKw.orElse fun _ => s.pendingFeeratePerKw
    htlcs := match o.addedHtlc with
      | some entry => s.htlcs.set entry
      | none => s.htlcs }

def waivedCommitmentFundingRefusal (built : BuiltCommitment) (side : CommitmentSide) : Option String :=
  let cost := funderCommitmentCostSats (side.feeRate view) built.htlcOutputs.length view.channelType
  let outputSats := (built.tx.outs.map Prod.fst).sum
  firstRefusal [
    refuseIf (built.funderBalanceMsat < cost * 1000)
      "Operation would leave the opener unable to pay its commitment cost",
    refuseIf (view.fundingSatoshis < outputSats) "Commitment outputs exceed the funding amount"]

def nextSignedPoint : Option Bytes :=
  s.remoteNextPerCommitmentPoint.orElse fun _ => s.remoteCurrentPerCommitmentPoint

/-- Refuses a view whose commitments cannot be built or would have no output left. -/
def emptyRefusal (waived : Bool) (ourDust : Nat) (point : Bytes) (next : Nat)
    (view : ChannelState) (what : String) : Option String :=
  let unbuildable := s!"Cannot build the {what} this update would leave us holding"
  match buildLocalCommitment prim view point next false with
  | none => some unbuildable
  | some held =>
    let signedRefusal :=
      match (nextSignedPoint view).bind fun p =>
          buildRemoteCommitment prim view p (view.remoteCommitmentNumber + 1) with
      | none => some unbuildable
      | some signed => firstRefusal [
          waivedCommitmentFundingRefusal view held .localSide,
          waivedCommitmentFundingRefusal view signed .remoteSide,
          refuseIf (signed.tx.outs = []) s!"Update would trim every output of the remote {what}"]
    firstRefusal [
      if waived then signedRefusal else none,
      refuseIf (held.tx.outs = [])
        s!"Update would trim every output of the {what} we hold at the {ourDust}-sat dust limit"]

def localCommitmentEmptyRefusal (s : ChannelState) (overrides : UpdateOverrides) : Option String :=
  let ourDust := s.localConfig.dustLimitSatoshis
  let waived := s.localReserveWaived || s.remoteReserveWaived
  let view := overrides.candidate s
  let next := s.localCommitmentNumber + 1
  let refusal := emptyRefusal prim waived ourDust
    (getPerCommitmentPoint prim s.localPerCommitmentSeed next) next
  if waived || s.localConfig.channelReserveSatoshis < ourDust then
    firstRefusal [
      refusal view "commitment",
      match waived, overrides.pendingFeeratePerKw with
      | true, some rate =>
        refusal
          { view with
            localConfig := { view.localConfig with feeratePerKw := rate }
            remoteConfig := { view.remoteConfig with feeratePerKw := rate }
            pendingFeeratePerKw := none }
          "commitment after the fee update commits"
      | _, _ => none]
  else none

end Beignet.Channel
