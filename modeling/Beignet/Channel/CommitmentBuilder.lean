import Beignet.Channel.CommitmentTx

namespace Beignet.Channel

open Beignet.Data

def htlcSuccessWeight : Nat := 703
def htlcTimeoutWeight : Nat := 663
def commitmentTxBaseWeight : Nat := 724
def commitmentTxBaseWeightAnchors : Nat := 1124
def commitmentTxBaseWeightTaproot : Nat := 968
def commitmentTxHtlcWeight : Nat := 172

variable (feeratePerKw numUntrimmedHtlcs : Nat) (entry : HtlcEntry) (s : ChannelState) (prim : Primitives)
  (signedLocal : Bool) (channelType : ChannelType) (keys : CommitmentKeys) (paymentHash : Bytes)

def calculateCommitmentFee (isAnchor isTaproot : Bool) : Nat :=
  let baseWeight :=
    if isTaproot then commitmentTxBaseWeightTaproot
    else if isAnchor then commitmentTxBaseWeightAnchors
    else commitmentTxBaseWeight
  (baseWeight + commitmentTxHtlcWeight * numUntrimmedHtlcs) * feeratePerKw / 1000

def funderCommitmentCostSats (channelType : ChannelType) : Nat :=
  let anchor := isAnchorChannel channelType
  calculateCommitmentFee feeratePerKw numUntrimmedHtlcs anchor (isTaprootChannel channelType) +
    if anchor then anchorTotalCost else 0

def secondLevelFeeSats (isAnchor : Bool) (feeratePerKw : Nat) (direction : HtlcDirection) : Nat :=
  if isAnchor then 0
  else
    match direction with
    | .offered => htlcTimeoutWeight * feeratePerKw / 1000
    | .received => htlcSuccessWeight * feeratePerKw / 1000

def isUntrimmed (dustLimitSat feeratePerKw : Nat) (isAnchor : Bool) (amount : Nat)
    (direction : HtlcDirection) : Bool :=
  dustLimitSat + secondLevelFeeSats isAnchor feeratePerKw direction ≤ amount

def filterUntrimmedHtlcs {α : Type} (amount : α → Nat) (direction : α → HtlcDirection)
    (htlcOutputs : List α) (dustLimitSat feeratePerKw : Nat) (isAnchor : Bool) : List α :=
  htlcOutputs.filter fun h => isUntrimmed dustLimitSat feeratePerKw isAnchor (amount h) (direction h)

def signedLocalCarriesRemoval (signedLocal : Bool) : Bool :=
  signedLocal && entry.direction = .offered && !entry.state.live &&
    entry.removalLocallyRevoked = some false && entry.addRemoteSigned ≠ some false

def signedLocalRetainedRemovals (signedLocal : Bool) : List HtlcEntry :=
  if signedLocal then s.signedLocalRemovals else []

def committedFeeRate : Nat :=
  match s.role with
  | .opener => s.localConfig.feeratePerKw
  | .acceptor => s.remoteConfig.feeratePerKw

def getCommitmentFeeRate (signedLocal : Bool) : Nat :=
  match signedLocal, s.lastSignedCommitFeeratePerKw with
  | true, some rate => rate
  | _, _ => s.pendingFeeratePerKw.getD (committedFeeRate s)

def getLocalCommitmentFeeRate (signedLocal : Bool) : Nat :=
  match signedLocal, s.lastSignedCommitFeeratePerKw with
  | true, some rate => rate
  | _, _ =>
    match s.pendingFeeratePerKw, s.role with
    | some rate, .acceptor => rate
    | _, _ => committedFeeRate s

def getRemoteCommitmentFeeRate : Nat :=
  match s.pendingFeeratePerKw with
  | some rate =>
    if s.role = .opener || s.pendingFeerateSignable then rate else committedFeeRate s
  | none => committedFeeRate s

def getLocalCommitmentLeaseBlockheight (signedLocal : Bool) : Option Nat :=
  match signedLocal, s.lastSignedCommitLeaseBlockheight with
  | true, some height => some height
  | _, _ =>
    match s.pendingLeaseBlockheight, s.role with
    | some height, .acceptor => some height
    | _, _ => s.leaseCommitBlockheight

def getRemoteCommitmentLeaseBlockheight : Option Nat :=
  match s.pendingLeaseBlockheight with
  | some height =>
    if s.role = .opener || s.pendingLeaseBlockheightSignable then some height
    else s.leaseCommitBlockheight
  | none => s.leaseCommitBlockheight

def leaseDurationBlocks : Nat := 4032

def leaseCsvBlocks (leaseExpiry leaseCommitBlockheight : Option Nat) : Option Nat :=
  match leaseExpiry.getD 0, leaseCommitBlockheight.getD 0 with
  | 0, _ => none
  | _ + 1, 0 => some leaseDurationBlocks
  | expiry, height => if expiry ≤ height then none else some (expiry - height)

structure CommitmentKeys where
  revocationPubkey : Bytes
  localDelayedPubkey : Bytes
  remotePaymentPubkey : Bytes
  localHtlcPubkey : Bytes
  remoteHtlcPubkey : Bytes
  deriving DecidableEq, Repr

def holderKeys (holder other : Basepoints) (perCommitmentPoint : Bytes) : CommitmentKeys where
  revocationPubkey := prim.deriveRevocationPubkey other.revocationBasepoint perCommitmentPoint
  localDelayedPubkey := prim.derivePublicKey holder.delayedPaymentBasepoint perCommitmentPoint
  remotePaymentPubkey := other.paymentBasepoint
  localHtlcPubkey := prim.derivePublicKey holder.htlcBasepoint perCommitmentPoint
  remoteHtlcPubkey := prim.derivePublicKey other.htlcBasepoint perCommitmentPoint

def deriveCommitmentKeys (localBasepoints remoteBasepoints : Basepoints)
    (perCommitmentPoint : Bytes) (isLocal : Bool) : CommitmentKeys :=
  if isLocal then holderKeys prim localBasepoints remoteBasepoints perCommitmentPoint
  else holderKeys prim remoteBasepoints localBasepoints perCommitmentPoint

def localCommitmentCarriesAdd (signedLocal : Bool) : Bool :=
  entry.addRemoteCommitted ≠ some false && (!signedLocal || entry.addRemoteSigned ≠ some false)

def signedLocalLacksReceivedAdd (signedLocal : Bool) : Bool :=
  signedLocal && entry.direction = .received && entry.addLocallyRevoked = some false

def localCarries (entry : HtlcEntry) : Bool :=
  if signedLocalLacksReceivedAdd entry signedLocal then false
  else if entry.state.live then
    entry.direction = .received || localCommitmentCarriesAdd entry signedLocal
  else
    (entry.direction = .received && entry.removalRemoteCommitted = some false) ||
      signedLocalCarriesRemoval entry signedLocal

def localAdjustment (entry : HtlcEntry) : Int × Int :=
  let amount : Int := entry.amountMsat
  if signedLocalCarriesRemoval entry signedLocal then (0, 0)
  else if signedLocalLacksReceivedAdd entry signedLocal then (0, amount)
  else
    match entry.state, entry.direction with
    | .fulfilled, .received => if entry.removalRemoteCommitted ≠ some false then (amount, 0) else (0, 0)
    | .fulfilled, .offered =>
      if localCommitmentCarriesAdd entry signedLocal then (0, amount) else (amount, 0)
    | .failed, .received => if entry.removalRemoteCommitted ≠ some false then (0, amount) else (0, 0)
    | .failed, .offered => (amount, 0)
    | _, .offered => if localCommitmentCarriesAdd entry signedLocal then (0, 0) else (amount, 0)
    | _, .received => (0, 0)

def retainedAdjustment : Int × Int :=
  if entry.state = .fulfilled then (-entry.amountMsat, 0) else (0, -entry.amountMsat)

def remoteCarries : Bool :=
  if entry.state.live then entry.direction = .offered || entry.addLocallyRevoked ≠ some false
  else entry.direction = .offered && entry.removalLocallyRevoked = some false

def remoteAdjustment : Int × Int :=
  let amount : Int := entry.amountMsat
  match entry.state, entry.direction with
  | .fulfilled, .received => (0, amount)
  | .fulfilled, .offered => if entry.removalLocallyRevoked ≠ some false then (amount, 0) else (0, 0)
  | .failed, .received => (amount, 0)
  | .failed, .offered => if entry.removalLocallyRevoked ≠ some false then (0, amount) else (0, 0)
  | _, .received => if entry.addLocallyRevoked = some false then (amount, 0) else (0, 0)
  | _, .offered => (0, 0)

/-- A commitment before fee and trimming, from its holder's side: `toLocalMsat` is the holder's. -/
structure CommitmentSpec where
  feeratePerKw : Nat
  toLocalMsat : Int
  toRemoteMsat : Int
  htlcs : List HtlcEntry

def localSpec (signedLocal : Bool) : CommitmentSpec where
  feeratePerKw := getLocalCommitmentFeeRate s signedLocal
  toLocalMsat := s.localBalanceMsat + (s.htlcs.values.map fun e => (localAdjustment signedLocal e).1).sum +
    ((signedLocalRetainedRemovals s signedLocal).map fun e => (retainedAdjustment e).1).sum
  toRemoteMsat := s.remoteBalanceMsat + (s.htlcs.values.map fun e => (localAdjustment signedLocal e).2).sum +
    ((signedLocalRetainedRemovals s signedLocal).map fun e => (retainedAdjustment e).2).sum
  htlcs := s.htlcs.values.filter (localCarries signedLocal) ++ signedLocalRetainedRemovals s signedLocal

def remoteSpec : CommitmentSpec where
  feeratePerKw := getRemoteCommitmentFeeRate s
  toLocalMsat := s.remoteBalanceMsat + (s.htlcs.values.map fun e => (remoteAdjustment e).1).sum
  toRemoteMsat := s.localBalanceMsat + (s.htlcs.values.map fun e => (remoteAdjustment e).2).sum
  htlcs := s.htlcs.values.filter remoteCarries

def offeredHtlcScript : LockScript :=
  if isTaprootChannel channelType then
    .taprootOfferedHtlc keys.revocationPubkey keys.localHtlcPubkey keys.remoteHtlcPubkey paymentHash
  else
    .offeredHtlc keys.revocationPubkey keys.localHtlcPubkey keys.remoteHtlcPubkey paymentHash
      (isAnchorChannel channelType)

def receivedHtlcScript (cltvExpiry : Nat) : LockScript :=
  if isTaprootChannel channelType then
    .taprootReceivedHtlc keys.revocationPubkey keys.localHtlcPubkey keys.remoteHtlcPubkey paymentHash
      cltvExpiry
  else
    .receivedHtlc keys.revocationPubkey keys.localHtlcPubkey keys.remoteHtlcPubkey paymentHash
      cltvExpiry (isAnchorChannel channelType)

/-- The script is chosen from the holder's direction, the label is the entry's own. -/
def htlcOutput (holderDirection : HtlcDirection) (entry : HtlcEntry) : HtlcOutput where
  script := match holderDirection with
    | .offered => offeredHtlcScript channelType keys entry.paymentHash
    | .received => receivedHtlcScript channelType keys entry.paymentHash entry.cltvExpiry
  amount := entry.amountMsat / 1000
  amountMsat := entry.amountMsat
  cltvExpiry := entry.cltvExpiry
  paymentHash := entry.paymentHash
  direction := entry.direction

def buildLocalHtlcOutput (entry : HtlcEntry) : HtlcOutput := htlcOutput channelType keys entry.direction entry

def buildRemoteHtlcOutput (entry : HtlcEntry) : HtlcOutput := htlcOutput channelType keys entry.direction.flip entry

structure BuiltCommitment where
  funderBalanceMsat : Int
  feeSats : Nat
  tx : CommitmentTx
  fundingAmount : Nat
  htlcOutputs : List HtlcOutput
  deriving DecidableEq, Repr

def outputSats (balanceMsat : Int) (isFunder : Bool) (fee : Nat) (useAnchors : Bool) : Nat :=
  let paid : Int := if isFunder then fee + (if useAnchors then anchorTotalCost else 0) else 0
  (balanceMsat.tdiv 1000 - paid).toNat

structure HolderView where
  keys : CommitmentKeys
  obscuredCommitmentNumber : Nat
  holderIsFunder : Bool
  dustLimitSatoshis : Nat
  toSelfDelay : Nat
  leaseCsv : Option Nat
  toRemoteLeaseCsv : Option Nat
  holderFundingPubkey : Bytes
  otherFundingPubkey : Bytes

def assembleCommitment (s : ChannelState) (fundingTxid : Bytes) (view : HolderView)
    (spec : CommitmentSpec) (allOutputs : List HtlcOutput) : Option BuiltCommitment := do
  let useAnchors := isAnchorChannel s.channelType
  let useTaproot := isTaprootChannel s.channelType
  let htlcOutputs := filterUntrimmedHtlcs HtlcOutput.amount HtlcOutput.direction allOutputs
    view.dustLimitSatoshis spec.feeratePerKw useAnchors
  let fee := calculateCommitmentFee spec.feeratePerKw htlcOutputs.length useAnchors useTaproot
  let tx ← buildCommitmentTx prim
    { fundingTxid := fundingTxid
      fundingOutputIndex := s.fundingOutputIndex
      obscuredCommitmentNumber := view.obscuredCommitmentNumber
      localAmount := outputSats spec.toLocalMsat view.holderIsFunder fee useAnchors
      revocationPubkey := view.keys.revocationPubkey
      localDelayedPubkey := view.keys.localDelayedPubkey
      toSelfDelay := view.toSelfDelay
      leaseCsv := view.leaseCsv
      remoteAmount := outputSats spec.toRemoteMsat (!view.holderIsFunder) fee useAnchors
      remotePaymentPubkey := view.keys.remotePaymentPubkey
      toRemoteLeaseCsv := view.toRemoteLeaseCsv
      htlcOutputs := htlcOutputs
      dustLimitSatoshis := view.dustLimitSatoshis
      useAnchors := useAnchors
      useTaproot := useTaproot
      localFundingPubkey := view.holderFundingPubkey
      remoteFundingPubkey := view.otherFundingPubkey }
  some
    { funderBalanceMsat := if view.holderIsFunder then spec.toLocalMsat else spec.toRemoteMsat
      feeSats := fee
      tx := tx
      fundingAmount := s.fundingSatoshis
      htlcOutputs := htlcOutputs }

def obscuredNumber (s : ChannelState) (remoteBasepoints : Basepoints) (commitmentNumber : Nat) : Nat :=
  match s.role with
  | .opener => calculateObscuredCommitmentNumber prim.sha256 s.localBasepoints.paymentBasepoint
      remoteBasepoints.paymentBasepoint commitmentNumber
  | .acceptor => calculateObscuredCommitmentNumber prim.sha256 remoteBasepoints.paymentBasepoint
      s.localBasepoints.paymentBasepoint commitmentNumber

def localView (s : ChannelState) (remoteBasepoints : Basepoints)
    (perCommitmentPoint : Bytes) (commitmentNumber : Nat) (signedLocal : Bool) : HolderView :=
  let lease := leaseCsvBlocks s.leaseExpiry (getLocalCommitmentLeaseBlockheight s signedLocal)
  { keys := deriveCommitmentKeys prim s.localBasepoints remoteBasepoints perCommitmentPoint true
    obscuredCommitmentNumber := obscuredNumber prim s remoteBasepoints commitmentNumber
    holderIsFunder := s.role = .opener
    dustLimitSatoshis := s.localConfig.dustLimitSatoshis
    toSelfDelay := s.remoteConfig.toSelfDelay
    leaseCsv := if s.isLessor then lease else none
    toRemoteLeaseCsv := if s.isLessor then none else lease
    holderFundingPubkey := s.localBasepoints.fundingPubkey
    otherFundingPubkey := remoteBasepoints.fundingPubkey }

def remoteView (s : ChannelState) (remoteBasepoints : Basepoints)
    (remotePerCommitmentPoint : Bytes) (commitmentNumber : Nat) : HolderView :=
  let lease := leaseCsvBlocks s.leaseExpiry (getRemoteCommitmentLeaseBlockheight s)
  { keys := deriveCommitmentKeys prim s.localBasepoints remoteBasepoints remotePerCommitmentPoint false
    obscuredCommitmentNumber := obscuredNumber prim s remoteBasepoints commitmentNumber
    holderIsFunder := s.role = .acceptor
    dustLimitSatoshis := s.remoteConfig.dustLimitSatoshis
    toSelfDelay := s.localConfig.toSelfDelay
    leaseCsv := if s.isLessor then none else lease
    toRemoteLeaseCsv := if s.isLessor then lease else none
    holderFundingPubkey := remoteBasepoints.fundingPubkey
    otherFundingPubkey := s.localBasepoints.fundingPubkey }

def buildLocalCommitment (s : ChannelState) (perCommitmentPoint : Bytes)
    (commitmentNumber : Nat) (signedLocal : Bool) : Option BuiltCommitment := do
  let remoteBasepoints ← s.remoteBasepoints
  let fundingTxid ← s.fundingTxid
  let view := localView prim s remoteBasepoints perCommitmentPoint commitmentNumber signedLocal
  let spec := localSpec s signedLocal
  assembleCommitment prim s fundingTxid view spec
    (spec.htlcs.map (buildLocalHtlcOutput s.channelType view.keys))

def buildRemoteCommitment (s : ChannelState) (remotePerCommitmentPoint : Bytes)
    (commitmentNumber : Nat) : Option BuiltCommitment := do
  let remoteBasepoints ← s.remoteBasepoints
  let fundingTxid ← s.fundingTxid
  let view := remoteView prim s remoteBasepoints remotePerCommitmentPoint commitmentNumber
  let spec := remoteSpec s
  assembleCommitment prim s fundingTxid view spec
    (spec.htlcs.map (buildRemoteHtlcOutput s.channelType view.keys))

end Beignet.Channel
