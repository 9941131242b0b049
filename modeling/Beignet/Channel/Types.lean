import Beignet.Data.KeyedMap
import Beignet.Keys.ShaChain

namespace Beignet.Channel

open Beignet.Data Beignet.Keys

inductive HtlcDirection where
  | offered
  | received
  deriving DecidableEq, Repr

instance lawfulHtlcKey : LawfulBEq (HtlcDirection × Nat) := inferInstance

def HtlcDirection.flip : HtlcDirection → HtlcDirection
  | .offered => .received
  | .received => .offered

inductive HtlcState where
  | pending
  | committed
  | fulfilled
  | failed
  deriving DecidableEq, Repr

def HtlcState.live : HtlcState → Bool
  | .pending | .committed => true
  | .fulfilled | .failed => false

theorem live_cases {state : HtlcState} (live : state.live = true) : state = .pending ∨ state = .committed := by
  cases state <;> simp_all [HtlcState.live]

inductive ChannelRole where
  | opener
  | acceptor
  deriving DecidableEq, Repr

def ChannelRole.other : ChannelRole → ChannelRole
  | .opener => .acceptor
  | .acceptor => .opener

variable (role : ChannelRole) (entry : HtlcEntry) (t : ChannelType)

@[simp] theorem ChannelRole.other_other : role.other.other = role := by
  cases role <;> rfl

@[simp] theorem ChannelRole.other_ne : role.other ≠ role := by
  cases role <;> decide

@[simp] theorem ChannelRole.ne_other : role ≠ role.other := by
  cases role <;> decide

theorem ChannelRole.eq_or_eq_other (me role : ChannelRole) : role = me ∨ role = me.other := by
  cases me <;> cases role <;> decide

inductive Phase where
  | none
  | sentOpen
  | sentAccept
  | sentFundingCreated
  | sentFundingSigned
  | awaitingFundingConfirmed
  | awaitingChannelReady
  | normal
  | shuttingDown
  | negotiatingClosing
  | awaitingReestablish
  | dualFundingV2
  | awaitingTxSignatures
  | splicing
  | closed
  | forceClosed
  | errored
  deriving DecidableEq, Repr

/-- An absent flag is `none`; the source tells `undefined` from `false` throughout. -/
structure HtlcEntry where
  id : Nat
  amountMsat : Nat
  paymentHash : Bytes
  cltvExpiry : Nat
  onionRoutingPacket : Bytes
  direction : HtlcDirection
  state : HtlcState
  blindingPoint : Option Bytes := none
  addRemoteCommitted : Option Bool := none
  removalRemoteCommitted : Option Bool := none
  commitCoverPending : Option Bool := none
  addLocallyRevoked : Option Bool := none
  removalLocallyRevoked : Option Bool := none
  addRemotelyRevoked : Option Bool := none
  addCoverPending : Option Bool := none
  addRemoteSigned : Option Bool := none
  forwardEmitted : Option Bool := none
  dustExposureFailback : Option Bool := none
  expiredOnArrival : Option Bool := none
  funderFeeFailback : Option Bool := none
  addedWhileRestoreUnproven : Option Bool := none
  addedWhileFundingUnaccounted : Option Bool := none
  deriving DecidableEq, Repr

/-- `offered-<id>` and `received-<id>`. -/
def HtlcEntry.key : HtlcDirection × Nat := (entry.direction, entry.id)

abbrev HtlcMap := KeyedMap HtlcEntry.key

def receivedAddIrrevocablyCommitted : Bool :=
  entry.state = .committed && entry.addLocallyRevoked ≠ some false &&
    entry.addRemotelyRevoked ≠ some false

structure ChannelConfig where
  dustLimitSatoshis : Nat
  maxHtlcValueInFlightMsat : Nat
  channelReserveSatoshis : Nat
  htlcMinimumMsat : Nat
  toSelfDelay : Nat
  maxAcceptedHtlcs : Nat
  feeratePerKw : Nat
  deriving DecidableEq, Repr

structure Basepoints where
  fundingPubkey : Bytes
  revocationBasepoint : Bytes
  paymentBasepoint : Bytes
  delayedPaymentBasepoint : Bytes
  htlcBasepoint : Bytes
  deriving DecidableEq, Repr

/-- The two feature bits of the negotiated channel type that decide how commitments are built;
    neither is set when no type was negotiated. -/
structure ChannelType where
  anchorZeroFeeHtlc : Bool
  optionTaproot : Bool
  deriving DecidableEq, Repr

def isTaprootChannel : Bool := t.optionTaproot

-- A taproot type carries the taproot bit alone and still has anchor-style commitments.
def isAnchorChannel : Bool := t.anchorZeroFeeHtlc || t.optionTaproot

inductive PendingUpdate where
  | addHtlc (id : Nat) (amountMsat : Nat) (paymentHash : Bytes)
  | fulfillHtlc (id : Nat)
  | failHtlc (id : Nat)
  | failMalformedHtlc (id : Nat)
  | fee (feeratePerKw : Nat)
  deriving DecidableEq, Repr

/-- The part of `IChannelState` that the commitment machinery reads or writes, with the three
    fields of the channel object it consults (`quiescing`, `peerHasSentStfu`, `currentBlockHeight`). -/
structure ChannelState where
  channelId : Bytes
  phase : Phase
  preReestablishState : Option Phase
  role : ChannelRole
  channelType : ChannelType
  localConfig : ChannelConfig
  remoteConfig : ChannelConfig
  localBasepoints : Basepoints
  remoteBasepoints : Option Basepoints
  hasSigner : Bool
  fundingTxid : Option Bytes
  fundingOutputIndex : Nat
  fundingSatoshis : Nat
  localBalanceMsat : Int
  remoteBalanceMsat : Int
  htlcs : HtlcMap
  localHtlcCounter : Nat
  localCommitmentNumber : Nat
  remoteCommitmentNumber : Nat
  remoteRevocationNumber : Option Nat
  localPerCommitmentSeed : Bytes
  remoteCurrentPerCommitmentPoint : Option Bytes
  remoteNextPerCommitmentPoint : Option Bytes
  shaChainStore : ShaChainStore
  pendingFeeratePerKw : Option Nat
  pendingFeerateSignable : Bool
  pendingFeerateCommitted : Bool
  lastSignedCommitFeeratePerKw : Option Nat
  awaitingLocalFeeCommitment : Bool
  isLessor : Bool
  leaseExpiry : Option Nat
  leaseCommitBlockheight : Option Nat
  pendingLeaseBlockheight : Option Nat
  pendingLeaseBlockheightSignable : Bool
  pendingLeaseBlockheightCommitted : Bool
  lastSignedCommitLeaseBlockheight : Option Nat
  signedLocalRemovals : List HtlcEntry
  needsCommitment : Bool
  lastSentWasRevoke : Bool
  remoteCommitmentSignature : Option Bytes
  remoteHtlcSignatures : List Bytes
  remoteSigningNonce : Option Bytes
  localNextNonce : Option Bytes
  pendingLocalUpdates : List PendingUpdate
  pendingLocalUpdatesSignedCount : Nat
  remoteShutdownScript : Option Bytes
  localReserveWaived : Bool
  remoteReserveWaived : Bool
  hasBeenSpliced : Bool
  fundingUnaccounted : Bool
  restoreRevokedRisk : Bool
  restoreRecencyUnproven : Bool
  reestablishRecencyUnproven : Bool
  reestablishSecretMissing : Bool
  quiescing : Bool
  peerHasSentStfu : Bool
  currentBlockHeight : Nat

namespace ChannelState

variable (s : ChannelState)

def operational : Bool := s.phase = .normal || s.phase = .shuttingDown

def isRecencyUnproven : Bool :=
  s.restoreRecencyUnproven || s.reestablishRecencyUnproven || s.reestablishSecretMissing

def remoteRevocationCount : Nat :=
  s.remoteRevocationNumber.getD s.remoteCommitmentNumber

def remoteRevocationCountForRaa : Nat :=
  s.remoteRevocationNumber.getD (s.remoteCommitmentNumber - 1)

def isAwaitingRemoteRevocation : Bool :=
  s.remoteRevocationCount < s.remoteCommitmentNumber

end ChannelState

end Beignet.Channel
