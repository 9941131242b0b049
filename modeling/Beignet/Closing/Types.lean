import Beignet.Channel.Opening
import Beignet.Closing.Transaction

namespace Beignet.Closing

open Beignet.Data Beignet.Channel

/-! A channel that is being closed together with its peer. -/

/-- A channel with what the closing handlers read and write besides. The balances of a channel without HTLCs
    are not negative, and `localSat` and `remoteSat` read them as such. -/
structure ClosingState extends ChannelState where
  localShutdownScript : Option Bytes
  simpleClose : Bool
  externalClose : Bool
  staleCloseRiskAccepted : Bool
  closingFeeratePerKw : Option Nat
  closingFeeMin : Option Nat
  closingFeeMax : Option Nat
  lastProposedClosingFeeSat : Option Nat
  theirLastClosingFeeSat : Option Nat

structure ClosingSigned where
  feeSatoshis : Nat
  signature : Bytes
  deriving DecidableEq, Repr

structure ClosingComplete where
  closerScriptPubkey : Bytes
  closeeScriptPubkey : Bytes
  feeSatoshis : Nat
  locktime : Nat
  closerOutputOnlySig : Option Bytes
  closeeOutputOnlySig : Option Bytes
  closerAndCloseeSig : Option Bytes
  deriving DecidableEq, Repr

structure ClosingSig where
  closerScriptPubkey : Bytes
  closeeScriptPubkey : Bytes
  feeSatoshis : Nat
  locktime : Nat
  variant : SimpleCloseVariant
  signature : Bytes
  deriving DecidableEq, Repr

/-- `recoveryClose` stands for `buildRecoveryCloseActions`, the durable request that the peer closes. -/
inductive ClosingAction where
  | persistState
  | sendClosingSigned (msg : ClosingSigned)
  | sendClosingSig (msg : ClosingSig)
  | wireError (text : String)
  | recoveryClose
  | channelClosed
  | error (message : String)
  deriving DecidableEq, Repr

structure ClosingReply where
  state : ClosingState
  actions : List ClosingAction

namespace ClosingState

variable (s : ClosingState)

def localSat : Nat := s.localBalanceMsat.toNat / 1000

def remoteSat : Nat := s.remoteBalanceMsat.toNat / 1000

def placeholderShutdownScript : Bytes := 0x00 :: 0x14 :: List.replicate 20 0

def localScript : Bytes := s.localShutdownScript.getD placeholderShutdownScript

def remoteScript : Bytes := s.remoteShutdownScript.getD placeholderShutdownScript

def closingBlockedBy : Option String :=
  if s.htlcs.values ≠ [] ∨ s.signedLocalRemovals ≠ [] then some "pending HTLCs"
  else if s.needsCommitment = true ∨ s.isAwaitingRemoteRevocation = true ∨ s.pendingLocalUpdates ≠ [] ∨
      s.pendingFeeratePerKw.isSome = true ∨ s.awaitingLocalFeeCommitment = true ∨
      s.pendingLeaseBlockheight.isSome = true then some "pending updates"
  else if ∃ rate ∈ s.lastSignedCommitFeeratePerKw, rate ≠ getLocalCommitmentFeeRate s.toChannelState false then
    some "pending updates"
  else if ∃ height ∈ s.lastSignedCommitLeaseBlockheight,
      some height ≠ getLocalCommitmentLeaseBlockheight s.toChannelState false then
    some "pending updates"
  else none

def isMutualCloseHeld : Bool :=
  s.restoreRevokedRisk || (s.isRecencyUnproven && !s.staleCloseRiskAccepted)

def heldCloseOrigin : String :=
  if s.restoreRevokedRisk then
    "the peer has shown at channel_reestablish that it already holds the revocation for this commitment, " ++
      "so these balances are one round stale and this channel is waiting for the retransmission from that " ++
      "peer to bring it level"
  else if s.reestablishSecretMissing then
    "this node could not produce the per-commitment secret its own channel_reestablish owes the peer, a " ++
      "local storage fault that leaves this row unable to prove its balances current"
  else if s.restoreRecencyUnproven then
    "this channel was restored from a Recovery Capsule and its balances cannot be proven current"
  else
    "the peer claimed at channel_reestablish that this channel state is behind and showed no proof, which " ++
      "leaves its balances unproven"

def refuse (message : String) : ClosingReply := ⟨s, [.error message]⟩

def failChannelWithWireError (message : String) : ClosingReply :=
  ⟨{ s with phase := .errored }, [.persistState, .wireError message, .error message]⟩

def refuseHeldMutualClose : ClosingReply :=
  ⟨{ s with phase := .errored }, [.persistState, .recoveryClose,
    .error ("Cannot resume cooperative close: " ++ s.heldCloseOrigin ++ "; awaiting your force close instead")]⟩

def ownClosingOutputDustLimit : Nat :=
  closingOutputDustLimit s.localScript (some s.localConfig.dustLimitSatoshis)

end ClosingState

def plainClosing (role : ChannelRole) (feeratePerKw : Nat) : ClosingState where
  toChannelState :=
    { plainOpening.party plainPrimitives role with
      phase := .negotiatingClosing
      remoteShutdownScript := some (0x00 :: 0x14 :: List.replicate 20 1) }
  localShutdownScript := some (0x00 :: 0x14 :: List.replicate 20 1)
  simpleClose := false
  externalClose := false
  staleCloseRiskAccepted := false
  closingFeeratePerKw := some feeratePerKw
  closingFeeMin := none
  closingFeeMax := none
  lastProposedClosingFeeSat := none
  theirLastClosingFeeSat := none

end Beignet.Closing
