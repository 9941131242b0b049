import Beignet.Channel.CommitmentBuilder

namespace Beignet.Channel

open Beignet.Data Beignet.Keys

def defaultChannelConfig : ChannelConfig where
  dustLimitSatoshis := 354
  maxHtlcValueInFlightMsat := 0xffffffffffffffff
  channelReserveSatoshis := 10000
  htlcMinimumMsat := 1000
  toSelfDelay := 144
  maxAcceptedHtlcs := 483
  feeratePerKw := 253

variable (prim : Primitives) (temporaryChannelId : Bytes) (seed : Bytes) (fundingSatoshis pushMsat : Nat)
  (commitmentNumber : Nat) (localConfig : ChannelConfig) (localBasepoints : Basepoints)

def getPerCommitmentSecret : Bytes :=
  generateFromSeed prim.sha256 seed (maxIndex - commitmentNumber)

def getPerCommitmentPoint : Bytes :=
  prim.pointFromSecret (getPerCommitmentSecret prim seed commitmentNumber)

def createOpenerState (localPerCommitmentSeed : Bytes) : ChannelState where
  channelId := temporaryChannelId
  phase := .none
  preReestablishState := none
  role := .opener
  channelType := ⟨false, false⟩
  localConfig := localConfig
  remoteConfig := defaultChannelConfig
  localBasepoints := localBasepoints
  remoteBasepoints := none
  hasSigner := false
  fundingTxid := none
  fundingOutputIndex := 0
  fundingSatoshis := fundingSatoshis
  localBalanceMsat := fundingSatoshis * 1000 - pushMsat
  remoteBalanceMsat := pushMsat
  htlcs := .empty
  localHtlcCounter := 0
  localCommitmentNumber := 0
  remoteCommitmentNumber := 0
  remoteRevocationNumber := some 0
  localPerCommitmentSeed := localPerCommitmentSeed
  remoteCurrentPerCommitmentPoint := none
  remoteNextPerCommitmentPoint := none
  shaChainStore := .empty
  pendingFeeratePerKw := none
  pendingFeerateSignable := false
  pendingFeerateCommitted := false
  lastSignedCommitFeeratePerKw := none
  awaitingLocalFeeCommitment := false
  isLessor := false
  leaseExpiry := none
  leaseCommitBlockheight := none
  pendingLeaseBlockheight := none
  pendingLeaseBlockheightSignable := false
  pendingLeaseBlockheightCommitted := false
  lastSignedCommitLeaseBlockheight := none
  signedLocalRemovals := []
  needsCommitment := false
  lastSentWasRevoke := false
  remoteCommitmentSignature := none
  remoteHtlcSignatures := []
  remoteSigningNonce := none
  localNextNonce := none
  pendingLocalUpdates := []
  pendingLocalUpdatesSignedCount := 0
  remoteShutdownScript := none
  localReserveWaived := false
  remoteReserveWaived := false
  hasBeenSpliced := false
  fundingUnaccounted := false
  restoreRevokedRisk := false
  restoreRecencyUnproven := false
  reestablishRecencyUnproven := false
  reestablishSecretMissing := false
  quiescing := false
  peerHasSentStfu := false
  currentBlockHeight := 0

def createAcceptorState (localPerCommitmentSeed : Bytes)
    (remoteBasepoints : Basepoints) (remoteConfig : ChannelConfig) : ChannelState :=
  { createOpenerState temporaryChannelId fundingSatoshis pushMsat localConfig localBasepoints
      localPerCommitmentSeed with
    role := .acceptor
    remoteConfig := remoteConfig
    remoteBasepoints := some remoteBasepoints
    localBalanceMsat := pushMsat
    remoteBalanceMsat := fundingSatoshis * 1000 - pushMsat }

structure Opening where
  channelId : Bytes
  fundingSatoshis : Nat
  pushMsat : Nat
  channelType : ChannelType
  openerConfig : ChannelConfig
  acceptorConfig : ChannelConfig
  openerBasepoints : Basepoints
  acceptorBasepoints : Basepoints
  openerSeed : Bytes
  acceptorSeed : Bytes
  fundingTxid : Bytes
  fundingOutputIndex : Nat
  openerSignature : Bytes
  acceptorSignature : Bytes
  openerNextNonce : Bytes
  acceptorNextNonce : Bytes

def ChannelState.establish (s : ChannelState) (channelType : ChannelType) (fundingTxid : Bytes)
    (fundingOutputIndex : Nat) (remoteConfig : ChannelConfig) (remoteBasepoints : Basepoints)
    (firstPoint secondPoint signature nextNonce : Bytes) (feeratePerKw : Nat) : ChannelState :=
  { s with
    phase := .normal
    channelType := channelType
    hasSigner := true
    remoteConfig := remoteConfig
    remoteBasepoints := some remoteBasepoints
    fundingTxid := some fundingTxid
    fundingOutputIndex := fundingOutputIndex
    remoteCurrentPerCommitmentPoint := some firstPoint
    remoteNextPerCommitmentPoint := some secondPoint
    remoteCommitmentSignature := some signature
    localNextNonce := if isTaprootChannel channelType then some nextNonce else none
    lastSignedCommitFeeratePerKw := some feeratePerKw }

namespace Opening

variable (prim : Primitives) (o : Opening)

def opener : ChannelState :=
  (createOpenerState o.channelId o.fundingSatoshis o.pushMsat o.openerConfig o.openerBasepoints
    o.openerSeed).establish o.channelType o.fundingTxid o.fundingOutputIndex o.acceptorConfig
    o.acceptorBasepoints (getPerCommitmentPoint prim o.acceptorSeed 0)
    (getPerCommitmentPoint prim o.acceptorSeed 1) o.acceptorSignature o.openerNextNonce
    o.openerConfig.feeratePerKw

def acceptor : ChannelState :=
  (createAcceptorState o.channelId o.fundingSatoshis o.pushMsat o.acceptorConfig o.acceptorBasepoints
    o.acceptorSeed o.openerBasepoints o.openerConfig).establish o.channelType o.fundingTxid
    o.fundingOutputIndex o.openerConfig o.openerBasepoints (getPerCommitmentPoint prim o.openerSeed 0)
    (getPerCommitmentPoint prim o.openerSeed 1) o.openerSignature o.acceptorNextNonce
    o.openerConfig.feeratePerKw

def party : ChannelRole → ChannelState
  | .opener => o.opener prim
  | .acceptor => o.acceptor prim

theorem party_htlcs (role : ChannelRole) : (o.party prim role).htlcs = .empty := by
  cases role <;> rfl

end Opening

def plainPrimitives : Primitives where
  sha256 := id
  derivePublicKey basepoint point := 2 :: basepoint ++ point
  deriveRevocationPubkey basepoint point := 3 :: basepoint ++ point
  pointFromSecret secret := 4 :: secret
  isValidPublicKey point := point.head? = some 4
  scriptPubKey
    | .toLocal revocation delayed csv => 10 :: Fin.ofNat 256 csv :: revocation ++ delayed
    | .toRemotePubkeyHash payment => 11 :: payment
    | .toRemoteAnchor payment csv => 12 :: Fin.ofNat 256 csv :: payment
    | .offeredHtlc revocation holder other hash _ => 13 :: revocation ++ holder ++ other ++ hash
    | .receivedHtlc revocation holder other hash cltv _ =>
      14 :: Fin.ofNat 256 cltv :: revocation ++ holder ++ other ++ hash
    | .anchor funding => 15 :: funding
    | .taprootToLocal revocation delayed csv => 20 :: Fin.ofNat 256 csv :: revocation ++ delayed
    | .taprootToRemote payment => 21 :: payment
    | .taprootOfferedHtlc revocation holder other hash => 23 :: revocation ++ holder ++ other ++ hash
    | .taprootReceivedHtlc revocation holder other hash cltv =>
      24 :: Fin.ofNat 256 cltv :: revocation ++ holder ++ other ++ hash
    | .taprootAnchor key => 25 :: key

def plainOpening : Opening where
  channelId := [5]
  fundingSatoshis := 1000000
  pushMsat := 400000000
  channelType := ⟨false, false⟩
  openerConfig := { defaultChannelConfig with feeratePerKw := 1000 }
  acceptorConfig := defaultChannelConfig
  openerBasepoints := ⟨[101], [102], [103], [104], [105]⟩
  acceptorBasepoints := ⟨[201], [202], [203], [204], [205]⟩
  openerSeed := [1]
  acceptorSeed := [2]
  fundingTxid := [7]
  fundingOutputIndex := 0
  openerSignature := [8]
  acceptorSignature := [9]
  openerNextNonce := [31]
  acceptorNextNonce := [32]

end Beignet.Channel
