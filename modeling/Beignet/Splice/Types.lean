import Beignet.Channel.Runs
import Beignet.InteractiveTx.Session

namespace Beignet.Splice

open Beignet.Data Beignet.Channel Beignet.InteractiveTx

structure TxIn where
  hash : Bytes
  index : Nat
  sequence : Nat
  deriving DecidableEq, Repr

structure TxOut where
  value : Nat
  script : Bytes
  deriving DecidableEq, Repr

/-- A version 2 transaction without its witnesses, which its id does not cover. -/
structure Transaction where
  ins : List TxIn
  outs : List TxOut
  locktime : Nat
  deriving DecidableEq, Repr

/-- The transaction library, the elliptic curve and the wallet, as far as a splice uses them. A script
    for keys that are no points, and a buffer that is no transaction, give nothing. -/
structure SpliceEnv where
  prim : Primitives
  ver : Verifier
  fromBuffer : Bytes → Option (List TxOut)
  extractTxidFromPrevTx : Bytes → Bytes
  createFundingScript : Bytes → Bytes → Option Bytes
  getHash : Transaction → Bytes
  signSpliceSharedInput : Transaction → Nat → Nat → Bytes
  verifySpliceSharedInput : Transaction → Nat → Nat → Bytes → Bytes → Bool
  signWitness : Transaction → Nat → Nat → List TxOut → List Bytes
  validateWitnessForInput : Transaction → Nat → List Bytes → List TxOut → Option String
  signBuiltCommitment : BuiltCommitment → CommitmentSigned
  maxFundingSatoshis : Nat

structure SpliceTerms where
  isInitiator : Bool
  localRelativeSatoshis : Int
  remoteRelativeSatoshis : Int
  deriving DecidableEq, Repr

namespace SpliceTerms

def getNetCapacityChange (t : SpliceTerms) : Int := t.localRelativeSatoshis + t.remoteRelativeSatoshis

section Split

variable (t : SpliceTerms) (base : ChannelState) (newCapacity : Nat)

def feeFromChannelSats : Int := base.fundingSatoshis + t.getNetCapacityChange - newCapacity

def myFeeMsat : Int := if t.isInitiator then t.feeFromChannelSats base newCapacity * 1000 else 0

def myNewLocalMsat : Int :=
  base.localBalanceMsat + t.localRelativeSatoshis * 1000 - t.myFeeMsat base newCapacity

/-- The peer has what is left of the output: neither its balance nor its contribution is looked at. -/
def theirNewMsat : Int :=
  newCapacity * 1000 - t.myNewLocalMsat base newCapacity -
    (base.htlcs.values.map fun e => (e.amountMsat : Int)).sum

end Split

end SpliceTerms

/-- `SpliceSession`; the interactive negotiation inside it has its own model. -/
structure SpliceSession where
  negotiation : NegotiationSession
  terms : SpliceTerms
  localFundingPubkey : Bytes
  remoteFundingPubkey : Option Bytes
  fundingFeeratePerkw : Nat
  locktime : Nat
  spliceTxid : Option Bytes
  spliceFundingOutputIndex : Nat
  localSpliceLocked : Bool
  remoteSpliceLocked : Bool
  deriving DecidableEq

namespace SpliceSession

def state (s : SpliceSession) : SessionState := s.negotiation.state

variable (s : SpliceSession)

def setState (state : SessionState) : SpliceSession :=
  { s with negotiation := { s.negotiation with state := state } }

def isComplete : Bool := s.state = .complete

/-- `handleTxSignatures` of the session, when it does not refuse. -/
def recordTx (txid : Bytes) (outputIndex : Nat) : SpliceSession :=
  { s.setState .awaitingLock with spliceTxid := some txid, spliceFundingOutputIndex := outputIndex }

/-- `sendSpliceLocked` and `handleSpliceLocked` of the session: the side that locks second completes
    the splice. -/
def sendSpliceLocked : Except String SpliceSession :=
  if s.state ≠ .awaitingLock then .error "Cannot send splice_locked: wrong state"
  else if s.spliceTxid = none then .error "No splice txid available"
  else if s.localSpliceLocked then .error "splice_locked already sent"
  else
    let locked := { s with localSpliceLocked := true }
    .ok (if s.remoteSpliceLocked then locked.setState .complete else locked)

def handleSpliceLocked (fundingTxid : Bytes) : Except String SpliceSession :=
  if s.state ≠ .awaitingLock then .error "Unexpected splice_locked: wrong state"
  else if ∃ txid ∈ s.spliceTxid, fundingTxid ≠ txid then
    .error "Funding txid mismatch in splice_locked"
  else
    let locked :=
      { s with remoteSpliceLocked := true, spliceTxid := s.spliceTxid.getD fundingTxid }
    .ok (if s.localSpliceLocked then locked.setState .complete else locked)

end SpliceSession

structure SpliceTx where
  tx : Transaction
  sharedInputIndex : Nat
  newFundingOutputIndex : Nat
  localSig : Bytes
  ourWalletWitnesses : List (List Bytes)
  ourWalletInputIndices : List Nat
  ourExternalInputIndices : List Nat
  deriving DecidableEq

structure SpliceInFlight where
  spliceTxid : Bytes
  newFundingOutputIndex : Nat
  newFundingSatoshis : Nat
  spliceTx : Transaction
  fullySigned : Bool
  terms : SpliceTerms
  remoteFundingPubkey : Bytes
  ourSharedInputSig : Bytes
  remoteSharedInputSig : Option Bytes
  ourWalletWitnesses : List (List Bytes)
  ourWalletInputIndices : List Nat
  externalInputIndices : List Nat
  inputPrevouts : List TxOut
  remoteCommitmentSig : Option Bytes
  remoteHtlcSignatures : Option (List Bytes)
  remoteCommitmentSigFeeratePerKw : Option Nat
  sentTxSignatures : Bool
  receivedTxSignatures : Bool
  localSpliceLocked : Bool
  remoteSpliceLocked : Bool
  confirmed : Bool
  deriving DecidableEq

/-- An input of ours; an external one is signed by the caller, not by the wallet. -/
structure WalletInput where
  prevTx : Bytes
  prevOutputIndex : Nat
  value : Nat
  external : Bool
  deriving DecidableEq, Repr

structure FundedCommitmentSigned where
  signed : CommitmentSigned
  fundingTxid : Option Bytes
  deriving DecidableEq, Repr

structure TxSignatures where
  txid : Bytes
  witnesses : List (List Bytes)
  sharedInputSignature : Option Bytes
  deriving DecidableEq, Repr

inductive SpliceAction where
  | channel (action : ChannelAction)
  | persistState
  | error (message : String)
  | throws
  | sendCommitmentSigned (msg : FundedCommitmentSigned)
  | sendTxSignatures (msg : TxSignatures)
  | sendSpliceLocked (fundingTxid : Bytes)
  | txAbort (reason : String)
  | spliceAborted (reason : String)
  | spliceComplete
  | sendBatch (current splice : FundedCommitmentSigned)
  | txSignaturesNeeded (owed : List Nat)
  | spliceTxNegotiated (spliceTxid : Bytes) (newFundingOutputIndex : Nat)
  | broadcastTx (tx : Transaction)
  | watchFunding (fundingTxid : Bytes) (fundingOutputIndex : Nat)
  deriving DecidableEq, Repr

structure StoredChannel where
  live : ChannelState
  preSpliceState : Option Phase
  spliceFundingTxid : Option Bytes
  spliceFundingOutputIndex : Nat
  spliceInFlight : Option SpliceInFlight

/-- A channel with what the splice driver keeps in memory. A composite splice keeps whether its
    commitment may leave. -/
structure SplicingChannel extends StoredChannel where
  spliceSession : Option SpliceSession
  spliceTx : Option SpliceTx
  spliceInInputs : Option (List WalletInput)
  compositeSplice : Option Bool
  localNodeIdLower : Option Bool
  spliceSentCommitment : Bool
  spliceReceivedCommitment : Bool
  spliceSentTxSigs : Bool
  spliceRemoteCommitmentSig : Option Bytes
  spliceRemoteHtlcSigs : Option (List Bytes)
  spliceCallerTxSigsSignaled : Bool
  spliceAbortPending : Bool
  pendingBatch : Option (List FundedCommitmentSigned)

namespace SplicingChannel

variable (c : SplicingChannel) (env : SpliceEnv)

def isSplicePendingLock : Bool :=
  c.live.phase = .splicing &&
    c.spliceInFlight.any fun record => record.sentTxSignatures && record.receivedTxSignatures

def resetSpliceDriver : SplicingChannel :=
  { c with
    spliceTx := none
    spliceInInputs := none
    compositeSplice := none
    spliceSentCommitment := false
    spliceReceivedCommitment := false
    spliceSentTxSigs := false
    spliceRemoteCommitmentSig := none
    spliceRemoteHtlcSigs := none
    spliceCallerTxSigsSignaled := false
    pendingBatch := none }

def splicedView (session : SpliceSession) (tx : Transaction) (index : Nat)
    (newCapacity : Nat) (base : ChannelState) : ChannelState :=
  { base with
    fundingTxid := some (env.getHash tx)
    fundingOutputIndex := index
    fundingSatoshis := newCapacity
    localBalanceMsat := session.terms.myNewLocalMsat base newCapacity
    remoteBalanceMsat := session.terms.theirNewMsat base newCapacity
    localBasepoints := { base.localBasepoints with fundingPubkey := session.localFundingPubkey }
    remoteBasepoints := base.remoteBasepoints.map fun basepoints =>
      { basepoints with
        fundingPubkey := session.remoteFundingPubkey.getD basepoints.fundingPubkey } }

def splicedState (c : SplicingChannel) (base : ChannelState) : Option ChannelState :=
  match c.spliceTx, c.spliceSession with
  | some built, some session =>
    built.tx.outs[built.newFundingOutputIndex]?.map fun output =>
      splicedView env session built.tx built.newFundingOutputIndex output.value base
  | _, _ => none

end SplicingChannel

end Beignet.Splice
