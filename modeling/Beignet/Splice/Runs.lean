import Beignet.InteractiveTx.Ownership
import Beignet.Splice.Window

namespace Beignet.Splice

open Beignet.Data Beignet.Channel Beignet.InteractiveTx

structure SpliceMessage where
  fundingPubkey : Bytes
  relativeSatoshis : Int
  fundingFeeratePerkw : Nat
  locktime : Nat
  deriving DecidableEq, Repr

namespace SplicingChannel

variable (env : SpliceEnv) (c : SplicingChannel)

section Opening

def newSession (c : SplicingChannel) (negotiation : NegotiationSession) (terms : SpliceTerms)
    (remoteFundingPubkey : Option Bytes) (fundingFeeratePerkw locktime : Nat) : SpliceSession where
  negotiation := negotiation
  terms := terms
  localFundingPubkey := c.live.localBasepoints.fundingPubkey
  remoteFundingPubkey := remoteFundingPubkey
  fundingFeeratePerkw := fundingFeeratePerkw
  locktime := locktime
  spliceTxid := none
  spliceFundingOutputIndex := 0
  localSpliceLocked := false
  remoteSpliceLocked := false

def enterSplicing (session : SpliceSession) : SplicingChannel :=
  { c with
    spliceSession := some session
    preSpliceState := some c.live.phase
    live := { c.live with phase := .splicing } }

/-- `_startSplice`: the request has been checked, and the channel is quiescent at our initiative. -/
def startSplice (relativeSatoshis : Int) (fundingFeeratePerkw locktime : Nat) : Outcome :=
  if c.live.phase ≠ .normal then (c, [.error "Cannot splice: channel not in NORMAL state"])
  else if c.spliceAbortPending then (c, [.error "Cannot splice: a previous abort is awaiting its echo"])
  else
    (c.enterSplicing (c.newSession ⟨.splice, .awaitingReply, none⟩ ⟨true, relativeSatoshis, 0⟩ none
        fundingFeeratePerkw locktime),
      [.persistState])

/-- `splice_init`, the channel being quiescent at the peer's initiative; `localRelativeSatoshis` is what
    we add ourselves. -/
def handleSplice (msg : SpliceMessage) (localRelativeSatoshis : Int) : Outcome :=
  let terms : SpliceTerms := ⟨false, localRelativeSatoshis, msg.relativeSatoshis⟩
  let postSpliceCapacity : Int := c.live.fundingSatoshis + terms.getNetCapacityChange
  let most := env.maxFundingSatoshis
  if c.live.phase ≠ .normal then (c, [.error "Unexpected splice: channel not in NORMAL state"])
  else if isTaprootChannel c.live.channelType then
    (c, [.txAbort "taproot splicing unsupported",
      .error "Cannot accept splice: taproot (MuSig2) channels do not support splicing yet"])
  else if c.spliceAbortPending then (c, [])
  else if most < postSpliceCapacity then
    (c, [.txAbort "post-splice capacity exceeds maximum",
      .error s!"Cannot accept splice: post-splice capacity {postSpliceCapacity} exceeds maximum {most}"])
  else
    (c.enterSplicing (c.newSession ⟨.splice, .txNegotiation, some (.create false msg.locktime)⟩ terms
        (some msg.fundingPubkey) msg.fundingFeeratePerkw msg.locktime),
      [.persistState])

end Opening

section Negotiation

def negotiating : Bool := c.spliceSession.any fun session => session.state = .txNegotiation

def onNegotiation (call : NegotiationSession → NegotiationSession × Option String) :
    SplicingChannel × Option String :=
  match c.spliceSession with
  | none => (c, none)
  | some session =>
    ({ c with spliceSession := some { session with negotiation := (call session.negotiation).1 } },
      (call session.negotiation).2)

variable (turn : Option OwnCall) (msg : TxAddInputMsg) (serialId : Nat)

/-- `_driveSplice`. What we contribute, and when we are done, is the caller's choice here; the messages
    that carry it are left out. -/
def driveSplice : Outcome :=
  match turn with
  | none => (c, [])
  | some call =>
    if c.negotiating then
      match c.onNegotiation call.run with
      | (driven, some reason) => (driven, [.error reason])
      | (driven, none) => (driven, [])
    else (c, [])

def failNegotiation (reason : String) : Outcome :=
  let aborted := c.abortSplice reason
  (aborted.1, .txAbort reason :: aborted.2 ++ [.error s!"splice aborted: {reason}"])

def handleSpliceAck (fundingPubkey : Bytes) (relativeSatoshis : Int) (turn : Option OwnCall) : Outcome :=
  if c.spliceAbortPending then (c, [])
  else if c.live.phase ≠ .splicing then
    (c, [.error "Unexpected splice_ack: channel not in SPLICING state"])
  else
    match c.spliceSession with
    | none => (c, [.error "Unexpected splice_ack: no splice session"])
    | some session =>
      if session.state ≠ .awaitingReply then (c, [.error "Unexpected splice_ack: wrong state"])
      else
        let terms := { session.terms with remoteRelativeSatoshis := relativeSatoshis }
        let postSpliceCapacity : Int := c.live.fundingSatoshis + terms.getNetCapacityChange
        let answered := { c with
          spliceSession := some { session with
            terms := terms
            remoteFundingPubkey := some fundingPubkey
            negotiation := ⟨.splice, .txNegotiation, some (.create session.terms.isInitiator session.locktime)⟩ } }
        if c.compositeSplice.isSome ∧ relativeSatoshis ≠ 0 then
          answered.failNegotiation ("peer contributed to a composite splice " ++
            "(splice_ack funding_contribution_satoshis is not zero)")
        else if env.maxFundingSatoshis < postSpliceCapacity then
          answered.failNegotiation "post-splice capacity exceeds maximum"
        else answered.driveSplice turn

def handleItem (what : String) (call : NegotiationSession → NegotiationSession × Option String)
    (turn : Option OwnCall) : Outcome :=
  if c.negotiating = false then (c, [.error s!"Unexpected {what}"])
  else if c.compositeSplice.isSome then
    c.failNegotiation s!"peer sent {what} in a composite splice session"
  else
    match c.onNegotiation call with
    | (taken, some reason) => (taken, [.error reason])
    | (taken, none) => taken.driveSplice turn

def sharedInputMismatch : Bool :=
  msg.sharedInputTxid.any fun txid =>
    ¬ (c.live.fundingTxid = some txid ∧ msg.prevTxVout = c.live.fundingOutputIndex)

def handleTxAddInput (prevTxBytesFree : Option Int) (turn : Option OwnCall) : Outcome :=
  let parse : ParseOutputs := fun bytes => (env.fromBuffer bytes).map (List.map TxOut.script)
  let extractTxid := fun bytes => some (env.extractTxidFromPrevTx bytes)
  if c.negotiating = false then (c, [.error "Unexpected tx_add_input"])
  else if c.compositeSplice.isSome then
    c.failNegotiation "peer sent tx_add_input in a composite splice session"
  else if c.sharedInputMismatch msg then
    let aborted := c.abortSplice "peer splice shared input does not match the channel funding outpoint"
    (aborted.1, .txAbort "splice shared input does not match the channel funding outpoint" :: aborted.2)
  else
    match c.onNegotiation fun s =>
      s.addPeerInput parse (NegotiatingChannel.peerInput extractTxid .splice msg) prevTxBytesFree with
    | (taken, some reason) => taken.failNegotiation reason
    | (taken, none) => taken.driveSplice turn

def handleTxAddOutput (output : TxOutput) (turn : Option OwnCall) : Outcome :=
  let dust := max c.live.localConfig.dustLimitSatoshis c.live.remoteConfig.dustLimitSatoshis
  c.handleItem "tx_add_output" (fun s => (s.setDustLimit dust).addPeerOutput output) turn

def handleTxRemoveInput : Outcome :=
  c.handleItem "tx_remove_input" (fun s => s.removePeerInput serialId) none

def handleTxRemoveOutput : Outcome :=
  c.handleItem "tx_remove_output" (fun s => s.removePeerOutput serialId) none

def takeTxComplete : SplicingChannel × Option String :=
  if c.negotiating = false then (c, some "Unexpected tx_complete")
  else
    match c.onNegotiation NegotiationSession.handlePeerComplete with
    | (taken, some reason) => (taken, some reason)
    | (taken, none) => ((taken.driveSplice turn).1, none)

/-- The negotiated transaction is audited, then signed for. A composite splice holds its commitment until
    all its sessions have negotiated the same transaction. -/
def concludeNegotiation : Outcome :=
  match c.spliceSession with
  | none => (c, [])
  | some session =>
    if session.state ≠ .awaitingTxSignatures then (c, [])
    else
      match validateNegotiatedInteractiveTx env c session with
      | some invalid => c.failNegotiation invalid
      | none =>
        if c.compositeSplice = some false then
          match buildAndSignSpliceTx env c with
          | none => c.failNegotiation "failed to build the negotiated splice tx"
          | some built =>
            ({ c with spliceTx := some built },
              [.spliceTxNegotiated (env.getHash built.tx) built.newFundingOutputIndex])
        else maybeSendSpliceCommitment env c

def handleTxComplete : Outcome :=
  match c.takeTxComplete turn with
  | (taken, some reason) => (taken, [.error reason])
  | (taken, none) => taken.concludeNegotiation env

def releaseCompositeSpliceCommitment : Outcome :=
  if c.compositeSplice = some false then
    maybeSendSpliceCommitment env { c with compositeSplice := some true }
  else (c, [])

end Negotiation

end SplicingChannel

/-- Everything that can happen to a channel with or without a splice, lost connections and restarts
    apart. The turns are what we contribute to the negotiation. -/
inductive SpliceInput where
  | setWalletInputs (inputs : Option (List WalletInput)) (composite : Bool)
  | start (relativeSatoshis : Int) (fundingFeeratePerkw locktime : Nat)
  | splice (msg : SpliceMessage) (localRelativeSatoshis : Int)
  | spliceAck (fundingPubkey : Bytes) (relativeSatoshis : Int) (turn : Option OwnCall)
  | txAddInput (msg : TxAddInputMsg) (prevTxBytesFree : Option Int) (turn : Option OwnCall)
  | txAddOutput (output : TxOutput) (turn : Option OwnCall)
  | txRemoveInput (serialId : Nat)
  | txRemoveOutput (serialId : Nat)
  | txComplete (turn : Option OwnCall)
  | releaseComposite
  | startBatch (batchSize : Nat) (messageType : Option Nat)
  | commitmentSigned (msg : FundedCommitmentSigned)
  | txSignatures (msg : TxSignatures)
  | externalWitness (prevTxid : Bytes) (prevOutputIndex : Nat) (witness : List Bytes)
  | abort (reason : String)
  | markConfirmed
  | sendSpliceLocked
  | spliceLocked (fundingTxid : Bytes)
  | update (input : ChannelInput)
  | signBatch (signature : Bytes) (htlcSignatures : List Bytes)
  deriving DecidableEq, Repr

namespace SplicingChannel

variable (env : SpliceEnv) (c : SplicingChannel)

def setWalletInputs (inputs : Option (List WalletInput)) (composite : Bool) : SplicingChannel :=
  if c.live.phase ≠ .normal then c
  else { c with spliceInInputs := inputs, compositeSplice := if composite then some false else none }

def markSpliceConfirmed : SplicingChannel :=
  { c with spliceInFlight := c.spliceInFlight.map fun record => { record with confirmed := true } }

def step : SpliceInput → Outcome
  | .setWalletInputs inputs composite => (c.setWalletInputs inputs composite, [])
  | .start relativeSatoshis feerate locktime => c.startSplice relativeSatoshis feerate locktime
  | .splice msg localRelativeSatoshis => c.handleSplice env msg localRelativeSatoshis
  | .spliceAck pubkey relativeSatoshis turn => c.handleSpliceAck env pubkey relativeSatoshis turn
  | .txAddInput msg free turn => c.handleTxAddInput env msg free turn
  | .txAddOutput output turn => c.handleTxAddOutput output turn
  | .txRemoveInput serialId => c.handleTxRemoveInput serialId
  | .txRemoveOutput serialId => c.handleTxRemoveOutput serialId
  | .txComplete turn => c.handleTxComplete env turn
  | .releaseComposite => c.releaseCompositeSpliceCommitment env
  | .startBatch size type => c.handleStartBatch size type
  | .commitmentSigned msg => c.handleCommitmentSigned env msg
  | .txSignatures msg => c.handleTxSignatures env msg
  | .externalWitness txid index witness => c.provideSpliceExternalWitness env txid index witness
  | .abort reason => c.abortSplice reason
  | .markConfirmed => (c.markSpliceConfirmed, [])
  | .sendSpliceLocked => c.sendSpliceLocked env
  | .spliceLocked txid => c.handleSpliceLocked env txid
  | .update input => c.updateChannel env input
  | .signBatch signature htlcSignatures => c.signCommitmentBatch env signature htlcSignatures

def next (input : SpliceInput) : SplicingChannel := (c.step env input).1

def signingState : SpliceInput → SplicingChannel
  | .txComplete turn => (c.takeTxComplete turn).1
  | _ => c

end SplicingChannel

end Beignet.Splice
