import Beignet.Splice.Negotiation

namespace Beignet.Splice

open Beignet.Data Beignet.Channel Beignet.InteractiveTx

/-! The splice after the negotiation: commitments, `tx_signatures` and the lock. -/

abbrev Outcome := SplicingChannel × List SpliceAction

namespace SplicingChannel

variable (env : SpliceEnv) (c : SplicingChannel)

section TxSignatures

def owedIndices (external own : List Nat) (witnesses : List (List Bytes)) : List Nat :=
  external.filter fun index =>
    ((own.idxOf? index).bind fun pos => witnesses[pos]?).getD [] = []

def spliceOwedExternal : List Nat :=
  match c.spliceInFlight, c.spliceTx with
  | some record, _ =>
    owedIndices record.externalInputIndices record.ourWalletInputIndices record.ourWalletWitnesses
  | none, some built =>
    owedIndices built.ourExternalInputIndices built.ourWalletInputIndices built.ourWalletWitnesses
  | none, none => []

def maybeSignalSpliceTxSigsNeeded : Outcome :=
  let owed := c.spliceOwedExternal
  if owed = [] ∨ c.spliceCallerTxSigsSignaled = true then (c, [])
  else ({ c with spliceCallerTxSigsSignaled := true }, [.txSignaturesNeeded owed])

variable (session : SpliceSession)

def inputTotals (values : List (TxInput × Nat)) : Nat × Nat :=
  let ours := values.filter fun v =>
    if isSharedInput v.1 then session.terms.isInitiator
    else ownParity session.terms.isInitiator v.1.serialId
  let theirs := values.filter fun v =>
    !(if isSharedInput v.1 then session.terms.isInitiator
      else ownParity session.terms.isInitiator v.1.serialId)
  ((ours.map Prod.snd).sum, (theirs.map Prod.snd).sum)

def spliceShouldSignFirst : Bool :=
  match session.negotiation.txBuilder with
  | none => !session.terms.isInitiator
  | some builder =>
    match inputValues env c builder.inputs.values with
    | none => !session.terms.isInitiator
    | some values =>
      let totals := inputTotals session values
      if totals.1 ≠ totals.2 then totals.1 < totals.2
      else c.localNodeIdLower.getD !session.terms.isInitiator

def releaseTxSigs (built : SpliceTx) : Outcome :=
  let txid := env.getHash built.tx
  (syncSpliceInFlight env
      { c with
        spliceTx := some built
        spliceSentTxSigs := true
        spliceFundingTxid := some txid
        spliceFundingOutputIndex := built.newFundingOutputIndex }
      fun record => { record with sentTxSignatures := true },
    [.persistState, .watchFunding txid built.newFundingOutputIndex, .sendTxSignatures
        { txid := txid
          witnesses := built.ourWalletWitnesses
          sharedInputSignature := some built.localSig }])

def readyForTxSigs : Bool :=
  session.state = .awaitingTxSignatures && !c.spliceSentTxSigs && c.live.hasSigner &&
    c.spliceSentCommitment && c.spliceReceivedCommitment

def maybeSendSpliceTxSigs : Outcome :=
  match c.spliceSession with
  | none => (c, [])
  | some session =>
    if c.readyForTxSigs session = false then (c, [])
    else
      match buildAndSignSpliceTx env c with
      | none => (c, [.error "Failed to build/sign splice tx"])
      | some built =>
        let signed := { c with spliceTx := some built }
        if signed.spliceOwedExternal ≠ [] then signed.maybeSignalSpliceTxSigsNeeded
        else c.releaseTxSigs env built

def maybeSendSpliceTxSigsOrdered : Outcome :=
  match c.spliceSession with
  | none => (c, [])
  | some session =>
    if c.spliceSentCommitment = false ∨ c.spliceReceivedCommitment = false ∨
        c.spliceShouldSignFirst env session = false then (c, [])
    else c.maybeSendSpliceTxSigs env

end TxSignatures

section Lock

structure Adoption where
  spliceFundingTxid : Option Bytes
  spliceFundingOutputIndex : Nat
  funded : ChannelState

def adoptionOfRecord (record : SpliceInFlight) : Adoption where
  spliceFundingTxid := some record.spliceTxid
  spliceFundingOutputIndex := record.newFundingOutputIndex
  funded :=
    { c.live with
      fundingTxid := some record.spliceTxid
      fundingOutputIndex := record.newFundingOutputIndex
      fundingSatoshis := record.newFundingSatoshis
      localBalanceMsat := record.terms.myNewLocalMsat c.live record.newFundingSatoshis
      remoteBalanceMsat := record.terms.theirNewMsat c.live record.newFundingSatoshis
      remoteBasepoints := c.live.remoteBasepoints.map fun basepoints =>
        { basepoints with fundingPubkey := record.remoteFundingPubkey } }

def adoptionOfSession (session : SpliceSession) : Adoption where
  spliceFundingTxid := session.spliceTxid <|> c.spliceFundingTxid
  spliceFundingOutputIndex :=
    if session.spliceTxid.isSome then session.spliceFundingOutputIndex else c.spliceFundingOutputIndex
  funded :=
    if session.spliceTxid.isSome then
      { c.live with
        fundingTxid := session.spliceTxid
        fundingOutputIndex := session.spliceFundingOutputIndex
        fundingSatoshis := (c.live.fundingSatoshis + session.terms.getNetCapacityChange).toNat
        localBalanceMsat := c.live.localBalanceMsat + session.terms.localRelativeSatoshis * 1000
        remoteBalanceMsat := c.live.remoteBalanceMsat + session.terms.remoteRelativeSatoshis * 1000 }
    else c.live

def splicedAdoption : Option Adoption :=
  match c.spliceSession, c.spliceInFlight with
  | none, none => none
  | none, some record => some (c.adoptionOfRecord record)
  | some session, _ =>
    match c.splicedState env c.live with
    | some spliced => some ⟨session.spliceTxid, spliced.fundingOutputIndex, spliced⟩
    | none => some (c.adoptionOfSession session)

def spliceAdoptedRemoteSignature : Option Bytes :=
  c.spliceRemoteCommitmentSig <|> c.spliceInFlight.bind SpliceInFlight.remoteCommitmentSig

/-- The peer's signature for the adopted commitment becomes the stored one, with the rate it is for. -/
def storeAdoptedSignature (funded : ChannelState) : ChannelState :=
  match c.spliceAdoptedRemoteSignature with
  | none => { funded with needsCommitment := true }
  | some signature =>
    { funded with
      remoteCommitmentSignature := some signature
      remoteHtlcSignatures :=
        (c.spliceRemoteHtlcSigs <|> c.spliceInFlight.bind SpliceInFlight.remoteHtlcSignatures).getD []
      lastSignedCommitFeeratePerKw :=
        some ((c.spliceInFlight.bind SpliceInFlight.remoteCommitmentSigFeeratePerKw).getD
          (getLocalCommitmentFeeRate funded false)) }

/-- `_withSpliceAdoptionTail`: the reserves at the new capacity, the stored signature, and the phase. -/
def adoptionTail (adoption : Adoption) : StoredChannel :=
  let funded := adoption.funded
  let ourDust := funded.localConfig.dustLimitSatoshis
  let peerDust := funded.remoteConfig.dustLimitSatoshis
  let enforced := reserveWeEnforce funded.fundingSatoshis ourDust peerDust funded
  let kept := if funded.localReserveWaived then 0
    else max funded.remoteConfig.channelReserveSatoshis
      (reserveWeKeep funded.fundingSatoshis ourDust peerDust funded)
  { live := c.storeAdoptedSignature
      { funded with
        hasBeenSpliced := true
        localConfig := { funded.localConfig with
          channelReserveSatoshis := min funded.localConfig.channelReserveSatoshis enforced }
        remoteConfig := { funded.remoteConfig with channelReserveSatoshis := kept }
        quiescing := false
        peerHasSentStfu := false
        phase := .normal }
    preSpliceState := none
    spliceFundingTxid := adoption.spliceFundingTxid
    spliceFundingOutputIndex := adoption.spliceFundingOutputIndex
    spliceInFlight := none }

def computeSpliceAdoption : Option StoredChannel := (c.splicedAdoption env).map c.adoptionTail

def completeSplice : SplicingChannel :=
  match c.computeSpliceAdoption env with
  | none => c
  | some stored => { c with toStoredChannel := stored, spliceSession := none }.resetSpliceDriver

def sendSpliceLocked : Outcome :=
  if c.live.phase ≠ .splicing then
    (c, [.error "Cannot send splice_locked: channel not in SPLICING state"])
  else
    match c.spliceSession with
    | none => (c, [.error "Cannot send splice_locked: no splice session"])
    | some session =>
      if session.localSpliceLocked then (c, [])
      else
        match session.sendSpliceLocked with
        | .error reason => (c, [.error reason])
        | .ok locked =>
          let synced := syncSpliceInFlight env { c with spliceSession := some locked }
            fun record => { record with localSpliceLocked := true }
          let txid := locked.spliceTxid.getD []
          if locked.isComplete then
            (synced.completeSplice env, [.persistState, .sendSpliceLocked txid, .spliceComplete])
          else (synced, [.persistState, .sendSpliceLocked txid])

def handleSpliceLocked (fundingTxid : Bytes) : Outcome :=
  if c.live.phase ≠ .splicing then
    (c, [.error "Unexpected splice_locked: channel not in SPLICING state"])
  else
    match c.spliceSession with
    | none => (c, [.error "Unexpected splice_locked: no splice session"])
    | some session =>
      match session.handleSpliceLocked fundingTxid with
      | .error reason => (c, [.error reason])
      | .ok locked =>
        let synced := syncSpliceInFlight env { c with spliceSession := some locked }
          fun record => { record with remoteSpliceLocked := true }
        if locked.isComplete then (synced.completeSplice env, [.spliceComplete, .persistState])
        else (synced, [.persistState])

/-- Both signatures are on the transaction: it is published, and locked at once when it is deep enough. -/
def spliceCompletionTail (tx : Transaction) (newFundingOutputIndex : Nat) : Outcome :=
  let txid := env.getHash tx
  let synced := syncSpliceInFlight env
    { c with spliceFundingTxid := some txid, spliceFundingOutputIndex := newFundingOutputIndex }
    fun record => { record with receivedTxSignatures := true, fullySigned := true, spliceTx := tx }
  let published : List SpliceAction :=
    [.persistState, .broadcastTx tx, .watchFunding txid newFundingOutputIndex]
  if synced.spliceInFlight.any SpliceInFlight.confirmed then
    let locked := synced.sendSpliceLocked env
    (locked.1, published ++ locked.2)
  else (synced, published)

end Lock

section Commitments

variable (spliced : ChannelState) (e : HtlcEntry) (msg : CommitmentSigned)

def verifySpliced (number : Nat) (msg : CommitmentSigned)
    (invalidSignature invalidHtlc : String) : Option SpliceAction :=
  match buildLocalCommitment env.prim spliced
    (getPerCommitmentPoint env.prim spliced.localPerCommitmentSeed number) number false with
  | none => some .throws
  | some built => firstRefusal [
      refuseIf (env.ver.commitmentSig built.tx msg.signature = false) (.error invalidSignature),
      refuseIf (htlcSignaturesValid msg env.ver.htlcSigs built = false) (.error invalidHtlc)]

def markOfferedAddRemoteSigned : HtlcEntry :=
  if e.direction = .offered ∧ e.addRemoteCommitted ≠ some false ∧ e.state ≠ .failed then
    { e with addRemoteSigned := some true }
  else e

theorem markOfferedAddRemoteSigned_key : (markOfferedAddRemoteSigned e).key = e.key := by
  unfold markOfferedAddRemoteSigned
  split <;> rfl

def storeSpliceSignature (feeratePerKw : Nat) : SplicingChannel :=
  let held := { c with
    spliceRemoteCommitmentSig := some msg.signature
    spliceRemoteHtlcSigs := some msg.htlcSignatures }
  if c.spliceInFlight = none then held
  else syncSpliceInFlight env held fun record =>
    { record with
      remoteCommitmentSig := some msg.signature
      remoteHtlcSignatures := some msg.htlcSignatures
      remoteCommitmentSigFeeratePerKw := some feeratePerKw }

def acceptSpliceCommitment : SplicingChannel :=
  storeSpliceSignature env
    { c with
      spliceReceivedCommitment := true
      live := { c.live with
        htlcs := c.live.htlcs.map markOfferedAddRemoteSigned markOfferedAddRemoteSigned_key } }
    msg (getLocalCommitmentFeeRate spliced false)

-- A refusal keeps what sending our own commitment has written but drops the message itself.
def handleSpliceCommitmentSigned (msg : FundedCommitmentSigned) : Outcome :=
  let sending := maybeSendSpliceCommitment env c
  let held := sending.1
  match held.splicedState env held.live, held.spliceTx with
  | some spliced, some built =>
    let spliceTxid := env.getHash built.tx
    if msg.fundingTxid ≠ none ∧ msg.fundingTxid ≠ some spliceTxid then
      if msg.fundingTxid = held.live.fundingTxid then sending
      else
        let peerTxid := hex (msg.fundingTxid.getD []).reverse
        let ourTxid := hex spliceTxid.reverse
        (held, [.error s!"splice commitment_signed funding_txid mismatch: peer={peerTxid} ours={ourTxid}"])
    else if held.live.hasSigner = false ∨ held.live.remoteBasepoints = none then
      (held, [.error "Cannot verify splice commitment signature: no signer or remote basepoints"])
    else
      match verifySpliced env spliced held.live.localCommitmentNumber msg.signed
        "Invalid splice commitment signature" "Invalid splice commitment HTLC signature" with
      | some refusal => (held, [refusal])
      | none =>
        let release := (held.acceptSpliceCommitment env spliced msg.signed).maybeSendSpliceTxSigsOrdered env
        (release.1, sending.2 ++ release.2)
  | _, _ => (held, [.error "Unexpected splice commitment_signed: tx not built"])

def sortBatch (spliceTxid : Bytes) (fundingTxid : Option Bytes) :
    List FundedCommitmentSigned → Option FundedCommitmentSigned → Option FundedCommitmentSigned →
    Except String (Option FundedCommitmentSigned × Option FundedCommitmentSigned)
  | [], current, splice => .ok (current, splice)
  | msg :: rest, current, splice =>
    if msg.fundingTxid = some spliceTxid then
      if splice.isSome then .error "Commitment batch has two splice-funding commitments"
      else sortBatch spliceTxid fundingTxid rest current (some msg)
    else if msg.fundingTxid = none ∨ msg.fundingTxid = fundingTxid then
      if current.isSome then .error "Commitment batch has two current-funding commitments"
      else sortBatch spliceTxid fundingTxid rest (some msg) splice
    else
      let peerTxid := hex (msg.fundingTxid.getD []).reverse
      .error s!"Commitment batch funding_txid unknown: {peerTxid}"

def failedReply (r : Reply) : Bool :=
  r.actions.any fun
    | .notify (.error _ _) => true
    | .notify (.throws _) => true
    | _ => false

/-- The round on the current output, with the channel shown as an open one while it is handled. -/
def acceptBatch (current splice : CommitmentSigned) : Outcome :=
  let reply := Channel.handleCommitmentSigned env.prim env.ver { c.live with phase := .normal } current
  let handled := { c with live := { reply.state with phase := .splicing } }
  let actions := reply.actions.map .channel
  if failedReply reply then (handled, actions)
  else (handled.storeSpliceSignature env splice (getLocalCommitmentFeeRate spliced false), actions)

def failChannel (message : String) : Outcome :=
  ({ c with live := { c.live with phase := .errored } }, [.persistState, .error message])

def handleCommitmentSignedBatch (msgs : List FundedCommitmentSigned) : Outcome :=
  match c.spliceInFlight with
  | none =>
    match msgs.find? fun m => m.fundingTxid.isSome && m.fundingTxid = c.live.fundingTxid with
    | none =>
      (c, [.error "Commitment batch without a pending splice or a current-funding commitment"])
    | some current =>
      let reply := Channel.handleCommitmentSigned env.prim env.ver c.live current.signed
      ({ c with live := reply.state }, reply.actions.map .channel)
  | some record =>
    match sortBatch record.spliceTxid c.live.fundingTxid msgs none none with
    | .error reason => (c, [.error reason])
    | .ok (none, _) => (c, [.error "Commitment batch missing the current-funding commitment"])
    | .ok (some _, none) => (c, [.error "Commitment batch missing the splice-funding commitment"])
    | .ok (some current, some splice) =>
      if c.live.hasSigner = false ∨ c.live.remoteBasepoints = none then
        (c, [.error "Commitment batch: no signer or remote basepoints"])
      else
        match c.splicedState env c.live with
        | none => (c, [.error "Commitment batch: cannot rebuild spliced state"])
        | some spliced =>
          let nextNum := c.live.localCommitmentNumber + 1
          let ourPoint := getPerCommitmentPoint env.prim c.live.localPerCommitmentSeed nextNum
          match funderOutputTrimmedRefusal env.prim spliced .localSide ourPoint nextNum with
          | some trimmed => c.failChannel trimmed
          | none =>
            match verifySpliced env spliced nextNum splice.signed
              "Invalid batched splice commitment signature"
              "Invalid HTLC signature in a pending-lock batch" with
            | some refusal => (c, [refusal])
            | none => c.acceptBatch env spliced current.signed splice.signed

def handleStartBatch (batchSize : Nat) (messageType : Option Nat) : Outcome :=
  let postSpliceNormal := c.live.phase = .normal ∧ c.spliceFundingTxid ≠ none ∧
    c.spliceFundingTxid = c.live.fundingTxid
  if c.isSplicePendingLock = false ∧ ¬ postSpliceNormal then
    (c, [.error "Unexpected start_batch: no fully-signed pending splice"])
  else if messageType ≠ none ∧ messageType ≠ some 132 then
    let given := messageType.getD 0
    (c, [.error s!"Unsupported start_batch message_type {given}"])
  else if batchSize ≠ 2 then
    (c, [.error s!"Unsupported start_batch size {batchSize} (expected 2)"])
  else ({ c with pendingBatch := some [] }, [])

def handleCommitmentSigned (msg : FundedCommitmentSigned) : Outcome :=
  match c.pendingBatch with
  | some [] => ({ c with pendingBatch := some [msg] }, [])
  | some (first :: _) => { c with pendingBatch := none }.handleCommitmentSignedBatch env [first, msg]
  | none =>
    if c.live.phase = .splicing ∧ c.spliceSession.isSome then
      if c.isSplicePendingLock then
        (c, [.error "commitment_signed during a pending splice must be a start_batch"])
      else c.handleSpliceCommitmentSigned env msg
    else
      let reply := Channel.handleCommitmentSigned env.prim env.ver c.live msg.signed
      ({ c with live := reply.state }, reply.actions.map .channel)

end Commitments

section PeerSignatures

def peerIndices (built : SpliceTx) : List Nat :=
  (List.range built.tx.ins.length).filter fun i =>
    i ≠ built.sharedInputIndex && !built.ourWalletInputIndices.contains i

def validateSplicePeerWitnesses (witnesses : List (List Bytes)) : Option String :=
  match c.spliceTx with
  | none => some "no negotiated splice transaction"
  | some built =>
    let expected := peerIndices built
    let wanted := expected.length
    let given := witnesses.length
    if given ≠ wanted then some s!"expected {wanted} witness stacks, got {given}"
    else if expected = [] then none
    else
      match spliceInputPrevouts env c with
      | none =>
        refuseIf (c.spliceSession.any fun s => s.negotiation.txBuilder.isSome)
          "splice funding prevouts cannot be resolved"
      | some prevouts =>
        if prevouts.length ≠ built.tx.ins.length then some "splice prevouts do not cover the negotiated tx"
        else (expected.zip witnesses).findSome? fun (i, stack) =>
          env.validateWitnessForInput built.tx i stack prevouts

variable (remoteSig : Bytes) (msg : TxSignatures) (reason : String) (record : SpliceInFlight)
  (witnesses : List (List Bytes)) (tx : Transaction)

def verifySpliceSharedInputSig : Option String :=
  match c.spliceSession, c.spliceTx, c.live.remoteBasepoints with
  | some _, some built, some basepoints =>
    refuseIf (env.verifySpliceSharedInput built.tx built.sharedInputIndex c.live.fundingSatoshis
      basepoints.fundingPubkey remoteSig = false) "invalid peer splice signature"
  | _, _, _ => some "no negotiated splice transaction"

def applyPeerSpliceSignature : SplicingChannel × Option SpliceTx :=
  match c.spliceSession, c.spliceTx with
  | some session, some built =>
    if c.verifySpliceSharedInputSig env remoteSig ≠ none then (c, none)
    else
      let synced := syncSpliceInFlight env c fun record => { record with remoteSharedInputSig := some remoteSig }
      if witnesses.length ≠ (peerIndices built).length ∨ session.state ≠ .awaitingTxSignatures then
        (synced, none)
      else
        ({ synced with
            spliceSession := some (session.recordTx (env.getHash built.tx) built.newFundingOutputIndex) },
          some built)
  | _, _ => (c, none)

/-- Older peers put the signature for the shared input in front of the witnesses. -/
def peerSignature : Option Bytes × List (List Bytes) :=
  match msg.sharedInputSignature, msg.witnesses with
  | none, [signature] :: rest =>
    if signature.length = 64 then (some signature, rest) else (none, msg.witnesses)
  | given, witnesses => (given, witnesses)

def refuseTxSigs (message : String) : List SpliceAction :=
  match c.spliceInFlight with
  | some record =>
    if c.spliceSentTxSigs || record.sentTxSignatures then
      [.persistState, .watchFunding record.spliceTxid record.newFundingOutputIndex, .error message]
    else [.error message]
  | none => [.error message]

/-- `abortSplice`: nothing is given up once a signature of ours may have left. -/
def abortSplice : Outcome :=
  match c.spliceSession with
  | none =>
    match c.spliceInFlight with
    | some record =>
      if record.sentTxSignatures || record.receivedTxSignatures then
        (c, [.error "No splice session to abort"])
      else
        let cleared := { c with spliceInFlight := none }.resetSpliceDriver
        if c.live.phase = .splicing then
          ({ cleared with
              live := { c.live with phase := c.preSpliceState.getD .normal }
              preSpliceState := none },
            [.spliceAborted reason])
        else (cleared, [.spliceAborted reason])
    | none => (c, [.error "No splice session to abort"])
  | some session =>
    if c.spliceSentTxSigs ||
        c.spliceInFlight.any (fun record =>
          record.sentTxSignatures || (record.receivedTxSignatures && c.compositeSplice.isNone)) then
      (c, [.error (s!"Cannot abort splice: tx_signatures already exchanged, the splice tx may confirm " ++
        s!"({reason})")])
    else
      match session.negotiation.abort reason with
      | (_, some refusal) => (c, [.error refusal])
      | (_, none) =>
        ({ c with
            live := { c.live with
              phase := c.preSpliceState.getD .normal
              quiescing := false
              peerHasSentStfu := false }
            preSpliceState := none
            spliceSession := none
            spliceInFlight := none }.resetSpliceDriver,
          [.spliceAborted reason])

def abortForTxid : Outcome :=
  let aborted := c.abortSplice reason
  (aborted.1, [.persistState, .txAbort reason] ++ aborted.2 ++ [.error reason])

def completeTxSignatures (peerSig : Bytes) (witnesses : List (List Bytes)) : Outcome :=
  let released := c.maybeSendSpliceTxSigs env
  match released.1.applyPeerSpliceSignature env peerSig witnesses with
  | (applied, none) => (applied, released.2 ++ applied.refuseTxSigs "invalid peer splice signature")
  | (applied, some built) =>
    if applied.spliceOwedExternal ≠ [] then
      let synced := syncSpliceInFlight env
        { applied with
          spliceFundingTxid := some (env.getHash built.tx)
          spliceFundingOutputIndex := built.newFundingOutputIndex }
        fun record => { record with receivedTxSignatures := true, fullySigned := false, spliceTx := built.tx }
      let signaled := synced.maybeSignalSpliceTxSigsNeeded
      (signaled.1, [.persistState] ++ released.2 ++ signaled.2)
    else
      let completed := applied.spliceCompletionTail env built.tx built.newFundingOutputIndex
      (completed.1, released.2 ++ completed.2)

def handleTxSignatures : Outcome :=
  if c.spliceSession.any (fun session => !session.isComplete) = false then
    (c, [.error "No dual-funding session"])
  else if c.spliceInFlight.any SpliceInFlight.receivedTxSignatures then (c, [])
  else
    match peerSignature msg with
    | (none, _) => c.failChannel "splice tx_signatures missing shared-input signature"
    | (some peerSig, witnesses) =>
      let c := { c with spliceTx := c.spliceTx <|> buildAndSignSpliceTx env c }
      let ours := c.spliceTx.map fun built => env.getHash built.tx
      let peerTxid := hex msg.txid.reverse
      let ourTxid := hex (ours.getD []).reverse
      let mismatch := s!"splice tx_signatures txid mismatch: peer={peerTxid} ours={ourTxid}"
      if ours ≠ none ∧ ours ≠ some msg.txid then
        if c.spliceSentTxSigs || c.spliceInFlight.any SpliceInFlight.sentTxSignatures then
          (c, c.refuseTxSigs mismatch)
        else c.abortForTxid mismatch
      else
        match c.validateSplicePeerWitnesses env witnesses with
        | some problem => (c, c.refuseTxSigs s!"invalid splice tx_signatures: {problem}")
        | none =>
          match c.verifySpliceSharedInputSig env peerSig with
          | some problem => c.failChannel problem
          | none => c.completeTxSignatures env peerSig witnesses

def externalSlot (prevTxid : Bytes) (prevOutputIndex : Nat) : Option (Nat × Nat) := do
  let index ← findInputIndex tx prevTxid prevOutputIndex
  if record.externalInputIndices.contains index then
    let pos ← record.ourWalletInputIndices.idxOf? index
    some (index, pos)
  else none

def knownTx : Transaction := (c.spliceTx.map SpliceTx.tx).getD record.spliceTx

def fillWitnesses : SplicingChannel :=
  let tx := c.knownTx record
  syncSpliceInFlight env
    { c with spliceTx := c.spliceTx.map fun built => { built with ourWalletWitnesses := witnesses } }
    fun record => { record with ourWalletWitnesses := witnesses, spliceTx := tx }

def releaseLate (witnesses : List (List Bytes)) : Outcome :=
  let txid := env.getHash tx
  let sending := syncSpliceInFlight env
    { c with
      spliceSentTxSigs := true
      spliceFundingTxid := some txid
      spliceFundingOutputIndex := record.newFundingOutputIndex }
    fun record => { record with sentTxSignatures := true }
  let completed := sending.spliceCompletionTail env tx record.newFundingOutputIndex
  (completed.1, [.persistState, .watchFunding txid record.newFundingOutputIndex,
      .sendTxSignatures ⟨txid, witnesses, some record.ourSharedInputSig⟩] ++ completed.2)

/-- The witness of an external input. When it is the last one and the peer's signatures are here, ours
    leave at once. -/
def provideSpliceExternalWitness (prevTxid : Bytes) (prevOutputIndex : Nat) (witness : List Bytes) : Outcome :=
  match c.spliceInFlight with
  | none => (c, [.throws])
  | some record =>
    let tx := c.knownTx record
    if prevTxid.length ≠ 32 ∨ record.externalInputIndices = [] then (c, [.throws])
    else if record.sentTxSignatures || record.fullySigned then (c, [])
    else
      match externalSlot record tx prevTxid prevOutputIndex, spliceInputPrevouts env c with
      | some (index, pos), some prevouts =>
        if env.validateWitnessForInput tx index witness prevouts ≠ none then (c, [.throws])
        else
          let updated := record.ourWalletWitnesses.set pos witness
          let filled := c.fillWitnesses env record updated
          if filled.spliceOwedExternal ≠ [] then (filled, [.persistState])
          else if record.receivedTxSignatures = false then
            let released := filled.maybeSendSpliceTxSigsOrdered env
            (released.1, .persistState :: released.2)
          else filled.releaseLate env record tx updated
      | _, _ => (c, [.throws])

end PeerSignatures

end SplicingChannel

end Beignet.Splice
