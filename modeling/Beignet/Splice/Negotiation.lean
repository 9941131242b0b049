import Beignet.Splice.Types

namespace Beignet.Splice

open Beignet.Data Beignet.Channel Beignet.InteractiveTx

/-! What is checked of a negotiated splice before anything of it is signed. -/

def spliceTxBaseWeight : Nat := 42
def sharedFundingInputWeight : Nat := 386
def p2wpkhInputWeight : Nat := 272
def maxStandardTxWeight : Nat := 400000
def minChannelReserveSatoshis : Nat := 546

def outputWeight (scriptLen : Nat) : Nat := (8 + 1 + scriptLen) * 4

def estimateSpliceTxWeight (walletInputCount : Nat) (changeScriptLen destinationScriptLen : Option Nat) : Nat :=
  spliceTxBaseWeight + sharedFundingInputWeight + walletInputCount * p2wpkhInputWeight + outputWeight 34 +
    (changeScriptLen.map outputWeight).getD 0 + (destinationScriptLen.map outputWeight).getD 0

def spliceFeeSats (weight feeratePerKw : Nat) : Nat := (weight * feeratePerKw + 999) / 1000

def bySerialId {α : Type} (serialId : α → Nat) (items : List α) : List α :=
  items.insertionSort fun a b => serialId a ≤ serialId b

/-- Throws, here gives nothing, when an input names a txid that is not 32 bytes long. -/
def buildSpliceTx (inputs : List TxInput) (outputs : List TxOutput) (locktime : Nat) : Option Transaction :=
  if ∃ input ∈ inputs, input.prevTxid.length ≠ 32 then none
  else some
    { ins := (bySerialId TxInput.serialId inputs).map fun input =>
        ⟨input.prevTxid, input.prevOutputIndex, input.sequence % 2 ^ 32⟩
      outs := (bySerialId TxOutput.serialId outputs).map fun output =>
        ⟨output.amountSats, output.scriptPubkey⟩
      locktime := locktime % 2 ^ 32 }

def findInputIndex (tx : Transaction) (prevTxid : Bytes) (prevOutputIndex : Nat) : Option Nat :=
  tx.ins.findIdx? fun i => i.index = prevOutputIndex && i.hash = prevTxid

def findOutputIndex (tx : Transaction) (script : Bytes) : Option Nat :=
  tx.outs.findIdx? fun o => o.script = script

section Inputs

variable (env : SpliceEnv) (input : TxInput)

def prevout : Option TxOut := do
  let bytes ← input.prevTx
  let outs ← env.fromBuffer bytes
  outs[input.prevTxVout.getD input.prevOutputIndex]?

def interactiveInputValueSats : Option Nat :=
  if input.prevTxLength = 0 then none else (prevout env input).map TxOut.value

def isP2wpkh (script : Bytes) : Bool := script.length = 22 && script.take 2 = [0x00, 0x14]
def isP2wsh (script : Bytes) : Bool := script.length = 34 && script.take 2 = [0x00, 0x20]
def isP2tr (script : Bytes) : Bool := script.length = 34 && script.take 2 = [0x51, 0x20]

def auditMinInputWeightWu : Nat :=
  match if 32 ≤ input.prevTxLength then prevout env input else none with
  | some out =>
    if isP2tr out.script then 164 + 66
    else if isP2wsh out.script then sharedFundingInputWeight
    else 164 + 107
  | none => 164 + 107

/-- `_v2CheckInputSpendable` for a splice. -/
def checkInputSpendable : Option String :=
  if input.prevTxLength < 32 then some "funding input carries no previous transaction"
  else
    match input.prevTx.bind env.fromBuffer with
    | none => some "funding input previous transaction is unreadable"
    | some outs =>
      match outs[input.prevTxVout.getD input.prevOutputIndex]? with
      | none => some "funding input names a missing prevout"
      | some out =>
        refuseIf ((isP2wpkh out.script || isP2tr out.script || isP2wsh out.script) = false)
          ("funding input pays an unsupported output type " ++
            "(only P2WPKH, P2TR and 2-of-2 P2WSH witnesses can be verified)")

def spliceInputIsExternal (walletInputs : Option (List WalletInput)) (input : TxInput) : Bool :=
  (walletInputs.getD []).any fun w =>
    w.external && w.prevOutputIndex = input.prevTxVout.getD input.prevOutputIndex &&
      env.extractTxidFromPrevTx w.prevTx = input.prevTxid

end Inputs

structure CompletedTx where
  remoteInputSats : Nat
  remoteOutputSats : Nat
  remoteContributionSats : Int
  feeSats : Int
  weight : Nat
  feeratePerKw : Nat

def checkFeeSufficiency (fee : Int) (weight minFeeratePerKw : Nat) : Option String :=
  let minFee := weight * minFeeratePerKw / 1000
  refuseIf (fee < minFee)
    s!"Fee {fee} is below minimum {minFee} for weight {weight} at {minFeeratePerKw} sat/kw"

def weightRefusal (weight : Nat) : Option String :=
  refuseIf (maxStandardTxWeight < weight)
    s!"Transaction weight {weight} exceeds {maxStandardTxWeight} WU"

def validateCompletedInteractiveTx (t : CompletedTx) : Option String :=
  let remoteOwes := max (t.remoteOutputSats + t.remoteContributionSats) 0
  let provided := t.remoteInputSats
  firstRefusal [
    weightRefusal t.weight,
    refuseIf (provided < remoteOwes)
      s!"Peer inputs {provided} sats do not cover its outputs and contribution {remoteOwes} sats",
    refuseIf (t.feeSats < 0) "Negotiated transaction outputs exceed its inputs",
    checkFeeSufficiency t.feeSats t.weight t.feeratePerKw]

section Reserves

variable (fundingSatoshis ourDust peerDust : Nat)

def v2ReserveWeKeep : Nat :=
  max (max (fundingSatoshis / 100) minChannelReserveSatoshis) (max ourDust peerDust)

def v2ReserveWeEnforce : Nat := max (fundingSatoshis / 100) (min ourDust peerDust)

def reserveWeKeep (s : ChannelState) : Nat :=
  if s.localReserveWaived then 0 else v2ReserveWeKeep fundingSatoshis ourDust peerDust

def reserveWeEnforce (s : ChannelState) : Nat :=
  if s.remoteReserveWaived then 0 else v2ReserveWeEnforce fundingSatoshis ourDust peerDust

end Reserves

def waivedCommitmentRefusal (prim : Primitives) (view : ChannelState) : Option String :=
  let n := view.localCommitmentNumber + 1
  if view.localReserveWaived = false ∧ view.remoteReserveWaived = false then none
  else if view.localBalanceMsat < 0 ∨ view.remoteBalanceMsat < 0 then
    some "Splice would leave a negative channel balance"
  else
    match buildLocalCommitment prim view (getPerCommitmentPoint prim view.localPerCommitmentSeed n) n false,
      (nextSignedPoint view).bind fun point =>
        buildRemoteCommitment prim view point (view.remoteCommitmentNumber + 1) with
    | some held, some signed => firstRefusal [
        waivedCommitmentFundingRefusal view held .localSide,
        waivedCommitmentFundingRefusal view signed .remoteSide,
        refuseIf (held.tx.outs = [] ∨ signed.tx.outs = [])
          "Operation would leave a commitment with no outputs"]
    | _, _ => some "Cannot build both commitments for the proposed operation"

section Audit

variable (env : SpliceEnv) (c : SplicingChannel) (session : SpliceSession) (input : TxInput)
  (inputs : List TxInput) (outputs : List TxOutput) (fundingScript : Option Bytes)

/-- The script both audits look for; a pair of keys without one gives nothing. -/
def newFundingScript : Option Bytes :=
  c.live.remoteBasepoints.bind fun basepoints =>
    env.createFundingScript session.localFundingPubkey
      (session.remoteFundingPubkey.getD basepoints.fundingPubkey)

def remoteOwned (serialId : Nat) : Bool := !ownParity session.terms.isInitiator serialId

/-- The split of the first output that pays the funding script, in the order the outputs were added,
    against both reserves. It is looked at only when some output pays something else. -/
def spliceBelowReserveRefusal : Option String :=
  match fundingScript with
  | none => none
  | some script =>
    let others := outputs.filter fun o => o.scriptPubkey ≠ script
    match (outputs.find? fun o => o.scriptPubkey = script).map TxOutput.amountSats with
    | none => none
    | some newCapacity =>
      if others = [] then none
      else
        let myNew := session.terms.myNewLocalMsat c.live newCapacity
        let theirNew := session.terms.theirNewMsat c.live newCapacity
        let ourDust := c.live.localConfig.dustLimitSatoshis
        let peerDust := c.live.remoteConfig.dustLimitSatoshis
        let theirReserve := reserveWeEnforce newCapacity ourDust peerDust c.live
        let ourReserve := reserveWeKeep newCapacity ourDust peerDust c.live
        let theirSats := theirNew.tdiv 1000
        let mySats := myNew.tdiv 1000
        firstRefusal [
          refuseIf ((∃ o ∈ others, remoteOwned session o.serialId = true) ∧ theirNew < theirReserve * 1000)
            (s!"splice leaves the peer balance {theirSats} sats below the channel reserve " ++
              s!"{theirReserve} sats at the new capacity {newCapacity} sats"),
          refuseIf ((∃ o ∈ others, remoteOwned session o.serialId = false) ∧ myNew < ourReserve * 1000)
            (s!"splice leaves our balance {mySats} sats below the channel reserve " ++
              s!"{ourReserve} sats at the new capacity {newCapacity} sats"),
          waivedCommitmentRefusal env.prim
            { c.live with
              fundingSatoshis := newCapacity
              localBalanceMsat := myNew
              remoteBalanceMsat := theirNew }]

def isSharedInput : Bool := input.prevTxLength = 0

/-- The peer's inputs, and external ones of ours, must be of a kind whose witness can be verified. -/
def unsupportedInput : Option String :=
  if isSharedInput input = false ∧ (remoteOwned session input.serialId = true ∨
        spliceInputIsExternal env c.spliceInInputs input = true) then
    checkInputSpendable env input
  else none

def completedTx (values : List (TxInput × Nat)) : CompletedTx :=
  let remoteIns := values.filter fun v => !isSharedInput v.1 && remoteOwned session v.1.serialId
  let remoteOuts := outputs.filter fun o =>
    remoteOwned session o.serialId && some o.scriptPubkey ≠ fundingScript
  { remoteInputSats := (remoteIns.map Prod.snd).sum
    remoteOutputSats := (remoteOuts.map TxOutput.amountSats).sum
    remoteContributionSats := session.terms.remoteRelativeSatoshis
    feeSats := ((values.map Prod.snd).sum : Int) - (outputs.map TxOutput.amountSats).sum
    weight := spliceTxBaseWeight +
      (inputs.map fun input =>
        if isSharedInput input then sharedFundingInputWeight else auditMinInputWeightWu env input).sum +
      (outputs.map fun o => outputWeight o.scriptPubkey.length).sum
    feeratePerKw := session.fundingFeeratePerkw }

def inputValues : Option (List (TxInput × Nat)) :=
  inputs.mapM fun input =>
    if isSharedInput input then some (input, c.live.fundingSatoshis)
    else (interactiveInputValueSats env input).map fun value => (input, value)

/-- `_validateNegotiatedInteractiveTx` for a splice. -/
def validateNegotiatedInteractiveTx : Option String :=
  match session.negotiation.txBuilder with
  | none => none
  | some builder =>
    let inputs := builder.inputs.values
    let outputs := builder.outputs.values
    let script := newFundingScript env c session
    firstRefusal [
      inputs.findSome? (unsupportedInput env c session),
      match inputValues env c inputs with
      | some values => validateCompletedInteractiveTx (completedTx env session inputs outputs script values)
      | none => weightRefusal (completedTx env session inputs outputs script []).weight,
      spliceBelowReserveRefusal env c session outputs script]

end Audit

section Signing

variable (env : SpliceEnv) (c : SplicingChannel) (session : SpliceSession) (tx : Transaction)

def maxSpliceFeeSats (tx : Transaction) : Nat :=
  let feeratePerKw := if session.fundingFeeratePerkw = 0 then 253 else session.fundingFeeratePerkw
  let maxWeight := estimateSpliceTxWeight (tx.ins.length - 1) (some 22) (some 34)
  spliceFeeSats maxWeight feeratePerKw * 2 + 1000

/-- HTLCs in flight do not enter this check, and of the peer's side nothing does. -/
def validateSpliceTxBeforeSigning (tx : Transaction) (newFundingOutputIndex : Option Nat) : Option String :=
  match newFundingOutputIndex.bind fun index => tx.outs[index]? with
  | none => some "negotiated splice tx has no new funding output"
  | some output =>
    let newCapacity := output.value
    let feeFromChannel := session.terms.feeFromChannelSats c.live newCapacity
    let maxFeeSats := maxSpliceFeeSats session tx
    let myNewLocalMsat := session.terms.myNewLocalMsat c.live newCapacity
    firstRefusal [
      refuseIf (feeFromChannel < 0) "splice tx new funding output exceeds the negotiated capacity",
      refuseIf (maxFeeSats < feeFromChannel)
        (s!"splice tx takes an excessive fee from the channel: {feeFromChannel} sats " ++
          s!"(max acceptable {maxFeeSats})"),
      refuseIf (myNewLocalMsat < 0) "splice would make our local balance negative",
      refuseIf (newCapacity * 1000 < myNewLocalMsat)
        "splice new funding output cannot cover our local balance"]

abbrev PrevoutSource := Option Bytes × Nat

def collectPrevouts (sources : List PrevoutSource) (sharedInputIndex : Nat) (shared : TxOut) : Option (List TxOut) :=
  tx.ins.zipIdx.mapM fun (input, i) =>
    if i = sharedInputIndex then some shared
    else do
      let source ← sources.find? fun (prevTx, vout) =>
        vout = input.index &&
          prevTx.any fun bytes => 32 ≤ bytes.length && env.extractTxidFromPrevTx bytes = input.hash
      let bytes ← source.1
      let outs ← env.fromBuffer bytes
      outs[input.index]?

def ownInputs (walletInputs : List WalletInput) (sharedInputIndex : Nat) : List (Nat × WalletInput) :=
  tx.ins.zipIdx.filterMap fun (input, i) =>
    if i = sharedInputIndex then none
    else (walletInputs.find? fun w =>
      env.extractTxidFromPrevTx w.prevTx = input.hash && w.prevOutputIndex = input.index).map (i, ·)

structure OwnSignatures where
  witnesses : List (List Bytes)
  indices : List Nat
  external : List Nat

def signOwnInputs (builtInputs : List TxInput) (sharedInputIndex : Nat) (shared : TxOut) : Option OwnSignatures :=
  match c.spliceInInputs with
  | none => some ⟨[], [], []⟩
  | some walletInputs => do
    let sources : List PrevoutSource := walletInputs.map (fun w => (some w.prevTx, w.prevOutputIndex)) ++
      builtInputs.map fun i => (i.prevTx, i.prevTxVout.getD i.prevOutputIndex)
    let prevouts ← collectPrevouts env tx sources sharedInputIndex shared
    let own := ownInputs env tx walletInputs sharedInputIndex
    some
      { witnesses := own.map fun (i, w) => if w.external then [] else env.signWitness tx i w.value prevouts
        indices := own.map Prod.fst
        external := (own.filter fun (_, w) => w.external).map Prod.fst }

/-- The part of `buildAndSignSpliceTx` that is skipped once the transaction is there. -/
def buildSignedTx (fundingTxid : Bytes) (remoteBasepoints : Basepoints) : Option SpliceTx := do
  let built ← session.negotiation.txBuilder.bind InteractiveTxBuilder.buildTransaction
  let tx ← buildSpliceTx built.inputs built.outputs built.locktime
  let oldScript ← env.createFundingScript c.live.localBasepoints.fundingPubkey remoteBasepoints.fundingPubkey
  let sharedInputIndex ← findInputIndex tx fundingTxid c.live.fundingOutputIndex
  let newScript ← env.createFundingScript c.live.localBasepoints.fundingPubkey
    (session.remoteFundingPubkey.getD remoteBasepoints.fundingPubkey)
  let newFundingOutputIndex ← findOutputIndex tx newScript
  if validateSpliceTxBeforeSigning c session tx (some newFundingOutputIndex) ≠ none then none
  else
    let own ← signOwnInputs env c tx built.inputs sharedInputIndex ⟨c.live.fundingSatoshis, oldScript⟩
    some
      { tx := tx
        sharedInputIndex := sharedInputIndex
        newFundingOutputIndex := newFundingOutputIndex
        localSig := env.signSpliceSharedInput tx sharedInputIndex c.live.fundingSatoshis
        ourWalletWitnesses := own.witnesses
        ourWalletInputIndices := own.indices
        ourExternalInputIndices := own.external }

/-- Builds and signs the negotiated transaction, or finds it built before. Nothing is signed where the
    source returns null, and where it throws. -/
def buildAndSignSpliceTx : Option SpliceTx :=
  match c.spliceSession, c.live.fundingTxid, c.live.remoteBasepoints with
  | some session, some fundingTxid, some remoteBasepoints =>
    if session.state ≠ .awaitingTxSignatures ∨ c.live.hasSigner = false then none
    else c.spliceTx <|> buildSignedTx env c session fundingTxid remoteBasepoints
  | _, _, _ => none

def spliceInputPrevouts : Option (List TxOut) :=
  match c.spliceSession.bind fun session => session.negotiation.txBuilder, c.spliceTx with
  | some builder, some built => do
    let basepoints ← c.live.remoteBasepoints
    let oldScript ← env.createFundingScript c.live.localBasepoints.fundingPubkey basepoints.fundingPubkey
    let inputs := bySerialId TxInput.serialId builder.inputs.values
    if inputs.length ≠ built.tx.ins.length then none
    else
      collectPrevouts env built.tx (inputs.map fun i => (i.prevTx, i.prevTxVout.getD i.prevOutputIndex))
        built.sharedInputIndex ⟨c.live.fundingSatoshis, oldScript⟩
  | _, _ =>
    (c.spliceInFlight.map SpliceInFlight.inputPrevouts).filter fun prevouts => prevouts ≠ []

def newRecord (built : SpliceTx) : Option SpliceInFlight := do
  let output ← built.tx.outs[built.newFundingOutputIndex]?
  let remoteFundingPubkey ← session.remoteFundingPubkey <|>
    c.live.remoteBasepoints.map Basepoints.fundingPubkey
  some
    { spliceTxid := env.getHash built.tx
      newFundingOutputIndex := built.newFundingOutputIndex
      newFundingSatoshis := output.value
      spliceTx := built.tx
      fullySigned := false
      terms := session.terms
      remoteFundingPubkey := remoteFundingPubkey
      ourSharedInputSig := built.localSig
      remoteSharedInputSig := none
      ourWalletWitnesses := built.ourWalletWitnesses
      ourWalletInputIndices := built.ourWalletInputIndices
      externalInputIndices := built.ourExternalInputIndices
      inputPrevouts := (spliceInputPrevouts env c).getD []
      remoteCommitmentSig := c.spliceRemoteCommitmentSig
      remoteHtlcSignatures := none
      remoteCommitmentSigFeeratePerKw := none
      sentTxSignatures := false
      receivedTxSignatures := false
      localSpliceLocked := false
      remoteSpliceLocked := false
      confirmed := false }

def currentRecord : Option SpliceInFlight :=
  c.spliceInFlight <|> do
    let session ← c.spliceSession
    let built ← c.spliceTx
    newRecord env c session built

/-- The channel leaves quiescence when the splice is only waiting for its depth. -/
def leaveQuiescence : SplicingChannel :=
  if c.isSplicePendingLock ∧ isTaprootChannel c.live.channelType = false then
    { c with live := { c.live with quiescing := false, peerHasSentStfu := false } }
  else c

def syncSpliceInFlight (changes : SpliceInFlight → SpliceInFlight) : SplicingChannel :=
  leaveQuiescence { c with spliceInFlight := (currentRecord env c).map changes }

def maybeSendSpliceCommitment : SplicingChannel × List SpliceAction :=
  match c.spliceSession, c.live.remoteCurrentPerCommitmentPoint with
  | some session, some point =>
    if session.state ≠ .awaitingTxSignatures ∨ c.spliceSentCommitment = true ∨ c.live.hasSigner = false ∨
        c.compositeSplice = some false then
      (c, [])
    else
      match c.spliceTx <|> buildAndSignSpliceTx env c with
      | none => (c, [.error "Failed to build splice tx for commitment"])
      | some built =>
        let signing := { c with spliceTx := some built }
        match signing.splicedState env c.live with
        | none => (signing, [])
        | some spliced =>
          match buildRemoteCommitment env.prim spliced point c.live.remoteCommitmentNumber with
          | none => (signing, [.throws])
          | some commitment =>
            (syncSpliceInFlight env { signing with spliceSentCommitment := true } id,
              [.persistState, .sendCommitmentSigned
                { signed := env.signBuiltCommitment commitment
                  fundingTxid := some (env.getHash built.tx) }])
  | _, _ => (c, [])

end Signing

end Beignet.Splice
