import Beignet.Splice.Conserved

namespace Beignet.Splice

open Beignet.Data Beignet.Channel Beignet.InteractiveTx

/-! A splice across disconnects and restarts, and the side that sends its `tx_signatures` first. -/

namespace SplicingChannel

section Source

variable (env : SpliceEnv) (c : SplicingChannel) (record : SpliceInFlight) (fundingFeeratePerkw : Nat)
  (retransmitFlags : Option Nat) (nextFundingTxid : Option Bytes)

def forgetSplice : SplicingChannel :=
  { c with
    live := { c.live with phase := c.preSpliceState.getD .normal }
    preSpliceState := none
    spliceSession := none }.resetSpliceDriver

def suspendSplice : SplicingChannel :=
  if c.live.phase ≠ .splicing then c.resetSpliceDriver
  else if c.spliceSentCommitment || c.spliceInFlight.isSome then { c with spliceCallerTxSigsSignaled := false }
  else { c with spliceCallerTxSigsSignaled := false }.forgetSplice

def markForReestablish : SplicingChannel :=
  if c.live.reestablishable = false ∧ c.live.phase ≠ .splicing then c
  else
    { c.suspendSplice with
      live := (dropUnsignedLocalAddsIfHeld
        c.suspendSplice.live.suspend.rollbackHtlcs.rollbackFee.rollbackLease).1
      spliceAbortPending := false
      pendingBatch := none }

def loaded (stored : StoredChannel) : SplicingChannel where
  toStoredChannel := stored
  spliceSession := none
  spliceTx := none
  spliceInInputs := none
  compositeSplice := none
  localNodeIdLower := none
  spliceSentCommitment := false
  spliceReceivedCommitment := false
  spliceSentTxSigs := false
  spliceRemoteCommitmentSig := none
  spliceRemoteHtlcSigs := none
  spliceCallerTxSigsSignaled := false
  spliceAbortPending := false
  pendingBatch := none

/-- `SpliceSession.restore`: the negotiation is not brought back. -/
def restoredSession (fundingFeeratePerkw : Nat) : SpliceSession where
  negotiation :=
    { kind := .splice
      state :=
        if record.localSpliceLocked && record.remoteSpliceLocked then .complete
        else if record.receivedTxSignatures then .awaitingLock
        else .awaitingTxSignatures
      txBuilder := none }
  terms := record.terms
  localFundingPubkey := c.live.localBasepoints.fundingPubkey
  remoteFundingPubkey := some record.remoteFundingPubkey
  fundingFeeratePerkw := fundingFeeratePerkw
  locktime := 0
  spliceTxid := some record.spliceTxid
  spliceFundingOutputIndex := record.newFundingOutputIndex
  localSpliceLocked := record.localSpliceLocked
  remoteSpliceLocked := record.remoteSpliceLocked

def restoredTx (sharedInputIndex : Nat) : SpliceTx where
  tx := record.spliceTx
  sharedInputIndex := sharedInputIndex
  newFundingOutputIndex := record.newFundingOutputIndex
  localSig := record.ourSharedInputSig
  ourWalletWitnesses := record.ourWalletWitnesses
  ourWalletInputIndices := record.ourWalletInputIndices
  ourExternalInputIndices := record.externalInputIndices

-- Both commitment flags are set whatever the record holds of the peer's signature.
def restoreSpliceInFlight : SplicingChannel :=
  match c.spliceInFlight, c.spliceSession, c.live.remoteBasepoints, c.live.fundingTxid with
  | some record, none, some _, some fundingTxid =>
    match findInputIndex record.spliceTx fundingTxid c.live.fundingOutputIndex with
    | none => c
    | some sharedInputIndex =>
      { c with
        spliceTx := some (restoredTx record sharedInputIndex)
        spliceSession := some (c.restoredSession record fundingFeeratePerkw)
        spliceSentCommitment := true
        spliceReceivedCommitment := true
        spliceSentTxSigs := record.sentTxSignatures
        spliceRemoteCommitmentSig := record.remoteCommitmentSig
        spliceRemoteHtlcSigs := record.remoteHtlcSignatures }
  | _, _, _, _ => c

def restart : SplicingChannel :=
  ((loaded c.toStoredChannel).restoreSpliceInFlight fundingFeeratePerkw).markForReestablish

/-- `next_funding_txid` of our `channel_reestablish`. -/
def inFlightUnsignedSpliceTxid : Option Bytes :=
  match c.spliceInFlight with
  | some record =>
    if record.localSpliceLocked && record.remoteSpliceLocked then none else some record.spliceTxid
  | none => do
    let session ← c.spliceSession
    if c.spliceSentCommitment = false ∨ session.state ≠ .awaitingTxSignatures then none
    else (buildAndSignSpliceTx env c).map fun built => env.getHash built.tx

def retransmitSpliceTxSignatures : List SpliceAction :=
  if c.spliceOwedExternal ≠ [] then []
  else
    match c.spliceInFlight, c.spliceTx with
    | some record, _ =>
      [.sendTxSignatures ⟨record.spliceTxid, record.ourWalletWitnesses, some record.ourSharedInputSig⟩]
    | none, some built =>
      [.sendTxSignatures ⟨env.getHash built.tx, built.ourWalletWitnesses, some built.localSig⟩]
    | none, none => []

def resendSpliceCommitment : Outcome :=
  if retransmitFlags.all (· % 2 = 1) then maybeSendSpliceCommitment env { c with spliceSentCommitment := false }
  else (c, [])

def releaseAgain : Outcome :=
  if c.spliceInFlight.any SpliceInFlight.sentTxSignatures then (c, c.retransmitSpliceTxSignatures env)
  else { c with spliceSentTxSigs := false }.maybeSendSpliceTxSigsOrdered env

def resumeSplice : Outcome :=
  if c.spliceInFlight.any SpliceInFlight.receivedTxSignatures = false then
    let resent := c.resendSpliceCommitment env retransmitFlags
    if resent.1.spliceReceivedCommitment then
      let released := resent.1.releaseAgain env
      (released.1, resent.2 ++ released.2)
    else resent
  else if c.spliceInFlight.any SpliceInFlight.sentTxSignatures = false then c.maybeSignalSpliceTxSigsNeeded
  else (c, c.retransmitSpliceTxSignatures env)

def ourSpliceTxid : Option Bytes :=
  match c.spliceInFlight, c.spliceTx with
  | some record, _ => some record.spliceTxid
  | none, some built => some (env.getHash built.tx)
  | none, none => c.spliceSession.bind SpliceSession.spliceTxid

def peerForgot : Bool :=
  match c.spliceInFlight, c.spliceSession with
  | some record, _ => !record.sentTxSignatures && !record.receivedTxSignatures
  | none, some session => !session.isComplete
  | none, none => false

def SpliceAction.isError : SpliceAction → Bool
  | .error _ => true
  | _ => false

def answerNextFunding (retransmitFlags : Option Nat) : Outcome :=
  match nextFundingTxid with
  | some txid =>
    if c.ourSpliceTxid env = some txid then c.resumeSplice env retransmitFlags
    else ({ c with spliceAbortPending := true }, [.txAbort "unknown next_funding_txid"])
  | none =>
    if c.peerForgot then
      let aborted := c.abortSplice "peer reestablished without next_funding_txid"
      (aborted.1, aborted.2.filter (fun action => !SpliceAction.isError action) ++
        if c.spliceInFlight.isSome && aborted.1.spliceInFlight.isNone then [.persistState] else [])
    else (c, [])

-- The record and the session are those from before the answer.
def handleReestablishSplice (retransmitFlags : Option Nat) : Outcome :=
  let answered := c.answerNextFunding env nextFundingTxid retransmitFlags
  if answered.1.live.phase ≠ .splicing then answered
  else if (c.spliceInFlight.any SpliceInFlight.localSpliceLocked ||
      c.spliceSession.any SpliceSession.localSpliceLocked) && (c.ourSpliceTxid env).isSome then
    (answered.1, answered.2 ++ [.sendSpliceLocked ((c.ourSpliceTxid env).getD [])])
  else if c.spliceInFlight.any fun record => record.confirmed && record.receivedTxSignatures then
    let locked := answered.1.sendSpliceLocked env
    (locked.1, answered.2 ++ locked.2)
  else answered

def reestablish (retransmitFlags : Option Nat) : SplicingChannel :=
  let live := if c.live.phase = .awaitingReestablish then resumeReestablished c.live else c.live
  ({ c with live := live }.handleReestablishSplice env nextFundingTxid retransmitFlags).1

end Source

end SplicingChannel

section Order

/-- What an input says about who brings it and how much it is worth; the buffer is empty for the
    shared input, which the initiator does not attach either. -/
def inputShape (input : TxInput) : Nat × Bytes × Nat :=
  (input.serialId, input.prevTx.getD [], input.prevTxVout.getD input.prevOutputIndex)

variable (env : SpliceEnv) (capacity : Nat) (isInitiator : Bool) (shape : Nat × Bytes × Nat)
  (shapes : List (Nat × Bytes × Nat))

def worth : Option Nat :=
  if shape.2.1 = [] then some capacity
  else do
    let outs ← env.fromBuffer shape.2.1
    outs[shape.2.2]?.map TxOut.value

def broughtBy : Bool :=
  if shape.2.1 = [] then isInitiator else ownParity isInitiator shape.1

def brought : Nat :=
  ((shapes.filter (broughtBy isInitiator)).map fun shape => (worth env capacity shape).getD 0).sum

/-- The order that the whole negotiation gives: less value first, then the lower node id. -/
def firstByValue (nodeIdLower : Option Bool) : Bool :=
  if shapes.any fun shape => (worth env capacity shape).isNone then !isInitiator
  else if brought env capacity isInitiator shapes ≠ brought env capacity (!isInitiator) shapes then
    brought env capacity isInitiator shapes < brought env capacity (!isInitiator) shapes
  else nodeIdLower.getD !isInitiator

variable {env capacity} (input : TxInput) (isInitiator : Bool)

theorem isSharedInput_iff : isSharedInput input = true ↔ (inputShape input).2.1 = [] := by
  unfold isSharedInput TxInput.prevTxLength inputShape
  cases input.prevTx <;> simp

theorem inputValue_eq : (if isSharedInput input then some (input, capacity)
      else (interactiveInputValueSats env input).map fun value => (input, value)) =
      (worth env capacity (inputShape input)).map fun value => (input, value) := by
  by_cases shared : isSharedInput input = true
  · rw [if_pos shared, worth, if_pos ((isSharedInput_iff input).mp shared)]
    rfl
  · have empty : (inputShape input).2.1 ≠ [] := fun none => shared ((isSharedInput_iff input).mpr none)
    have attached : input.prevTxLength ≠ 0 := by simpa [isSharedInput] using shared
    rw [if_neg shared, worth, if_neg empty, interactiveInputValueSats, if_neg attached, prevout]
    unfold inputShape at empty ⊢
    cases known : input.prevTx with
    | none => simp [known] at empty
    | some bytes =>
      cases env.fromBuffer bytes <;> simp

theorem mapM_pairs {α β : Type} (value : α → Option β) (items : List α) :
    items.mapM (fun item => (value item).map fun v => (item, v)) =
      if items.any fun item => (value item).isNone then none
      else some (items.filterMap fun item => (value item).map fun v => (item, v)) := by
  induction items with
  | nil => rfl
  | cons item rest ih =>
    rw [List.mapM_cons, ih]
    cases known : value item with
    | none => simp [known]
    | some v =>
      by_cases missing : rest.any (fun item => (value item).isNone) = true
      · simp [known, missing]
      · simp [known, missing]

theorem ownParity_not (serialId : Nat) : ownParity (!isInitiator) serialId = !ownParity isInitiator serialId := by
  unfold ownParity
  cases isInitiator <;> cases serialId % 2 == 0 <;> rfl

theorem broughtBy_not (shape : Nat × Bytes × Nat) :
    broughtBy (!isInitiator) shape = !broughtBy isInitiator shape := by
  unfold broughtBy
  split
  · rfl
  · exact ownParity_not ..

theorem sum_broughtBy (inputs : List TxInput) :
    (((inputs.filterMap fun input => (worth env capacity (inputShape input)).map fun value => (input, value)).filter
        fun v => broughtBy isInitiator (inputShape v.1)).map Prod.snd).sum =
      brought env capacity isInitiator (inputs.map inputShape) := by
  induction inputs with
  | nil => rfl
  | cons input rest ih =>
    unfold brought at ih ⊢
    cases known : worth env capacity (inputShape input) <;>
      by_cases own : broughtBy isInitiator (inputShape input) = true <;>
      simp [known, own, ih]

theorem inputTotals_eq (session : SpliceSession) (values : List (TxInput × Nat)) :
    SplicingChannel.inputTotals session values =
      (((values.filter fun v => broughtBy session.terms.isInitiator (inputShape v.1)).map Prod.snd).sum,
        ((values.filter fun v => broughtBy (!session.terms.isInitiator) (inputShape v.1)).map Prod.snd).sum) := by
  have own (v : TxInput × Nat) :
      (if isSharedInput v.1 then session.terms.isInitiator
        else ownParity session.terms.isInitiator v.1.serialId) =
        broughtBy session.terms.isInitiator (inputShape v.1) := by
    unfold broughtBy
    by_cases shared : isSharedInput v.1 = true
    · rw [if_pos shared, if_pos ((isSharedInput_iff v.1).mp shared)]
    · rw [if_neg shared, if_neg fun empty => shared ((isSharedInput_iff v.1).mpr empty)]
      rfl
  unfold SplicingChannel.inputTotals
  simp only [own, broughtBy_not]

theorem spliceShouldSignFirst_eq (c : SplicingChannel) {session : SpliceSession} {builder : InteractiveTxBuilder}
    (negotiated : session.negotiation.txBuilder = some builder) : c.spliceShouldSignFirst env session =
      firstByValue env c.live.fundingSatoshis session.terms.isInitiator
        (builder.inputs.values.map inputShape) c.localNodeIdLower := by
  have values : inputValues env c builder.inputs.values =
      builder.inputs.values.mapM fun input =>
        (worth env c.live.fundingSatoshis (inputShape input)).map fun value => (input, value) := by
    unfold inputValues
    simp only [inputValue_eq]
  rw [SplicingChannel.spliceShouldSignFirst, negotiated]
  dsimp only
  rw [values, mapM_pairs, firstByValue, List.any_map]
  by_cases missing : builder.inputs.values.any
      (fun input => (worth env c.live.fundingSatoshis (inputShape input)).isNone) = true
  · rw [if_pos missing, if_pos (by simpa [Function.comp_def] using missing)]
  · rw [if_neg missing, if_neg (by simpa [Function.comp_def] using missing)]
    dsimp only
    rw [inputTotals_eq, sum_broughtBy, sum_broughtBy]

theorem firstByValue_perm {isInitiator : Bool} {nodeIdLower : Option Bool} {shapes others : List (Nat × Bytes × Nat)}
    (same : shapes.Perm others) : firstByValue env capacity isInitiator shapes nodeIdLower =
      firstByValue env capacity isInitiator others nodeIdLower := by
  have sums (role : Bool) : brought env capacity role shapes = brought env capacity role others :=
    ((same.filter _).map _).sum_eq
  unfold firstByValue
  rw [sums, sums, same.any_eq]

theorem firstByValue_opposite (env : SpliceEnv) (capacity : Nat) (shapes : List (Nat × Bytes × Nat)) (lower : Bool) :
    firstByValue env capacity true shapes (some lower) = !firstByValue env capacity false shapes (some !lower) := by
  unfold firstByValue
  split
  · rfl
  · simp only [Bool.not_true, Bool.not_false, Option.getD_some]
    rcases Nat.lt_trichotomy (brought env capacity true shapes) (brought env capacity false shapes)
      with less | tie | more
    · simp [less.ne, less.ne', less, less.le]
    · simp [tie]
    · simp [more.ne, more.ne', more, more.le]

end Order

namespace SplicingChannel

structure Footing where
  isInitiator : Bool
  spliceTxid : Bytes
  capacity : Nat
  nodeIdLower : Option Bool
  builder : Option InteractiveTxBuilder

structure Standing (f : Footing) (c : SplicingChannel) : Prop where
  session : ∃ session, c.spliceSession = some session ∧ session.terms.isInitiator = f.isInitiator ∧
    session.localSpliceLocked = false ∧ session.negotiation.txBuilder = f.builder
  record : ∃ record, c.spliceInFlight = some record ∧ record.spliceTxid = f.spliceTxid ∧
    record.terms.isInitiator = f.isInitiator ∧ record.receivedTxSignatures = false ∧
    record.localSpliceLocked = false ∧
    ∃ fundingTxid, c.live.fundingTxid = some fundingTxid ∧
      (findInputIndex record.spliceTx fundingTxid c.live.fundingOutputIndex).isSome
  paired : c.live.remoteBasepoints.isSome
  funded : c.live.fundingSatoshis = f.capacity
  ordered : f.builder.isSome → c.localNodeIdLower = f.nodeIdLower
  splicing : c.live.phase = .splicing ∨
    c.live.phase = .awaitingReestablish ∧ c.live.preReestablishState = some .splicing

variable {env : SpliceEnv} {f : Footing} {c d : SplicingChannel}

def anchor (s : ChannelState) : Option Bytes × Nat × Nat × Option Basepoints :=
  (s.fundingTxid, s.fundingOutputIndex, s.fundingSatoshis, s.remoteBasepoints)

section

variable (standing : Standing f c)
include standing

theorem Standing.of_same (session : d.spliceSession = c.spliceSession) (record : d.spliceInFlight = c.spliceInFlight)
    (lower : d.localNodeIdLower = c.localNodeIdLower) (anchored : anchor d.live = anchor c.live)
    (splicing : d.live.phase = .splicing ∨
      d.live.phase = .awaitingReestablish ∧ d.live.preReestablishState = some .splicing) : Standing f d := by
  simp only [anchor, Prod.mk.injEq] at anchored
  obtain ⟨txid, index, satoshis, basepoints⟩ := anchored
  refine ⟨?_, ?_, ?_, ?_, ?_, splicing⟩
  · rw [session]
    exact standing.session
  · rw [record, txid, index]
    exact standing.record
  · rw [basepoints]
    exact standing.paired
  · rw [satoshis]
    exact standing.funded
  · rw [lower]
    exact standing.ordered

theorem Standing.sync {changes : SpliceInFlight → SpliceInFlight}
    (keeps : ∀ record, (changes record).spliceTxid = record.spliceTxid ∧
      (changes record).terms = record.terms ∧ (changes record).spliceTx = record.spliceTx ∧
      (changes record).receivedTxSignatures = record.receivedTxSignatures ∧
      (changes record).localSpliceLocked = record.localSpliceLocked) :
    Standing f (syncSpliceInFlight env c changes) := by
  obtain ⟨record, recorded, txid, role, received, locked, fundingTxid, funding, shared⟩ := standing.record
  obtain ⟨sameTxid, sameTerms, sameTx, sameReceived, sameLocked⟩ := keeps record
  have changed : Standing f
      { c with spliceInFlight := (currentRecord env c).map changes } := by
    refine ⟨standing.session, ⟨changes record, ?_, ?_⟩, standing.paired, standing.funded,
      standing.ordered, standing.splicing⟩
    · simp [currentRecord, recorded]
    · rw [sameTxid, sameTerms, sameTx, sameReceived, sameLocked]
      exact ⟨txid, role, received, locked, fundingTxid, funding, shared⟩
  unfold syncSpliceInFlight Splice.leaveQuiescence
  split
  · exact changed.of_same rfl rfl rfl rfl changed.splicing
  · exact changed

theorem Standing.of_same_live {d : SplicingChannel}
    (session : d.spliceSession = c.spliceSession) (record : d.spliceInFlight = c.spliceInFlight)
    (lower : d.localNodeIdLower = c.localNodeIdLower) (live : d.live = c.live) : Standing f d :=
  standing.of_same session record lower (by rw [live]) (by rw [live]; exact standing.splicing)

theorem Standing.maybeSendSpliceCommitment : Standing f (Splice.maybeSendSpliceCommitment env c).1 := by
  unfold Splice.maybeSendSpliceCommitment
  split
  · split
    · exact standing
    split
    · exact standing
    dsimp only
    split
    · exact standing.of_same_live rfl rfl rfl rfl
    split
    · exact standing.of_same_live rfl rfl rfl rfl
    exact (standing.of_same_live (d := { c with spliceTx := _, spliceSentCommitment := true }) rfl rfl rfl rfl).sync
      fun _ => ⟨rfl, rfl, rfl, rfl, rfl⟩
  · exact standing

theorem Standing.maybeSendSpliceTxSigsOrdered : Standing f (c.maybeSendSpliceTxSigsOrdered env).1 := by
  unfold SplicingChannel.maybeSendSpliceTxSigsOrdered
  split
  · exact standing
  split
  · exact standing
  unfold SplicingChannel.maybeSendSpliceTxSigs
  split
  · exact standing
  split
  · exact standing
  split
  · exact standing
  dsimp only
  split
  · unfold maybeSignalSpliceTxSigsNeeded
    dsimp only
    split <;> exact standing.of_same_live rfl rfl rfl rfl
  · unfold releaseTxSigs
    apply Standing.sync
    · exact standing.of_same_live rfl rfl rfl rfl
    · exact fun _ => ⟨rfl, rfl, rfl, rfl, rfl⟩

variable (retransmitFlags : Option Nat)

theorem Standing.resumeSplice : Standing f (c.resumeSplice env retransmitFlags).1 := by
  obtain ⟨record, recorded, -, -, received, -⟩ := standing.record
  have resent : Standing f
      (c.resendSpliceCommitment env retransmitFlags).1 := by
    unfold resendSpliceCommitment
    split
    · apply Standing.maybeSendSpliceCommitment
      exact standing.of_same rfl rfl rfl rfl standing.splicing
    · exact standing
  unfold SplicingChannel.resumeSplice
  rw [if_pos (by simp [recorded, received])]
  dsimp only
  split
  · show Standing _ ((c.resendSpliceCommitment env retransmitFlags).1.releaseAgain env).1
    unfold releaseAgain
    split
    · exact resent
    · apply Standing.maybeSendSpliceTxSigsOrdered
      exact resent.of_same rfl rfl rfl rfl resent.splicing
  · exact resent

theorem Standing.handleReestablishSplice : Standing f
      (c.handleReestablishSplice env (some f.spliceTxid) retransmitFlags).1 := by
  obtain ⟨record, recorded, txid, -, received, locked, -⟩ := standing.record
  obtain ⟨session, running, -, unlocked, -⟩ := standing.session
  have ours : c.ourSpliceTxid env = some f.spliceTxid := by simp [ourSpliceTxid, recorded, txid]
  have answered : c.answerNextFunding env (some f.spliceTxid) retransmitFlags =
      c.resumeSplice env retransmitFlags := by
    rw [answerNextFunding]
    exact if_pos ours
  unfold SplicingChannel.handleReestablishSplice
  dsimp only
  rw [answered]
  split
  · exact standing.resumeSplice _
  · rw [if_neg (by simp [recorded, running, locked, unlocked]), if_neg (by simp [recorded, received])]
    exact standing.resumeSplice _

theorem Standing.reestablish : Standing f (c.reestablish env (some f.spliceTxid) retransmitFlags) := by
  unfold SplicingChannel.reestablish
  apply Standing.handleReestablishSplice
  rcases standing.splicing with splicing | ⟨suspended, before⟩
  · exact standing.of_same rfl rfl rfl (by simp [splicing]) (by simp [splicing])
  · exact standing.of_same rfl rfl rfl (by simp [suspended, resumeReestablished, before, anchor])
      (by simp [suspended, resumeReestablished, before])

end

theorem scan_anchor (acc : HeldAdds) (update : PendingUpdate) :
    anchor (acc.scan update).state = anchor acc.state ∧ (acc.scan update).state.phase = acc.state.phase ∧
      (acc.scan update).state.preReestablishState = acc.state.preReestablishState := by
  unfold HeldAdds.scan
  split
  · split
    · split <;> exact ⟨rfl, rfl, rfl⟩
    · exact ⟨rfl, rfl, rfl⟩
  · exact ⟨rfl, rfl, rfl⟩

theorem dropUnsignedLocalAddsIfHeld_anchor (s : ChannelState) :
    anchor (dropUnsignedLocalAddsIfHeld s).1 = anchor s ∧ (dropUnsignedLocalAddsIfHeld s).1.phase = s.phase ∧
      (dropUnsignedLocalAddsIfHeld s).1.preReestablishState = s.preReestablishState := by
  have folded (updates : List PendingUpdate) (acc : HeldAdds) :
      anchor (updates.foldl HeldAdds.scan acc).state = anchor acc.state ∧
        (updates.foldl HeldAdds.scan acc).state.phase = acc.state.phase ∧
        (updates.foldl HeldAdds.scan acc).state.preReestablishState = acc.state.preReestablishState := by
    induction updates generalizing acc with
    | nil => exact ⟨rfl, rfl, rfl⟩
    | cons update rest ih =>
      obtain ⟨anchored, phase, before⟩ := scan_anchor acc update
      obtain ⟨anchoredRest, phaseRest, beforeRest⟩ := ih (acc.scan update)
      exact ⟨anchoredRest.trans anchored, phaseRest.trans phase, beforeRest.trans before⟩
  unfold dropUnsignedLocalAddsIfHeld
  dsimp only
  split
  · exact ⟨rfl, rfl, rfl⟩
  · exact folded _ _

variable (standing : Standing f c)
include standing

theorem Standing.markForReestablish : Standing f c.markForReestablish := by
  obtain ⟨record, recorded, -⟩ := standing.record
  unfold SplicingChannel.markForReestablish
  rcases standing.splicing with splicing | ⟨suspended, before⟩
  · have kept : c.suspendSplice = { c with spliceCallerTxSigsSignaled := false } := by
      simp [suspendSplice, splicing, recorded]
    rw [if_neg (by simp [splicing]), kept]
    obtain ⟨anchored, phase, pre⟩ :=
      dropUnsignedLocalAddsIfHeld_anchor c.live.suspend.rollbackHtlcs.rollbackFee.rollbackLease
    exact standing.of_same rfl rfl rfl anchored (.inr ⟨phase, pre.trans (congrArg some splicing)⟩)
  · rw [if_pos (by simp [ChannelState.reestablishable, suspended])]
    exact standing

theorem Standing.restart (fundingFeeratePerkw : Nat) :
    Standing { f with builder := none } (c.restart fundingFeeratePerkw) := by
  obtain ⟨record, recorded, txid, role, received, locked, fundingTxid, funding, shared⟩ := standing.record
  obtain ⟨basepoints, paired⟩ := Option.isSome_iff_exists.mp standing.paired
  obtain ⟨index, found⟩ := Option.isSome_iff_exists.mp shared
  unfold SplicingChannel.restart
  apply Standing.markForReestablish
  unfold SplicingChannel.restoreSpliceInFlight
  simp only [loaded, recorded, paired, funding, found]
  refine ⟨⟨_, rfl, role, locked, rfl⟩,
    ⟨record, recorded, txid, role, received, locked, fundingTxid, funding, shared⟩, standing.paired,
    standing.funded, nofun, standing.splicing⟩

/-- `_spliceShouldSignFirst`. -/
def signsFirst (env : SpliceEnv) (c : SplicingChannel) : Bool :=
  c.spliceSession.any (c.spliceShouldSignFirst env)

theorem Standing.signsFirst_live {builder : InteractiveTxBuilder} (live : f.builder = some builder) : c.signsFirst env =
      firstByValue env f.capacity f.isInitiator (builder.inputs.values.map inputShape) f.nodeIdLower := by
  obtain ⟨session, running, role, -, negotiated⟩ := standing.session
  rw [signsFirst, running, Option.any_some, spliceShouldSignFirst_eq c (negotiated.trans live), role,
    standing.funded, standing.ordered (by rw [live]; rfl)]

theorem Standing.signsFirst_restored (restored : f.builder = none) :
    c.signsFirst env = !f.isInitiator := by
  obtain ⟨session, running, role, -, negotiated⟩ := standing.session
  rw [signsFirst, running, Option.any_some, spliceShouldSignFirst, negotiated, restored, role]

end SplicingChannel

structure SplicePair where
  initiator : SplicingChannel
  acceptor : SplicingChannel

inductive PairStep where
  | disconnect (side : Bool)
  | reestablish (side : Bool) (retransmitFlags : Option Nat)
  | restart (side : Bool) (fundingFeeratePerkw : Nat)

def PairStep.restarts (side : Bool) : PairStep → Bool
  | .restart restarted _ => restarted = side
  | _ => false

namespace SplicePair

def side (p : SplicePair) (isInitiator : Bool) : SplicingChannel :=
  if isInitiator then p.initiator else p.acceptor

def update (p : SplicePair) (isInitiator : Bool) (c : SplicingChannel) : SplicePair :=
  if isInitiator then { p with initiator := c } else { p with acceptor := c }

-- The peer announces its splice as it is at that moment, and asks for what it likes.
def step (env : SpliceEnv) (p : SplicePair) : PairStep → SplicePair
  | .disconnect side => p.update side (p.side side).markForReestablish
  | .reestablish side retransmitFlags =>
    p.update side ((p.side side).reestablish env ((p.side !side).inFlightUnsignedSpliceTxid env) retransmitFlags)
  | .restart side fundingFeeratePerkw => p.update side ((p.side side).restart fundingFeeratePerkw)

def restarted (isInitiator : Bool) (steps : List PairStep) : Bool := steps.any (PairStep.restarts isInitiator)

structure Crossed (p : SplicePair) (spliceTxid : Bytes) (capacity : Nat) (initiatorLower : Bool)
    (builders : Bool → InteractiveTxBuilder) : Prop where
  standing : ∀ role, (p.side role).Standing
    ⟨role, spliceTxid, capacity, some (role == initiatorLower), some (builders role)⟩
  sameInputs : ((builders true).inputs.values.map inputShape).Perm ((builders false).inputs.values.map inputShape)
  exchanged : ∀ role, (p.side role).spliceSentCommitment = true ∧
    (p.side role).spliceReceivedCommitment = true ∧ (p.side role).spliceSentTxSigs = false ∧
    (p.side role).spliceInFlight.any SpliceInFlight.sentTxSignatures = false

variable {env : SpliceEnv} {p : SplicePair} {spliceTxid : Bytes} {capacity : Nat} {lower : Bool}
  {builders : Bool → Option InteractiveTxBuilder}

def Stands (spliceTxid : Bytes) (capacity : Nat) (lower : Bool) (builders : Bool → Option InteractiveTxBuilder)
    (p : SplicePair) : Prop :=
  ∀ role, (p.side role).Standing ⟨role, spliceTxid, capacity, some (role == lower), builders role⟩

theorem side_update (p : SplicePair) (role other : Bool) (c : SplicingChannel) :
    (p.update role c).side other = if other = role then c else p.side other := by
  cases role <;> cases other <;> rfl

section

variable (stands : Stands spliceTxid capacity lower builders p)
include stands

theorem Stands.update {role : Bool} {c : SplicingChannel} {builder : Option InteractiveTxBuilder}
    (standing : c.Standing ⟨role, spliceTxid, capacity, some (role == lower), builder⟩) :
    Stands spliceTxid capacity lower (Function.update builders role builder) (p.update role c) := by
  intro other
  rw [side_update]
  by_cases same : other = role
  · subst same
    rw [if_pos rfl, Function.update_self]
    exact standing
  · rw [if_neg same, Function.update_of_ne same]
    exact stands other

theorem Stands.announced (role : Bool) : (p.side role).inFlightUnsignedSpliceTxid env = some spliceTxid := by
  obtain ⟨record, recorded, txid, -, -, locked, -⟩ := (stands role).record
  simp [SplicingChannel.inFlightUnsignedSpliceTxid, recorded, locked, txid]

theorem Stands.step (taken : PairStep) : Stands spliceTxid capacity lower
      (fun role => if taken.restarts role then none else builders role) (p.step env taken) := by
  cases taken with
  | disconnect side =>
    have next := stands.update (stands side).markForReestablish
    rwa [Function.update_eq_self] at next
  | reestablish side retransmitFlags =>
    have next := stands.update ((stands side).reestablish retransmitFlags : SplicingChannel.Standing _
      ((p.side side).reestablish env (some spliceTxid) retransmitFlags))
    rw [Function.update_eq_self] at next
    simpa [SplicePair.step, stands.announced, PairStep.restarts] using next
  | restart side fundingFeeratePerkw =>
    have lost : (fun role => if PairStep.restarts role (.restart side fundingFeeratePerkw) then none
        else builders role) = Function.update builders side none := by
      funext role
      by_cases same : role = side
      · simp [PairStep.restarts, same]
      · simp [PairStep.restarts, same, Ne.symm same]
    rw [lost]
    exact stands.update ((stands side).restart fundingFeeratePerkw)

theorem Stands.run (steps : List PairStep) :
    Stands spliceTxid capacity lower (fun role => if restarted role steps then none else builders role)
      (steps.foldl (SplicePair.step env) p) := by
  induction steps generalizing p builders with
  | nil => simpa [restarted] using stands
  | cons taken rest ih =>
    have lost : (fun role => if restarted role (taken :: rest) then none else builders role) =
        fun role => if restarted role rest then none else if taken.restarts role then none else builders role := by
      funext role
      by_cases first : taken.restarts role = true <;> simp [restarted, first]
    rw [lost]
    exact ih (stands.step taken)

end

/-- Exactly one side signs first, however often the two reconnect, if and only if both were restarted or
    neither was, or the values put the acceptor first as the fallback of a restored session does. -/
theorem one_signs_first_iff {initiatorLower : Bool} {builders : Bool → InteractiveTxBuilder}
    (crossed : p.Crossed spliceTxid capacity initiatorLower builders) (steps : List PairStep) :
    (steps.foldl (SplicePair.step env) p).initiator.signsFirst env ≠
        (steps.foldl (SplicePair.step env) p).acceptor.signsFirst env ↔
      restarted true steps = restarted false steps ∨
        firstByValue env capacity false ((builders false).inputs.values.map inputShape)
          (some !initiatorLower) = true := by
  have stands : Stands spliceTxid capacity initiatorLower _ (steps.foldl (SplicePair.step env) p) :=
    Stands.run crossed.standing steps
  have opposite := firstByValue_opposite env capacity ((builders false).inputs.values.map inputShape)
    initiatorLower
  rw [← firstByValue_perm crossed.sameInputs] at opposite
  have ours := stands true
  have theirs := stands false
  simp only [side, if_true, Bool.false_eq_true, if_false, Bool.true_beq, Bool.false_beq] at ours theirs
  cases first : restarted true steps <;> cases second : restarted false steps <;>
    simp only [first, second, if_true, Bool.false_eq_true, if_false] at ours theirs
  · rw [ours.signsFirst_live rfl, theirs.signsFirst_live rfl, opposite]
    simp
  · rw [ours.signsFirst_live rfl, theirs.signsFirst_restored rfl, opposite]
    simp
  · rw [ours.signsFirst_restored rfl, theirs.signsFirst_live rfl]
    simp
  · rw [ours.signsFirst_restored rfl, theirs.signsFirst_restored rfl]
    simp

section Samples

def valuedEnv (sats : Nat) : SpliceEnv := { SplicingChannel.plainEnv with fromBuffer := fun _ => some [⟨sats, []⟩] }

variable (isInitiator : Bool)

def sampleBuilder : InteractiveTxBuilder where
  isInitiator := isInitiator
  state := .complete
  inputs := (KeyedMap.empty.set ⟨0, List.replicate 32 7, 0, 4294967293, none, none, false⟩).set
    ⟨1, [9], 0, 4294967293, some [9], none, false⟩
  outputs := KeyedMap.empty
  locktime := 0
  nextSerialId := 2
  peerAddInputMsgs := 1
  peerAddOutputMsgs := 1
  dustLimit := 546
  peerPrevTxBytes := 1

def sampleRecord : SpliceInFlight where
  spliceTxid := [8]
  newFundingOutputIndex := 0
  newFundingSatoshis := 1500000
  spliceTx := ⟨[⟨List.replicate 32 7, 0, 4294967293⟩, ⟨[9], 0, 4294967293⟩], [⟨1500000, [30, 101, 201]⟩], 0⟩
  fullySigned := false
  terms := ⟨isInitiator, 0, 0⟩
  remoteFundingPubkey := [201]
  ourSharedInputSig := [40]
  remoteSharedInputSig := none
  ourWalletWitnesses := []
  ourWalletInputIndices := []
  externalInputIndices := []
  inputPrevouts := []
  remoteCommitmentSig := some [41]
  remoteHtlcSignatures := some []
  remoteCommitmentSigFeeratePerKw := none
  sentTxSignatures := false
  receivedTxSignatures := false
  localSpliceLocked := false
  remoteSpliceLocked := false
  confirmed := false

def sampleSide : SplicingChannel :=
  { SplicingChannel.heldUp with
    live := { SplicingChannel.heldUp.live with phase := .splicing }
    preSpliceState := some .normal
    spliceInFlight := some (sampleRecord isInitiator)
    spliceSession := some
      { SplicingChannel.heldUp.restoredSession (sampleRecord isInitiator) 1000 with
        negotiation := ⟨.splice, .awaitingTxSignatures, some (sampleBuilder isInitiator)⟩ }
    spliceTx := some (SplicingChannel.restoredTx (sampleRecord isInitiator) 0)
    localNodeIdLower := some isInitiator
    spliceSentCommitment := true
    spliceReceivedCommitment := true }

def samplePair : SplicePair := ⟨sampleSide true, sampleSide false⟩

theorem samplePair_crossed : samplePair.Crossed [8] 1000000 true sampleBuilder where
  standing := by
    intro role
    cases role
    · exact ⟨⟨_, rfl, rfl, rfl, rfl⟩, ⟨_, rfl, rfl, rfl, rfl, rfl, _, rfl, by decide⟩, rfl, rfl, fun _ => rfl, .inl rfl⟩
    · exact ⟨⟨_, rfl, rfl, rfl, rfl⟩, ⟨_, rfl, rfl, rfl, rfl, rfl, _, rfl, by decide⟩, rfl, rfl, fun _ => rfl, .inl rfl⟩
  sameInputs := .refl _
  exchanged := by
    intro role
    cases role <;> exact ⟨rfl, rfl, rfl, rfl⟩

end Samples

/-- The acceptor adds 2,000,000 sat to a channel of 1,000,000, so the initiator is to sign first; after a
    restart of its own it waits for the acceptor, which waits for it. -/
theorem neither_signs_first :
    ∃ p : SplicePair, p.Crossed [8] 1000000 true sampleBuilder ∧
      p.initiator.signsFirst (valuedEnv 2000000) = true ∧ p.acceptor.signsFirst (valuedEnv 2000000) = false ∧
      (p.step (valuedEnv 2000000) (.restart true 253)).initiator.signsFirst (valuedEnv 2000000) = false ∧
      (p.step (valuedEnv 2000000) (.restart true 253)).acceptor.signsFirst (valuedEnv 2000000) = false :=
  ⟨samplePair, samplePair_crossed, by decide, by decide, by decide, by decide⟩

theorem one_signs_first_less_brought :
    ([PairStep.disconnect true, .reestablish true none, .restart false 253].foldl
        (SplicePair.step (valuedEnv 500000)) samplePair).initiator.signsFirst (valuedEnv 500000) ≠
      ([PairStep.disconnect true, .reestablish true none, .restart false 253].foldl
        (SplicePair.step (valuedEnv 500000)) samplePair).acceptor.signsFirst (valuedEnv 500000) :=
  (one_signs_first_iff samplePair_crossed _).mpr (.inr (by decide))

end SplicePair

end Beignet.Splice
