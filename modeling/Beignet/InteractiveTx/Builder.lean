import Beignet.InteractiveTx.Validation

namespace Beignet.InteractiveTx

open Beignet.Data

abbrev InputMap := KeyedMap TxInput.serialId
abbrev OutputMap := KeyedMap TxOutput.serialId

structure InteractiveTxBuilder where
  isInitiator : Bool
  state : TxState
  inputs : InputMap
  outputs : OutputMap
  locktime : Nat
  nextSerialId : Nat
  peerAddInputMsgs : Nat
  peerAddOutputMsgs : Nat
  dustLimit : Nat
  peerPrevTxBytes : Int
  deriving DecidableEq

namespace InteractiveTxBuilder

def create (isInitiator : Bool) (locktime : Nat) : InteractiveTxBuilder where
  isInitiator := isInitiator
  state := .collecting
  inputs := .empty
  outputs := .empty
  locktime := locktime
  nextSerialId := if isInitiator then 0 else 1
  peerAddInputMsgs := 0
  peerAddOutputMsgs := 0
  dustLimit := dustLimitSats
  peerPrevTxBytes := 0

variable (b : InteractiveTxBuilder) (refusal : Option String) (parse : ParseOutputs) (serialId : Nat)
  (input : TxInput) (output : TxOutput)

def setDustLimit (sats : Nat) : InteractiveTxBuilder :=
  { b with dustLimit := max b.dustLimit sats }

def nextSerialIdForUs : Nat × InteractiveTxBuilder :=
  (b.nextSerialId, { b with nextSerialId := b.nextSerialId + 2 })

def isComplete : Bool := b.state = .complete

def countBySide {α : Type} (serialId : α → Nat) (values : List α) (initiatorSide : Bool) : Nat :=
  values.countP fun a => ownParity initiatorSide (serialId a)

def resume (state : TxState) : TxState := if state = .sentComplete then .collecting else state

def sessionRefusal : Option String :=
  match b.state with
  | .aborted => some "Session is aborted"
  | .complete => some "Session is already complete"
  | _ => none

def inputExists : Option String :=
  refuseIf (b.inputs.has serialId = true) s!"Input with serial ID {serialId} already exists"

def outputExists : Option String :=
  refuseIf (b.outputs.has serialId = true) s!"Output with serial ID {serialId} already exists"

def inputMissing : Option String :=
  refuseIf (b.inputs.has serialId = false) s!"Input with serial ID {serialId} not found"

def outputMissing : Option String :=
  refuseIf (b.outputs.has serialId = false) s!"Output with serial ID {serialId} not found"

def putInput : InteractiveTxBuilder :=
  { b with inputs := b.inputs.set input, state := resume b.state }

def putOutput : InteractiveTxBuilder :=
  { b with outputs := b.outputs.set output, state := resume b.state }

def dropInput : InteractiveTxBuilder :=
  { b with inputs := b.inputs.delete serialId, state := resume b.state }

def dropOutput : InteractiveTxBuilder :=
  { b with outputs := b.outputs.delete serialId, state := resume b.state }

def unlessRefused (b changed : InteractiveTxBuilder) : InteractiveTxBuilder × Option String :=
  match refusal with
  | some reason => (b, some reason)
  | none => (changed, none)

def addInput : InteractiveTxBuilder × Option String :=
  unlessRefused
    (firstRefusal [b.sessionRefusal, validateSerialIdParity input.serialId b.isInitiator,
      b.inputExists input.serialId])
    b (b.putInput input)

def addOutput : InteractiveTxBuilder × Option String :=
  unlessRefused
    (firstRefusal [b.sessionRefusal, validateSerialIdParity output.serialId b.isInitiator,
      b.outputExists output.serialId])
    b (b.putOutput output)

/-- The checks of `addPeerInput` that follow the message count; `prevTxBytesFree` is
    nothing when the node sets no budget. -/
def peerInputRefusal (b : InteractiveTxBuilder) (input : TxInput) (prevTxBytesFree : Option Int) : Option String :=
  let sequence := input.sequence
  firstRefusal [
    refuseIf (maxInteractiveTxMsgs < b.peerAddInputMsgs)
      s!"Peer exceeded {maxInteractiveTxMsgs} tx_add_input messages",
    validatePeerSerialIdParity input.serialId b.isInitiator,
    refuseIf (maxInteractiveTxSequence < sequence)
      s!"tx_add_input sequence {sequence} must be <= 0xfffffffd",
    if input.isShared then none
    else validatePeerInputPrevTx parse input.prevTx (input.prevTxVout.getD input.prevOutputIndex),
    refuseIf (maxInteractiveTxInputs ≤ countBySide TxInput.serialId b.inputs.values !b.isInitiator)
      s!"Peer exceeded {maxInteractiveTxInputs} inputs",
    refuseIf ((maxPeerPrevTxBytesPerSession : Int) < b.peerPrevTxBytes + input.prevTxLength)
      s!"Peer prev_tx bytes would exceed {maxPeerPrevTxBytesPerSession} in this session",
    refuseIf (∃ free ∈ prevTxBytesFree, free < (input.prevTxLength : Int))
      "Peer prev_tx bytes would exceed the node-wide budget",
    b.inputExists input.serialId]

def addPeerInput (b : InteractiveTxBuilder) (input : TxInput)
    (prevTxBytesFree : Option Int) : InteractiveTxBuilder × Option String :=
  match b.sessionRefusal with
  | some reason => (b, some reason)
  | none =>
    let counted := { b with peerAddInputMsgs := b.peerAddInputMsgs + 1 }
    unlessRefused (counted.peerInputRefusal parse input prevTxBytesFree) counted
      { counted.putInput input with
        peerPrevTxBytes := counted.peerPrevTxBytes + input.prevTxLength }

def peerOutputRefusal : Option String :=
  let amount := output.amountSats
  let dust := b.dustLimit
  firstRefusal [
    refuseIf (maxInteractiveTxMsgs < b.peerAddOutputMsgs)
      s!"Peer exceeded {maxInteractiveTxMsgs} tx_add_output messages",
    validatePeerSerialIdParity output.serialId b.isInitiator,
    refuseIf (maxInteractiveTxOutputs ≤ countBySide TxOutput.serialId b.outputs.values !b.isInitiator)
      s!"Peer exceeded {maxInteractiveTxOutputs} outputs",
    refuseIf (maxMoneySats < amount) s!"Output amount {amount} exceeds MAX_MONEY",
    refuseIf (amount < dust) s!"Output amount {amount} below dust limit {dust}",
    b.outputExists output.serialId]

def addPeerOutput : InteractiveTxBuilder × Option String :=
  match b.sessionRefusal with
  | some reason => (b, some reason)
  | none =>
    let counted := { b with peerAddOutputMsgs := b.peerAddOutputMsgs + 1 }
    unlessRefused (counted.peerOutputRefusal output) counted (counted.putOutput output)

def removeInput : InteractiveTxBuilder × Option String :=
  unlessRefused (b.inputMissing serialId) b (b.dropInput serialId)

def removeOutput : InteractiveTxBuilder × Option String :=
  unlessRefused (b.outputMissing serialId) b (b.dropOutput serialId)

-- The parity of the serial id decides the byte count alone; the removal itself is not guarded by it.
def removePeerInput : InteractiveTxBuilder × Option String :=
  match b.inputs.get? serialId with
  | none => (b, some s!"Input with serial ID {serialId} not found")
  | some input =>
    let counted : Int :=
      if validatePeerSerialIdParity serialId b.isInitiator = none then input.prevTxLength else 0
    ({ b.dropInput serialId with peerPrevTxBytes := b.peerPrevTxBytes - counted }, none)

def removePeerOutput : InteractiveTxBuilder × Option String :=
  unlessRefused (b.outputMissing serialId) b (b.dropOutput serialId)

def markComplete : InteractiveTxBuilder × Option String :=
  match b.state with
  | .aborted => (b, some "Session is aborted")
  | .complete => (b, some "Session is already complete")
  | .sentComplete => (b, some "Already sent tx_complete")
  | .receivedComplete => ({ b with state := .complete }, none)
  | .collecting => ({ b with state := .sentComplete }, none)

def handlePeerComplete : InteractiveTxBuilder × Option String :=
  match b.state with
  | .aborted => (b, some "Session is aborted")
  | .complete => (b, some "Session is already complete")
  | .sentComplete => ({ b with state := .complete }, none)
  | .receivedComplete => ({ b with state := .receivedComplete }, none)
  | .collecting => ({ b with state := .receivedComplete }, none)

def abort : InteractiveTxBuilder := { b with state := .aborted }

structure BuiltTransaction where
  inputs : List TxInput
  outputs : List TxOutput
  locktime : Nat
  deriving DecidableEq

def sortedInputs : List TxInput :=
  b.inputs.values.insertionSort fun a c => a.serialId ≤ c.serialId

def sortedOutputs : List TxOutput :=
  b.outputs.values.insertionSort fun a c => a.serialId ≤ c.serialId

def buildTransaction : Option BuiltTransaction :=
  if b.state ≠ .complete then none
  else
    match validateInteractiveTx b.sortedInputs b.sortedOutputs b.dustLimit with
    | some _ => none
    | none => some ⟨b.sortedInputs, b.sortedOutputs, b.locktime⟩

theorem sessionRefusal_eq_none {b : InteractiveTxBuilder} :
    b.sessionRefusal = none ↔ b.state ≠ .aborted ∧ b.state ≠ .complete := by
  unfold sessionRefusal
  cases b.state <;> simp

theorem unlessRefused_cases (b changed : InteractiveTxBuilder) :
    (∃ reason, refusal = some reason ∧ unlessRefused refusal b changed = (b, some reason)) ∨
      (refusal = none ∧ unlessRefused refusal b changed = (changed, none)) := by
  cases refusal with
  | some reason => exact .inl ⟨reason, rfl, rfl⟩
  | none => exact .inr ⟨rfl, rfl⟩

variable (b : InteractiveTxBuilder) (output : TxOutput) (serialId : Nat)

theorem addOwn_cases (b changed : InteractiveTxBuilder) (serialId : Nat) (taken : Option String) :
    let result := unlessRefused
      (firstRefusal [b.sessionRefusal, validateSerialIdParity serialId b.isInitiator, taken]) b changed
    (∃ reason, result = (b, some reason)) ∨
      (result = (changed, none) ∧ ownParity b.isInitiator serialId = true) := by
  rcases unlessRefused_cases _ b changed with ⟨reason, -, refused⟩ | ⟨clear, accepted⟩
  · exact .inl ⟨reason, refused⟩
  · have ours := firstRefusal_eq_none.mp clear _ (.tail _ (.head _))
    exact .inr ⟨accepted, (validateSerialIdParity_eq_none ..).mp ours⟩

theorem addInput_cases (input : TxInput) : (∃ reason, b.addInput input = (b, some reason)) ∨
      (b.addInput input = (b.putInput input, none) ∧ ownParity b.isInitiator input.serialId = true) :=
  addOwn_cases b ..

theorem addOutput_cases : (∃ reason, b.addOutput output = (b, some reason)) ∨
      (b.addOutput output = (b.putOutput output, none) ∧ ownParity b.isInitiator output.serialId = true) :=
  addOwn_cases b ..

theorem addPeerInput_cases (parse : ParseOutputs) (b : InteractiveTxBuilder) (input : TxInput) (free : Option Int) :
    (∃ reason msgs, b.addPeerInput parse input free = ({ b with peerAddInputMsgs := msgs }, some reason)) ∨
      (∃ msgs bytes, b.addPeerInput parse input free =
        ({ b.putInput input with peerAddInputMsgs := msgs, peerPrevTxBytes := bytes }, none) ∧
        ownParity b.isInitiator input.serialId = false) := by
  unfold addPeerInput
  cases session : b.sessionRefusal with
  | some reason => exact .inl ⟨reason, b.peerAddInputMsgs, rfl⟩
  | none =>
    dsimp only
    rcases unlessRefused_cases (peerInputRefusal parse { b with peerAddInputMsgs := b.peerAddInputMsgs + 1 }
      input free) _ _ with ⟨reason, -, refused⟩ | ⟨clear, accepted⟩
    · exact .inl ⟨reason, _, refused⟩
    · have theirs := firstRefusal_eq_none.mp clear _ (.tail _ (.head _))
      exact .inr ⟨_, _, accepted, (validatePeerSerialIdParity_eq_none ..).mp theirs⟩

theorem addPeerOutput_cases :
    (∃ reason msgs, b.addPeerOutput output = ({ b with peerAddOutputMsgs := msgs }, some reason)) ∨
      (∃ msgs, b.addPeerOutput output = ({ b.putOutput output with peerAddOutputMsgs := msgs }, none) ∧
        ownParity b.isInitiator output.serialId = false) := by
  unfold addPeerOutput
  cases session : b.sessionRefusal with
  | some reason => exact .inl ⟨reason, b.peerAddOutputMsgs, rfl⟩
  | none =>
    dsimp only
    rcases unlessRefused_cases (peerOutputRefusal { b with peerAddOutputMsgs := b.peerAddOutputMsgs + 1 }
      output) _ _ with ⟨reason, -, refused⟩ | ⟨clear, accepted⟩
    · exact .inl ⟨reason, _, refused⟩
    · have theirs := firstRefusal_eq_none.mp clear _ (.tail _ (.head _))
      exact .inr ⟨_, accepted, (validatePeerSerialIdParity_eq_none ..).mp theirs⟩

theorem removeInput_cases : (∃ reason, b.removeInput serialId = (b, some reason)) ∧ b.inputs.has serialId = false ∨
      (b.removeInput serialId = (b.dropInput serialId, none) ∧ b.inputs.has serialId = true) := by
  unfold removeInput inputMissing refuseIf
  cases b.inputs.has serialId with
  | false => exact .inl ⟨⟨_, rfl⟩, rfl⟩
  | true => exact .inr ⟨rfl, rfl⟩

theorem removeOutput_cases : (∃ reason, b.removeOutput serialId = (b, some reason)) ∧ b.outputs.has serialId = false ∨
      (b.removeOutput serialId = (b.dropOutput serialId, none) ∧ b.outputs.has serialId = true) := by
  unfold removeOutput outputMissing refuseIf
  cases b.outputs.has serialId with
  | false => exact .inl ⟨⟨_, rfl⟩, rfl⟩
  | true => exact .inr ⟨rfl, rfl⟩

theorem removePeerInput_cases :
    (∃ reason, b.removePeerInput serialId = (b, some reason) ∧ b.inputs.has serialId = false) ∨
      (∃ bytes, b.removePeerInput serialId = ({ b.dropInput serialId with peerPrevTxBytes := bytes }, none) ∧
        b.inputs.has serialId = true) := by
  unfold removePeerInput KeyedMap.has
  cases found : b.inputs.get? serialId with
  | none => exact .inl ⟨_, rfl, rfl⟩
  | some input => exact .inr ⟨_, rfl, rfl⟩

end InteractiveTxBuilder

end Beignet.InteractiveTx
