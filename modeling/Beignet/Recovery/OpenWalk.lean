import Beignet.Recovery.Guardian

namespace Beignet.Recovery

structure WalkFailure where
  checkpoint : GuardianState
  reason : String
  deriving DecidableEq, Repr

inductive OpenVerdict
  | intact
  | quarantined (problem : String)
  | tombstoned
  | receiptReplaced
  | rolledBack (failure : WalkFailure)
  deriving DecidableEq, Repr

variable {Sig : Type}

namespace Guardian

variable (guardian : Guardian Sig)

section Floor

def receiptVerifies (state : GuardianState) (issuedAt : Nat) (signature : Sig) : Bool :=
  guardian.verifyTranscript (.receipt guardian.guardianSetId guardian.guardianId state issuedAt) signature
    guardian.guardianId

def floorVerifies (recoveryId : Bytes32) (regState : GuardianState) (row : RetainFloorRow Sig) : Bool :=
  let state := row.state
  state.recoveryId = recoveryId ∧ state.origin = regState.origin ∧ regState.lease.epoch ≤ state.lease.epoch ∧
    state.logHead ≠ genesisLogHead ∧ regState.origin.firstSequence ≤ state.logHead.sequence ∧
    guardian.receiptVerifies state row.issuedAt row.signature ∧ state.logHead.sequence + 1 ≤ u64Max ∧
    guardian.verifyTranscript (.retain guardian.guardianSetId recoveryId state.lease.epoch
      (state.logHead.sequence + 1) row.frameHash) row.writerSignature state.lease.writerPublicKey

def storedRetainFloor (ns : Namespace Sig) (recoveryId : Bytes32) (regState : GuardianState) :
    Except Unit (Option GuardianState) :=
  match ns.retainFloor with
  | none => .ok none
  | some row => if guardian.floorVerifies recoveryId regState row then .ok (some row.state) else .error ()

end Floor

section Walk

variable (ns : Namespace Sig) (recoveryId : Bytes32) (regState : GuardianState)
  (walkTarget : Option GuardianState)

def headOnLog (head : LogHead) : Bool :=
  head = genesisLogHead ∨ (ns.getRecord head.sequence).any fun stored =>
    stored.frameHash = head.frameHash ∧ stored.ciphertextHash = head.ciphertextHash ∧ stored.epoch = head.recordEpoch

/-- Whether a certificate fits the replayed state. Below a retain floor the records are freed, and only the
    position of the superseded head is compared. -/
def takeoverExtends (belowFloor : Option GuardianState) (sim superseded : GuardianState) : Bool :=
  match belowFloor with
  | some floor => superseded.logHead.sequence ≤ floor.logHead.sequence
  | none =>
    -- A grant extended to a higher head keeps its certificate below the records it then took.
    let extended := superseded.lease.epoch = sim.lease.epoch ∧
      superseded.logHead.sequence < sim.logHead.sequence ∧ headOnLog ns superseded.logHead
    (superseded.logHead = sim.logHead ∨ extended) ∧ sim.lease.epoch ≤ superseded.lease.epoch ∧
      (superseded.lease.epoch = sim.lease.epoch → superseded.lease.writerPublicKey = sim.lease.writerPublicKey)

def applyTakeover (belowFloor : Option GuardianState) (sim : GuardianState) (row : EpochRow Sig) :
    Except WalkFailure GuardianState :=
  if walkTarget.any fun target => target.lease.epoch < row.epoch then
    .error ⟨sim, "epoch row beyond the declared lease"⟩
  else
    match row.takeover with
    | none => .error ⟨sim, "takeover epoch row is missing its artifacts"⟩
    | some takeover =>
      let superseded := takeover.supersededState
      let post : GuardianState := ⟨recoveryId, ⟨row.epoch, row.writerPublicKey⟩, sim.origin, superseded.logHead⟩
      if superseded.recoveryId ≠ recoveryId ∨ superseded.origin ≠ sim.origin ∨
          row.epoch ≠ superseded.lease.epoch + 1 ∨ takeoverExtends ns belowFloor sim superseded = false then
        .error ⟨sim, "takeover certificate does not extend the replayed state"⟩
      else if guardian.verifyTranscript (.takeover guardian.guardianSetId guardian.guardianId superseded row.epoch
          row.writerPublicKey takeover.certIssuedAt) takeover.certSignature guardian.guardianId = false then
        .error ⟨sim, "stored takeover certificate signature failed"⟩
      else if takeover.receiptState ≠ post then
        .error ⟨sim, "stored takeover receipt covers the wrong state"⟩
      else if guardian.receiptVerifies post takeover.receiptIssuedAt takeover.receiptSignature = false then
        .error ⟨sim, "stored takeover receipt signature failed"⟩
      else if belowFloor.isSome then .ok sim
      else .ok { post with logHead := sim.logHead }

def advanceTo (ns : Namespace Sig) (recoveryId : Bytes32) (walkTarget : Option GuardianState)
    (recordEpoch : Nat) : GuardianState → List (EpochRow Sig) →
    Except WalkFailure (GuardianState × List (EpochRow Sig))
  | sim, [] =>
    if sim.lease.epoch < recordEpoch then .error ⟨sim, "record epoch has no takeover certificate"⟩
    else .ok (sim, [])
  | sim, next :: rest =>
    if sim.lease.epoch < recordEpoch then do
      let sim ← guardian.applyTakeover ns recoveryId walkTarget none sim next
      advanceTo ns recoveryId walkTarget recordEpoch sim rest
    else .ok (sim, next :: rest)

def replayRecord (sim : GuardianState) (record : RecordRow Sig) : Except WalkFailure GuardianState :=
  if record.epoch ≠ sim.lease.epoch then
    .error ⟨sim, "record epoch below the lease current at its position"⟩
  else if record.sequence ≠ sim.expectedSequence then .error ⟨sim, "sequence gap in the log"⟩
  else if record.previousHash ≠ sim.expectedPrevious then .error ⟨sim, "previous hash chain break"⟩
  else if guardian.sha256 record.ciphertext ≠ record.ciphertextHash then
    .error ⟨sim, "record ciphertext does not match its stored hash"⟩
  else if guardian.verifyTranscript (.record guardian.guardianSetId recoveryId record.epoch record.sequence
      record.previousHash record.frameHash record.ciphertextHash) record.writerSignature
      sim.lease.writerPublicKey = false then
    .error ⟨sim, "record writer signature failed"⟩
  else .ok { sim with logHead := record.head }

structure WalkState (Sig : Type) where
  sim : GuardianState
  pending : List (EpochRow Sig)
  impossibleRows : Bool

def walkRecord (walkTarget floor : Option GuardianState) (walk : WalkState Sig) (record : RecordRow Sig) :
    Except WalkFailure (WalkState Sig) :=
  if record.sequence < regState.origin.firstSequence ∨
      (floor.any fun floor => record.sequence ≤ floor.logHead.sequence) then
    .ok { walk with impossibleRows := true }
  else if walkTarget.any fun target => target.logHead.sequence < record.sequence then
    .error ⟨walk.sim, "stored records extend beyond the declared head"⟩
  else do
    let (sim, pending) ← guardian.advanceTo ns recoveryId walkTarget record.epoch walk.sim walk.pending
    let sim ← guardian.replayRecord recoveryId sim record
    return { walk with sim := sim, pending := pending }

/-- The takeovers up to the lease of a floor, judged without the records below it. -/
def walkBelowFloor (epochRows pending : List (EpochRow Sig)) (floor : GuardianState) :
    Except WalkFailure (GuardianState × List (EpochRow Sig)) :=
  let named : Bool := (epochRows.find? fun row => row.epoch = floor.lease.epoch).any fun row =>
    row.writerPublicKey = floor.lease.writerPublicKey
  if named = false then .error ⟨regState, "retain floor names a lease with no epoch row"⟩
  else do
    let below := pending.takeWhile fun row => row.epoch ≤ floor.lease.epoch
    let _ ← below.foldlM (guardian.applyTakeover ns recoveryId walkTarget (some floor)) regState
    return (floor, pending.dropWhile fun row => row.epoch ≤ floor.lease.epoch)

def replay : Except WalkFailure (GuardianState × Bool) := do
  let epochRows := ns.epochs.filter fun row => regState.lease.epoch ≤ row.epoch
  let impossible := ns.epochs.any fun row => row.epoch < regState.lease.epoch
  match epochRows with
  | [] => .error ⟨regState, "registration epoch row missing or corrupt"⟩
  | first :: pending =>
    if first.epoch ≠ regState.lease.epoch ∨ first.writerPublicKey ≠ regState.lease.writerPublicKey ∨
        first.takeover.isSome then
      .error ⟨regState, "registration epoch row missing or corrupt"⟩
    else
      match guardian.storedRetainFloor ns recoveryId regState with
      | .error _ => .error ⟨regState, "stored retain floor does not verify"⟩
      | .ok floor =>
        let (start, pending) ←
          match floor with
          | none => .ok (regState, pending)
          | some floor => guardian.walkBelowFloor ns recoveryId regState walkTarget (first :: pending) pending floor
        let walk ← ns.records.foldlM (guardian.walkRecord ns recoveryId regState walkTarget floor)
          ⟨start, pending, impossible⟩
        let sim ← walk.pending.foldlM (guardian.applyTakeover ns recoveryId walkTarget none) walk.sim
        return (sim, walk.impossibleRows)

def walkNamespace : Option WalkFailure :=
  match guardian.replay ns recoveryId regState walkTarget with
  | .error failure => some failure
  | .ok (sim, impossibleRows) =>
    match walkTarget with
    | none => some ⟨sim, "declared state missing or unparseable"⟩
    | some target =>
      if sim ≠ target then some ⟨sim, "replayed history stops short of the declared state"⟩
      else if guardian.receiptVerifies target ns.receiptIssuedAt ns.receiptSignature = false then
        some ⟨sim, "stored cumulative receipt does not verify"⟩
      else if impossibleRows then some ⟨sim, "impossible rows present alongside the chain"⟩
      else none

end Walk

variable (ns : Namespace Sig) (recoveryId : Bytes32)

def registrationValid : Bool :=
  let regState := ns.registrationState
  regState.recoveryId = recoveryId ∧ 1 ≤ regState.lease.epoch ∧ 1 ≤ regState.origin.firstSequence ∧
    regState.logHead = genesisLogHead ∧
    guardian.verifyTranscript (.register guardian.guardianSetId regState ns.generation) ns.registrationSignature
      regState.recoveryId

def declaredState : Option GuardianState :=
  let regState := ns.registrationState
  if ns.state.recoveryId = recoveryId ∧ ns.state.origin = regState.origin ∧
      regState.lease.epoch ≤ ns.state.lease.epoch then some ns.state
  else none

/-- `verifyNamespaceAtOpen`, with the check of a stored rotation before it. -/
def verifyNamespaceAtOpen : OpenVerdict :=
  match ns.rotation.bind fun rotation =>
      guardian.rotationEvidenceProblem rotation guardian.guardianSetId recoveryId ns.generation with
  | some problem => .quarantined problem
  | none =>
    if guardian.registrationValid ns recoveryId = false then .tombstoned
    else
      match guardian.walkNamespace ns recoveryId ns.registrationState (declaredState ns recoveryId) with
      | some failure => .rolledBack failure
      | none =>
        if guardian.receiptVerifies ns.registrationState ns.registrationReceiptIssuedAt
          ns.registrationReceiptSignature then .intact
        else .receiptReplaced

end Guardian

end Beignet.Recovery
