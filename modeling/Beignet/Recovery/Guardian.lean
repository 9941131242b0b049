import Beignet.Recovery.Store

namespace Beignet.Recovery

open Beignet.Data

inductive GuardianStatus
  | ok
  | okDuplicate
  | errUnsupportedVersion
  | errMalformed
  | errUnknownNode
  | errUnknownSet
  | errAlreadyRegistered
  | errEpochSuperseded
  | errSequenceGap
  | errPrevHashMismatch
  | errBadSignature
  | errCasFailed
  | errConflict
  | errInsufficientCerts
  | errCertMismatch
  | errEpochRegression
  | errHeadUnknown
  | errStoreUncertain
  | errTooLarge
  | errQuotaExceeded
  | errSetRetired
  | errInternal
  deriving DecidableEq, Repr

structure Refusal where
  status : GuardianStatus
  detail : String
  deriving DecidableEq, Repr

structure Reply (Sig : Type) where
  status : GuardianStatus
  detail : Option String := none
  receipt : Option (Receipt Sig) := none
  current : Option GuardianState := none
  certificate : Option (TakeoverCertificate Sig) := none
  certificates : List (TakeoverCertificate Sig) := []
  rotation : Option (RotateSet Sig) := none

/-- A verified quorum of takeover certificates. `certified` is the superseded state at the highest head that a
    signer granted over, `heads` are those of all signers. -/
structure TakeoverBundle where
  certified : GuardianState
  heads : List LogHead
  newEpoch : Nat
  newWriterPublicKey : Bytes32
  deriving DecidableEq, Repr

/-- A guardian of a set. `admits` and `settles` are the verdicts of its quotas on the stored rows, before and
    after a write. -/
structure Guardian (Sig : Type) extends Primitives Sig where
  guardianId : Bytes32
  guardianSetId : Bytes32
  members : List Bytes32
  maxCiphertextBytes : Nat
  sign : Transcript → Sig
  admits : Store Sig → Request Sig → Option Refusal
  settles : Store Sig → Store Sig → Option Refusal
  set_computed : toPrimitives.computeGuardianSetId members = .ok guardianSetId
  is_member : guardianId ∈ members
  verify_sign : ∀ transcript, verifyTranscript transcript (sign transcript) guardianId = true

variable {Sig : Type}

def Refusal.reply (refusal : Refusal) : Reply Sig := { status := refusal.status, detail := some refusal.detail }

abbrev Outcome (Sig : Type) := Reply Sig × Option (Namespace Sig)

def refused (status : GuardianStatus) (detail : String) (current : Option GuardianState := none)
    (certificates : List (TakeoverCertificate Sig) := []) : Outcome Sig :=
  ({ status := status, detail := some detail, current := current, certificates := certificates }, none)

def orInternal {α : Type} (result : Except String α) (next : α → Outcome Sig) : Outcome Sig :=
  match result with
  | .error message => refused .errInternal message
  | .ok value => next value

namespace Guardian

variable (guardian : Guardian Sig)

section Artifacts

variable (state : GuardianState) (ns : Namespace Sig)

def signReceipt (issuedAt : Nat) : Sig :=
  guardian.sign (.receipt guardian.guardianSetId guardian.guardianId state issuedAt)

def signCertificate (supersededState : GuardianState) (newEpoch : Nat) (newWriterPublicKey : Bytes32)
    (issuedAt : Nat) : Sig :=
  guardian.sign (.takeover guardian.guardianSetId guardian.guardianId supersededState newEpoch newWriterPublicKey
    issuedAt)

def toReceipt (issuedAt : Nat) (signature : Sig) : Receipt Sig :=
  ⟨guardianProtocolVersion, guardian.guardianSetId, guardian.guardianId, state, issuedAt, signature⟩

def storedReceipt : Receipt Sig :=
  guardian.toReceipt ns.state ns.receiptIssuedAt ns.receiptSignature

def certificateFromEpochRow (row : EpochRow Sig) : Option (TakeoverCertificate Sig) :=
  row.takeover.map fun takeover =>
    { protocolVersion := guardianProtocolVersion
      guardianSetId := guardian.guardianSetId
      guardianId := guardian.guardianId
      supersededState := takeover.supersededState
      newEpoch := row.epoch
      newWriterPublicKey := row.writerPublicKey
      issuedAt := takeover.certIssuedAt
      signature := takeover.certSignature }

def listCertificates : List (TakeoverCertificate Sig) :=
  ns.epochs.filterMap guardian.certificateFromEpochRow

def takeoverRow (superseded : GuardianState) (newEpoch : Nat) (newWriterPublicKey : Bytes32)
    (certIssuedAt receiptIssuedAt : Nat) : EpochRow Sig :=
  let newState := { superseded with lease := ⟨newEpoch, newWriterPublicKey⟩ }
  { epoch := newEpoch
    writerPublicKey := newWriterPublicKey
    takeover := some
      { supersededState := superseded
        certIssuedAt := certIssuedAt
        certSignature := guardian.signCertificate superseded newEpoch newWriterPublicKey certIssuedAt
        receiptState := newState
        receiptIssuedAt := receiptIssuedAt
        receiptSignature := guardian.signReceipt newState receiptIssuedAt } }

end Artifacts

section Gates

def versionAndSetProblem (protocolVersion : Nat) (guardianSetId : Bytes32) : Option Refusal :=
  firstRefusal [
    refuseIf (protocolVersion ≠ guardianProtocolVersion)
      ⟨.errUnsupportedVersion, s!"protocol_version {protocolVersion} outside supported range 1..1"⟩,
    refuseIf (guardianSetId ≠ guardian.guardianSetId)
      ⟨.errUnknownSet, "guardian_set_id is not served by this guardian"⟩]

def memberListProblem (members : List Bytes32) : Option Refusal :=
  if members.length ≠ Primitives.crashTotal then
    some ⟨.errMalformed, "guardian_members must list exactly 3 keys"⟩
  else
    match guardian.computeGuardianSetId members with
    | .error message => some ⟨.errMalformed, s!"guardian_members invalid: {message}"⟩
    | .ok setId =>
      firstRefusal [
        refuseIf (setId ≠ guardian.guardianSetId)
          ⟨.errMalformed, "guardian_members do not hash to guardian_set_id"⟩,
        refuseIf (guardian.guardianId ∉ members)
          ⟨.errUnknownSet, "this guardian is not a member of guardian_members"⟩]

def malformed (problem : Option String) : Option Refusal := problem.map fun detail => ⟨.errMalformed, detail⟩

def registrationAdmissionProblem (request : RegisterNode Sig) : Option Refusal :=
  let state := request.initialState
  firstRefusal [
    guardian.versionAndSetProblem request.protocolVersion request.guardianSetId,
    guardian.memberListProblem request.guardianMembers,
    malformed (stateShapeProblem state),
    refuseIf (guardian.isXOnlyPoint state.recoveryId = false)
      ⟨.errMalformed, "recovery_id is not a valid x-only point"⟩,
    refuseIf (guardian.isXOnlyPoint state.lease.writerPublicKey = false)
      ⟨.errMalformed, "writer public key is not a valid x-only point"⟩,
    refuseIf (state.logHead ≠ genesisLogHead) ⟨.errMalformed, "registration log head must be genesis"⟩,
    refuseIf (state.origin.firstSequence = 1 ∧ state.origin.previousHash ≠ 0)
      ⟨.errMalformed, "origin at firstSequence 1 requires a zero previousHash"⟩,
    refuseIf (u64Max < request.generation ∨ request.generation = 0)
      ⟨.errMalformed, "generation must be a nonzero u64"⟩,
    refuseIf (guardian.verifyTranscript (.register guardian.guardianSetId state request.generation)
        request.rootSignature state.recoveryId = false)
      ⟨.errBadSignature, "root signature over the REGISTER transcript failed"⟩]

def recordProblem (record : Record Sig) (retainFloor : Option (RetainFloor Sig)) : Option Refusal :=
  let limit := guardian.maxCiphertextBytes
  firstRefusal [
    guardian.versionAndSetProblem record.protocolVersion record.guardianSetId,
    refuseIf (u64Max < record.epoch ∨ record.epoch = 0) ⟨.errMalformed, "record epoch must be a nonzero u64"⟩,
    refuseIf (u64Max < record.sequence ∨ record.sequence = 0)
      ⟨.errMalformed, "sequence 0 never carries a record"⟩,
    refuseIf (record.ciphertext = []) ⟨.errMalformed, "record ciphertext is missing"⟩,
    refuseIf (limit < record.ciphertext.length)
      ⟨.errTooLarge, s!"ciphertext exceeds the advertised limit of {limit} bytes"⟩,
    refuseIf (retainFloor.any fun floor => u64Max < floor.sequence ∨ floor.sequence = 0)
      ⟨.errMalformed, "retain floor malformed"⟩]

/-- Every mutating verb but ROTATE_SET: a retired namespace refuses, then the quota, then the verb itself. -/
def fencedWrite (store : Store Sig) (request : Request Sig) (recoveryId : Bytes32)
    (body : Option (Namespace Sig) → Outcome Sig) : Reply Sig × Store Sig :=
  if (store recoveryId).any fun ns => ns.rotation.isSome then
    ((Refusal.reply ⟨.errSetRetired,
      "this namespace was rotated to another guardian set; GET_HEAD carries the rotation"⟩), store)
  else
    match guardian.admits store request with
    | some refusal => (refusal.reply, store)
    | none =>
      match body (store recoveryId) with
      | (reply, none) => (reply, store)
      | (reply, some written) =>
        let after := store.put recoveryId written
        match guardian.settles store after with
        | some refusal => (refusal.reply, store)
        | none => (reply, after)

end Gates

section Register

def registerBody (request : RegisterNode Sig) (clock : Nat → Nat) : Option (Namespace Sig) → Outcome Sig
  | some ns =>
    if ns.registrationState = request.initialState ∧ ns.generation = request.generation then
      ({ status := .okDuplicate
         receipt := some (guardian.toReceipt ns.registrationState ns.registrationReceiptIssuedAt
          ns.registrationReceiptSignature) }, none)
    else
      refused .errAlreadyRegistered "a differing registration exists for this recovery_id" (some ns.state)
  | none =>
    let state := request.initialState
    let issuedAt := clock 1
    let signature := guardian.signReceipt state issuedAt
    ({ status := .ok, receipt := some (guardian.toReceipt state issuedAt signature) }, some
        { state := state
          possiblyStale := false
          registrationState := state
          registrationSignature := request.rootSignature
          registrationReceiptIssuedAt := issuedAt
          registrationReceiptSignature := signature
          receiptIssuedAt := issuedAt
          receiptSignature := signature
          generation := request.generation
          rotation := none
          erasedEpoch := none
          records := []
          epochs := [⟨state.lease.epoch, state.lease.writerPublicKey, none⟩]
          retainFloor := none })

def register (store : Store Sig) (request : RegisterNode Sig) (clock : Nat → Nat) : Reply Sig × Store Sig :=
  match guardian.registrationAdmissionProblem request with
  | some refusal => (refusal.reply, store)
  | none => guardian.fencedWrite store (.register request) request.initialState.recoveryId
      (guardian.registerBody request clock)

end Register

section Bundle

variable (cert : TakeoverCertificate Sig) (certs : List (TakeoverCertificate Sig))

def certificateShapeProblem : Option Refusal :=
  firstRefusal [
    malformed (stateShapeProblem cert.supersededState),
    refuseIf (u64Max < cert.newEpoch ∨ cert.newEpoch = 0) ⟨.errMalformed, "newEpoch must be a nonzero u64"⟩,
    refuseIf (u64Max < cert.issuedAt) ⟨.errMalformed, "issuedAt must be a u64"⟩]

def headsClash : List LogHead → Bool
  | first :: second :: rest =>
    (second.sequence = first.sequence ∧ second ≠ first) ∨ headsClash (second :: rest)
  | _ => false

def disagrees (reference cert : TakeoverCertificate Sig) : Bool :=
  cert.protocolVersion ≠ reference.protocolVersion ∨ cert.guardianSetId ≠ reference.guardianSetId ∨
    sameLease cert.supersededState reference.supersededState = false ∨ cert.newEpoch ≠ reference.newEpoch ∨
    cert.newWriterPublicKey ≠ reference.newWriterPublicKey

def certificateVerifies : Bool :=
  guardian.verifyTranscript (.takeover guardian.guardianSetId cert.guardianId cert.supersededState cert.newEpoch
    cert.newWriterPublicKey cert.issuedAt) cert.signature cert.guardianId

def sortedHeads : List LogHead :=
  (certs.map fun cert => cert.supersededState.logHead).insertionSort fun a b => a.sequence ≤ b.sequence

def bundleProblem (reference : TakeoverCertificate Sig) (certs : List (TakeoverCertificate Sig)) : Option Refusal :=
  let version := reference.protocolVersion
  firstRefusal [
    refuseIf (Primitives.crashTotal < certs.length)
      ⟨.errMalformed, "more certificates than guardians in the set"⟩,
    certs.findSome? certificateShapeProblem,
    refuseIf (certs.any (disagrees reference)) ⟨.errCertMismatch, "certificates disagree about the takeover"⟩,
    refuseIf (headsClash (sortedHeads certs))
      ⟨.errCertMismatch, "certificates name two different records at one sequence"⟩,
    refuseIf (version ≠ guardianProtocolVersion)
      ⟨.errUnsupportedVersion, s!"protocol_version {version} outside supported range 1..1"⟩,
    refuseIf (reference.guardianSetId ≠ guardian.guardianSetId)
      ⟨.errUnknownSet, "guardian_set_id is not served by this guardian"⟩,
    refuseIf (certs.any fun cert => cert.guardianId ∉ guardian.members)
      ⟨.errCertMismatch, "certificate signer is not a member of the guardian set"⟩,
    refuseIf (¬ (certs.map TakeoverCertificate.guardianId).Nodup)
      ⟨.errCertMismatch, "duplicate certificate signer"⟩,
    refuseIf (certs.any fun cert => guardian.certificateVerifies cert = false)
      ⟨.errBadSignature, "certificate signature failed"⟩,
    refuseIf (certs.length < Primitives.crashRequired)
      ⟨.errInsufficientCerts, "takeover requires 2 distinct certificates"⟩]

def takeoverBundle : Except Refusal TakeoverBundle :=
  match certs with
  | [] => .error ⟨.errMalformed, "certificate bundle is empty"⟩
  | reference :: _ =>
    match guardian.bundleProblem reference certs with
    | some refusal => .error refusal
    | none =>
      let heads := sortedHeads certs
      let highest := heads.getLast?.getD genesisLogHead
      -- A quorum of signers at a head below the highest would certify a lower final head.
      if ((heads[Primitives.crashRequired - 1]?).map LogHead.sequence) ≠ some highest.sequence then
        .error ⟨.errCertMismatch, "a quorum of the certificates fixes a lower head than another signer granted over"⟩
      else if reference.newEpoch ≠ reference.supersededState.lease.epoch + 1 then
        .error ⟨.errCertMismatch, "newEpoch must equal the certified lease epoch + 1"⟩
      else
        .ok
          { certified := { reference.supersededState with logHead := highest }
            heads := heads
            newEpoch := reference.newEpoch
            newWriterPublicKey := reference.newWriterPublicKey }

/-- Whether a head that a certificate names is off the log of a guardian that reaches its sequence. -/
def headOffLog (ns : Namespace Sig) (head : LogHead) : Option Refusal :=
  if head = genesisLogHead ∨ ns.state.logHead = head then none
  else if head.sequence < ns.retainedFrom then
    some ⟨.errConflict, "certified head lies below the retain floor; its records were freed"⟩
  else
    match ns.getRecord head.sequence with
    | none => some ⟨.errInternal, "stored log is missing the certified sequence inside its own range"⟩
    | some stored =>
      if stored.frameHash ≠ head.frameHash ∨ stored.ciphertextHash ≠ head.ciphertextHash ∨
          stored.epoch ≠ head.recordEpoch then
        some ⟨.errConflict, "certified head conflicts with a stored record"⟩
      else none

end Bundle

section Append

/-- What a retain floor lets the guardian free. `checkpoint` is the state just before the first kept record. -/
structure RetainPlan (Sig : Type) where
  start : Nat
  floor : RetainFloor Sig
  checkpoint : GuardianState

variable (ns : Namespace Sig) (record : Record Sig)

def retainPlan (record : Record Sig) (floor : RetainFloor Sig) : Except Refusal (Option (RetainPlan Sig)) :=
  let state := ns.state
  if ns.possiblyStale ∨ record.epoch ≠ state.lease.epoch ∨ state.logHead = genesisLogHead ∨
      floor.sequence ≤ ns.retainedFrom ∨ state.logHead.sequence < floor.sequence then .ok none
  else
    match ns.getRecord floor.sequence, ns.getRecord (floor.sequence - 1) with
    | some kept, some last =>
      if kept.frameHash ≠ floor.frameHash ∨ kept.epoch ≠ state.lease.epoch then .ok none
      else if guardian.verifyTranscript (.retain guardian.guardianSetId state.recoveryId state.lease.epoch
          floor.sequence floor.frameHash) floor.writerSignature state.lease.writerPublicKey = false then
        .error ⟨.errBadSignature, "writer signature over the RETAIN transcript failed"⟩
      else
        .ok (some
          { start := floor.sequence
            floor := floor
            checkpoint := { state with logHead := { last.head with sequence := floor.sequence - 1 } } })
    | _, _ => .ok none

def applyRetainFloor (plan : RetainPlan Sig) (issuedAt : Nat) : Namespace Sig :=
  { ns.deleteRecordsBelow plan.start with
    retainFloor := some
      { state := plan.checkpoint
        issuedAt := issuedAt
        signature := guardian.signReceipt plan.checkpoint issuedAt
        frameHash := plan.floor.frameHash
        writerSignature := plan.floor.writerSignature } }

def recordRow : RecordRow Sig :=
  { sequence := record.sequence
    epoch := record.epoch
    previousHash := record.previousHash
    frameHash := record.frameHash
    ciphertextHash := guardian.sha256 record.ciphertext
    ciphertext := record.ciphertext
    writerSignature := record.writerSignature }

def writerVerifies (writerPublicKey : Bytes32) : Bool :=
  guardian.verifyTranscript (guardian.recordTranscript guardian.guardianSetId record) record.writerSignature
    writerPublicKey

def badRecordSignature : Outcome Sig :=
  refused .errBadSignature "writer signature over the RECORD transcript failed"

def storeRecord (record : Record Sig) (issuedAt : Nat) : Except String (Namespace Sig) :=
  let row := guardian.recordRow record
  let newState := { ns.state with logHead := row.head }
  (ns.insertRecord row).map fun inserted =>
    inserted.updateState newState issuedAt (guardian.signReceipt newState issuedAt)

def extending (state : GuardianState) (record : Record Sig) (next : Outcome Sig) : Outcome Sig :=
  let expectedSequence := state.expectedSequence
  if record.sequence ≠ expectedSequence then
    refused .errSequenceGap s!"expected sequence {expectedSequence}" (some state)
  else if record.previousHash ≠ state.expectedPrevious then
    refused .errPrevHashMismatch "previousHash does not extend the current head" (some state)
  else next

/-- Whether a bundle lets the guardian take records of the epoch that its lease superseded: nothing was written
    under the lease since the grant. -/
def grantExtends (record : Record Sig) (bundle : TakeoverBundle) : Bool :=
  let state := ns.state
  let certified := bundle.certified
  if bundle.newEpoch ≠ state.lease.epoch ∨ bundle.newWriterPublicKey ≠ state.lease.writerPublicKey ∨
      record.epoch ≠ certified.lease.epoch ∨ certified.logHead.sequence < record.sequence then false
  else
    match ns.getEpoch state.lease.epoch with
    | none => false
    | some row =>
      match row.takeover with
      | none => false
      | some takeover =>
        let granted := takeover.supersededState
        row.writerPublicKey = state.lease.writerPublicKey ∧ sameLease granted certified ∧
          (granted.logHead = state.logHead ∨ state.logHead.recordEpoch = certified.lease.epoch)

def namedHeadProblem (head named : LogHead) : Option Refusal :=
  if head.sequence < named.sequence then none
  else if named.sequence < head.sequence then headOffLog ns named
  else if named ≠ head then some ⟨.errConflict, "certified head conflicts with the relayed record"⟩
  else none

def extendGrant (record : Record Sig) (bundle : TakeoverBundle) (clock : Nat → Nat) : Option (Outcome Sig) :=
  if grantExtends ns record bundle = false then none
  else if guardian.writerVerifies record bundle.certified.lease.writerPublicKey = false then
    some badRecordSignature
  else
    some (extending ns.state record
      (match bundle.heads.findSome? (namedHeadProblem ns (guardian.recordRow record).head) with
      | some refusal => refused refusal.status refusal.detail
      | none =>
        orInternal (guardian.storeRecord ns record (clock 0)) fun written =>
          ({ status := .ok, receipt := some (guardian.storedReceipt written) }, some written)))

/-- A record at an occupied sequence: a replay, a conflict, or one of another epoch that is judged as any. -/
def occupiedSlot (record : Record Sig) (plan : Option (RetainPlan Sig)) (clock : Nat → Nat) : Option (Outcome Sig) :=
  let state := ns.state
  let sequence := record.sequence
  if state.logHead = genesisLogHead ∨ sequence < state.origin.firstSequence ∨ state.logHead.sequence < sequence then
    none
  else
    match ns.getRecord sequence with
    | none => some (refused .errInternal s!"stored log is missing sequence {sequence} inside its own range")
    | some stored =>
      if stored.epoch = record.epoch ∧ stored.previousHash = record.previousHash ∧
          stored.frameHash = record.frameHash ∧ stored.ciphertextHash = guardian.sha256 record.ciphertext ∧
          stored.ciphertext = record.ciphertext then
        match ns.getEpoch stored.epoch with
        | none => some (refused .errInternal "stored record references an unknown epoch")
        | some row =>
          if guardian.writerVerifies record row.writerPublicKey = false then some badRecordSignature
          else
            some ({ status := .okDuplicate, receipt := some (guardian.storedReceipt ns) },
              plan.map fun plan => guardian.applyRetainFloor ns plan (clock 0))
      else if stored.epoch = record.epoch then
        some (refused .errConflict
          "a different record occupies this (epoch, sequence); crash-fault model breach")
      else none

def acceptRecord (record : Record Sig) (bundle : Option TakeoverBundle)
    (plan : Option (RetainPlan Sig)) (clock : Nat → Nat) : Outcome Sig :=
  let state := ns.state
  if record.epoch ≠ state.lease.epoch then
    let extended :=
      if record.epoch < state.lease.epoch then
        bundle.bind fun bundle => guardian.extendGrant ns record bundle clock
      else none
    match extended with
    | some outcome => outcome
    | none =>
      refused .errEpochSuperseded
        (if record.epoch < state.lease.epoch then "record epoch is fenced"
        else "record epoch is ahead of the lease; repair the guardian with SYNC_EPOCH first") (some state)
  else if guardian.writerVerifies record state.lease.writerPublicKey = false then badRecordSignature
  else
    extending state record
      (orInternal (guardian.storeRecord ns record (clock 0)) fun written =>
        ({ status := .ok, receipt := some (guardian.storedReceipt written) },
          some ((plan.map fun plan => guardian.applyRetainFloor written plan (clock 1)).getD written)))

def appendBody (isSync : Bool) (retainFloor : Option (RetainFloor Sig))
    (bundle : Option TakeoverBundle) (clock : Nat → Nat) : Option (Namespace Sig) → Outcome Sig
  | none => refused .errUnknownNode "recovery_id not registered"
  | some ns =>
    match (retainFloor.map (guardian.retainPlan ns record)).getD (.ok none) with
    | .error refusal => refused refusal.status refusal.detail
    | .ok plan =>
      let state := ns.state
      let retainedFrom := ns.retainedFrom
      let next := state.logHead.sequence + 1
      if isSync = false ∧ ns.possiblyStale then
        refused .errStoreUncertain "store is possibly stale; repair through SYNC verbs and quorum evidence"
      else if state.origin.firstSequence ≤ record.sequence ∧ record.sequence < retainedFrom then
        refused .errSequenceGap (s!"records below {retainedFrom} were freed at the writer's retain floor; " ++
          s!"expected sequence {next}") (some state)
      else
        match guardian.occupiedSlot ns record plan clock with
        | some outcome => outcome
        | none => guardian.acceptRecord ns record bundle plan clock

def putState (store : Store Sig) (record : Record Sig) (retainFloor : Option (RetainFloor Sig))
    (clock : Nat → Nat) : Reply Sig × Store Sig :=
  match guardian.recordProblem record retainFloor with
  | some refusal => (refusal.reply, store)
  | none => guardian.fencedWrite store (.putState record retainFloor) record.recoveryId
      (guardian.appendBody record false retainFloor none clock)

def relayedBundle (certs : List (TakeoverCertificate Sig)) : Except Refusal (Option TakeoverBundle) :=
  if certs = [] then .ok none
  else
    match guardian.takeoverBundle certs with
    | .error refusal => .error refusal
    | .ok bundle =>
      if bundle.certified.recoveryId ≠ record.recoveryId then
        .error ⟨.errCertMismatch, "certificates belong to a different recovery_id"⟩
      else .ok (some bundle)

def syncRecord (store : Store Sig) (record : Record Sig) (certs : List (TakeoverCertificate Sig))
    (clock : Nat → Nat) : Reply Sig × Store Sig :=
  match guardian.recordProblem record none with
  | some refusal => (refusal.reply, store)
  | none =>
    match guardian.relayedBundle record certs with
    | .error refusal => (refusal.reply, store)
    | .ok bundle => guardian.fencedWrite store (.syncRecord record certs) record.recoveryId
        (guardian.appendBody record true none bundle clock)

end Append

section Epochs

variable (request : AcquireEpoch Sig) (ns : Namespace Sig) (bundle : TakeoverBundle) (clock : Nat → Nat)

def acquireProblem : Option Refusal :=
  let expected := request.expectedState
  let transcript := .acquire guardian.guardianSetId expected request.newEpoch request.newWriterPublicKey
  firstRefusal [
    guardian.versionAndSetProblem request.protocolVersion request.guardianSetId,
    malformed (stateShapeProblem expected),
    refuseIf (guardian.isXOnlyPoint request.newWriterPublicKey = false)
      ⟨.errMalformed, "new writer public key is not a valid x-only point"⟩,
    refuseIf (u64Max < request.newEpoch ∨ request.newEpoch ≠ expected.lease.epoch + 1)
      ⟨.errMalformed, "newEpoch must equal expectedState.lease.epoch + 1"⟩,
    refuseIf (guardian.verifyTranscript transcript request.rootSignature expected.recoveryId = false)
      ⟨.errBadSignature, "root signature over the ACQUIRE transcript failed"⟩,
    refuseIf (guardian.verifyTranscript transcript request.newWriterSignature request.newWriterPublicKey = false)
      ⟨.errBadSignature, "new writer signature over the ACQUIRE transcript failed"⟩]

def grant (superseded : GuardianState) (newEpoch : Nat) (newWriterPublicKey : Bytes32)
    (certIssuedAt receiptIssuedAt : Nat) : Outcome Sig :=
  let row := guardian.takeoverRow superseded newEpoch newWriterPublicKey certIssuedAt receiptIssuedAt
  let newState := { superseded with lease := ⟨newEpoch, newWriterPublicKey⟩ }
  orInternal (ns.insertEpoch row) fun inserted =>
    let written := inserted.updateState newState receiptIssuedAt (guardian.signReceipt newState receiptIssuedAt)
    ({ status := .ok
       certificate := guardian.certificateFromEpochRow row
       receipt := some (guardian.storedReceipt written) }, some written)

/-- An acquisition that is stored already is answered from its row, and another key finds the epoch taken. -/
def heldAcquisition (request : AcquireEpoch Sig) : Option (Outcome Sig) :=
  (ns.getEpoch request.newEpoch).bind fun row =>
    if row.writerPublicKey ≠ request.newWriterPublicKey then
      some (refused .errEpochSuperseded "this epoch is bound to a different writer key; first writer wins"
        (some ns.state) (guardian.listCertificates ns))
    else
      row.takeover.bind fun takeover =>
        if takeover.supersededState = request.expectedState then
          some ({ status := .okDuplicate
                  certificate := guardian.certificateFromEpochRow row
                  receipt := some (guardian.toReceipt takeover.receiptState takeover.receiptIssuedAt
                    takeover.receiptSignature) }, none)
        else none

def acquireBody : Option (Namespace Sig) → Outcome Sig
  | none => refused .errUnknownNode "recovery_id not registered"
  | some ns =>
    if ns.possiblyStale then
      refused .errStoreUncertain "store is possibly stale; repair through SYNC verbs and quorum evidence"
    else
      match guardian.heldAcquisition ns request with
      | some outcome => outcome
      | none =>
        if request.expectedState ≠ ns.state then
          refused .errCasFailed "expectedState does not match the stored state byte-exactly" (some ns.state)
            (guardian.listCertificates ns)
        else guardian.grant ns ns.state request.newEpoch request.newWriterPublicKey (clock 0) (clock 1)

def acquireEpoch (store : Store Sig) (request : AcquireEpoch Sig) (clock : Nat → Nat) : Reply Sig × Store Sig :=
  match guardian.acquireProblem request with
  | some refusal => (refusal.reply, store)
  | none => guardian.fencedWrite store (.acquireEpoch request) request.expectedState.recoveryId
      (guardian.acquireBody request clock)

def adoptionProblem : Option Refusal :=
  let certified := bundle.certified
  firstRefusal [
    refuseIf (ns.state.origin ≠ certified.origin)
      ⟨.errConflict, "certified origin conflicts with the root-committed origin"⟩,
    refuseIf (certified.lease.epoch < ns.state.lease.epoch)
      ⟨.errEpochRegression, "bundle is older than the local lease"⟩,
    refuseIf (ns.state.lease.epoch = certified.lease.epoch ∧
        ns.state.lease.writerPublicKey ≠ certified.lease.writerPublicKey)
      ⟨.errConflict, "certified lease conflicts with the local lease at the same epoch"⟩,
    refuseIf (ns.state.logHead.sequence < certified.logHead.sequence)
      ⟨.errHeadUnknown, "local log is behind the certified head; repair with SYNC_RECORD first"⟩,
    bundle.heads.findSome? (headOffLog ns)]

def syncEpochBody : Option (Namespace Sig) → Outcome Sig
  | none => refused .errUnknownNode "recovery_id not registered"
  | some ns =>
    match adoptionProblem ns bundle with
    | some refusal => refused refusal.status refusal.detail
    | none =>
      guardian.grant (ns.archiveRecordsAbove bundle.certified.logHead.sequence) bundle.certified bundle.newEpoch
        bundle.newWriterPublicKey (clock 1) (clock 2)

def syncEpoch (store : Store Sig) (certs : List (TakeoverCertificate Sig)) (clock : Nat → Nat) :
    Reply Sig × Store Sig :=
  match guardian.takeoverBundle certs with
  | .error refusal => (refusal.reply, store)
  | .ok bundle => guardian.fencedWrite store (.syncEpoch certs) bundle.certified.recoveryId
      (guardian.syncEpochBody bundle clock)

end Epochs

section Rotation

def rotateProblem (request : RotateSet Sig) : Option Refusal :=
  let generation := request.generation
  let members := request.newMembers
  let computed := guardian.computeGuardianSetId members
  firstRefusal [
    guardian.versionAndSetProblem request.protocolVersion request.guardianSetId,
    refuseIf (u64Max < generation ∨ generation = 0) ⟨.errMalformed, "generation must be a nonzero u64"⟩,
    refuseIf (members.length ≠ Primitives.crashTotal) ⟨.errMalformed, "new_members must list exactly 3 keys"⟩,
    match computed with
    | .error message => some ⟨.errMalformed, s!"new_members invalid: {message}"⟩
    | .ok setId => refuseIf (setId ≠ request.newGuardianSetId)
        ⟨.errMalformed, "new_members do not hash to new_guardian_set_id"⟩,
    refuseIf (request.newGuardianSetId = guardian.guardianSetId)
      ⟨.errMalformed, "a rotation must name a different incoming set"⟩,
    refuseIf (guardian.verifyTranscript (.rotate guardian.guardianSetId request.recoveryId
        request.newGuardianSetId generation (Primitives.sortedMembers members)) request.rootSignature
        request.recoveryId = false)
      ⟨.errBadSignature, "root signature over the ROTATE transcript failed"⟩]

def storedRotationAnswer (stored request : RotateSet Sig) [DecidableEq Sig] : Option (Reply Sig) :=
  let generation := stored.generation
  if stored = request then some { status := .okDuplicate, rotation := some stored }
  else if stored.generation = request.generation then
    some { status := .errConflict, detail := some "a different rotation is stored at this generation",
           rotation := some stored }
  else if request.generation < stored.generation then
    some { status := .errEpochRegression, detail := some s!"the stored rotation is at generation {generation}",
           rotation := some stored }
  else none

def rotateSet [DecidableEq Sig] (store : Store Sig) (request : RotateSet Sig) : Reply Sig × Store Sig :=
  match guardian.rotateProblem request with
  | some refusal => (refusal.reply, store)
  | none =>
    match store request.recoveryId with
    | none => (Refusal.reply ⟨.errUnknownNode, "recovery_id not registered"⟩, store)
    | some ns =>
      match guardian.admits store (.rotateSet request) with
      | some refusal => (refusal.reply, store)
      | none =>
        match ns.rotation.bind fun stored => storedRotationAnswer stored request with
        | some reply => (reply, store)
        | none =>
          let generation := request.generation
          let current := ns.generation
          if generation ≤ current then
            (Refusal.reply ⟨.errEpochRegression,
              s!"generation {generation} does not exceed the namespace's {current}"⟩, store)
          else
            let after := store.put request.recoveryId { ns with rotation := some request }
            match guardian.settles store after with
            | some refusal => (refusal.reply, store)
            | none => ({ status := .ok, rotation := some request }, after)

end Rotation

section Repair

variable (target : GuardianState) (request : RepairEvidence Sig)

def evidenceReceiptProblem (receipt : Receipt Sig) : Option Refusal :=
  firstRefusal [
    refuseIf (receipt.protocolVersion ≠ guardianProtocolVersion ∨ receipt.guardianSetId ≠ guardian.guardianSetId)
      ⟨.errCertMismatch, "receipt is not for this guardian set"⟩,
    refuseIf (receipt.guardianId ∉ guardian.members)
      ⟨.errCertMismatch, "receipt signer is not a member of the guardian set"⟩,
    malformed (stateShapeProblem receipt.state),
    refuseIf (u64Max < receipt.issuedAt) ⟨.errMalformed, "receipt fields malformed"⟩,
    refuseIf (receipt.state ≠ target) ⟨.errCertMismatch, "receipt does not cover the target state"⟩,
    refuseIf (guardian.verifyTranscript (.receipt guardian.guardianSetId receipt.guardianId receipt.state
        receipt.issuedAt) receipt.signature receipt.guardianId = false)
      ⟨.errBadSignature, "receipt signature failed"⟩]

def evidenceCertificateProblem (cert : TakeoverCertificate Sig) : Option Refusal :=
  firstRefusal [
    refuseIf (cert.protocolVersion ≠ guardianProtocolVersion ∨ cert.guardianSetId ≠ guardian.guardianSetId)
      ⟨.errCertMismatch, "certificate is not for this guardian set"⟩,
    refuseIf (cert.guardianId ∉ guardian.members)
      ⟨.errCertMismatch, "certificate signer is not a member of the guardian set"⟩,
    malformed (stateShapeProblem cert.supersededState),
    refuseIf (u64Max < cert.newEpoch ∨ u64Max < cert.issuedAt) ⟨.errMalformed, "certificate fields malformed"⟩,
    refuseIf (cert.postTakeoverState ≠ target) ⟨.errCertMismatch, "certificate does not fix the target state"⟩,
    refuseIf (guardian.certificateVerifies cert = false) ⟨.errBadSignature, "certificate signature failed"⟩]

def evidenceProblem : Option Refusal :=
  let target := request.target
  let signers := (request.receipts.map Receipt.guardianId ++
    request.certificates.map TakeoverCertificate.guardianId).dedup
  let count := signers.length
  firstRefusal [
    malformed (stateShapeProblem target),
    refuseIf (target.recoveryId ≠ request.recoveryId)
      ⟨.errMalformed, "target state belongs to a different recovery_id"⟩,
    request.receipts.findSome? (guardian.evidenceReceiptProblem target),
    request.certificates.findSome? (guardian.evidenceCertificateProblem target),
    refuseIf (count < Primitives.crashRequired)
      ⟨.errInsufficientCerts, s!"quorum evidence requires 2 distinct guardians; got {count}"⟩]

def repairBody : Option (Namespace Sig) → Outcome Sig
  | none => refused .errUnknownNode "recovery_id not registered"
  | some ns =>
    let target := request.target
    let current := some ns.state
    if ns.possiblyStale = false then ({ status := .ok, detail := some "store was not stale" }, none)
    else if ns.state ≠ target then
      refused .errCasFailed "replayed state does not match the quorum target; continue SYNC repair" current
    else
      match ns.erasedEpoch with
      | some erased =>
        if target.lease.epoch < erased then
          refused .errEpochRegression (s!"a rollback discarded epoch {erased}, which this guardian may have " ++
            "granted; continue SYNC repair up to it") current
        else ({ status := .ok }, some { ns with possiblyStale := false })
      | none => ({ status := .ok }, some { ns with possiblyStale := false })

def submitRepairEvidence (store : Store Sig) (request : RepairEvidence Sig) : Reply Sig × Store Sig :=
  match guardian.evidenceProblem request with
  | some refusal => (refusal.reply, store)
  | none => guardian.fencedWrite store (.submitRepairEvidence request) request.recoveryId
      (repairBody request)

end Repair

def serve [DecidableEq Sig] (store : Store Sig) (request : Request Sig) (clock : Nat → Nat) : Reply Sig × Store Sig :=
  match request with
  | .register request => guardian.register store request clock
  | .putState record retainFloor => guardian.putState store record retainFloor clock
  | .syncRecord record certs => guardian.syncRecord store record certs clock
  | .acquireEpoch request => guardian.acquireEpoch store request clock
  | .syncEpoch certs => guardian.syncEpoch store certs clock
  | .rotateSet request => guardian.rotateSet store request
  | .submitRepairEvidence request => guardian.submitRepairEvidence store request

end Guardian

end Beignet.Recovery
