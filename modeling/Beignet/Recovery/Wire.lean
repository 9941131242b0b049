import Beignet.Data.Basic

namespace Beignet.Recovery

open Beignet.Data

abbrev Bytes32 := BitVec 256

def guardianProtocolVersion : Nat := 1

section States

structure WriterLease where
  epoch : Nat
  writerPublicKey : Bytes32
  deriving DecidableEq, Repr

structure ChainOrigin where
  firstSequence : Nat
  previousHash : Bytes32
  deriving DecidableEq, Repr

structure LogHead where
  sequence : Nat
  frameHash : Bytes32
  ciphertextHash : Bytes32
  recordEpoch : Nat
  deriving DecidableEq, Repr

/-- The state that a guardian signs. Its canonical bytes are those of its fields, so that two states are equal
    byte by byte exactly when they are equal. -/
structure GuardianState where
  recoveryId : Bytes32
  lease : WriterLease
  origin : ChainOrigin
  logHead : LogHead
  deriving DecidableEq, Repr

def genesisLogHead : LogHead := ⟨0, 0, 0, 0⟩

def sameLease (a b : GuardianState) : Bool := { a with logHead := b.logHead } = b

namespace GuardianState

variable (state : GuardianState)

def expectedSequence : Nat :=
  if state.logHead = genesisLogHead then state.origin.firstSequence else state.logHead.sequence + 1

def expectedPrevious : Bytes32 :=
  if state.logHead = genesisLogHead then state.origin.previousHash else state.logHead.frameHash

end GuardianState

def u64Max : Nat := 0xffffffffffffffff

def stateShapeProblem (state : GuardianState) : Option String :=
  firstRefusal [
    refuseIf (u64Max < state.lease.epoch ∨ state.lease.epoch = 0) "lease epoch must be a nonzero u64",
    refuseIf (u64Max < state.origin.firstSequence ∨ state.origin.firstSequence = 0)
      "origin firstSequence must be a nonzero u64",
    refuseIf (u64Max < state.logHead.sequence ∨ u64Max < state.logHead.recordEpoch)
      "log head integers must be u64"]

end States

/-- What is signed. A transcript is hashed under a tag of its own kind, with the guardian set in front. -/
inductive Transcript
  | register (guardianSetId : Bytes32) (initialState : GuardianState) (generation : Nat)
  | rotate (outgoingSetId recoveryId newGuardianSetId : Bytes32) (generation : Nat) (newMembers : List Bytes32)
  | record (guardianSetId recoveryId : Bytes32) (epoch sequence : Nat)
      (previousHash frameHash ciphertextHash : Bytes32)
  | retain (guardianSetId recoveryId : Bytes32) (epoch sequence : Nat) (frameHash : Bytes32)
  | receipt (guardianSetId guardianId : Bytes32) (state : GuardianState) (issuedAt : Nat)
  | acquire (guardianSetId : Bytes32) (expectedState : GuardianState) (newEpoch : Nat)
      (newWriterPublicKey : Bytes32)
  | takeover (guardianSetId guardianId : Bytes32) (supersededState : GuardianState) (newEpoch : Nat)
      (newWriterPublicKey : Bytes32) (issuedAt : Nat)
  deriving DecidableEq, Repr

section Objects

variable (Sig : Type)

structure Receipt where
  protocolVersion : Nat
  guardianSetId : Bytes32
  guardianId : Bytes32
  state : GuardianState
  issuedAt : Nat
  signature : Sig
  deriving DecidableEq, Repr

structure TakeoverCertificate where
  protocolVersion : Nat
  guardianSetId : Bytes32
  guardianId : Bytes32
  supersededState : GuardianState
  newEpoch : Nat
  newWriterPublicKey : Bytes32
  issuedAt : Nat
  signature : Sig
  deriving DecidableEq, Repr

structure Record where
  protocolVersion : Nat
  guardianSetId : Bytes32
  recoveryId : Bytes32
  epoch : Nat
  sequence : Nat
  previousHash : Bytes32
  frameHash : Bytes32
  ciphertext : Bytes
  writerSignature : Sig
  deriving DecidableEq, Repr

structure RetainFloor where
  sequence : Nat
  frameHash : Bytes32
  writerSignature : Sig
  deriving DecidableEq, Repr

structure RegisterNode where
  protocolVersion : Nat
  guardianSetId : Bytes32
  guardianMembers : List Bytes32
  initialState : GuardianState
  rootSignature : Sig
  generation : Nat

structure RotateSet where
  protocolVersion : Nat
  guardianSetId : Bytes32
  recoveryId : Bytes32
  newGuardianSetId : Bytes32
  generation : Nat
  newMembers : List Bytes32
  rootSignature : Sig
  newTransports : List (String × String)
  deriving DecidableEq, Repr

structure AcquireEpoch where
  protocolVersion : Nat
  guardianSetId : Bytes32
  expectedState : GuardianState
  newEpoch : Nat
  newWriterPublicKey : Bytes32
  rootSignature : Sig
  newWriterSignature : Sig

structure RepairEvidence where
  recoveryId : Bytes32
  target : GuardianState
  receipts : List (Receipt Sig)
  certificates : List (TakeoverCertificate Sig)

inductive Request
  | register (request : RegisterNode Sig)
  | putState (record : Record Sig) (retainFloor : Option (RetainFloor Sig))
  | syncRecord (record : Record Sig) (certificates : List (TakeoverCertificate Sig))
  | acquireEpoch (request : AcquireEpoch Sig)
  | syncEpoch (certificates : List (TakeoverCertificate Sig))
  | rotateSet (request : RotateSet Sig)
  | submitRepairEvidence (request : RepairEvidence Sig)

end Objects

variable {Sig : Type}

def TakeoverCertificate.postTakeoverState (cert : TakeoverCertificate Sig) : GuardianState :=
  { cert.supersededState with lease := ⟨cert.newEpoch, cert.newWriterPublicKey⟩ }

/-- What the libraries compute. `setHash` is the tagged hash over the profile and the sorted members. -/
structure Primitives (Sig : Type) where
  sha256 : Bytes → Bytes32
  isXOnlyPoint : Bytes32 → Bool
  setHash : List Bytes32 → Bytes32
  verifyTranscript : Transcript → Sig → Bytes32 → Bool

namespace Primitives

variable (prim : Primitives Sig) (members : List Bytes32)

def crashTotal : Nat := 3

def crashRequired : Nat := 2

def sortedMembers : List Bytes32 := members.insertionSort fun a b => a.toNat ≤ b.toNat

def computeGuardianSetId : Except String Bytes32 :=
  let count := members.length
  if count ≠ crashTotal then .error s!"guardian set carries {count} members, profile requires 3"
  else if members.any fun member => prim.isXOnlyPoint member = false then
    .error "guardianId is not a valid x-only secp256k1 point"
  else if ¬ members.Nodup then .error "guardian set members must be distinct"
  else .ok (prim.setHash (sortedMembers members))

def recordTranscript (guardianSetId : Bytes32) (record : Record Sig) : Transcript :=
  .record guardianSetId record.recoveryId record.epoch record.sequence record.previousHash record.frameHash
    (prim.sha256 record.ciphertext)

/-- Whether a rotation proves itself to one who knows the set, the namespace and its generation. -/
def rotationEvidenceProblem (rotation : RotateSet Sig) (guardianSetId recoveryId : Bytes32) (generation : Nat) :
    Option String :=
  if rotation.guardianSetId ≠ guardianSetId then some "rotation is bound to another guardian set"
  else if rotation.recoveryId ≠ recoveryId then some "rotation is bound to another recovery_id"
  else if rotation.newMembers.length ≠ crashTotal then some "rotation new_members malformed"
  else
    match prim.computeGuardianSetId rotation.newMembers with
    | .error _ => some "rotation new_members invalid"
    | .ok computed =>
      if computed ≠ rotation.newGuardianSetId then some "rotation new_members do not hash to new_guardian_set_id"
      else if rotation.newGuardianSetId = guardianSetId then some "rotation names this set as the incoming set"
      else if u64Max < rotation.generation ∨ rotation.generation ≤ generation then
        some "rotation generation does not exceed the namespace generation"
      else if prim.verifyTranscript (.rotate guardianSetId rotation.recoveryId rotation.newGuardianSetId
          rotation.generation (sortedMembers rotation.newMembers)) rotation.rootSignature recoveryId then none
      else some "rotation root signature failed"

end Primitives

end Beignet.Recovery
