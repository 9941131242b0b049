import Beignet.Recovery.Wire

namespace Beignet.Recovery

open Beignet.Data

section Rows

variable (Sig : Type)

structure RecordRow where
  sequence : Nat
  epoch : Nat
  previousHash : Bytes32
  frameHash : Bytes32
  ciphertextHash : Bytes32
  ciphertext : Bytes
  writerSignature : Sig
  deriving DecidableEq, Repr

structure TakeoverArtifacts where
  supersededState : GuardianState
  certIssuedAt : Nat
  certSignature : Sig
  receiptState : GuardianState
  receiptIssuedAt : Nat
  receiptSignature : Sig
  deriving DecidableEq, Repr

structure EpochRow where
  epoch : Nat
  writerPublicKey : Bytes32
  takeover : Option (TakeoverArtifacts Sig)
  deriving DecidableEq, Repr

/-- Where the stored records begin: the state just before the first kept record, signed by the guardian, and the
    writer's floor. -/
structure RetainFloorRow where
  state : GuardianState
  issuedAt : Nat
  signature : Sig
  frameHash : Bytes32
  writerSignature : Sig
  deriving DecidableEq, Repr

structure Namespace where
  state : GuardianState
  possiblyStale : Bool
  registrationState : GuardianState
  registrationSignature : Sig
  registrationReceiptIssuedAt : Nat
  registrationReceiptSignature : Sig
  receiptIssuedAt : Nat
  receiptSignature : Sig
  generation : Nat
  rotation : Option (RotateSet Sig)
  erasedEpoch : Option Nat
  records : List (RecordRow Sig)
  epochs : List (EpochRow Sig)
  retainFloor : Option (RetainFloorRow Sig)
  deriving DecidableEq, Repr

end Rows

variable {Sig : Type}

abbrev Store (Sig : Type) := Bytes32 → Option (Namespace Sig)

def Store.empty : Store Sig := fun _ => none

def Store.put (store : Store Sig) (recoveryId : Bytes32) (ns : Namespace Sig) : Store Sig :=
  Function.update store recoveryId (some ns)

def RecordRow.head (row : RecordRow Sig) : LogHead :=
  ⟨row.sequence, row.frameHash, row.ciphertextHash, row.epoch⟩

def EpochRow.grantedHead (row : EpochRow Sig) : LogHead :=
  (row.takeover.map fun takeover => takeover.supersededState.logHead).getD genesisLogHead

section Sorted

variable {Row : Type} {key : Row → Nat} {rows : List Row} {row : Row}

theorem find?_eq_of_mem (sorted : rows.Pairwise fun a b => key a < key b) (member : row ∈ rows) :
    (rows.find? fun other => key other = key row) = some row := by
  induction rows with
  | nil => exact absurd member (by simp)
  | cons first rest ih =>
    obtain ⟨least, sorted⟩ := List.pairwise_cons.mp sorted
    rcases List.mem_cons.mp member with rfl | member
    · exact List.find?_cons_of_pos (by simp)
    · have := least row member
      rw [List.find?_cons_of_neg (by simp only [decide_eq_true_eq]; omega)]
      exact ih sorted member

theorem orderedInsert_eq_append (above : ∀ other ∈ rows, key other < key row) :
    rows.orderedInsert (fun a b => key a ≤ key b) row = rows ++ [row] := by
  induction rows with
  | nil => rfl
  | cons first rest ih =>
    have lt := above first List.mem_cons_self
    rw [List.orderedInsert, if_neg (by omega), ih fun other member => above other (List.mem_cons_of_mem _ member)]
    rfl

theorem find?_eq_none_of_above (above : ∀ other ∈ rows, key other < key row) :
    (rows.find? fun other => key other = key row) = none := by
  rw [List.find?_eq_none]
  intro other member
  have := above other member
  simp only [decide_eq_true_eq]
  omega

end Sorted

namespace Namespace

variable (ns : Namespace Sig)

section Records

def getRecord (sequence : Nat) : Option (RecordRow Sig) := ns.records.find? fun row => row.sequence = sequence

/-- Rows are read in the order of their sequences. A second row of one sequence is refused by the table. -/
def insertRecord (row : RecordRow Sig) : Except String (Namespace Sig) :=
  if (ns.getRecord row.sequence).isSome then
    .error "UNIQUE constraint failed: guardian_records.recovery_id, guardian_records.sequence"
  else .ok { ns with records := ns.records.orderedInsert (fun a b => a.sequence ≤ b.sequence) row }

theorem insertRecord_last {row : RecordRow Sig} (above : ∀ other ∈ ns.records, other.sequence < row.sequence) :
    ns.insertRecord row = .ok { ns with records := ns.records ++ [row] } := by
  rw [insertRecord, getRecord, find?_eq_none_of_above above, orderedInsert_eq_append above]
  rfl

def archiveRecordsAbove (sequenceExclusive : Nat) : Namespace Sig :=
  { ns with records := ns.records.filter fun row => row.sequence ≤ sequenceExclusive }

def deleteRecordsBelow (sequenceExclusive : Nat) : Namespace Sig :=
  { ns with records := ns.records.filter fun row => sequenceExclusive ≤ row.sequence }

end Records

section Epochs

def getEpoch (epoch : Nat) : Option (EpochRow Sig) := ns.epochs.find? fun row => row.epoch = epoch

def insertEpoch (row : EpochRow Sig) : Except String (Namespace Sig) :=
  if (ns.getEpoch row.epoch).isSome then
    .error "UNIQUE constraint failed: guardian_epochs.recovery_id, guardian_epochs.epoch"
  else .ok { ns with epochs := ns.epochs.orderedInsert (fun a b => a.epoch ≤ b.epoch) row }

theorem insertEpoch_last {row : EpochRow Sig} (above : ∀ other ∈ ns.epochs, other.epoch < row.epoch) :
    ns.insertEpoch row = .ok { ns with epochs := ns.epochs ++ [row] } := by
  rw [insertEpoch, getEpoch, find?_eq_none_of_above above, orderedInsert_eq_append above]
  rfl

end Epochs

def retainedFrom : Nat :=
  match ns.retainFloor with
  | some floor => floor.state.logHead.sequence + 1
  | none => ns.state.origin.firstSequence

def updateState (state : GuardianState) (issuedAt : Nat) (signature : Sig) : Namespace Sig :=
  { ns with state := state, receiptIssuedAt := issuedAt, receiptSignature := signature }

end Namespace

end Beignet.Recovery
