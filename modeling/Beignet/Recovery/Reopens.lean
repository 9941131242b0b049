import Beignet.Recovery.Keeps
import Beignet.Data.Machine

namespace Beignet.Recovery

open Beignet.Data

variable {Sig : Type}

namespace Guardian

variable (guardian : Guardian Sig) (store : Store Sig)

/-- Every namespace is opened as it was left: nothing is rolled back, tombstoned or marked stale, and the replay
    ends in the stored state. -/
def Reopens : Prop :=
  ∀ recoveryId ns, store recoveryId = some ns →
    guardian.verifyNamespaceAtOpen ns recoveryId = .intact ∧ ns.possiblyStale = false ∧
      guardian.replay ns recoveryId ns.registrationState (some ns.state) = .ok (ns.state, false)

/-- No adopted bundle certifies a head below a stored grant or a stored floor, and no grant is extended by records
    of an epoch that was skipped. -/
def Replayable : Request Sig → Prop
  | .syncEpoch certs =>
    ∀ bundle ∈ (guardian.takeoverBundle certs).toOption, ∀ ns ∈ store bundle.certified.recoveryId,
      adoptionProblem ns bundle = none →
        (∀ row ∈ ns.epochs, row.grantedHead.sequence ≤ bundle.certified.logHead.sequence) ∧
        ∀ floor ∈ ns.retainFloor, floor.state.logHead.sequence ≤ bundle.certified.logHead.sequence
  | .syncRecord record certs =>
    ∀ bundle ∈ (guardian.relayedBundle record certs).toOption.join, ∀ ns ∈ store record.recoveryId,
      grantExtends ns record bundle = true → (ns.getEpoch record.epoch).isSome
  | _ => True

instance (store : Store Sig) (request : Request Sig) : Decidable (guardian.Replayable store request) := by
  cases request <;> unfold Replayable <;> infer_instance

def AllIntact : Prop :=
  ∀ recoveryId ns, store recoveryId = some ns → guardian.Intact recoveryId ns

variable {guardian} {store : Store Sig}

theorem AllIntact.reopens (all : guardian.AllIntact store) : guardian.Reopens store := by
  intro recoveryId ns stored
  have intact := all recoveryId ns stored
  exact ⟨intact.opens, intact.current, intact.replay⟩

theorem AllIntact.put (all : guardian.AllIntact store) {recoveryId : Bytes32} {ns : Namespace Sig}
    (intact : guardian.Intact recoveryId ns) : guardian.AllIntact (store.put recoveryId ns) := by
  intro other stored found
  by_cases same : other = recoveryId
  · subst same
    rw [Store.put, Function.update_self] at found
    exact Option.some.inj found ▸ intact
  · rw [Store.put, Function.update_of_ne same] at found
    exact all other stored found

section Verbs

theorem AllIntact.fencedWrite (all : guardian.AllIntact store) {request : Request Sig} {recoveryId : Bytes32}
    {body : Option (Namespace Sig) → Outcome Sig}
    (keeps : ∀ reply written, body (store recoveryId) = (reply, some written) → guardian.Intact recoveryId written) :
    guardian.AllIntact (guardian.fencedWrite store request recoveryId body).2 := by
  unfold Guardian.fencedWrite
  split
  · exact all
  split
  · exact all
  split
  · exact all
  rename_i reply written wrote
  dsimp only
  split
  · exact all
  exact all.put (keeps reply written wrote)

theorem registered_intact {request : RegisterNode Sig} {clock : Nat → Nat} {reply : Reply Sig}
    {written : Namespace Sig} (admitted : guardian.registrationAdmissionProblem request = none)
    (out : guardian.registerBody request clock none = (reply, some written)) :
    guardian.Intact request.initialState.recoveryId written := by
  simp only [registrationAdmissionProblem, firstRefusal_eq_none, List.forall_mem_singleton,
    List.forall_mem_cons, refuseIf_eq_none] at admitted
  obtain ⟨-, -, shape, -, -, genesis, -, -, signed⟩ := admitted
  simp only [malformed, Option.map_eq_none_iff, stateShapeProblem, firstRefusal_eq_none,
    List.forall_mem_singleton, List.forall_mem_cons, refuseIf_eq_none, not_or] at shape
  obtain ⟨⟨-, epoch⟩, ⟨-, sequence⟩, -⟩ := shape
  unfold registerBody at out
  cases out
  exact
    { identity := rfl
      epochs := Nat.pos_of_ne_zero epoch
      starts := Nat.pos_of_ne_zero sequence
      genesis := not_not.mp genesis
      registered := by simpa using signed
      registrationReceipt := receiptVerifies_signReceipt _ _
      receipt := receiptVerifies_signReceipt _ _
      current := rfl
      rotated := by simp
      takeovers := ⟨[], rfl, by simp⟩
      sorted := List.pairwise_singleton _ _
      leased := ⟨_, List.mem_singleton_self _, rfl, rfl⟩
      latest := by simp
      floor := by simp
      walks := by
        rw [show Namespace.replayed _ = [] from by simp [Namespace.replayed, Namespace.base]]
        exact .stop _ }

theorem AllIntact.register (all : guardian.AllIntact store) (request : RegisterNode Sig) (clock : Nat → Nat) :
    guardian.AllIntact (guardian.register store request clock).2 := by
  unfold Guardian.register
  split
  · exact all
  · rename_i admitted
    apply all.fencedWrite
    intro reply written out
    cases stored : store request.initialState.recoveryId with
    | none =>
      rw [stored] at out
      exact registered_intact admitted out
    | some ns =>
      rw [stored, registerBody] at out
      split at out <;> cases out

theorem recordProblem_floor {record : Record Sig} {retainFloor : Option (RetainFloor Sig)}
    (admitted : guardian.recordProblem record retainFloor = none) :
    ∀ floor ∈ retainFloor, floor.sequence ≤ u64Max ∧ floor.sequence ≠ 0 := by
  intro floor carried
  simp only [recordProblem, firstRefusal_eq_none, List.forall_mem_singleton, List.forall_mem_cons,
    refuseIf_eq_none] at admitted
  obtain ⟨-, -, -, -, -, shape⟩ := admitted
  rw [show retainFloor = some floor from carried] at shape
  simpa using shape

section

variable (all : guardian.AllIntact store)
include all

theorem AllIntact.putState (record : Record Sig) (retainFloor : Option (RetainFloor Sig)) (clock : Nat → Nat) :
    guardian.AllIntact (guardian.putState store record retainFloor clock).2 := by
  unfold Guardian.putState
  split
  · exact all
  · rename_i admitted
    apply all.fencedWrite
    intro reply written out
    cases stored : store record.recoveryId with
    | none =>
      rw [stored] at out
      cases out
    | some ns =>
      rw [stored] at out
      exact (all _ ns stored).appendBody rfl (by simp) (recordProblem_floor admitted) out

variable {certs : List (TakeoverCertificate Sig)} {clock : Nat → Nat}

theorem AllIntact.syncRecord {record : Record Sig} (meets : guardian.Replayable store (.syncRecord record certs)) :
    guardian.AllIntact (guardian.syncRecord store record certs clock).2 := by
  unfold Guardian.syncRecord
  split
  · exact all
  split
  · exact all
  rename_i bundle relayed
  apply all.fencedWrite
  intro reply written out
  cases stored : store record.recoveryId with
  | none =>
    rw [stored] at out
    cases out
  | some ns =>
    rw [stored] at out
    refine (all _ ns stored).appendBody rfl ?_ (by simp) out
    intro taken carried
    apply meets taken _ ns stored
    rw [relayed, show bundle = some taken from carried]
    rfl

theorem AllIntact.acquireEpoch (request : AcquireEpoch Sig)
    (clock : Nat → Nat) : guardian.AllIntact (guardian.acquireEpoch store request clock).2 := by
  unfold Guardian.acquireEpoch
  split
  · exact all
  · rename_i admitted
    simp only [acquireProblem, firstRefusal_eq_none, List.forall_mem_singleton, List.forall_mem_cons,
      refuseIf_eq_none, not_or, not_not] at admitted
    obtain ⟨-, -, -, ⟨-, follows⟩, -⟩ := admitted
    apply all.fencedWrite
    intro reply written out
    cases stored : store request.expectedState.recoveryId with
    | none =>
      rw [stored] at out
      cases out
    | some ns =>
      rw [stored] at out
      exact (all _ ns stored).acquireBody follows out

theorem AllIntact.syncEpoch (meets : guardian.Replayable store (.syncEpoch certs)) :
    guardian.AllIntact (guardian.syncEpoch store certs clock).2 := by
  unfold Guardian.syncEpoch
  split
  · exact all
  · rename_i bundle accepted
    apply all.fencedWrite
    intro reply written out
    cases stored : store bundle.certified.recoveryId with
    | none =>
      rw [stored] at out
      cases out
    | some ns =>
      rw [stored] at out
      exact (all _ ns stored).syncEpochBody accepted rfl (meets bundle (accepted ▸ rfl) ns stored) out

end

theorem rotationEvidenceProblem_of_accepted {request : RotateSet Sig} {generation : Nat}
    (admitted : guardian.rotateProblem request = none) (later : generation < request.generation) :
    guardian.rotationEvidenceProblem request guardian.guardianSetId request.recoveryId generation = none := by
  simp only [rotateProblem, firstRefusal_eq_none, List.forall_mem_singleton, List.forall_mem_cons,
    refuseIf_eq_none, not_not, not_or, not_lt, Bool.not_eq_false] at admitted
  obtain ⟨set, ⟨bounded, -⟩, members, computed, other, signed⟩ := admitted
  simp only [versionAndSetProblem, firstRefusal_eq_none, List.forall_mem_singleton, List.forall_mem_cons,
    refuseIf_eq_none, not_not] at set
  unfold Primitives.rotationEvidenceProblem
  rw [if_neg (not_not.mpr set.2), if_neg (not_not.mpr rfl), if_neg (not_not.mpr members)]
  cases hashed : guardian.computeGuardianSetId request.newMembers with
  | error message =>
    rw [hashed] at computed
    cases computed
  | ok setId =>
    rw [hashed] at computed
    simp only [refuseIf_eq_none, not_not] at computed
    dsimp only
    rw [if_neg (not_not.mpr computed), if_neg other, if_neg (by omega), if_pos signed]

theorem AllIntact.rotateSet [DecidableEq Sig] (all : guardian.AllIntact store) (request : RotateSet Sig) :
    guardian.AllIntact (guardian.rotateSet store request).2 := by
  unfold Guardian.rotateSet
  split
  · exact all
  rename_i admitted
  split
  · exact all
  rename_i ns stored
  split
  · exact all
  split
  · exact all
  · dsimp only
    split
    · exact all
    rename_i generation
    split
    · exact all
    apply all.put
    have intact := all _ ns stored
    exact
      { intact with
        rotated := by
          intro rotation written
          cases written
          exact rotationEvidenceProblem_of_accepted admitted (not_le.mp generation)
        floor := fun floor kept => { intact.floor floor kept with } }

theorem AllIntact.submitRepairEvidence (all : guardian.AllIntact store) (request : RepairEvidence Sig) :
    guardian.AllIntact (guardian.submitRepairEvidence store request).2 := by
  unfold Guardian.submitRepairEvidence
  split
  · exact all
  · apply all.fencedWrite
    intro reply written out
    cases stored : store request.recoveryId with
    | none =>
      rw [stored] at out
      cases out
    | some ns =>
      rw [stored, repairBody, if_pos (all _ ns stored).current] at out
      cases out

end Verbs

section Runs

variable [DecidableEq Sig]

def step (guardian : Guardian Sig) (store : Store Sig) (input : Request Sig × (Nat → Nat)) : Store Sig :=
  (guardian.serve store input.1 input.2).2

theorem AllIntact.step (all : guardian.AllIntact store) {input : Request Sig × (Nat → Nat)}
    (meets : guardian.Replayable store input.1) : guardian.AllIntact (guardian.step store input) := by
  obtain ⟨request, clock⟩ := input
  unfold Guardian.step serve
  cases request with
  | register request => exact all.register request clock
  | putState record retainFloor => exact all.putState record retainFloor clock
  | syncRecord record certs => exact all.syncRecord meets
  | acquireEpoch request => exact all.acquireEpoch request clock
  | syncEpoch certs => exact all.syncEpoch meets
  | rotateSet request => exact all.rotateSet request
  | submitRepairEvidence request => exact all.submitRepairEvidence request

/-- A guardian that starts empty can be reopened at any point of a run of such requests. -/
theorem reopens_of_replayable (guardian : Guardian Sig) (before after : List (Request Sig × (Nat → Nat)))
    (meets : Along guardian.step (fun store input => guardian.Replayable store input.1) Store.empty
      (before ++ after)) :
    guardian.Reopens (before.foldl guardian.step Store.empty) := by
  apply AllIntact.reopens
  apply Along.invariant (fun _ _ meets all => all.step meets) (Along.append.mp meets).1
  intro recoveryId ns stored
  cases stored

end Runs

section Samples

abbrev Token := Bytes32 × Transcript

def tokens : Primitives Token where
  sha256 := fun bytes => BitVec.ofNat 256 (bytes.foldl (fun sum byte => 256 * sum + byte.val) 0)
  isXOnlyPoint := fun _ => true
  setHash := fun _ => 7
  verifyTranscript := fun transcript signature key => signature = (key, transcript)

def firstGuardian : Guardian Token where
  toPrimitives := tokens
  guardianId := 1
  guardianSetId := 7
  members := [1, 2, 3]
  maxCiphertextBytes := 100
  sign := fun transcript => (1, transcript)
  admits := fun _ _ => none
  settles := fun _ _ => none
  set_computed := by rfl
  is_member := by simp
  verify_sign := by simp [tokens]

/-- A state of one namespace, whose writers have the keys 11, 12 and so on for the epochs 1, 2 and so on. -/
def stateAt (epoch : Nat) (logHead : LogHead) : GuardianState :=
  ⟨100, ⟨epoch, BitVec.ofNat 256 (10 + epoch)⟩, ⟨1, 0⟩, logHead⟩

def recordAt (epoch sequence : Nat) (previousHash frameHash : Bytes32) : Record Token :=
  { protocolVersion := 1
    guardianSetId := 7
    recoveryId := 100
    epoch := epoch
    sequence := sequence
    previousHash := previousHash
    frameHash := frameHash
    ciphertext := [1]
    writerSignature := (BitVec.ofNat 256 (10 + epoch), .record 7 100 epoch sequence previousHash frameHash 1) }

def certificateOf (guardianId : Bytes32) (superseded : GuardianState) : TakeoverCertificate Token :=
  { protocolVersion := 1
    guardianSetId := 7
    guardianId := guardianId
    supersededState := superseded
    newEpoch := superseded.lease.epoch + 1
    newWriterPublicKey := BitVec.ofNat 256 (11 + superseded.lease.epoch)
    issuedAt := 0
    signature := (guardianId, .takeover 7 guardianId superseded (superseded.lease.epoch + 1)
      (BitVec.ofNat 256 (11 + superseded.lease.epoch)) 0) }

def registration : Request Token :=
  .register
    { protocolVersion := 1
      guardianSetId := 7
      guardianMembers := [1, 2, 3]
      initialState := stateAt 1 genesisLogHead
      rootSignature := (100, .register 7 (stateAt 1 genesisLogHead) 1)
      generation := 1 }

def acquisition (expected : GuardianState) : Request Token :=
  let transcript := .acquire 7 expected (expected.lease.epoch + 1) (BitVec.ofNat 256 (11 + expected.lease.epoch))
  .acquireEpoch
    { protocolVersion := 1
      guardianSetId := 7
      expectedState := expected
      newEpoch := expected.lease.epoch + 1
      newWriterPublicKey := BitVec.ofNat 256 (11 + expected.lease.epoch)
      rootSignature := (100, transcript)
      newWriterSignature := (BitVec.ofNat 256 (11 + expected.lease.epoch), transcript) }

/-- The guardian grants epoch 2 over a record that the others do not have. They grant epochs 2 and 3 over nothing. -/
def truncatedGrant : List (Request Token) :=
  [registration, .putState (recordAt 1 1 0 201) none, acquisition (stateAt 1 ⟨1, 201, 1, 1⟩),
    .syncEpoch [certificateOf 2 (stateAt 2 genesisLogHead), certificateOf 3 (stateAt 2 genesisLogHead)]]

/-- The guardian frees a record that the others do not have, and adopts their grant over nothing. -/
def truncatedFloor : List (Request Token) :=
  [registration, .putState (recordAt 1 1 0 201) none, .putState (recordAt 1 2 201 202) none,
    .putState (recordAt 1 3 202 203) (some ⟨2, 202, (11, .retain 7 100 1 2 202)⟩),
    .syncEpoch [certificateOf 2 (stateAt 1 genesisLogHead), certificateOf 3 (stateAt 1 genesisLogHead)]]

/-- The guardian adopts epoch 3 without epoch 2, and takes a record of epoch 2 under it. -/
def skippedEpoch : List (Request Token) :=
  [registration, .syncEpoch [certificateOf 2 (stateAt 2 genesisLogHead), certificateOf 3 (stateAt 2 genesisLogHead)],
    .syncRecord (recordAt 2 1 0 201)
      [certificateOf 2 (stateAt 2 genesisLogHead), certificateOf 3 (stateAt 2 ⟨1, 201, 1, 2⟩)]]

def verdictAfter (requests : List (Request Token)) : Option OpenVerdict :=
  ((requests.map fun request => (request, fun _ => 0)).foldl firstGuardian.step Store.empty 100).map fun ns =>
    firstGuardian.verifyNamespaceAtOpen ns 100

theorem own_writes_rolled_back :
    verdictAfter truncatedGrant = some (.rolledBack ⟨stateAt 1 genesisLogHead,
        "takeover certificate does not extend the replayed state"⟩) ∧
      verdictAfter truncatedFloor = some (.rolledBack ⟨stateAt 2 ⟨1, 201, 1, 1⟩,
        "replayed history stops short of the declared state"⟩) ∧
      verdictAfter skippedEpoch = some (.rolledBack ⟨stateAt 3 genesisLogHead,
        "record epoch below the lease current at its position"⟩) := by
  decide

def takenOver : List (Request Token × (Nat → Nat)) :=
  [registration, .putState (recordAt 1 1 0 201) none, acquisition (stateAt 1 ⟨1, 201, 1, 1⟩),
    .syncEpoch [certificateOf 2 (stateAt 2 ⟨1, 201, 1, 1⟩), certificateOf 3 (stateAt 2 ⟨1, 201, 1, 1⟩)]].map
    fun request => (request, fun _ => 0)

theorem reopens_takenOver :
    (takenOver.foldl firstGuardian.step Store.empty 100).map Namespace.state = some (stateAt 3 ⟨1, 201, 1, 1⟩) ∧
      firstGuardian.Reopens (takenOver.foldl firstGuardian.step Store.empty) := by
  refine ⟨by decide, reopens_of_replayable firstGuardian takenOver [] ?_⟩
  have adopted : firstGuardian.Replayable ((takenOver.take 3).foldl firstGuardian.step Store.empty)
      (.syncEpoch [certificateOf 2 (stateAt 2 ⟨1, 201, 1, 1⟩), certificateOf 3 (stateAt 2 ⟨1, 201, 1, 1⟩)]) := by
    decide
  exact ⟨trivial, trivial, trivial, adopted, trivial⟩

end Samples

end Guardian

end Beignet.Recovery
