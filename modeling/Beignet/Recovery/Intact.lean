import Beignet.Recovery.Replays

namespace Beignet.Recovery

variable {Sig : Type} (ns : Namespace Sig)

def Namespace.base : GuardianState :=
  (ns.retainFloor.map RetainFloorRow.state).getD ns.registrationState

def Namespace.replayed : List (EpochRow Sig) :=
  ns.epochs.filter fun row => ns.base.lease.epoch < row.epoch

def Namespace.registrationRow : EpochRow Sig :=
  ⟨ns.registrationState.lease.epoch, ns.registrationState.lease.writerPublicKey, none⟩

namespace Guardian

variable (guardian : Guardian Sig) (recoveryId : Bytes32)

structure FloorStands (ns : Namespace Sig) (floor : RetainFloorRow Sig) : Prop where
  verifies : guardian.floorVerifies recoveryId ns.registrationState floor = true
  named : ∃ row ∈ ns.epochs, row.epoch = floor.state.lease.epoch ∧
    row.writerPublicKey = floor.state.lease.writerPublicKey
  below : ∀ row ∈ ns.epochs, row.epoch ≤ floor.state.lease.epoch →
    row.grantedHead.sequence ≤ floor.state.logHead.sequence
  kept : ∃ first ∈ ns.records.head?, first.epoch = floor.state.lease.epoch
  written : floor.state.logHead.recordEpoch ≤ floor.state.lease.epoch

structure Intact (ns : Namespace Sig) : Prop where
  identity : ns.registrationState.recoveryId = recoveryId
  epochs : 1 ≤ ns.registrationState.lease.epoch
  starts : 1 ≤ ns.registrationState.origin.firstSequence
  genesis : ns.registrationState.logHead = genesisLogHead
  registered : guardian.verifyTranscript (.register guardian.guardianSetId ns.registrationState ns.generation)
    ns.registrationSignature ns.registrationState.recoveryId = true
  registrationReceipt : guardian.receiptVerifies ns.registrationState ns.registrationReceiptIssuedAt
    ns.registrationReceiptSignature = true
  receipt : guardian.receiptVerifies ns.state ns.receiptIssuedAt ns.receiptSignature = true
  current : ns.possiblyStale = false
  rotated : ∀ rotation ∈ ns.rotation,
    guardian.rotationEvidenceProblem rotation guardian.guardianSetId recoveryId ns.generation = none
  takeovers : ∃ takeovers, ns.epochs = ns.registrationRow :: takeovers ∧
    ∀ row ∈ takeovers, ∃ superseded, guardian.Certifies recoveryId ns.registrationState.origin row superseded
  sorted : ns.epochs.Pairwise fun a b => a.epoch < b.epoch
  leased : ∃ row ∈ ns.epochs, row.epoch = ns.state.lease.epoch ∧ row.writerPublicKey = ns.state.lease.writerPublicKey
  latest : ∀ row ∈ ns.epochs, row.epoch ≤ ns.state.lease.epoch
  floor : ∀ floor ∈ ns.retainFloor, guardian.FloorStands recoveryId ns floor
  walks : guardian.Walks recoveryId (fun head => headOnLog ns head) ns.base ns.replayed ns.records ns.state

variable {guardian} {recoveryId} {ns : Namespace Sig}

section Base

theorem FloorStands.origin {floor : RetainFloorRow Sig} (stands : guardian.FloorStands recoveryId ns floor) :
    floor.state.recoveryId = recoveryId ∧ floor.state.origin = ns.registrationState.origin ∧
      ns.registrationState.lease.epoch ≤ floor.state.lease.epoch ∧
      ns.registrationState.origin.firstSequence ≤ floor.state.logHead.sequence := by
  have verifies := stands.verifies
  simp only [floorVerifies, decide_eq_true_eq] at verifies
  exact ⟨verifies.1, verifies.2.1, verifies.2.2.1, verifies.2.2.2.2.1⟩

section

variable (intact : guardian.Intact recoveryId ns)
include intact

theorem Intact.base : ns.base.recoveryId = recoveryId ∧ ns.base.origin = ns.registrationState.origin ∧
      ns.registrationState.lease.epoch ≤ ns.base.lease.epoch := by
  unfold Namespace.base
  cases stored : ns.retainFloor with
  | none => exact ⟨intact.identity, rfl, le_rfl⟩
  | some floor =>
    obtain ⟨identity, origin, epoch, -⟩ := (intact.floor floor stored).origin
    exact ⟨identity, origin, epoch⟩

theorem Intact.base_starts : 1 ≤ ns.base.origin.firstSequence := by
  rw [intact.base.2.1]
  exact intact.starts

theorem Intact.state : ns.state.recoveryId = recoveryId ∧ ns.state.origin = ns.registrationState.origin := by
  rw [intact.walks.identity, intact.walks.origin]
  exact ⟨intact.base.1, intact.base.2.1⟩

theorem Intact.registration_le : ∀ row ∈ ns.epochs, ns.registrationState.lease.epoch ≤ row.epoch := by
  obtain ⟨takeovers, rows, -⟩ := intact.takeovers
  have sorted := intact.sorted
  rw [rows, List.pairwise_cons] at sorted
  intro row member
  rw [rows] at member
  rcases List.mem_cons.mp member with rfl | member
  · exact le_rfl
  · exact (sorted.1 row member).le

theorem Intact.certified {row : EpochRow Sig} (member : row ∈ ns.epochs)
    (above : ns.registrationState.lease.epoch < row.epoch) :
    ∃ superseded, guardian.Certifies recoveryId ns.registrationState.origin row superseded := by
  obtain ⟨takeovers, rows, certified⟩ := intact.takeovers
  rw [rows] at member
  rcases List.mem_cons.mp member with rfl | member
  · exact absurd above (lt_irrefl _)
  · exact certified row member

end

end Base

section Opens

variable {rows : List (EpochRow Sig)}

theorem dropWhile_eq_filter (sorted : rows.Pairwise fun a b => a.epoch < b.epoch) (bound : Nat) :
    (rows.dropWhile fun row => row.epoch ≤ bound) = rows.filter fun row => bound < row.epoch := by
  induction rows with
  | nil => rfl
  | cons row rest ih =>
    obtain ⟨least, sorted⟩ := List.pairwise_cons.mp sorted
    by_cases le : row.epoch ≤ bound
    · rw [List.dropWhile_cons_of_pos (by simpa using le), List.filter_cons_of_neg (by simpa using le), ih sorted]
    · rw [List.dropWhile_cons_of_neg (by simpa using le), List.filter_eq_self.mpr]
      intro other member
      rcases List.mem_cons.mp member with rfl | member
      · simpa using le
      · have := least other member
        simp only [decide_eq_true_eq]
        omega

theorem foldlM_below {floor regState target : GuardianState}
    (certified : ∀ row ∈ rows, ∃ superseded, guardian.Certifies recoveryId regState.origin row superseded)
    (below : ∀ row ∈ rows, row.epoch ≤ target.lease.epoch ∧ row.grantedHead.sequence ≤ floor.logHead.sequence) :
    rows.foldlM (guardian.applyTakeover ns recoveryId (some target) (some floor)) regState = .ok regState := by
  induction rows with
  | nil => rfl
  | cons row rest ih =>
    obtain ⟨superseded, certifies⟩ := certified row List.mem_cons_self
    obtain ⟨reached, le⟩ := below row List.mem_cons_self
    rw [certifies.grantedHead] at le
    have extending : takeoverExtends ns (some floor) regState superseded = true := by
      simpa [takeoverExtends] using le
    rw [List.foldlM_cons, applyTakeover_ok reached certifies extending]
    exact ih (fun other member => certified other (List.mem_cons_of_mem _ member))
      fun other member => below other (List.mem_cons_of_mem _ member)

section

variable (intact : guardian.Intact recoveryId ns)
include intact

theorem Intact.in_range : ∀ record ∈ ns.records, ¬ (record.sequence < ns.registrationState.origin.firstSequence ∨
        ((ns.retainFloor.map RetainFloorRow.state).any fun floor => record.sequence ≤ floor.logHead.sequence)) ∧
      ¬ ((some ns.state).any fun target => target.logHead.sequence < record.sequence) := by
  intro record member
  obtain ⟨lower, upper⟩ := (intact.walks.sequences intact.base_starts).2.1 record member
  refine ⟨?_, by simpa using upper⟩
  cases stored : ns.retainFloor with
  | none =>
    have start : ns.base = ns.registrationState := by rw [Namespace.base, stored]; rfl
    rw [start, GuardianState.expectedSequence, if_pos intact.genesis] at lower
    simpa using lower
  | some floor =>
    have start : ns.base = floor.state := by rw [Namespace.base, stored]; rfl
    have verifies := (intact.floor floor stored).verifies
    simp only [floorVerifies, decide_eq_true_eq] at verifies
    obtain ⟨-, -, -, nonempty, first, -⟩ := verifies
    rw [start, GuardianState.expectedSequence, if_neg nonempty] at lower
    simp only [Option.map_some, Option.any_some, decide_eq_true_eq]
    omega

theorem Intact.storedRetainFloor : guardian.storedRetainFloor ns recoveryId ns.registrationState =
      .ok (ns.retainFloor.map RetainFloorRow.state) := by
  unfold Guardian.storedRetainFloor
  cases stored : ns.retainFloor with
  | none => rfl
  | some floor => exact if_pos (intact.floor floor stored).verifies

theorem Intact.walkBelowFloor {floor : RetainFloorRow Sig}
    (stored : ns.retainFloor = some floor) {takeovers : List (EpochRow Sig)}
    (rows : ns.epochs = ns.registrationRow :: takeovers) :
    guardian.walkBelowFloor ns recoveryId ns.registrationState (some ns.state) ns.epochs takeovers floor.state =
      .ok (floor.state, ns.replayed) := by
  obtain ⟨-, named, below, -, -⟩ := intact.floor floor stored
  obtain ⟨row, member, epoch, key⟩ := named
  have sorted := intact.sorted
  have found : (ns.epochs.find? fun other => other.epoch = floor.state.lease.epoch) = some row := by
    rw [← epoch]
    exact find?_eq_of_mem sorted member
  have pass : (takeovers.takeWhile fun row => row.epoch ≤ floor.state.lease.epoch).foldlM
      (guardian.applyTakeover ns recoveryId (some ns.state) (some floor.state)) ns.registrationState =
      .ok ns.registrationState := by
    have present : ∀ row ∈ takeovers.takeWhile (fun row => row.epoch ≤ floor.state.lease.epoch),
        row ∈ takeovers ∧ row ∈ ns.epochs := by
      intro row member
      have member := List.takeWhile_subset _ member
      exact ⟨member, rows ▸ List.mem_cons_of_mem _ member⟩
    apply foldlM_below
    · intro row member
      obtain ⟨others, same, certified⟩ := intact.takeovers
      rw [rows] at same
      exact certified row ((List.cons.inj same).2 ▸ (present row member).1)
    · intro row member
      have reached := List.mem_takeWhile_imp member
      exact ⟨intact.latest row (present row member).2, below row (present row member).2 (by simpa using reached)⟩
  have start : ns.base = floor.state := by rw [Namespace.base, stored]; rfl
  have rest : (takeovers.dropWhile fun row => row.epoch ≤ floor.state.lease.epoch) = ns.replayed := by
    rw [rows] at sorted
    have registered := intact.base.2.2
    rw [dropWhile_eq_filter (List.pairwise_cons.mp sorted).2, Namespace.replayed, rows, start,
      List.filter_cons_of_neg]
    rw [start] at registered
    exact fun above => absurd (of_decide_eq_true above) (not_lt.mpr registered)
  unfold Guardian.walkBelowFloor
  rw [found]
  simp only [Option.any_some, key, decide_true, Bool.true_eq_false, if_false, pass, rest, bind, Except.bind, pure,
    Except.pure]

theorem Intact.replay :
    guardian.replay ns recoveryId ns.registrationState (some ns.state) = .ok (ns.state, false) := by
  obtain ⟨takeovers, rows, certified⟩ := intact.takeovers
  have registered := intact.registration_le
  have all : (ns.epochs.filter fun row => ns.registrationState.lease.epoch ≤ row.epoch) = ns.epochs := by
    rw [List.filter_eq_self]
    exact fun row member => decide_eq_true (registered row member)
  have possible : (ns.epochs.any fun row => row.epoch < ns.registrationState.lease.epoch) = false := by
    rw [List.any_eq_false]
    intro row member
    simpa using registered row member
  have loops : ∃ walk, ns.records.foldlM (guardian.walkRecord ns recoveryId ns.registrationState (some ns.state)
        (ns.retainFloor.map RetainFloorRow.state)) ⟨ns.base, ns.replayed, false⟩ = .ok walk ∧
      walk.impossibleRows = false ∧
      walk.pending.foldlM (guardian.applyTakeover ns recoveryId (some ns.state) none) walk.sim = .ok ns.state :=
    intact.walks.loops intact.base.1 (fun row member => (intact.walks.pending_epochs row member).2) intact.in_range
  obtain ⟨walk, folded, impossible, ends⟩ := loops
  unfold Guardian.replay
  rw [all, possible]
  simp only [rows]
  rw [if_neg (by simp [Namespace.registrationRow]), intact.storedRetainFloor, ← rows]
  cases stored : ns.retainFloor with
  | none =>
    have start : ns.base = ns.registrationState := by rw [Namespace.base, stored]; rfl
    have pending : ns.replayed = takeovers := by
      have sorted := intact.sorted
      rw [rows, List.pairwise_cons] at sorted
      rw [Namespace.replayed, rows, start, List.filter_cons_of_neg (by simp [Namespace.registrationRow]),
        List.filter_eq_self]
      exact fun row member => decide_eq_true (sorted.1 row member)
    rw [stored, start, pending] at folded
    simp only [Option.map_none, bind, Except.bind] at folded ⊢
    rw [folded]
    simp only [ends, impossible, pure, Except.pure]
  | some floor =>
    have start : ns.base = floor.state := by rw [Namespace.base, stored]; rfl
    rw [stored, start] at folded
    simp only [Option.map_some, intact.walkBelowFloor stored rows, bind, Except.bind] at folded ⊢
    rw [folded]
    simp only [ends, impossible, pure, Except.pure]

theorem Intact.opens : guardian.verifyNamespaceAtOpen ns recoveryId = .intact := by
  have rotated : (ns.rotation.bind fun rotation =>
      guardian.rotationEvidenceProblem rotation guardian.guardianSetId recoveryId ns.generation) = none := by
    rw [Option.bind_eq_none_iff]
    exact intact.rotated
  have registration : guardian.registrationValid ns recoveryId = true := by
    simp only [registrationValid, decide_eq_true_eq]
    exact ⟨intact.identity, intact.epochs, intact.starts, intact.genesis, intact.registered⟩
  have declared : declaredState ns recoveryId = some ns.state :=
    if_pos ⟨intact.state.1, intact.state.2, intact.base.2.2.trans intact.walks.epoch_le⟩
  have walked : guardian.walkNamespace ns recoveryId ns.registrationState (some ns.state) = none := by
    unfold walkNamespace
    rw [intact.replay]
    simp [intact.receipt]
  unfold verifyNamespaceAtOpen
  rw [rotated]
  simp [registration, declared, walked, intact.registrationReceipt]

end

end Opens

end Guardian

end Beignet.Recovery
