import Beignet.Recovery.Intact

namespace Beignet.Recovery

open Beignet.Data

variable {Sig : Type}

namespace Guardian

variable {guardian : Guardian Sig} {recoveryId : Bytes32} {ns : Namespace Sig}

section Facts

theorem receiptVerifies_signReceipt (state : GuardianState) (issuedAt : Nat) :
    guardian.receiptVerifies state issuedAt (guardian.signReceipt state issuedAt) = true :=
  guardian.verify_sign _

variable {record : RecordRow Sig} {row : EpochRow Sig}

theorem mem_of_getEpoch {epoch : Nat} (found : ns.getEpoch epoch = some row) : row ∈ ns.epochs ∧ row.epoch = epoch :=
  ⟨List.mem_of_find?_eq_some found, by simpa using List.find?_some found⟩

theorem mem_of_getRecord {sequence : Nat} (found : ns.getRecord sequence = some record) :
    record ∈ ns.records ∧ record.sequence = sequence :=
  ⟨List.mem_of_find?_eq_some found, by simpa using List.find?_some found⟩

theorem headOnLog_iff {head : LogHead} : headOnLog ns head = true ↔
      head = genesisLogHead ∨ ∃ record, ns.getRecord head.sequence = some record ∧ record.head = head := by
  simp only [headOnLog, decide_eq_true_eq, Option.any_eq_true]
  apply or_congr_right
  apply exists_congr
  intro record
  apply and_congr_right
  intro found
  have sequence := (mem_of_getRecord found).2
  cases head
  simp only [RecordRow.head, LogHead.mk.injEq] at sequence ⊢
  tauto

theorem base_of_none (stored : ns.retainFloor = none) : ns.base = ns.registrationState := by
  rw [Namespace.base, stored]
  rfl

theorem base_of_some {floor : RetainFloorRow Sig} (stored : ns.retainFloor = some floor) : ns.base = floor.state := by
  rw [Namespace.base, stored]
  rfl

theorem mem_replayed : row ∈ ns.replayed ↔ row ∈ ns.epochs ∧ ns.base.lease.epoch < row.epoch := by
  rw [Namespace.replayed, List.mem_filter, decide_eq_true_eq]

variable (intact : guardian.Intact recoveryId ns)
include intact

theorem Intact.records_sorted : ns.records.Pairwise fun a b => a.sequence < b.sequence :=
  List.pairwise_map.mp (intact.walks.sequences intact.base_starts).1

theorem Intact.getRecord (member : record ∈ ns.records) : ns.getRecord record.sequence = some record :=
  find?_eq_of_mem intact.records_sorted member

theorem Intact.getEpoch (member : row ∈ ns.epochs) : ns.getEpoch row.epoch = some row :=
  find?_eq_of_mem intact.sorted member

theorem Intact.headOnLog_of_mem (member : record ∈ ns.records) : headOnLog ns record.head = true :=
  headOnLog_iff.mpr (Or.inr ⟨record, intact.getRecord member, rfl⟩)

theorem Intact.base_lt (member : record ∈ ns.records) :
    ns.base.logHead.sequence < record.sequence ∧ record.sequence ≤ ns.state.logHead.sequence := by
  obtain ⟨lower, upper⟩ := (intact.walks.sequences intact.base_starts).2.1 record member
  exact ⟨(lt_expectedSequence intact.base_starts).trans_le lower, upper⟩

theorem Intact.granted_below (member : row ∈ ns.epochs) (below : row.epoch ≤ ns.base.lease.epoch) :
    row.grantedHead.sequence ≤ ns.base.logHead.sequence := by
  cases stored : ns.retainFloor with
  | none =>
    rw [base_of_none stored] at below
    obtain ⟨takeovers, rows, -⟩ := intact.takeovers
    have sorted := intact.sorted
    rw [rows] at member sorted
    rcases List.mem_cons.mp member with rfl | member
    · exact Nat.zero_le _
    · have := (List.pairwise_cons.mp sorted).1 row member
      exact absurd below (not_le.mpr this)
  | some floor =>
    rw [base_of_some stored] at below ⊢
    exact (intact.floor floor stored).below row member below

theorem Intact.base_written : ns.base.logHead.recordEpoch ≤ ns.base.lease.epoch := by
  cases stored : ns.retainFloor with
  | none =>
    rw [base_of_none stored, intact.genesis]
    exact Nat.zero_le _
  | some floor =>
    rw [base_of_some stored]
    exact (intact.floor floor stored).written

theorem Intact.granted_onLog : ∀ row ∈ ns.replayed, headOnLog ns row.grantedHead = true := by
  have start : headOnLog ns ns.base.logHead = true ∨
      ∃ first ∈ ns.records.head?, first.epoch = ns.base.lease.epoch := by
    cases stored : ns.retainFloor with
    | none =>
      rw [base_of_none stored, intact.genesis]
      exact Or.inl (headOnLog_iff.mpr (Or.inl rfl))
    | some floor =>
      rw [base_of_some stored]
      exact Or.inr (intact.floor floor stored).kept
  intro row member
  rcases intact.walks.granted (fun head => headOnLog ns head) start row member with on | on | ⟨record, present, same⟩
  · exact on
  · exact on
  · exact same ▸ intact.headOnLog_of_mem present

end Facts

section Records

variable {record : Record Sig} {written : Namespace Sig} {row : RecordRow Sig} {issuedAt : Nat}
  {reply : Reply Sig} {state : GuardianState}

theorem headOnLog_append {head : LogHead}
    (rows : written.records = ns.records ++ [row]) (on : headOnLog ns head = true) :
    headOnLog written head = true := by
  rw [headOnLog_iff] at on ⊢
  rcases on with genesis | ⟨record, found, same⟩
  · exact Or.inl genesis
  · refine Or.inr ⟨record, ?_, same⟩
    rw [Namespace.getRecord] at found ⊢
    rw [rows, List.find?_append, found]
    rfl

theorem Intact.store (intact : guardian.Intact recoveryId ns)
    (walks : guardian.Walks recoveryId (fun head => headOnLog ns head) ns.base ns.replayed (ns.records ++ [row])
      { ns.state with logHead := row.head })
    (result : written = ({ ns with records := ns.records ++ [row] } : Namespace Sig).updateState
      { ns.state with logHead := row.head } issuedAt
      (guardian.signReceipt { ns.state with logHead := row.head } issuedAt)) :
    guardian.Intact recoveryId written := by
  subst result
  exact
    { intact with
      receipt := receiptVerifies_signReceipt _ _
      floor := by
        intro floor stored
        obtain ⟨verifies, named, below, ⟨first, member, epoch⟩, written⟩ := intact.floor floor stored
        refine ⟨verifies, named, below, ⟨first, ?_, epoch⟩, written⟩
        have found : ns.records.head? = some first := member
        show first ∈ (ns.records ++ [row]).head?
        rw [List.head?_append, found]
        rfl
      walks := walks.mono fun _ _ on => headOnLog_append rfl on }

theorem orInternal_eq_some {α : Type} {result : Except String α} {next : α → Outcome Sig}
    (out : orInternal result next = (reply, some written)) :
    ∃ value, result = .ok value ∧ next value = (reply, some written) := by
  cases result with
  | error => cases out
  | ok value => exact ⟨value, rfl, out⟩

theorem extending_eq_some {next : Outcome Sig} (out : extending state record next = (reply, some written)) :
    record.sequence = state.expectedSequence ∧ record.previousHash = state.expectedPrevious ∧
      next = (reply, some written) := by
  unfold extending at out
  dsimp only at out
  split at out
  · cases out
  rename_i sequence
  split at out
  · cases out
  rename_i previous
  exact ⟨not_not.mp sequence, not_not.mp previous, out⟩

theorem fits_recordRow {writerPublicKey : Bytes32} (identity : record.recoveryId = recoveryId)
    (lease : state.lease = ⟨record.epoch, writerPublicKey⟩) (sequence : record.sequence = state.expectedSequence)
    (previous : record.previousHash = state.expectedPrevious)
    (signed : guardian.writerVerifies record writerPublicKey = true) :
    guardian.Fits recoveryId state (guardian.recordRow record) := by
  refine ⟨?_, sequence, previous, rfl, ?_⟩
  · rw [lease]
    rfl
  · rw [lease, ← identity]
    exact signed

theorem Intact.storeRecord (intact : guardian.Intact recoveryId ns)
    (sequence : record.sequence = ns.state.expectedSequence)
    (stored : guardian.storeRecord ns record issuedAt = .ok written) :
    written = ({ ns with records := ns.records ++ [guardian.recordRow record] } : Namespace Sig).updateState
      { ns.state with logHead := (guardian.recordRow record).head } issuedAt
      (guardian.signReceipt { ns.state with logHead := (guardian.recordRow record).head } issuedAt) := by
  have above : ∀ other ∈ ns.records, other.sequence < (guardian.recordRow record).sequence := by
    intro other member
    show other.sequence < record.sequence
    rw [sequence]
    apply (intact.base_lt member).2.trans_lt
    apply lt_expectedSequence
    rw [intact.state.2]
    exact intact.starts
  rw [Guardian.storeRecord, Namespace.insertRecord_last _ above] at stored
  exact (Except.ok.inj stored).symm

end Records

section Floor

structure PlanStands (guardian : Guardian Sig) (ns : Namespace Sig) (plan : RetainPlan Sig) : Prop where
  last : ∃ last ∈ ns.records, plan.checkpoint = { ns.state with logHead := last.head }
  start : plan.start = plan.checkpoint.logHead.sequence + 1
  kept : ∃ kept ∈ ns.records, kept.sequence = plan.start ∧ kept.epoch = ns.state.lease.epoch
  bounded : plan.start ≤ u64Max
  signed : guardian.verifyTranscript (.retain guardian.guardianSetId ns.state.recoveryId ns.state.lease.epoch
    plan.start plan.floor.frameHash) plan.floor.writerSignature ns.state.lease.writerPublicKey = true

theorem retainPlan_stands {record : Record Sig} {floor : RetainFloor Sig} {plan : RetainPlan Sig}
    (bounded : floor.sequence ≤ u64Max ∧ floor.sequence ≠ 0)
    (planned : guardian.retainPlan ns record floor = .ok (some plan)) : guardian.PlanStands ns plan := by
  unfold retainPlan at planned
  dsimp only at planned
  split at planned
  · cases planned
  split at planned
  · rename_i kept last foundKept foundLast
    obtain ⟨keptMember, keptSequence⟩ := mem_of_getRecord foundKept
    obtain ⟨lastMember, lastSequence⟩ := mem_of_getRecord foundLast
    split at planned
    · cases planned
    rename_i kind
    split at planned
    · cases planned
    rename_i signed
    cases planned
    have epoch : kept.epoch = ns.state.lease.epoch := not_not.mp fun other => kind (Or.inr other)
    refine ⟨⟨last, lastMember, ?_⟩, ?_, ⟨kept, keptMember, keptSequence, epoch⟩, bounded.1, ?_⟩
    · rw [← lastSequence]
      rfl
    · show floor.sequence = floor.sequence - 1 + 1
      have := bounded.2
      omega
    · simpa using signed
  · cases planned

theorem PlanStands.store {plan : RetainPlan Sig} {row : RecordRow Sig} {written : Namespace Sig}
    (stands : guardian.PlanStands ns plan) (rows : written.records = ns.records ++ [row])
    (state : written.state = { ns.state with logHead := row.head }) : guardian.PlanStands written plan := by
  obtain ⟨⟨last, member, checkpoint⟩, start, ⟨kept, present, facts⟩, bounded, signed⟩ := stands
  refine ⟨⟨last, ?_, ?_⟩, start, ⟨kept, ?_, ?_⟩, bounded, ?_⟩
  · rw [rows]
    exact List.mem_append_left _ member
  · rw [state]
    exact checkpoint
  · rw [rows]
    exact List.mem_append_left _ present
  · rw [state]
    exact facts
  · rw [state]
    exact signed

variable {records : List (RecordRow Sig)}

theorem headAfter_filter {last : RecordRow Sig} (start : LogHead)
    (sorted : records.Pairwise fun a b => a.sequence < b.sequence) (member : last ∈ records) :
    headAfter start (records.filter fun row => row.sequence ≤ last.sequence) = last.head := by
  induction records generalizing start with
  | nil => exact absurd member (by simp)
  | cons first rest ih =>
    obtain ⟨least, sorted⟩ := List.pairwise_cons.mp sorted
    rcases List.mem_cons.mp member with rfl | member
    · have above : (rest.filter fun row => row.sequence ≤ last.sequence) = [] := by
        rw [List.filter_eq_nil_iff]
        intro other present
        have := least other present
        simp only [decide_eq_true_eq]
        omega
      rw [List.filter_cons_of_pos (by simp), above]
      rfl
    · have := least last member
      rw [List.filter_cons_of_pos (by simp only [decide_eq_true_eq]; omega), headAfter_cons]
      exact ih _ sorted member

theorem filter_append_filter (start : Nat) (sorted : records.Pairwise fun a b => a.sequence < b.sequence) :
    records = (records.filter fun row => row.sequence ≤ start) ++ records.filter fun row => start < row.sequence := by
  induction records with
  | nil => rfl
  | cons first rest ih =>
    obtain ⟨least, sorted⟩ := List.pairwise_cons.mp sorted
    by_cases le : first.sequence ≤ start
    · rw [List.filter_cons_of_pos (by simpa using le), List.filter_cons_of_neg (by simpa using le), List.cons_append,
        ← ih sorted]
    · have above : ∀ other ∈ first :: rest, start < other.sequence := by
        rw [List.forall_mem_cons]
        exact ⟨not_le.mp le, fun other present => (not_le.mp le).trans (least other present)⟩
      rw [List.filter_eq_nil_iff.mpr (by simpa using above), List.filter_eq_self.mpr (by simpa using above)]
      rfl

theorem filter_eq_cons {kept : RecordRow Sig} {start : Nat}
    (sorted : records.Pairwise fun a b => a.sequence < b.sequence) (member : kept ∈ records)
    (next : kept.sequence = start + 1) :
    ∃ after, (records.filter fun row => start < row.sequence) = kept :: after := by
  have present : kept ∈ records.filter fun row => start < row.sequence := by
    rw [List.mem_filter]
    exact ⟨member, by simp only [decide_eq_true_eq]; omega⟩
  have order := sorted.filter fun row => decide (start < row.sequence)
  cases rest : records.filter fun row => start < row.sequence with
  | nil =>
    rw [rest] at present
    exact absurd present (by simp)
  | cons first after =>
    have above := (List.mem_filter.mp (rest ▸ List.mem_cons_self : first ∈ _)).2
    rw [rest] at present order
    rcases List.mem_cons.mp present with rfl | present
    · exact ⟨after, rfl⟩
    · have := (List.pairwise_cons.mp order).1 kept present
      simp only [decide_eq_true_eq] at above
      omega

theorem Intact.applyRetainFloor (intact : guardian.Intact recoveryId ns) {plan : RetainPlan Sig} {issuedAt : Nat}
    (stands : guardian.PlanStands ns plan) :
    guardian.Intact recoveryId (guardian.applyRetainFloor ns plan issuedAt) := by
  obtain ⟨⟨last, member, checkpoint⟩, start, ⟨kept, present, keptAt, keptEpoch⟩, bounded, signed⟩ := stands
  have sorted := intact.records_sorted
  have head : plan.checkpoint.logHead = last.head := by rw [checkpoint]
  have next : plan.start = last.sequence + 1 := by
    rw [start, head]
    rfl
  obtain ⟨after, rest⟩ := filter_eq_cons sorted present (keptAt.trans next)
  have records : (guardian.applyRetainFloor ns plan issuedAt).records = kept :: after := by
    rw [← rest]
    show (ns.records.filter fun row => plan.start ≤ row.sequence) = _
    rw [next]
    rfl
  have base : (guardian.applyRetainFloor ns plan issuedAt).base = { ns.state with logHead := last.head } := checkpoint
  have none : (guardian.applyRetainFloor ns plan issuedAt).replayed = [] := by
    rw [Namespace.replayed, List.filter_eq_nil_iff, base]
    intro row stored
    simpa using intact.latest row stored
  have walks := intact.walks
  rw [filter_append_filter last.sequence sorted, rest] at walks
  have resumed := walks.resume intact.base_starts keptEpoch
  rw [headAfter_filter _ sorted member] at resumed
  obtain ⟨resumes, granted⟩ := resumed
  have inRange := intact.in_range last member
  exact
    { intact with
      floor := by
        intro floor stored
        cases stored
        refine ⟨?_, ?_, ?_, ⟨kept, ?_, ?_⟩, ?_⟩
        · simp only [floorVerifies, decide_eq_true_eq]
          refine ⟨?_, ?_, ?_, ?_, ?_, receiptVerifies_signReceipt _ _, ?_, ?_⟩
          · rw [checkpoint]
            exact intact.state.1
          · rw [checkpoint]
            exact intact.state.2
          · rw [checkpoint]
            exact intact.base.2.2.trans intact.walks.epoch_le
          · intro genesis
            have zero : last.sequence = 0 := congrArg LogHead.sequence (head.symm.trans genesis)
            have := (intact.base_lt member).1
            omega
          · rw [head]
            exact not_lt.mp fun below => inRange.1 (Or.inl below)
          · rw [← start]
            exact bounded
          · rw [← start, ← intact.state.1, checkpoint]
            exact signed
        · show ∃ row ∈ ns.epochs, _
          rw [checkpoint]
          exact intact.leased
        · intro row stored below
          show row.grantedHead.sequence ≤ plan.checkpoint.logHead.sequence
          rw [head]
          rcases le_or_gt row.epoch ns.base.lease.epoch with old | recent
          · exact (intact.granted_below stored old).trans (intact.base_lt member).1.le
          · exact granted row (mem_replayed.mpr ⟨stored, recent⟩)
        · rw [records]
          rfl
        · rw [keptEpoch, checkpoint]
        · rw [checkpoint]
          exact intact.walks.record_epochs last member
      walks := by
        rw [records, base, none]
        exact resumes.mono (by simp) }

end Floor

section Append

variable {record : Record Sig} {bundle : TakeoverBundle} {plan : Option (RetainPlan Sig)} {clock : Nat → Nat}
  {reply : Reply Sig} {written : Namespace Sig}

theorem sameLease_iff {a b : GuardianState} :
    sameLease a b = true ↔ a.recoveryId = b.recoveryId ∧ a.lease = b.lease ∧ a.origin = b.origin := by
  cases a
  cases b
  simp [sameLease]

theorem grantExtends_spec (extended : grantExtends ns record bundle = true) :
    record.epoch = bundle.certified.lease.epoch ∧ ∃ row takeover, ns.getEpoch ns.state.lease.epoch = some row ∧
      row.takeover = some takeover ∧ takeover.supersededState.lease = bundle.certified.lease ∧
      (takeover.supersededState.logHead = ns.state.logHead ∨
        ns.state.logHead.recordEpoch = bundle.certified.lease.epoch) := by
  unfold grantExtends at extended
  dsimp only at extended
  split at extended
  · cases extended
  rename_i named
  split at extended
  · cases extended
  rename_i row found
  split at extended
  · cases extended
  rename_i takeover granted
  simp only [decide_eq_true_eq] at extended
  obtain ⟨-, same, head⟩ := extended
  refine ⟨?_, row, takeover, found, granted, (sameLease_iff.mp same).2.1, head⟩
  exact not_not.mp fun other => named (Or.inr (Or.inr (Or.inl other)))

section

variable (intact : guardian.Intact recoveryId ns)
include intact

theorem Intact.unwritten {row : EpochRow Sig}
    {takeover : TakeoverArtifacts Sig} (found : ns.getEpoch ns.state.lease.epoch = some row)
    (granted : row.takeover = some takeover) (head : takeover.supersededState.logHead = ns.state.logHead ∨
      ns.state.logHead.recordEpoch < ns.state.lease.epoch) :
    ns.base.lease.epoch < ns.state.lease.epoch ∧ ns.state.logHead.recordEpoch < ns.state.lease.epoch := by
  obtain ⟨member, epoch⟩ := mem_of_getEpoch found
  have grantedHead : row.grantedHead = takeover.supersededState.logHead := by
    rw [EpochRow.grantedHead, granted]
    rfl
  have below : ns.base.lease.epoch < ns.state.lease.epoch := by
    apply intact.walks.epoch_le.lt_of_ne
    intro same
    cases stored : ns.retainFloor with
    | none =>
      rw [base_of_none stored] at same
      obtain ⟨takeovers, rows, -⟩ := intact.takeovers
      have first : ns.getEpoch ns.registrationRow.epoch = some ns.registrationRow :=
        intact.getEpoch (rows ▸ List.mem_cons_self)
      rw [show ns.registrationRow.epoch = _ from same, found] at first
      rw [Option.some.inj first] at granted
      cases granted
    | some floor =>
      obtain ⟨-, -, -, ⟨first, start, first_epoch⟩, -⟩ := intact.floor floor stored
      have present : first ∈ ns.records := List.mem_of_mem_head? start
      have none : ns.replayed = [] := by
        rw [Namespace.replayed, List.filter_eq_nil_iff, same]
        intro other stored
        simpa using intact.latest other stored
      have walks := intact.walks
      rw [none] at walks
      rcases head with head | head
      · have le := intact.granted_below member (epoch.trans same.symm).le
        rw [grantedHead, head] at le
        have := intact.base_lt present
        omega
      · rcases walks.of_no_takeovers.2 with ⟨empty, -⟩ | written
        · rw [empty] at present
          exact absurd present (by simp)
        · omega
  refine ⟨below, ?_⟩
  rcases head with head | head
  · exact intact.walks.unwritten intact.base_starts intact.base_written
      (mem_replayed.mpr ⟨member, epoch ▸ below⟩) epoch (grantedHead.trans head)
  · exact head

variable (identity : record.recoveryId = recoveryId)
include identity

theorem Intact.extendWalk (fenced : record.epoch < ns.state.lease.epoch) (extended : grantExtends ns record bundle = true)
    (held : (ns.getEpoch record.epoch).isSome)
    (signed : guardian.writerVerifies record bundle.certified.lease.writerPublicKey = true)
    (sequence : record.sequence = ns.state.expectedSequence)
    (previous : record.previousHash = ns.state.expectedPrevious) :
    guardian.Walks recoveryId (fun head => headOnLog ns head) ns.base ns.replayed
      (ns.records ++ [guardian.recordRow record]) { ns.state with logHead := (guardian.recordRow record).head } := by
  obtain ⟨superseded, row, takeover, found, granted, lease, head⟩ := grantExtends_spec extended
  obtain ⟨below, unwritten⟩ := intact.unwritten found granted
    (head.imp_right fun epoch => by rw [epoch, ← superseded]; exact fenced)
  obtain ⟨member, epoch⟩ := mem_of_getEpoch found
  -- The row of the lease is the only one of its epoch.
  have certified : ∀ other ∈ ns.replayed, ∀ state, guardian.Certifies recoveryId ns.base.origin other state →
      other.epoch = ns.state.lease.epoch → state = takeover.supersededState := by
    intro other present state certifies same
    have again := intact.getEpoch (mem_replayed.mp present).1
    rw [same, found] at again
    obtain ⟨artifacts, stored, is, -⟩ := certifies.takeover
    rw [← Option.some.inj again, granted] at stored
    rw [← is, ← Option.some.inj stored]
  have follows : record.epoch + 1 = ns.state.lease.epoch := by
    have above := intact.base.2.2.trans_lt below
    obtain ⟨state, certifies⟩ := intact.certified member (epoch ▸ above)
    rw [← intact.base.2.1] at certifies
    have same := certified row (mem_replayed.mpr ⟨member, epoch ▸ below⟩) state certifies epoch
    have := certifies.follows
    rw [same, lease, ← superseded] at this
    omega
  apply intact.walks.extend intact.base_starts below unwritten _ follows
  · intro other present state certifies same
    rw [certified other present state certifies same, lease]
  · exact fits_recordRow identity rfl sequence previous signed
  · exact intact.granted_onLog
  · obtain ⟨older, stored⟩ := Option.isSome_iff_exists.mp held
    obtain ⟨present, at_epoch⟩ := mem_of_getEpoch stored
    rcases lt_or_ge ns.base.lease.epoch record.epoch with above | reached
    · exact Or.inr ⟨older, mem_replayed.mpr ⟨present, at_epoch ▸ above⟩, at_epoch⟩
    · refine Or.inl ?_
      show ns.base.lease.epoch = record.epoch
      omega

theorem Intact.acceptRecord {bundle : Option TakeoverBundle} (held : ∀ taken ∈ bundle, grantExtends ns record taken = true → (ns.getEpoch record.epoch).isSome)
    (stands : ∀ freeing ∈ plan, guardian.PlanStands ns freeing)
    (out : guardian.acceptRecord ns record bundle plan clock = (reply, some written)) :
    guardian.Intact recoveryId written := by
  unfold Guardian.acceptRecord at out
  dsimp only at out
  split at out
  · split at out
    · rename_i outcome extended
      subst out
      split at extended
      · rename_i fenced
        obtain ⟨taken, present, extended⟩ := Option.bind_eq_some_iff.mp extended
        unfold extendGrant at extended
        split at extended
        · cases extended
        rename_i extending
        simp only [Bool.not_eq_false] at extending
        split at extended
        · cases extended
        rename_i signed
        simp only [Bool.not_eq_false] at signed
        obtain ⟨sequence, previous, stored⟩ := extending_eq_some (Option.some.inj extended)
        split at stored
        · cases stored
        obtain ⟨stored, inserted, same⟩ := orInternal_eq_some stored
        cases same
        exact intact.store (intact.extendWalk identity fenced extending (held taken present extending) signed
          sequence previous) (intact.storeRecord sequence inserted)
      · cases extended
    · cases out
  · rename_i epoch
    split at out
    · cases out
    · rename_i signed
      simp only [Bool.not_eq_false] at signed
      obtain ⟨sequence, previous, stored⟩ := extending_eq_some out
      obtain ⟨stored, inserted, same⟩ := orInternal_eq_some stored
      have result := intact.storeRecord sequence inserted
      have lease : ns.state.lease = ⟨record.epoch, ns.state.lease.writerPublicKey⟩ := by rw [not_not.mp epoch]
      have keeps := intact.store (intact.walks.append (fits_recordRow identity lease sequence previous signed)) result
      cases plan with
      | none =>
        cases same
        exact keeps
      | some plan =>
        cases same
        apply keeps.applyRetainFloor
        rw [result]
        exact (stands plan rfl).store rfl rfl

theorem Intact.appendBody {isSync : Bool} {retainFloor : Option (RetainFloor Sig)} {bundle : Option TakeoverBundle}
    (held : ∀ taken ∈ bundle, grantExtends ns record taken = true → (ns.getEpoch record.epoch).isSome)
    (bounded : ∀ floor ∈ retainFloor, floor.sequence ≤ u64Max ∧ floor.sequence ≠ 0)
    (out : guardian.appendBody record isSync retainFloor bundle clock (some ns) = (reply, some written)) :
    guardian.Intact recoveryId written := by
  unfold Guardian.appendBody at out
  dsimp only at out
  split at out
  · cases out
  rename_i plan planned
  have stands : ∀ freeing ∈ plan, guardian.PlanStands ns freeing := by
    intro freeing present
    cases retainFloor with
    | none =>
      cases planned
      cases present
    | some floor =>
      apply retainPlan_stands (bounded floor rfl)
      rw [← show plan = some freeing from present]
      exact planned
  split at out
  · cases out
  split at out
  · cases out
  split at out
  · rename_i outcome occupied
    subst out
    unfold occupiedSlot at occupied
    dsimp only at occupied
    split at occupied
    · cases occupied
    split at occupied
    · cases occupied
    split at occupied
    · split at occupied
      · cases occupied
      split at occupied
      · cases occupied
      simp only [Option.some.injEq, Prod.mk.injEq, Option.map_eq_some_iff] at occupied
      obtain ⟨-, freeing, present, rfl⟩ := occupied
      exact intact.applyRetainFloor (stands freeing present)
    · split at occupied <;> cases occupied
  · exact intact.acceptRecord identity held stands out

end

end Append

section Epochs

variable {superseded : GuardianState} {newEpoch certIssuedAt receiptIssuedAt : Nat} {newWriterPublicKey : Bytes32}
  {reply : Reply Sig} {written : Namespace Sig}

variable {certs : List (TakeoverCertificate Sig)} {bundle : TakeoverBundle} {head : LogHead}

theorem certifies_takeoverRow (identity : superseded.recoveryId = recoveryId)
    (follows : newEpoch = superseded.lease.epoch + 1) : guardian.Certifies recoveryId superseded.origin
      (guardian.takeoverRow superseded newEpoch newWriterPublicKey certIssuedAt receiptIssuedAt) superseded where
  takeover := ⟨_, rfl, rfl, guardian.verify_sign _, by rw [← identity]; rfl, guardian.verify_sign _⟩
  identity := identity
  sameOrigin := rfl
  follows := follows

theorem takeoverBundle_spec (accepted : guardian.takeoverBundle certs = .ok bundle) :
    bundle.certified.logHead ∈ bundle.heads ∧ bundle.newEpoch = bundle.certified.lease.epoch + 1 := by
  unfold takeoverBundle at accepted
  split at accepted
  · cases accepted
  rename_i reference rest
  split at accepted
  · cases accepted
  dsimp only at accepted
  split at accepted
  · cases accepted
  split at accepted
  · cases accepted
  · rename_i follows
    cases accepted
    refine ⟨?_, not_not.mp follows⟩
    have nonempty : sortedHeads (reference :: rest) ≠ [] := by
      apply List.ne_nil_of_length_pos
      rw [sortedHeads, List.length_insertionSort]
      exact Nat.succ_pos _
    show (sortedHeads (reference :: rest)).getLast?.getD genesisLogHead ∈ _
    rw [List.getLast?_eq_some_getLast nonempty]
    exact List.getLast_mem nonempty

theorem headOffLog_spec (on : headOffLog ns head = none) : head = genesisLogHead ∨ head = ns.state.logHead ∨
      ns.retainedFrom ≤ head.sequence ∧ ∃ record ∈ ns.records, record.head = head := by
  unfold headOffLog at on
  split at on
  · rename_i known
    exact known.imp_right fun same => Or.inl same.symm
  · split at on
    · cases on
    · rename_i retained
      split at on
      · cases on
      rename_i stored found
      split at on
      · cases on
      rename_i same
      obtain ⟨member, sequence⟩ := mem_of_getRecord found
      refine Or.inr (Or.inr ⟨not_lt.mp retained, stored, member, ?_⟩)
      cases head
      simp only [RecordRow.head, LogHead.mk.injEq, ne_eq, not_or, not_not] at same sequence ⊢
      exact ⟨sequence, same⟩

abbrev upTo (ns : Namespace Sig) (bound : Nat) : List (RecordRow Sig) :=
  ns.records.filter fun row => row.sequence ≤ bound

theorem headOnLog_filter {bound : Nat} (on : headOnLog ns head = true) (le : head.sequence ≤ bound) :
    headOnLog { ns with records := upTo ns bound } head = true := by
  rw [headOnLog_iff] at on ⊢
  refine on.imp_right ?_
  rintro ⟨record, found, same⟩
  refine ⟨record, ?_, same⟩
  show (ns.records.filter _).find? _ = some record
  rw [List.find?_filter, ← found, Namespace.getRecord]
  congr 1
  funext other
  by_cases at_head : other.sequence = head.sequence
  · simp [at_head, le]
  · simp [at_head]

variable (intact : guardian.Intact recoveryId ns)
include intact

theorem Intact.grant {records : List (RecordRow Sig)}
    (walks : guardian.Walks recoveryId (fun head => headOnLog { ns with records := records } head) ns.base ns.replayed
      records { ns.state with logHead := superseded.logHead })
    (kept : ∀ floor ∈ ns.retainFloor, records.head? = ns.records.head?)
    (identity : superseded.recoveryId = recoveryId) (origin : superseded.origin = ns.state.origin)
    (follows : newEpoch = superseded.lease.epoch + 1) (le : ns.state.lease.epoch ≤ superseded.lease.epoch)
    (writer : superseded.lease.epoch = ns.state.lease.epoch →
      superseded.lease.writerPublicKey = ns.state.lease.writerPublicKey)
    (out : guardian.grant { ns with records := records } superseded newEpoch newWriterPublicKey certIssuedAt
      receiptIssuedAt = (reply, some written)) :
    guardian.Intact recoveryId written := by
  have above : ∀ other ∈ ns.epochs, other.epoch < newEpoch := by
    intro other member
    have := intact.latest other member
    omega
  have certifies : guardian.Certifies recoveryId ns.state.origin
      (guardian.takeoverRow superseded newEpoch newWriterPublicKey certIssuedAt receiptIssuedAt) superseded := by
    rw [← origin]
    exact certifies_takeoverRow identity follows
  have taken := walks.takeOver certifies ⟨Or.inl rfl, le, writer⟩
  unfold Guardian.grant at out
  dsimp only at out
  obtain ⟨inserted, insertion, same⟩ := orInternal_eq_some out
  rw [Namespace.insertEpoch_last _ above] at insertion
  cases insertion
  cases same
  have final : ({ superseded with lease := ⟨newEpoch, newWriterPublicKey⟩ } : GuardianState) =
      ⟨ns.state.recoveryId, ⟨newEpoch, newWriterPublicKey⟩, ns.state.origin, superseded.logHead⟩ := by
    rw [identity, origin, intact.state.1]
  rw [final]
  generalize isRow : guardian.takeoverRow superseded newEpoch newWriterPublicKey certIssuedAt receiptIssuedAt = row
    at certifies taken
  have epoch : row.epoch = newEpoch := isRow ▸ rfl
  have key : row.writerPublicKey = newWriterPublicKey := isRow ▸ rfl
  subst epoch key
  have base_le := intact.walks.epoch_le
  have replayed : ((ns.epochs ++ [row]).filter fun row => ns.base.lease.epoch < row.epoch) = ns.replayed ++ [row] := by
    rw [List.filter_append, List.filter_cons_of_pos (by simp only [decide_eq_true_eq]; omega)]
    rfl
  exact
    { intact with
      receipt := receiptVerifies_signReceipt _ _
      takeovers := by
        obtain ⟨takeovers, rows, certified⟩ := intact.takeovers
        have appended : ns.epochs ++ [row] = ns.registrationRow :: (takeovers ++ [row]) := by rw [rows]; rfl
        refine ⟨takeovers ++ [row], appended, ?_⟩
        rw [intact.state.2] at certifies
        exact List.forall_mem_append.mpr ⟨certified, List.forall_mem_singleton.mpr ⟨superseded, certifies⟩⟩
      sorted := List.pairwise_append.mpr
        ⟨intact.sorted, List.pairwise_singleton _ _, fun other member =>
          List.forall_mem_singleton.mpr (above other member)⟩
      leased := ⟨row, List.mem_append_right _ (List.mem_singleton_self _), rfl, rfl⟩
      latest := List.forall_mem_append.mpr
        ⟨fun other member => (above other member).le, List.forall_mem_singleton.mpr le_rfl⟩
      floor := by
        intro floor stored
        obtain ⟨verifies, ⟨named, member, lease⟩, below, ⟨first, start, first_epoch⟩, written⟩ :=
          intact.floor floor stored
        refine ⟨verifies, ⟨named, List.mem_append_left _ member, lease⟩, ?_, ⟨first, ?_, first_epoch⟩, written⟩
        · refine List.forall_mem_append.mpr ⟨below, List.forall_mem_singleton.mpr fun reached => ?_⟩
          have base : ns.base = floor.state := base_of_some stored
          rw [base] at base_le
          omega
        · show first ∈ records.head?
          rw [kept floor stored]
          exact start
      walks := by
        rw [← replayed] at taken
        exact taken }

theorem Intact.acquireBody {request : AcquireEpoch Sig}
    {clock : Nat → Nat} (follows : request.newEpoch = request.expectedState.lease.epoch + 1)
    (out : guardian.acquireBody request clock (some ns) = (reply, some written)) :
    guardian.Intact recoveryId written := by
  unfold Guardian.acquireBody at out
  dsimp only at out
  split at out
  · cases out
  split at out
  · rename_i outcome held
    subst out
    obtain ⟨row, -, held⟩ := Option.bind_eq_some_iff.mp held
    split at held
    · cases held
    obtain ⟨takeover, -, held⟩ := Option.bind_eq_some_iff.mp held
    split at held <;> cases held
  · split at out
    · cases out
    · rename_i expected
      rw [not_not.mp expected] at follows
      exact intact.grant intact.walks (fun _ _ => rfl) intact.state.1 rfl follows le_rfl (fun _ => rfl) out

theorem Intact.state_onLog : headOnLog ns ns.state.logHead = true := by
  have head := intact.walks.logHead
  unfold headAfter at head
  cases last : ns.records.getLast? with
  | some record =>
    rw [last] at head
    rw [head]
    exact intact.headOnLog_of_mem (List.mem_of_getLast? last)
  | none =>
    rw [last] at head
    cases stored : ns.retainFloor with
    | none =>
      rw [base_of_none stored] at head
      exact headOnLog_iff.mpr (Or.inl (head.trans intact.genesis))
    | some floor =>
      obtain ⟨first, start, -⟩ := (intact.floor floor stored).kept
      rw [List.getLast?_eq_none_iff.mp last] at start
      cases start

theorem Intact.headOnLog_unique {a b : LogHead}
    (onA : headOnLog ns a = true) (onB : headOnLog ns b = true) (same : a.sequence = b.sequence) : a = b := by
  rw [headOnLog_iff] at onA onB
  have positive : ∀ record, ns.getRecord 0 ≠ some record := by
    intro record found
    obtain ⟨member, zero⟩ := mem_of_getRecord found
    have := (intact.base_lt member).1
    omega
  rcases onA with rfl | ⟨recordA, foundA, rfl⟩ <;> rcases onB with rfl | ⟨recordB, foundB, rfl⟩
  · rfl
  · rw [← same] at foundB
    exact absurd foundB (positive _)
  · rw [same] at foundA
    exact absurd foundA (positive _)
  · rw [same, foundB] at foundA
    rw [Option.some.inj foundA]

theorem Intact.cut (on : headOnLog ns head = true)
    (granted : ∀ row ∈ ns.epochs, row.grantedHead.sequence ≤ head.sequence)
    (retained : ∀ floor ∈ ns.retainFloor, floor.state.logHead.sequence ≤ head.sequence) : guardian.Walks recoveryId
        (fun head' => headOnLog { ns with records := upTo ns head.sequence } head') ns.base ns.replayed
        (upTo ns head.sequence) { ns.state with logHead := head } ∧
      ∀ floor ∈ ns.retainFloor, (upTo ns head.sequence).head? = ns.records.head? := by
  have sorted := intact.records_sorted
  have positive : ∀ floor ∈ ns.retainFloor, 1 ≤ head.sequence := by
    intro floor stored
    exact (intact.starts.trans (intact.floor floor stored).origin.2.2.2).trans (retained floor stored)
  have after : headAfter ns.base.logHead (upTo ns head.sequence) = head := by
    rcases headOnLog_iff.mp on with rfl | ⟨record, found, rfl⟩
    · have none : upTo ns genesisLogHead.sequence = [] := by
        rw [List.filter_eq_nil_iff]
        intro row member reached
        have := (intact.base_lt member).1
        have : row.sequence ≤ 0 := of_decide_eq_true reached
        omega
      rw [none]
      cases stored : ns.retainFloor with
      | none =>
        rw [base_of_none stored, intact.genesis]
        rfl
      | some floor =>
        exact absurd (positive floor stored) (by decide)
    · exact headAfter_filter _ sorted (mem_of_getRecord found).1
  have walks := intact.walks
  rw [filter_append_filter head.sequence sorted] at walks
  refine ⟨?_, ?_⟩
  · have cut := walks.cut (fun head' => headOnLog { ns with records := upTo ns head.sequence } head')
      intact.base_starts
    rw [after] at cut
    apply cut
    intro row member
    have le := granted row (mem_replayed.mp member).1
    have there := intact.granted_onLog row member
    exact ⟨le, fun same => intact.headOnLog_unique there on same, headOnLog_filter there le⟩
  · intro floor stored
    obtain ⟨first, start, -⟩ := (intact.floor floor stored).kept
    obtain ⟨rest, records⟩ : ∃ rest, ns.records = first :: rest := List.head?_eq_some_iff.mp start
    have reached : first.sequence ≤ head.sequence := by
      rcases headOnLog_iff.mp on with rfl | ⟨record, found, rfl⟩
      · exact absurd (positive floor stored) (by decide)
      · have member := (mem_of_getRecord found).1
        rw [records] at member sorted
        rcases List.mem_cons.mp member with rfl | member
        · exact le_rfl
        · exact ((List.pairwise_cons.mp sorted).1 record member).le
    rw [upTo, records, List.filter_cons_of_pos (by simpa using reached)]
    rfl

theorem Intact.syncEpochBody {clock : Nat → Nat}
    (accepted : guardian.takeoverBundle certs = .ok bundle) (identity : bundle.certified.recoveryId = recoveryId)
    (above : adoptionProblem ns bundle = none →
      (∀ row ∈ ns.epochs, row.grantedHead.sequence ≤ bundle.certified.logHead.sequence) ∧
      ∀ floor ∈ ns.retainFloor, floor.state.logHead.sequence ≤ bundle.certified.logHead.sequence)
    (out : guardian.syncEpochBody bundle clock (some ns) = (reply, some written)) :
    guardian.Intact recoveryId written := by
  obtain ⟨member, follows⟩ := takeoverBundle_spec accepted
  unfold Guardian.syncEpochBody at out
  dsimp only at out
  split at out
  · cases out
  · rename_i adopted
    obtain ⟨granted, retained⟩ := above adopted
    simp only [adoptionProblem, firstRefusal_eq_none, List.forall_mem_singleton, List.forall_mem_cons,
      refuseIf_eq_none, not_not, not_lt, not_and, List.findSome?_eq_none_iff] at adopted
    obtain ⟨origin, le, writer, -, heads⟩ := adopted
    have on : headOnLog ns bundle.certified.logHead = true := by
      rcases headOffLog_spec (heads _ member) with genesis | same | ⟨-, record, present, same⟩
      · exact headOnLog_iff.mpr (Or.inl genesis)
      · exact same ▸ intact.state_onLog
      · exact same ▸ intact.headOnLog_of_mem present
    obtain ⟨walks, kept⟩ := intact.cut on granted retained
    exact intact.grant walks kept identity origin.symm follows le (fun same => (writer same.symm).symm) out

end Epochs

end Guardian

end Beignet.Recovery
