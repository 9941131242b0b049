import Beignet.Recovery.OpenWalk

namespace Beignet.Recovery

variable {Sig : Type}

namespace Guardian

variable (guardian : Guardian Sig) (recoveryId : Bytes32)

structure Certifies (origin : ChainOrigin) (row : EpochRow Sig) (superseded : GuardianState) : Prop where
  takeover : ∃ takeover, row.takeover = some takeover ∧ takeover.supersededState = superseded ∧
    guardian.verifyTranscript (.takeover guardian.guardianSetId guardian.guardianId superseded row.epoch
      row.writerPublicKey takeover.certIssuedAt) takeover.certSignature guardian.guardianId = true ∧
    takeover.receiptState = ⟨recoveryId, ⟨row.epoch, row.writerPublicKey⟩, origin, superseded.logHead⟩ ∧
    guardian.receiptVerifies takeover.receiptState takeover.receiptIssuedAt takeover.receiptSignature = true
  identity : superseded.recoveryId = recoveryId
  sameOrigin : superseded.origin = origin
  follows : row.epoch = superseded.lease.epoch + 1

structure Fits (sim : GuardianState) (record : RecordRow Sig) : Prop where
  epoch : record.epoch = sim.lease.epoch
  sequence : record.sequence = sim.expectedSequence
  previous : record.previousHash = sim.expectedPrevious
  hashed : guardian.sha256 record.ciphertext = record.ciphertextHash
  signed : guardian.verifyTranscript (.record guardian.guardianSetId recoveryId record.epoch record.sequence
    record.previousHash record.frameHash record.ciphertextHash) record.writerSignature
    sim.lease.writerPublicKey = true

structure Extends (onLog : LogHead → Prop) (sim superseded : GuardianState) : Prop where
  head : superseded.logHead = sim.logHead ∨ superseded.lease.epoch = sim.lease.epoch ∧
    superseded.logHead.sequence < sim.logHead.sequence ∧ onLog superseded.logHead
  epoch : sim.lease.epoch ≤ superseded.lease.epoch
  writer : superseded.lease.epoch = sim.lease.epoch → superseded.lease.writerPublicKey = sim.lease.writerPublicKey

inductive Walks (onLog : LogHead → Prop) :
    GuardianState → List (EpochRow Sig) → List (RecordRow Sig) → GuardianState → Prop
  | stop (sim : GuardianState) : Walks onLog sim [] [] sim
  | takeover {sim superseded final : GuardianState} {row : EpochRow Sig} {rest : List (EpochRow Sig)}
      {records : List (RecordRow Sig)} (waits : ∀ record ∈ records.head?, sim.lease.epoch < record.epoch)
      (certifies : guardian.Certifies recoveryId sim.origin row superseded)
      (extending : Extends onLog sim superseded)
      (walks : Walks onLog { sim with lease := ⟨row.epoch, row.writerPublicKey⟩ } rest records final) :
      Walks onLog sim (row :: rest) records final
  | record {sim final : GuardianState} {pending : List (EpochRow Sig)} {record : RecordRow Sig}
      {records : List (RecordRow Sig)} (fits : guardian.Fits recoveryId sim record)
      (walks : Walks onLog { sim with logHead := record.head } pending records final) :
      Walks onLog sim pending (record :: records) final

variable {guardian} {recoveryId} {onLog : LogHead → Prop} {sim final superseded : GuardianState}
  {pending : List (EpochRow Sig)} {records : List (RecordRow Sig)} {row : EpochRow Sig} {record : RecordRow Sig}

section Basic

theorem Certifies.grantedHead (certifies : guardian.Certifies recoveryId sim.origin row superseded) :
    row.grantedHead = superseded.logHead := by
  obtain ⟨takeover, found, same, -⟩ := certifies.takeover
  rw [EpochRow.grantedHead, found, ← same]
  rfl

theorem Extends.lt_epoch (extending : Extends onLog sim superseded)
    (certifies : guardian.Certifies recoveryId sim.origin row superseded) : sim.lease.epoch < row.epoch := by
  have := extending.epoch
  have := certifies.follows
  omega

theorem Extends.head_le (extending : Extends onLog sim superseded) :
    superseded.logHead.sequence ≤ sim.logHead.sequence := by
  rcases extending.head with same | ⟨-, lt, -⟩
  · rw [same]
  · exact lt.le

theorem lt_expectedSequence (starts : 1 ≤ sim.origin.firstSequence) :
    sim.logHead.sequence < sim.expectedSequence := by
  unfold GuardianState.expectedSequence
  split
  · rename_i genesis
    rw [genesis]
    exact starts
  · exact Nat.lt_succ_self _

section

variable (walks : guardian.Walks recoveryId onLog sim pending records final)
include walks

theorem Walks.origin : final.origin = sim.origin := by
  induction walks with
  | stop => rfl
  | takeover _ _ _ _ ih => exact ih
  | record _ _ ih => exact ih

theorem Walks.identity : final.recoveryId = sim.recoveryId := by
  induction walks with
  | stop => rfl
  | takeover _ _ _ _ ih => exact ih
  | record _ _ ih => exact ih

theorem Walks.epoch_le : sim.lease.epoch ≤ final.lease.epoch := by
  induction walks with
  | stop => exact le_rfl
  | takeover _ certifies extending _ ih => exact (extending.lt_epoch certifies).le.trans ih
  | record _ _ ih => exact ih

theorem Walks.pending_epochs : ∀ row ∈ pending, sim.lease.epoch < row.epoch ∧ row.epoch ≤ final.lease.epoch := by
  induction walks with
  | stop => simp
  | @takeover sim superseded final row rest records _ certifies extending walks ih =>
    intro other member
    have lt := extending.lt_epoch certifies
    rcases List.mem_cons.mp member with rfl | member
    · exact ⟨lt, walks.epoch_le⟩
    · exact ⟨lt.trans (ih other member).1, (ih other member).2⟩
  | record _ _ ih => exact ih

theorem Walks.sequences (starts : 1 ≤ sim.origin.firstSequence) : (records.map RecordRow.sequence).Pairwise (· < ·) ∧
      (∀ record ∈ records, sim.expectedSequence ≤ record.sequence ∧ record.sequence ≤ final.logHead.sequence) ∧
      sim.logHead.sequence ≤ final.logHead.sequence := by
  induction walks with
  | stop => exact ⟨List.Pairwise.nil, by simp, le_rfl⟩
  | takeover _ _ _ _ ih => exact ih starts
  | @record sim final pending record records fits walks ih =>
    obtain ⟨sorted, bounds, grows⟩ := ih starts
    have lt : sim.logHead.sequence < record.sequence := fits.sequence ▸ lt_expectedSequence starts
    have nonzero : record.head ≠ genesisLogHead := by
      intro genesis
      have : record.sequence = 0 := congrArg LogHead.sequence genesis
      omega
    have next : ({ sim with logHead := record.head } : GuardianState).expectedSequence = record.sequence + 1 :=
      if_neg nonzero
    refine ⟨?_, ?_, lt.le.trans grows⟩
    · rw [List.map_cons, List.pairwise_cons]
      refine ⟨?_, sorted⟩
      intro sequence member
      obtain ⟨other, present, rfl⟩ := List.mem_map.mp member
      have := (bounds other present).1
      omega
    · intro other member
      rcases List.mem_cons.mp member with rfl | member
      · exact ⟨fits.sequence.ge, grows⟩
      · have := bounds other member
        have := fits.sequence
        omega

theorem Walks.record_epochs : ∀ record ∈ records, record.epoch ≤ final.lease.epoch := by
  induction walks with
  | stop => simp
  | takeover _ _ _ _ ih => exact ih
  | record fits walks ih =>
    intro other member
    rcases List.mem_cons.mp member with rfl | member
    · rw [fits.epoch]
      exact walks.epoch_le
    · exact ih other member

theorem Walks.mono {onLog' : LogHead → Prop} (kept : ∀ row ∈ pending, onLog row.grantedHead → onLog' row.grantedHead) :
    guardian.Walks recoveryId onLog' sim pending records final := by
  induction walks with
  | stop => exact .stop _
  | takeover waits certifies extending _ ih =>
    refine .takeover waits certifies ⟨?_, extending.epoch, extending.writer⟩
      (ih fun row member => kept row (List.mem_cons_of_mem _ member))
    rcases extending.head with same | ⟨epoch, lt, on⟩
    · exact Or.inl same
    · rw [← certifies.grantedHead] at on ⊢
      exact Or.inr ⟨epoch, certifies.grantedHead ▸ lt, kept _ List.mem_cons_self on⟩
  | record fits _ ih => exact .record fits (ih kept)

end

end Basic

section Growth

variable (walks : guardian.Walks recoveryId onLog sim pending records final)
include walks

theorem Walks.append (fits : guardian.Fits recoveryId final record) :
    guardian.Walks recoveryId onLog sim pending (records ++ [record]) { final with logHead := record.head } := by
  induction walks with
  | stop => exact .record fits (.stop _)
  | @takeover sim superseded final row rest records waits certifies extending walks ih =>
    refine .takeover ?_ certifies extending (ih fits)
    cases records with
    | nil =>
      intro next member
      cases member
      rw [fits.epoch]
      exact (extending.lt_epoch certifies).trans_le walks.epoch_le
    | cons => exact waits
  | record earlier _ ih => exact .record earlier (ih fits)

theorem Walks.takeOver (certifies : guardian.Certifies recoveryId final.origin row superseded)
    (extending : Extends onLog final superseded) : guardian.Walks recoveryId onLog sim (pending ++ [row]) records
      { final with lease := ⟨row.epoch, row.writerPublicKey⟩ } := by
  induction walks with
  | stop => exact .takeover (by simp) certifies extending (.stop _)
  | takeover waits earlier fitting _ ih => exact .takeover waits earlier fitting (ih certifies extending)
  | record fits _ ih => exact .record fits (ih certifies extending)

omit walks in
theorem Walks.of_no_takeovers (walks : guardian.Walks recoveryId onLog sim [] records final) :
    final.lease = sim.lease ∧ (records = [] ∧ final = sim ∨ final.logHead.recordEpoch = sim.lease.epoch) := by
  generalize none : ([] : List (EpochRow Sig)) = pending at walks
  induction walks with
  | stop => exact ⟨rfl, Or.inl ⟨rfl, rfl⟩⟩
  | takeover => cases none
  | record fits _ ih =>
    obtain ⟨lease, ⟨-, same⟩ | written⟩ := ih none
    · refine ⟨lease, Or.inr ?_⟩
      rw [same]
      exact fits.epoch
    · exact ⟨lease, Or.inr written⟩

theorem Walks.unwritten (starts : 1 ≤ sim.origin.firstSequence) (written : sim.logHead.recordEpoch ≤ sim.lease.epoch)
    (member : row ∈ pending) (last : row.epoch = final.lease.epoch) (head : row.grantedHead = final.logHead) :
    final.logHead.recordEpoch < final.lease.epoch := by
  induction walks with
  | stop => exact absurd member (by simp)
  | @takeover sim superseded final first rest records _ certifies extending walks ih =>
    have lt := extending.lt_epoch certifies
    rcases List.mem_cons.mp member with rfl | member
    · cases walks with
      | stop => exact written.trans_lt lt
      | takeover _ later fitting walks =>
        have := fitting.lt_epoch later
        have := walks.epoch_le
        dsimp only at *
        omega
      | @record _ _ _ record _ fits walks =>
        have le := extending.head_le
        rw [← certifies.grantedHead, head] at le
        have grows : record.sequence ≤ final.logHead.sequence := (walks.sequences starts).2.2
        have lt : sim.logHead.sequence < record.sequence := fits.sequence ▸ lt_expectedSequence starts
        omega
    · exact ih starts (written.trans lt.le) member last head
  | record fits _ ih =>
    refine ih starts ?_ member last head
    exact fits.epoch.le

theorem Walks.extend {writerPublicKey : Bytes32} (starts : 1 ≤ sim.origin.firstSequence) (granted : sim.lease.epoch < final.lease.epoch)
    (unwritten : final.logHead.recordEpoch < final.lease.epoch)
    (held : sim.lease.epoch = record.epoch ∨ ∃ row ∈ pending, row.epoch = record.epoch)
    (previous : record.epoch + 1 = final.lease.epoch)
    (writer : ∀ row ∈ pending, ∀ superseded, guardian.Certifies recoveryId sim.origin row superseded →
      row.epoch = final.lease.epoch → superseded.lease.writerPublicKey = writerPublicKey)
    (fits : guardian.Fits recoveryId { final with lease := ⟨record.epoch, writerPublicKey⟩ } record)
    (on : ∀ row ∈ pending, onLog row.grantedHead) :
    guardian.Walks recoveryId onLog sim pending (records ++ [record]) { final with logHead := record.head } := by
  induction walks with
  | stop => exact absurd granted (lt_irrefl _)
  | @takeover sim superseded final row rest records waits certifies extending walks ih =>
    have lt := extending.lt_epoch certifies
    rcases walks.epoch_le.lt_or_eq with below | last
    · -- A later takeover is the one the record goes under.
      dsimp only at below
      refine .takeover ?_ certifies extending (ih starts below unwritten ?_ previous ?_ fits ?_)
      · cases records with
        | nil =>
          intro next member
          cases member
          omega
        | cons => exact waits
      · rcases held with same | ⟨other, member, same⟩
        · omega
        · rcases List.mem_cons.mp member with rfl | member
          · exact Or.inl same
          · exact Or.inr ⟨other, member, same⟩
      · intro other member
        exact writer other (List.mem_cons_of_mem _ member)
      · intro other member
        exact on other (List.mem_cons_of_mem _ member)
    · -- The last takeover: no record was written under it.
      dsimp only at last
      have alone : rest = [] := by
        apply List.eq_nil_iff_forall_not_mem.mpr
        intro other member
        have := walks.pending_epochs other member
        dsimp only at this
        omega
      subst alone
      obtain ⟨-, ⟨rfl, rfl⟩ | written⟩ := walks.of_no_takeovers
      · have here : sim.lease.epoch = record.epoch := by
          rcases held with same | ⟨other, member, same⟩
          · exact same
          · rw [List.mem_singleton.mp member] at same
            omega
        have follows := certifies.follows
        have epoch : superseded.lease.epoch = sim.lease.epoch := by omega
        have key : sim.lease = ⟨record.epoch, writerPublicKey⟩ := by
          have same := writer row List.mem_cons_self superseded certifies rfl
          rw [extending.writer epoch] at same
          rw [← here, ← same]
        have fitting : guardian.Fits recoveryId sim record := by
          rw [← key] at fits
          exact fits
        refine .record fitting (.takeover (by simp) certifies ⟨Or.inr ⟨epoch, ?_, ?_⟩, extending.epoch,
          extending.writer⟩ (.stop _))
        · apply extending.head_le.trans_lt
          show sim.logHead.sequence < record.sequence
          rw [fitting.sequence]
          exact lt_expectedSequence starts
        · rw [← certifies.grantedHead]
          exact on row List.mem_cons_self
      · dsimp only at written
        omega
  | @record sim final pending first records earlier walks ih =>
    exact .record earlier (ih starts granted unwritten held previous writer fits on)

end Growth

section Cut

def headAfter (start : LogHead) (records : List (RecordRow Sig)) : LogHead :=
  (records.getLast?.map RecordRow.head).getD start

theorem headAfter_cons (start : LogHead) (record : RecordRow Sig) (records : List (RecordRow Sig)) :
    headAfter start (record :: records) = headAfter record.head records := by
  unfold headAfter
  rw [List.getLast?_cons]
  cases records.getLast? <;> rfl

theorem le_headAfter {start : LogHead} {records : List (RecordRow Sig)}
    (above : ∀ record ∈ records, start.sequence ≤ record.sequence) :
    start.sequence ≤ (headAfter start records).sequence := by
  unfold headAfter
  cases last : records.getLast? with
  | none => exact le_rfl
  | some record => exact above record (List.mem_of_getLast? last)

theorem Walks.logHead (walks : guardian.Walks recoveryId onLog sim pending records final) :
    final.logHead = headAfter sim.logHead records := by
  induction walks with
  | stop => rfl
  | takeover _ _ _ _ ih => exact ih
  | record _ _ ih => rw [headAfter_cons]; exact ih

theorem Walks.without_records {onLog' : LogHead → Prop} {head : LogHead}
    (walks : guardian.Walks recoveryId onLog sim pending records final)
    (starts : 1 ≤ sim.origin.firstSequence) (earlier : head.sequence ≤ sim.logHead.sequence)
    (granted : ∀ row ∈ pending, row.grantedHead.sequence ≤ head.sequence ∧
      (row.grantedHead.sequence = head.sequence → row.grantedHead = head) ∧ onLog' row.grantedHead) :
    guardian.Walks recoveryId onLog' { sim with logHead := head } pending [] { final with logHead := head } := by
  induction walks with
  | stop => exact .stop _
  | @takeover sim superseded final row rest records waits certifies extending walks ih =>
    obtain ⟨le, same, on⟩ := granted row List.mem_cons_self
    rw [certifies.grantedHead] at le same on
    refine .takeover (by simp) certifies ⟨?_, extending.epoch, extending.writer⟩
      (ih starts earlier fun other member => granted other (List.mem_cons_of_mem _ member))
    rcases le.lt_or_eq with lt | eq
    · rcases extending.head with atHead | ⟨epoch, -, -⟩
      · rw [atHead] at lt
        omega
      · exact Or.inr ⟨epoch, lt, on⟩
    · exact Or.inl (same eq)
  | @record sim final pending first records fits walks ih =>
    apply ih starts _ granted
    have lt : sim.logHead.sequence < first.sequence := fits.sequence ▸ lt_expectedSequence starts
    exact earlier.trans lt.le

theorem Walks.cut {kept rest : List (RecordRow Sig)}
    (walks : guardian.Walks recoveryId onLog sim pending (kept ++ rest) final) (onLog' : LogHead → Prop)
    (starts : 1 ≤ sim.origin.firstSequence)
    (granted : ∀ row ∈ pending, row.grantedHead.sequence ≤ (headAfter sim.logHead kept).sequence ∧
      (row.grantedHead.sequence = (headAfter sim.logHead kept).sequence →
        row.grantedHead = headAfter sim.logHead kept) ∧ onLog' row.grantedHead) :
    guardian.Walks recoveryId onLog' sim pending kept { final with logHead := headAfter sim.logHead kept } := by
  generalize split : kept ++ rest = records at walks
  induction walks generalizing kept with
  | stop =>
    rw [(List.append_eq_nil_iff.mp split).1]
    exact .stop _
  | @takeover sim superseded final row rest' records waits certifies extending walks ih =>
    cases kept with
    | nil => exact (Walks.takeover waits certifies extending walks).without_records starts le_rfl granted
    | cons first kept =>
      subst split
      refine .takeover waits certifies ⟨?_, extending.epoch, extending.writer⟩
        (ih starts (fun other member => granted other (List.mem_cons_of_mem _ member)) rfl)
      rcases extending.head with same | ⟨epoch, lt, -⟩
      · exact Or.inl same
      · exact Or.inr ⟨epoch, lt, certifies.grantedHead ▸ (granted row List.mem_cons_self).2.2⟩
  | @record sim final pending first records fits walks ih =>
    cases kept with
    | nil => exact (Walks.record fits walks).without_records starts le_rfl granted
    | cons other kept =>
      obtain ⟨rfl, tail⟩ := List.cons.inj split
      rw [headAfter_cons] at granted ⊢
      exact .record fits (ih starts granted tail)

end Cut

section Floor

/-- At a record of the last lease the replay can be resumed without the takeovers before it, which were granted
    below it. -/
theorem Walks.resume {kept : RecordRow Sig} {before after : List (RecordRow Sig)}
    (walks : guardian.Walks recoveryId onLog sim pending (before ++ kept :: after) final)
    (starts : 1 ≤ sim.origin.firstSequence) (last : kept.epoch = final.lease.epoch) :
    guardian.Walks recoveryId onLog { final with logHead := headAfter sim.logHead before } [] (kept :: after)
      final ∧ ∀ row ∈ pending, row.grantedHead.sequence ≤ (headAfter sim.logHead before).sequence := by
  generalize split : before ++ kept :: after = records at walks
  induction walks generalizing before with
  | stop => simp at split
  | @takeover sim superseded final row rest records waits certifies extending walks ih =>
    obtain ⟨resumed, below⟩ := ih starts last split
    refine ⟨resumed, ?_⟩
    intro other member
    rcases List.mem_cons.mp member with rfl | member
    · rw [certifies.grantedHead]
      apply extending.head_le.trans
      apply le_headAfter
      intro earlier present
      have bound := (walks.sequences starts).2.1 earlier (split ▸ List.mem_append_left _ present)
      exact (lt_expectedSequence starts).le.trans bound.1
    · exact below other member
  | @record sim final pending first records fits walks ih =>
    cases before with
    | nil =>
      obtain ⟨rfl, rfl⟩ := List.cons.inj split
      have none : pending = [] := by
        apply List.eq_nil_iff_forall_not_mem.mpr
        intro other member
        have bounds := walks.pending_epochs other member
        have epoch := fits.epoch
        dsimp only at bounds
        omega
      subst none
      have whole := Walks.record fits walks
      have same : { final with logHead := headAfter sim.logHead ([] : List (RecordRow Sig)) } = sim := by
        have lease := whole.of_no_takeovers.1
        have origin := whole.origin
        have identity := whole.identity
        cases sim
        simp only [headAfter, List.getLast?_nil, Option.map_none, Option.getD_none] at lease origin identity ⊢
        rw [lease, origin, identity]
      rw [same]
      exact ⟨whole, by simp⟩
    | cons other before =>
      obtain ⟨rfl, tail⟩ := List.cons.inj split
      rw [headAfter_cons]
      exact ih starts last tail

end Floor

section Function

theorem Walks.granted (walks : guardian.Walks recoveryId onLog sim pending records final) (seen : LogHead → Prop)
    (start : seen sim.logHead ∨ ∃ first ∈ records.head?, first.epoch = sim.lease.epoch) :
    ∀ row ∈ pending, seen row.grantedHead ∨ onLog row.grantedHead ∨
      ∃ record ∈ records, row.grantedHead = record.head := by
  induction walks generalizing seen with
  | stop => simp
  | @takeover sim superseded final row rest records waits certifies extending walks ih =>
    have here : seen sim.logHead := by
      rcases start with here | ⟨first, member, same⟩
      · exact here
      · have := waits first member
        omega
    intro other member
    rcases List.mem_cons.mp member with rfl | member
    · rw [certifies.grantedHead]
      rcases extending.head with same | ⟨-, -, on⟩
      · exact Or.inl (same ▸ here)
      · exact Or.inr (Or.inl on)
    · exact ih seen (Or.inl here) other member
  | @record sim final pending first records fits walks ih =>
    intro row member
    have found := ih (first.head = ·) (Or.inl rfl) row member
    rcases found with same | on | ⟨record, present, same⟩
    · exact Or.inr (Or.inr ⟨first, List.mem_cons_self, same.symm⟩)
    · exact Or.inr (Or.inl on)
    · exact Or.inr (Or.inr ⟨record, List.mem_cons_of_mem _ present, same⟩)

variable {ns : Namespace Sig} {target regState : GuardianState} {floor : Option GuardianState} {impossible : Bool}

theorem takeoverExtends_iff :
    takeoverExtends ns none sim superseded = true ↔ Extends (fun head => headOnLog ns head) sim superseded := by
  simp only [takeoverExtends, decide_eq_true_eq]
  exact ⟨fun ⟨head, epoch, writer⟩ => ⟨head, epoch, writer⟩, fun ⟨head, epoch, writer⟩ => ⟨head, epoch, writer⟩⟩

theorem applyTakeover_ok {belowFloor : Option GuardianState} (reached : row.epoch ≤ target.lease.epoch)
    (certifies : guardian.Certifies recoveryId sim.origin row superseded)
    (extending : takeoverExtends ns belowFloor sim superseded = true) :
    guardian.applyTakeover ns recoveryId (some target) belowFloor sim row = .ok (if belowFloor.isSome then sim else
        ⟨recoveryId, ⟨row.epoch, row.writerPublicKey⟩, sim.origin, sim.logHead⟩) := by
  obtain ⟨takeover, found, same, certificate, receiptState, receipt⟩ := certifies.takeover
  subst same
  unfold applyTakeover
  rw [if_neg (by simpa using reached), found]
  dsimp only
  rw [if_neg (by simp [certifies.identity, certifies.sameOrigin, certifies.follows, extending]),
    if_neg (by simp [certificate]), if_neg (by simp [receiptState]), if_neg (by simp [← receiptState, receipt])]
  split <;> rfl

theorem replayRecord_ok (fits : guardian.Fits recoveryId sim record) :
    guardian.replayRecord recoveryId sim record = .ok { sim with logHead := record.head } := by
  unfold replayRecord
  rw [if_neg (by simp [fits.epoch]), if_neg (by simp [fits.sequence]), if_neg (by simp [fits.previous]),
    if_neg (by simp [fits.hashed]), if_neg (by simp [fits.signed])]

section

variable (inRange : ¬ (record.sequence < regState.origin.firstSequence ∨
    (floor.any fun floor => record.sequence ≤ floor.logHead.sequence)))
  (reached : ¬ ((some target).any fun target => target.logHead.sequence < record.sequence))
include inRange reached

theorem walkRecord_takeover {next : GuardianState} {rest : List (EpochRow Sig)}
    (waits : sim.lease.epoch < record.epoch)
    (applied : guardian.applyTakeover ns recoveryId (some target) none sim row = .ok next) :
    guardian.walkRecord ns recoveryId regState (some target) floor ⟨sim, row :: rest, impossible⟩ record =
      guardian.walkRecord ns recoveryId regState (some target) floor ⟨next, rest, impossible⟩ record := by
  unfold walkRecord
  rw [if_neg inRange, if_neg inRange, if_neg reached, if_neg reached]
  dsimp only
  rw [advanceTo, if_pos waits, applied]
  rfl

theorem walkRecord_record (fits : guardian.Fits recoveryId sim record) :
    guardian.walkRecord ns recoveryId regState (some target) floor ⟨sim, pending, impossible⟩ record =
      .ok ⟨{ sim with logHead := record.head }, pending, impossible⟩ := by
  have ready : guardian.advanceTo ns recoveryId (some target) record.epoch sim pending = .ok (sim, pending) := by
    have here : ¬ sim.lease.epoch < record.epoch := by
      rw [fits.epoch]
      exact lt_irrefl _
    cases pending <;> rw [advanceTo, if_neg here]
  unfold walkRecord
  rw [if_neg inRange, if_neg reached]
  dsimp only
  rw [ready]
  simp only [bind, Except.bind, replayRecord_ok fits, pure, Except.pure]

end

theorem Walks.loops (walks : guardian.Walks recoveryId (fun head => headOnLog ns head) sim pending records final)
    (identity : sim.recoveryId = recoveryId) (reached : ∀ row ∈ pending, row.epoch ≤ target.lease.epoch)
    (inRange : ∀ record ∈ records, ¬ (record.sequence < regState.origin.firstSequence ∨
        (floor.any fun floor => record.sequence ≤ floor.logHead.sequence)) ∧
      ¬ ((some target).any fun target => target.logHead.sequence < record.sequence)) :
    ∃ walk, records.foldlM (guardian.walkRecord ns recoveryId regState (some target) floor)
        ⟨sim, pending, impossible⟩ = .ok walk ∧ walk.impossibleRows = impossible ∧
      walk.pending.foldlM (guardian.applyTakeover ns recoveryId (some target) none) walk.sim = .ok final := by
  induction walks with
  | stop => exact ⟨_, rfl, rfl, rfl⟩
  | @takeover sim superseded final row rest records waits certifies extending walks ih =>
    have applied : guardian.applyTakeover ns recoveryId (some target) none sim row =
        .ok { sim with lease := ⟨row.epoch, row.writerPublicKey⟩ } := by
      rw [applyTakeover_ok (reached row List.mem_cons_self) certifies (takeoverExtends_iff.mpr extending), identity]
      rfl
    obtain ⟨walk, folded, possible, ends⟩ :=
      ih identity (fun other member => reached other (List.mem_cons_of_mem _ member)) inRange
    cases records with
    | nil =>
      cases folded
      refine ⟨_, rfl, rfl, ?_⟩
      rw [List.foldlM_cons, applied]
      exact ends
    | cons first records =>
      obtain ⟨within, below⟩ := inRange first List.mem_cons_self
      refine ⟨walk, ?_, possible, ends⟩
      rw [List.foldlM_cons] at folded ⊢
      rw [walkRecord_takeover within below (waits first rfl) applied]
      exact folded
  | @record sim final pending first records fits walks ih =>
    obtain ⟨within, below⟩ := inRange first List.mem_cons_self
    obtain ⟨walk, folded, possible, ends⟩ :=
      ih identity reached fun other member => inRange other (List.mem_cons_of_mem _ member)
    refine ⟨walk, ?_, possible, ends⟩
    rw [List.foldlM_cons, walkRecord_record within below fits]
    exact folded

end Function

end Guardian

end Beignet.Recovery
