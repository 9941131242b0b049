import Beignet.Data.Machine
import Beignet.Channel.Entries
import Beignet.Keys.SecretRecovery

namespace Beignet.Channel

open Beignet.Data Beignet.Keys
open ChannelState (queueUpdate_htlcs markForReestablish_fst revocationAccepted forwardCommitted promoteLease promoteFee settleRemovals acknowledgeUpdates)

/-! What a channel keeps of the peer's commitments for the day one of them is broadcast after it was
    revoked, and that a commitment's HTLCs are all in it. -/

structure HtlcSnapshotEntry where
  paymentHash : Bytes
  amountMsat : Nat
  cltvExpiry : Nat
  direction : HtlcDirection
  deriving DecidableEq, Repr

def HtlcEntry.snapshot (e : HtlcEntry) : HtlcSnapshotEntry :=
  ⟨e.paymentHash, e.amountMsat, e.cltvExpiry, e.direction⟩

structure HtlcSnapshot where
  commitmentNumber : Nat
  entries : List HtlcSnapshotEntry
  deriving DecidableEq, Repr

abbrev HtlcSnapshots := KeyedMap HtlcSnapshot.commitmentNumber

def recordRevokedHtlcSnapshot (history : HtlcSnapshots) (commitmentNumber : Nat)
    (entries : List HtlcSnapshotEntry) : HtlcSnapshots :=
  if entries = [] then history else history.set ⟨commitmentNumber, entries⟩

-- The source lists the four states an entry can be in, so no entry is left out.
def snapshotRemoteCommitmentHtlcs (s : ChannelState) (history : HtlcSnapshots) (commitmentNumber : Nat) :
    HtlcSnapshots :=
  recordRevokedHtlcSnapshot history commitmentNumber (s.htlcs.values.map HtlcEntry.snapshot)

structure SignedCommitment where
  state : ChannelState
  point : Bytes

structure Guarded where
  state : ChannelState
  revokedHtlcSnapshots : HtlcSnapshots
  signed : Nat → Option SignedCommitment

namespace Guarded

def snapshotOf (g : Guarded) (n : Nat) : List HtlcSnapshotEntry :=
  (g.revokedHtlcSnapshots.get? n).elim [] HtlcSnapshot.entries

/-- The snapshot is taken under the number of the commitment before the one that is signed. -/
def sign (g : Guarded) (after : ChannelState) : Guarded where
  state := after
  revokedHtlcSnapshots :=
    snapshotRemoteCommitmentHtlcs g.state g.revokedHtlcSnapshots g.state.remoteCommitmentNumber
  signed := Function.update g.signed (g.state.remoteCommitmentNumber + 1)
    ((nextSignedPoint g.state).map (SignedCommitment.mk g.state))

def step (prim : Primitives) (ver : Verifier) (g : Guarded) (input : ChannelInput) : Guarded :=
  let r := g.state.step prim ver input
  match input with
  | .signCommitment _ _ _ => if r.sent = [] then { g with state := r.state } else g.sign r.state
  | _ => { g with state := r.state }

def signsInTurn (g : Guarded) : ChannelInput → Bool
  | .signCommitment _ _ _ => !g.state.isAwaitingRemoteRevocation
  | _ => true

end Guarded

def Opening.guarded (prim : Primitives) (o : Opening) (role : ChannelRole) : Guarded where
  state := o.party prim role
  revokedHtlcSnapshots := .empty
  signed := Function.update (fun _ => none) 0
    ((o.party prim role).remoteCurrentPerCommitmentPoint.map (SignedCommitment.mk (o.party prim role)))

section Entries

structure HtlcEntry.Staged (e : HtlcEntry) : Prop where
  removing : e.state.live = false → e.removalRemoteCommitted = some false
  own : e.addRemoteCommitted = some false → e.direction = .offered

theorem staged_invariant : EntryInvariant (fun _ _ => True) (fun _ _ => True) HtlcEntry.Staged where
  offered := fun _ _ _ _ _ _ => ⟨nofun, fun _ => rfl⟩
  received := fun _ _ => ⟨nofun, nofun⟩
  settled := fun _ _ known _ _ _ _ => ⟨fun _ => rfl, known.own⟩
  removed := fun _ _ known _ _ _ _ => ⟨fun _ => rfl, known.own⟩
  signed := fun e known => by
    unfold HtlcEntry.commitPending
    split
    · exact ⟨by rintro ⟨⟩, known.own⟩
    · exact { known with }
  accepted := fun e known => by
    unfold HtlcEntry.commitPending
    split
    · exact ⟨by rintro ⟨⟩, known.own⟩
    · exact { known with }
  acknowledged := fun e known unsettled => by
    have kept : e.acknowledge.Staged := by
      constructor
      · intro dead
        simpa [HtlcEntry.settled, dead] using unsettled
      · intro uncommitted
        apply known.own
        simp only [HtlcEntry.acknowledge] at uncommitted
        split at uncommitted
        · cases uncommitted
        · exact uncommitted
    rw [HtlcEntry.markForwarded_eq]
    exact { kept with }
  restored := fun e known _ => by
    unfold HtlcEntry.restoreRemoval
    split
    · exact ⟨by rintro ⟨⟩, known.own⟩
    · exact known

theorem unstamped_of_acknowledge (e : HtlcEntry) : e.acknowledge.markForwarded.commitCoverPending ≠ some true := by
  rw [HtlcEntry.markForwarded_eq]
  simp only [HtlcEntry.acknowledge]
  split
  · decide
  · assumption

theorem unstamped_of_revocationAccepted (s : ChannelState) :
    ∀ e ∈ s.revocationAccepted.htlcs.values, e.commitCoverPending ≠ some true := by
  intro e member
  obtain ⟨before, -, left⟩ := (s.mem_revocationAccepted e).mp member
  obtain ⟨-, rfl⟩ := HtlcEntry.afterRevocation_eq_some.mp left
  exact unstamped_of_acknowledge before

structure HtlcEntry.Pinned (e : HtlcEntry) : Prop where
  stamped : e.commitCoverPending = some true → e.state.live = true ∧ e.addRemoteCommitted = some false
  signed : e.direction = .received → e.addLocallyRevoked ≠ some false

namespace HtlcEntry.Pinned

variable {e : HtlcEntry}

section

variable (pinned : e.Pinned)
include pinned

theorem unstamped (staged : e.Staged) (received : e.direction = .received) : e.commitCoverPending ≠ some true := by
  intro stamp
  have offered := staged.own (pinned.stamped stamp).2
  rw [received] at offered
  cases offered

theorem settleAs (staged : e.Staged) (received : e.direction = .received)
    (intent : HtlcState) : (e.settleAs intent).Pinned :=
  ⟨fun stamp => absurd stamp (pinned.unstamped staged received), pinned.signed⟩

theorem removeAs (committed : addNotYetCommitted e = false) (intent : HtlcState) : (e.removeAs intent).Pinned := by
  refine ⟨fun stamp => ?_, pinned.signed⟩
  have uncommitted := (pinned.stamped stamp).2
  simp [addNotYetCommitted, uncommitted] at committed

theorem commitPending : e.commitPending.Pinned := by
  unfold HtlcEntry.commitPending
  split
  · exact ⟨fun stamp => ⟨rfl, (pinned.stamped stamp).2⟩, pinned.signed⟩
  · exact pinned

theorem acceptSigned : e.acceptSigned.Pinned := by
  refine ⟨pinned.stamped, fun received => ?_⟩
  simp [HtlcEntry.acceptSigned, pinned.signed received]

theorem unsettled (staged : e.Staged) : e.acknowledge.settled = false := by
  rw [← Bool.not_eq_true]
  intro settled
  have dead := live_of_settled settled
  have stamp := (settled_of_removing dead (staged.removing dead)).mp settled
  rw [(pinned.stamped stamp).1] at dead
  cases dead

theorem acknowledge : e.acknowledge.markForwarded.Pinned := by
  refine ⟨fun stamp => absurd stamp (unstamped_of_acknowledge e), ?_⟩
  rw [HtlcEntry.markForwarded_eq]
  exact pinned.signed

theorem uncommittedAdd : e.uncommittedAdd = false := by
  rw [← Bool.not_eq_true]
  intro uncommitted
  simp only [HtlcEntry.uncommittedAdd, Bool.and_eq_true, decide_eq_true_eq] at uncommitted
  exact pinned.signed uncommitted.1.1 uncommitted.2

theorem restoreRemoval : e.restoreRemoval.Pinned := by
  unfold HtlcEntry.restoreRemoval
  split
  · exact ⟨fun stamp => ⟨rfl, (pinned.stamped stamp).2⟩, pinned.signed⟩
  · exact pinned

end

theorem of_remoteCarries (carried : remoteCarries e = true) (idle : e.commitCoverPending ≠ some true) :
    e.stampCover.commitPending.Pinned := by
  apply commitPending
  constructor
  · intro stamp
    simp only [HtlcEntry.stampCover] at stamp
    split at stamp
    · rename_i uncovered
      rw [Bool.or_eq_true] at uncovered
      rcases uncovered with add | removal
      · have new : e.addRemoteCommitted = some false ∧ e.state.live = true := by
          simpa [HtlcEntry.addUncovered] using add
        exact new.symm
      · simp only [HtlcEntry.removalUncovered, Bool.and_eq_true, decide_eq_true_eq, Bool.not_eq_true'] at removal
        simp [remoteCarries, removal.1.2, removal.2] at carried
    · exact absurd stamp idle
  · intro received
    change e.direction = .received at received
    change e.addLocallyRevoked ≠ some false
    cases live : e.state.live with
    | true => simpa [remoteCarries, live, received] using carried
    | false => simp [remoteCarries, live, received] at carried

end HtlcEntry.Pinned

variable (e : HtlcEntry)

@[simp] theorem commitPending_snapshot : e.commitPending.snapshot = e.snapshot := by
  unfold HtlcEntry.commitPending
  split <;> rfl

@[simp] theorem markForwarded_snapshot : e.markForwarded.snapshot = e.snapshot := by
  rw [e.markForwarded_eq]
  rfl

@[simp] theorem restoreRemoval_snapshot : e.restoreRemoval.snapshot = e.snapshot := by
  unfold HtlcEntry.restoreRemoval
  split <;> rfl

end Entries

section Steps

variable {prim : Primitives} {ver : Verifier} {s t : ChannelState} {input : ChannelInput}
  {sent : List Message}

def ChannelInput.signs : ChannelInput → Bool
  | .signCommitment _ _ _ => true
  | _ => false

section

variable (effect : StepEffect prim ver s input t sent)
include effect

theorem StepEffect.pinned (unsigned : input.signs = false)
    (current : Current s) (staged : ∀ e ∈ s.htlcs.values, e.Staged) {k : HtlcDirection × Nat}
    {e : HtlcEntry} (found : s.htlcs.get? k = some e) (pinned : e.Pinned) :
    ∃ e', t.htlcs.get? k = some e' ∧ e'.snapshot = e.snapshot ∧ e'.Pinned := by
  have known := staged e ((s.htlcs.get?_eq_some _ _).mp found).1
  have direction := direction_of_get? found
  cases effect with
  | refused | failed | feeStaged | feeReceived | misrevoked | heightSet => exact ⟨e, found, rfl, pinned⟩
  | offered amount hash cltv onion blinding =>
    refine ⟨e, ?_, rfl, pinned⟩
    rw [queueUpdate_htlcs, ChannelState.get?_offer, if_neg, found]
    rintro rfl
    exact lt_irrefl _ (current.numbered _ e found)
  | received msg operational fresh =>
    refine ⟨e, ?_, rfl, pinned⟩
    rw [ChannelState.get?_receive, if_neg, found]
    rintro rfl
    cases fresh.symm.trans found
  | settled update settles operational there live =>
    rw [queueUpdate_htlcs, ChannelState.get?_settleReceived]
    split
    · rename_i same
      subst same
      rw [found]
      exact ⟨_, rfl, rfl, pinned.settleAs known direction _⟩
    · exact ⟨e, found, rfl, pinned⟩
  | removed removes operational there proved other committed =>
    rw [ChannelState.get?_removeOffered]
    split
    · rename_i same
      subst same
      cases there.symm.trans found
      rw [found]
      exact ⟨_, rfl, rfl, pinned.removeAs committed _⟩
    · exact ⟨e, found, rfl, pinned⟩
  | signed => cases unsigned
  | accepted msg =>
    rw [ChannelState.get?_commitmentAccepted, found]
    exact ⟨_, rfl, by rw [commitPending_snapshot]; rfl, pinned.acceptSigned.commitPending⟩
  | revoked rotated msg store next rotates =>
    rw [ChannelState.get?_revocationAccepted, rotates, ChannelState.pointsRotated_htlcs, found,
      Option.bind_some, HtlcEntry.afterRevocation, pinned.unsettled known]
    exact ⟨_, rfl, by rw [markForwarded_snapshot]; rfl, pinned.acknowledge⟩
  | disconnected =>
    rw [markForReestablish_fst current.recent]
    split
    · rw [ChannelState.get?_rolledBack, found]
      exact ⟨e.restoreRemoval, by simp [pinned.uncommittedAdd], restoreRemoval_snapshot e, pinned.restoreRemoval⟩
    · exact ⟨e, found, rfl, pinned⟩
  | resumed =>
    unfold resumeReestablished
    split <;> exact ⟨e, found, rfl, pinned⟩

theorem StepEffect.idle (unsigned : input.signs = false)
    (current : Current s) (idle : ∀ e ∈ s.htlcs.values, e.commitCoverPending ≠ some true) :
    ∀ e ∈ t.htlcs.values, e.commitCoverPending ≠ some true := by
  cases effect with
  | refused | failed | feeStaged | feeReceived | misrevoked | heightSet => exact idle
  | offered amount hash cltv onion blinding => exact forall_mem_set nofun idle
  | received msg => exact forall_mem_set nofun idle
  | settled update settles operational found live =>
    have before := idle _ ((s.htlcs.get?_eq_some _ _).mp found).1
    exact forall_mem_modify (HtlcEntry.settleAs _) (fun _ => rfl) found before idle
  | removed removes operational found =>
    have before := idle _ ((s.htlcs.get?_eq_some _ _).mp found).1
    exact forall_mem_modify (HtlcEntry.removeAs _) (fun _ => rfl) found before idle
  | signed => cases unsigned
  | accepted =>
    intro e member
    obtain ⟨before, inside, rfl⟩ := List.mem_map.mp member
    unfold HtlcEntry.commitPending
    split <;> exact idle before inside
  | revoked rotated => exact unstamped_of_revocationAccepted rotated
  | disconnected =>
    rw [markForReestablish_fst current.recent]
    split
    · intro e member
      obtain ⟨before, inside, -, rfl⟩ := (s.mem_rolledBack e).mp member
      unfold HtlcEntry.restoreRemoval
      split <;> exact idle before inside
    · exact idle
  | resumed =>
    unfold resumeReestablished
    split <;> exact idle

def ChannelState.Dead (s : ChannelState) : Prop := s.phase = .errored ∧ s.preReestablishState = none

theorem StepEffect.dead (dead : s.Dead) : t.Dead := by
  rcases (effect.of_errored dead.1).2 with ⟨phase, resting⟩ | ⟨-, rfl⟩ | ⟨-, rfl⟩
  · exact ⟨phase, resting.trans dead.2⟩
  · have closed : s.reestablishable = false := by simp [ChannelState.reestablishable, dead.1]
    rw [markForReestablish, closed]
    exact dead
  · rw [resumeReestablished, dead.2]
    exact dead

theorem StepEffect.resumed_of_operational (recent : s.restoreRecencyUnproven = false) (online : s.operational = true → s.preReestablishState = none) :
    t.operational = true → t.preReestablishState = none := by
  cases effect with
  | refused | offered | received | settled | removed | feeStaged | feeReceived | signed | accepted
  | heightSet => exact online
  | failed | misrevoked =>
    intro operational
    cases operational
  | revoked rotated msg store next rotates operational =>
    intro _
    subst rotates
    simp only [revocationAccepted, forwardCommitted, promoteLease, promoteFee, settleRemovals, acknowledgeUpdates]
    exact online operational
  | disconnected =>
    rw [markForReestablish_fst recent]
    split
    · exact nofun
    · exact online
  | resumed =>
    unfold resumeReestablished
    split
    · exact fun _ => rfl
    · exact online

end

section Rounds

structure CommitmentRound where
  signed : Nat
  revoked : Option Nat
  current : Option Bytes
  next : Option Bytes
  secrets : ShaChainStore

def ChannelState.round (s : ChannelState) : CommitmentRound where
  signed := s.remoteCommitmentNumber
  revoked := s.remoteRevocationNumber
  current := s.remoteCurrentPerCommitmentPoint
  next := s.remoteNextPerCommitmentPoint
  secrets := s.shaChainStore

theorem round_revocationAccepted (s : ChannelState) : s.revocationAccepted.round = s.round := by
  simp only [ChannelState.round, revocationAccepted, forwardCommitted, promoteLease, promoteFee, settleRemovals,
    acknowledgeUpdates]

theorem StepEffect.round (effect : StepEffect prim ver s input t sent) (unsigned : input.signs = false)
    (recent : s.restoreRecencyUnproven = false) :
    t.round = s.round ∨ ∃ msg store next, Reveals prim s msg store next ∧
      t.round = (s.pointsRotated store next).round ∧ ((∀ e ∈ t.htlcs.values, e.commitCoverPending ≠ some true) ∨
        s.operational = true ∧ t.phase = .errored ∧ t.preReestablishState = s.preReestablishState) := by
  cases effect with
  | refused | failed | offered | received | settled | removed | feeStaged | feeReceived | accepted
  | heightSet => exact .inl rfl
  | signed => cases unsigned
  | misrevoked msg store next operational reveals =>
    exact .inr ⟨msg, store, next, reveals, rfl, .inr ⟨operational, rfl, rfl⟩⟩
  | revoked rotated msg store next rotates operational reveals =>
    exact .inr ⟨msg, store, next, reveals, by rw [round_revocationAccepted, rotates],
      .inl (unstamped_of_revocationAccepted rotated)⟩
  | disconnected =>
    rw [markForReestablish_fst recent]
    split <;> exact .inl rfl
  | resumed =>
    unfold resumeReestablished
    split <;> exact .inl rfl

end Rounds

end Steps

namespace Guarded

variable {prim : Primitives} {ver : Verifier} {g : Guarded} {t : ChannelState} {input : ChannelInput}
  {sent : List Message}

structure Sound (prim : Primitives) (g : Guarded) : Prop where
  current : Current g.state
  online : g.state.operational = true → g.state.preReestablishState = none
  staged : ∀ e ∈ g.state.htlcs.values, e.Staged
  counted : g.state.remoteRevocationNumber = some g.state.remoteRevocationCount
  turn : g.state.remoteRevocationCount ≤ g.state.remoteCommitmentNumber ∧
    g.state.remoteCommitmentNumber ≤ g.state.remoteRevocationCount + 1
  unsigned : ∀ n, g.state.remoteCommitmentNumber < n → g.signed n = none
  constants : ∀ n c, g.signed n = some c → c.state.constants = g.state.constants
  held : ∀ c, g.signed g.state.remoteCommitmentNumber = some c → ∀ e ∈ (remoteSpec c.state).htlcs,
    ∃ e', g.state.htlcs.get? e.key = some e' ∧ e'.snapshot = e.snapshot ∧ e'.Pinned
  covered : ∀ n c, n < g.state.remoteCommitmentNumber → g.signed n = some c →
    ((remoteSpec c.state).htlcs.map HtlcEntry.snapshot).Subperm (g.snapshotOf n)
  idle : g.state.remoteRevocationCount = g.state.remoteCommitmentNumber →
    (∀ e ∈ g.state.htlcs.values, e.commitCoverPending ≠ some true) ∨ g.state.Dead
  pointed : g.state.remoteNextPerCommitmentPoint ≠ none
  revocable : ∀ c, g.signed g.state.remoteRevocationCount = some c →
    g.state.remoteCurrentPerCommitmentPoint = some c.point
  outstanding : g.state.remoteRevocationCount < g.state.remoteCommitmentNumber →
    ∀ c, g.signed g.state.remoteCommitmentNumber = some c → g.state.remoteNextPerCommitmentPoint = some c.point
  recovered : g.state.remoteRevocationCount ≤ maxIndex + 1 → ∃ given : Nat → Bytes,
    Recovers prim.sha256 given (maxIndex + 1 - g.state.remoteRevocationCount) g.state.shaChainStore.entries ∧
      ∀ n c, n < g.state.remoteRevocationCount → g.signed n = some c →
        prim.pointFromSecret (given (maxIndex - n)) = c.point

namespace Sound

section

variable (sound : g.Sound prim)
include sound

theorem counted_raa : g.state.remoteRevocationCountForRaa = g.state.remoteRevocationCount := by
  rw [ChannelState.remoteRevocationCountForRaa, sound.counted]
  rfl

variable {c : SignedCommitment} {msg : RevokeAndAck} {store : ShaChainStore} {next : Option Bytes}

theorem held_subperm (signed : g.signed g.state.remoteCommitmentNumber = some c) :
    ((remoteSpec c.state).htlcs.map HtlcEntry.snapshot).Subperm (g.state.htlcs.values.map HtlcEntry.snapshot) := by
  apply KeyedMap.map_subperm List.filter_sublist
  intro e member
  obtain ⟨e', found, same, -⟩ := sound.held c signed e member
  exact ⟨e', found, same⟩

variable (effect : StepEffect prim ver g.state input t sent)
include effect

theorem held_step (quiet : input.signs = false) (number : t.remoteCommitmentNumber = g.state.remoteCommitmentNumber)
    (signed : g.signed t.remoteCommitmentNumber = some c) : ∀ e ∈ (remoteSpec c.state).htlcs,
      ∃ e', t.htlcs.get? e.key = some e' ∧ e'.snapshot = e.snapshot ∧ e'.Pinned := by
  intro e member
  obtain ⟨before, found, same, pinned⟩ := sound.held c (number ▸ signed) e member
  obtain ⟨after, found, kept, pinned⟩ := effect.pinned quiet sound.current sound.staged found pinned
  exact ⟨after, found, kept.trans same, pinned⟩

theorem staged_step : ∀ e ∈ t.htlcs.values, e.Staged :=
  effect.forall_entries staged_invariant sound.current (fun _ _ _ _ _ => trivial)
    (fun _ _ _ _ _ _ _ _ _ _ => trivial) sound.staged

theorem of_same_round (quiet : input.signs = false) (same : t.round = g.state.round) : Sound prim { g with state := t } := by
  have recent := sound.current.recent
  have number : t.remoteCommitmentNumber = g.state.remoteCommitmentNumber :=
    congrArg CommitmentRound.signed same
  have revoked : t.remoteRevocationNumber = g.state.remoteRevocationNumber :=
    congrArg CommitmentRound.revoked same
  have point : t.remoteCurrentPerCommitmentPoint = g.state.remoteCurrentPerCommitmentPoint :=
    congrArg CommitmentRound.current same
  have next : t.remoteNextPerCommitmentPoint = g.state.remoteNextPerCommitmentPoint :=
    congrArg CommitmentRound.next same
  have store : t.shaChainStore = g.state.shaChainStore := congrArg CommitmentRound.secrets same
  have count : t.remoteRevocationCount = g.state.remoteRevocationCount := by
    simp only [ChannelState.remoteRevocationCount, number, revoked]
  constructor
  case current => exact effect.current sound.current
  case online => exact effect.resumed_of_operational recent sound.online
  case staged => exact sound.staged_step effect
  case counted => simpa only [count, revoked] using sound.counted
  case turn => simpa only [count, number] using sound.turn
  case unsigned => simpa only [number] using sound.unsigned
  case constants => simpa only [effect.constants recent] using sound.constants
  case held => exact fun c => sound.held_step effect quiet number
  case covered => exact fun n c before => sound.covered n c (before.trans_eq number)
  case idle =>
    intro through
    simp only [count, number] at through
    rcases sound.idle through with idle | dead
    · exact .inl (effect.idle quiet sound.current idle)
    · exact .inr (effect.dead dead)
  case pointed => simpa only [next] using sound.pointed
  case revocable => simpa only [count, point] using sound.revocable
  case outstanding => simpa only [count, number, next] using sound.outstanding
  case recovered => simpa only [count, store] using sound.recovered

omit effect in
theorem recovered_revealed (reveals : Reveals prim g.state msg store next)
    (room : g.state.remoteRevocationCount ≤ maxIndex) : ∃ given : Nat → Bytes,
      Recovers prim.sha256 given (maxIndex - g.state.remoteRevocationCount) store.entries ∧
        ∀ n c, n < g.state.remoteRevocationCount + 1 → g.signed n = some c →
          prim.pointFromSecret (given (maxIndex - n)) = c.point := by
  obtain ⟨given, recovers, points⟩ := sound.recovered (by omega)
  have stored := reveals.stored
  rw [sound.counted_raa] at stored
  let low := maxIndex - g.state.remoteRevocationCount
  let extended := Function.update given low msg.perCommitmentSecret
  have below : Recovers prim.sha256 extended (low + 1) g.state.shaChainStore.entries := by
    have step : maxIndex + 1 - g.state.remoteRevocationCount = low + 1 := by omega
    rw [step] at recovers
    refine recovers.congr fun index above _ => ?_
    exact Function.update_of_ne (by omega) _ _
  refine ⟨extended, ?_, ?_⟩
  · apply below.addSecret (by omega)
    rw [show extended low = msg.perCommitmentSecret from Function.update_self ..]
    exact stored
  · intro n c earlier signed
    by_cases last : n = g.state.remoteRevocationCount
    · subst last
      rw [show extended (maxIndex - _) = msg.perCommitmentSecret from Function.update_self ..]
      exact reveals.point _ (sound.revocable c signed)
    · rw [show extended (maxIndex - n) = given (maxIndex - n) from Function.update_of_ne (by omega) _ _]
      exact points n c (by omega) signed

theorem of_revealed (quiet : input.signs = false)
    (reveals : Reveals prim g.state msg store next) (moved : t.round = (g.state.pointsRotated store next).round)
    (stamps : (∀ e ∈ t.htlcs.values, e.commitCoverPending ≠ some true) ∨ t.Dead) :
    Sound prim { g with state := t } := by
  have recent := sound.current.recent
  have number : t.remoteCommitmentNumber = g.state.remoteCommitmentNumber :=
    congrArg CommitmentRound.signed moved
  have revoked : t.remoteRevocationNumber = some (g.state.remoteRevocationCount + 1) := by
    rw [← sound.counted_raa]
    exact congrArg CommitmentRound.revoked moved
  have point : t.remoteCurrentPerCommitmentPoint = g.state.remoteNextPerCommitmentPoint :=
    congrArg CommitmentRound.current moved
  have following : t.remoteNextPerCommitmentPoint = next := congrArg CommitmentRound.next moved
  have secrets : t.shaChainStore = store := congrArg CommitmentRound.secrets moved
  have count : t.remoteRevocationCount = g.state.remoteRevocationCount + 1 := by
    rw [ChannelState.remoteRevocationCount, revoked]
    rfl
  have answered : g.state.remoteCommitmentNumber = g.state.remoteRevocationCount + 1 := by
    have outstanding := reveals.outstanding
    rw [sound.counted_raa] at outstanding
    have turn := sound.turn
    omega
  constructor
  case current => exact effect.current sound.current
  case online => exact effect.resumed_of_operational recent sound.online
  case staged => exact sound.staged_step effect
  case counted => rw [count, revoked]
  case turn =>
    simp only [count, number]
    omega
  case unsigned => simpa only [number] using sound.unsigned
  case constants => simpa only [effect.constants recent] using sound.constants
  case held => exact fun c => sound.held_step effect quiet number
  case covered => exact fun n c before => sound.covered n c (before.trans_eq number)
  case idle => exact fun _ => stamps
  case pointed =>
    rw [following]
    rcases reveals.next with same | new
    · rw [same]
      exact sound.pointed
    · rw [new]
      exact Option.some_ne_none _
  case revocable =>
    intro c signed
    rw [count, ← answered] at signed
    rw [point]
    exact sound.outstanding (by omega) c signed
  case outstanding =>
    intro out
    simp only [count, number] at out
    omega
  case recovered =>
    intro bounded
    rw [count] at bounded ⊢
    rw [secrets]
    have index : maxIndex + 1 - (g.state.remoteRevocationCount + 1) =
        maxIndex - g.state.remoteRevocationCount := by omega
    rw [index]
    exact sound.recovered_revealed reveals (by omega)

end

theorem snapshotOf_sign_self (g : Guarded) (t : ChannelState) :
    (g.sign t).snapshotOf g.state.remoteCommitmentNumber = g.state.htlcs.values.map HtlcEntry.snapshot ∨
      g.state.htlcs.values = [] := by
  by_cases empty : g.state.htlcs.values.map HtlcEntry.snapshot = []
  · exact .inr (List.map_eq_nil_iff.mp empty)
  · left
    rw [snapshotOf, sign, snapshotRemoteCommitmentHtlcs, recordRevokedHtlcSnapshot, if_neg empty,
      KeyedMap.get?_set, if_pos rfl]
    rfl

theorem snapshotOf_sign_of_ne (g : Guarded) (t : ChannelState) {n : Nat}
    (other : n ≠ g.state.remoteCommitmentNumber) : (g.sign t).snapshotOf n = g.snapshotOf n := by
  rw [snapshotOf, sign, snapshotRemoteCommitmentHtlcs, recordRevokedHtlcSnapshot]
  split
  · rfl
  · rw [KeyedMap.get?_set, if_neg other]
    rfl

theorem of_signed (sound : g.Sound prim) (effect : StepEffect prim ver g.state input g.state.commitmentSent sent)
    (operational : g.state.operational = true) (answered : g.state.isAwaitingRemoteRevocation = false) :
    (g.sign g.state.commitmentSent).Sound prim := by
  have recent := sound.current.recent
  have level : g.state.remoteRevocationCount = g.state.remoteCommitmentNumber := by
    have turn := sound.turn
    simp only [ChannelState.isAwaitingRemoteRevocation, decide_eq_false_iff_not] at answered
    omega
  have alive : ¬ g.state.Dead := by
    intro dead
    simp [ChannelState.operational, dead.1] at operational
  have older : ∀ n, n ≠ g.state.remoteCommitmentNumber + 1 →
      (g.sign g.state.commitmentSent).signed n = g.signed n :=
    fun n other => Function.update_of_ne other _ _
  have newest : (g.sign g.state.commitmentSent).signed (g.state.remoteCommitmentNumber + 1) =
      (nextSignedPoint g.state).map (SignedCommitment.mk g.state) := Function.update_self ..
  have count : g.state.commitmentSent.remoteRevocationCount = g.state.remoteRevocationCount := rfl
  constructor
  case current => exact effect.current sound.current
  case online => exact effect.resumed_of_operational recent sound.online
  case staged => exact sound.staged_step effect
  case counted => rfl
  case turn =>
    change g.state.remoteRevocationCount ≤ g.state.remoteCommitmentNumber + 1 ∧
      g.state.remoteCommitmentNumber + 1 ≤ g.state.remoteRevocationCount + 1
    omega
  case unsigned =>
    intro n later
    change g.state.remoteCommitmentNumber + 1 < n at later
    rw [older n (by omega)]
    exact sound.unsigned n (by omega)
  case constants =>
    intro n c signed
    by_cases last : n = g.state.remoteCommitmentNumber + 1
    · rw [last, newest] at signed
      obtain ⟨point, -, rfl⟩ := Option.map_eq_some_iff.mp signed
      rfl
    · rw [older n last] at signed
      exact sound.constants n c signed
  case held =>
    intro c signed e member
    have made := newest.symm.trans signed
    obtain ⟨point, -, rfl⟩ := Option.map_eq_some_iff.mp made
    obtain ⟨inside, carried⟩ := List.mem_filter.mp member
    have idle := (sound.idle level).resolve_right alive e inside
    have found : g.state.htlcs.get? e.key = some e := (KeyedMap.get?_eq_some _ _ _).mpr ⟨inside, rfl⟩
    refine ⟨e.stampCover.commitPending, ?_, ?_, .of_remoteCarries carried idle⟩
    · change g.state.commitmentSent.htlcs.get? e.key = _
      rw [ChannelState.get?_commitmentSent, found]
      rfl
    · rw [commitPending_snapshot]
      rfl
  case covered =>
    intro n c before signed
    change n < g.state.remoteCommitmentNumber + 1 at before
    rw [older n (by omega)] at signed
    by_cases last : n = g.state.remoteCommitmentNumber
    · subst last
      have held := sound.held_subperm signed
      rcases snapshotOf_sign_self g g.state.commitmentSent with recorded | empty
      · rw [recorded]
        exact held
      · rw [empty, List.map_nil, List.subperm_nil] at held
        rw [held]
        exact List.nil_subperm
    · rw [snapshotOf_sign_of_ne g _ last]
      exact sound.covered n c (by omega) signed
  case idle =>
    intro through
    change g.state.remoteRevocationCount = g.state.remoteCommitmentNumber + 1 at through
    omega
  case pointed => exact sound.pointed
  case revocable =>
    intro c signed
    change (g.sign g.state.commitmentSent).signed g.state.remoteRevocationCount = some c at signed
    rw [older _ (by omega)] at signed
    exact sound.revocable c signed
  case outstanding =>
    intro _ c signed
    have made := newest.symm.trans signed
    obtain ⟨point, chosen, rfl⟩ := Option.map_eq_some_iff.mp made
    change g.state.remoteNextPerCommitmentPoint = some point
    obtain ⟨next, pointed⟩ := Option.ne_none_iff_exists'.mp sound.pointed
    rw [nextSignedPoint, pointed] at chosen
    rw [pointed]
    exact chosen
  case recovered =>
    intro bounded
    obtain ⟨given, recovers, points⟩ := sound.recovered bounded
    refine ⟨given, recovers, fun n c earlier signed => ?_⟩
    change n < g.state.remoteRevocationCount at earlier
    rw [older n (by omega)] at signed
    exact points n c earlier signed

theorem step (sound : g.Sound prim) (inTurn : g.signsInTurn input = true) : (g.step prim ver input).Sound prim := by
  have effect := step_effect prim ver g.state input
  cases signs : input.signs with
  | false =>
    have kept : g.step prim ver input = { g with state := (g.state.step prim ver input).state } := by
      cases input <;> first | rfl | cases signs
    rw [kept]
    rcases effect.round signs sound.current.recent with
      same | ⟨msg, store, next, reveals, moved, stamps⟩
    · exact sound.of_same_round effect signs same
    · refine sound.of_revealed effect signs reveals moved (stamps.imp_right ?_)
      rintro ⟨operational, errored, kept⟩
      exact ⟨errored, kept.trans (sound.online operational)⟩
  | true =>
    cases input with
    | signCommitment signature htlcSigs partialSig =>
      simp only [Guarded.step]
      rcases signCommitment_cases prim g.state signature htlcSigs partialSig with
        ⟨state, silent⟩ | ⟨state, silent⟩ | ⟨operational, state, msg, sends⟩
      · simp only [ChannelState.step, state, silent, ↓reduceIte]
        exact sound
      · -- A refusal that fails the channel does nothing else, whatever the input.
        simp only [ChannelState.step, state, silent, ↓reduceIte]
        have fails : StepEffect prim ver g.state .resume { g.state with phase := .errored } [] := .failed _
        exact sound.of_same_round fails rfl rfl
      · simp only [ChannelState.step, state, sends, List.cons_ne_nil, ↓reduceIte]
        simp only [ChannelState.step, state] at effect
        exact sound.of_signed effect operational (by simpa [signsInTurn] using inTurn)
    | _ => cases signs

end Sound

theorem start_sound (prim : Primitives) (o : Opening) (role : ChannelRole) : (o.guarded prim role).Sound prim := by
  have none : ∀ e, e ∉ (o.party prim role).htlcs.values := by
    intro e
    rw [o.party_htlcs]
    exact List.not_mem_nil
  have number : (o.guarded prim role).state.remoteCommitmentNumber = 0 := by cases role <;> rfl
  have count : (o.guarded prim role).state.remoteRevocationCount = 0 := by cases role <;> rfl
  have later : ∀ n, n ≠ 0 → (o.guarded prim role).signed n = .none := by
    intro n other
    simp [Opening.guarded, other]
  have zeroth : (o.guarded prim role).signed 0 = (o.party prim role).remoteCurrentPerCommitmentPoint.map
      (SignedCommitment.mk (o.party prim role)) := by simp [Opening.guarded]
  have first : ∀ n c, (o.guarded prim role).signed n = some c → c.state = o.party prim role ∧
      (o.guarded prim role).state.remoteCurrentPerCommitmentPoint = some c.point := by
    intro n c signed
    by_cases zero : n = 0
    · subst zero
      rw [zeroth] at signed
      obtain ⟨point, known, rfl⟩ := Option.map_eq_some_iff.mp signed
      exact ⟨rfl, known⟩
    · cases (later n zero).symm.trans signed
  constructor
  case current => exact o.party_current prim role
  case online => cases role <;> exact fun _ => rfl
  case staged => exact fun e member => absurd member (none e)
  case counted => cases role <;> rfl
  case turn =>
    rw [number, count]
    decide
  case unsigned =>
    intro n above
    exact later n (Nat.ne_zero_of_lt above)
  case constants =>
    intro n c signed
    rw [(first n c signed).1]
    rfl
  case held =>
    intro c signed e member
    rw [(first _ c signed).1] at member
    exact absurd (List.mem_filter.mp member).1 (none e)
  case covered =>
    intro n c before
    rw [number] at before
    omega
  case idle => exact fun _ => .inl fun e member => absurd member (none e)
  case pointed => cases role <;> exact Option.some_ne_none _
  case revocable => exact fun c signed => (first _ c signed).2
  case outstanding =>
    intro out
    rw [number, count] at out
    omega
  case recovered =>
    intro _
    refine ⟨fun _ => [], ?_, ?_⟩
    · rw [count]
      cases role <;> exact .nil
    · intro n c earlier
      rw [count] at earlier
      omega

theorem step_state (prim : Primitives) (ver : Verifier) (g : Guarded) (input : ChannelInput) :
    (g.step prim ver input).state = (g.state.step prim ver input).state := by
  unfold step
  dsimp only
  split
  · split <;> rfl
  · rfl

theorem run_sound (prim : Primitives) (ver : Verifier) (o : Opening) (role : ChannelRole) {inputs : List ChannelInput}
    (inTurn : Along (step prim ver) (fun g input => g.signsInTurn input = true) (o.guarded prim role) inputs) :
    let g := inputs.foldl (step prim ver) (o.guarded prim role)
    g.Sound prim ∧ g.state.constants = (o.party prim role).constants := by
  refine inTurn.invariant (P := fun g => g.Sound prim ∧ g.state.constants = (o.party prim role).constants)
    ?_ ⟨start_sound prim o role, rfl⟩
  rintro g input turn ⟨sound, constants⟩
  refine ⟨sound.step turn, ?_⟩
  rw [step_state, (step_effect prim ver g.state input).constants sound.current.recent, constants]

end Guarded

end Beignet.Channel
