import Beignet.Data.Machine
import Beignet.Channel.Entries
import Beignet.Channel.Notices

namespace Beignet.Channel

open Beignet.Data

/-! An HTLC of the peer's goes to the node once, when neither side can go back on it any more. -/

/-- How far the exchange has brought an add of the peer's: whether we have revoked for a signature on a
    commitment of ours that carries it, and the first commitment with it that we have signed for the peer. -/
structure AddProgress where
  acknowledged : Bool
  coveredBy : Option Nat
  deriving DecidableEq, Repr

def AddProgress.acknowledge (p : AddProgress) (carried : Bool) : AddProgress :=
  { p with acknowledged := p.acknowledged || carried }

def AddProgress.cover (p : AddProgress) (carried : Bool) (number : Nat) : AddProgress :=
  if p.coveredBy = none ∧ carried = true then { p with coveredBy := some number } else p

/-- A channel, and what an observer of its messages has noted: the adds of the peer's, the commitments we
    have signed for the peer and the revocations taken for them. -/
structure Watched where
  state : ChannelState
  adds : Nat → Option AddProgress
  signed : Nat
  revoked : Nat

def CommitmentSpec.carriesReceived (spec : CommitmentSpec) (id : Nat) : Bool :=
  spec.htlcs.any fun e => e.key = (.received, id)

def revocationTaken (s t : ChannelState) : Bool :=
  t.phase ≠ .errored && t.remoteRevocationNumber = some (s.remoteRevocationCountForRaa + 1)

namespace Watched

def note (w : Watched) (input : ChannelInput) (t : ChannelState) (sent : List Message) : Watched :=
  let s := w.state
  match input with
  | .receive (.updateAddHtlc msg) =>
    if s.htlcs.has (.received, msg.id) = false ∧ t.htlcs.has (.received, msg.id) = true then
      { w with state := t, adds := Function.update w.adds msg.id (some ⟨false, none⟩) }
    else { w with state := t }
  | .receive (.commitmentSigned _) =>
    if sent = [] then { w with state := t }
    else
      { w with
        state := t
        adds := fun id => (w.adds id).map fun p => p.acknowledge ((localSpec s false).carriesReceived id) }
  | .signCommitment _ _ _ =>
    if sent = [] then { w with state := t }
    else
      { w with
        state := t
        adds := fun id => (w.adds id).map fun p => p.cover ((remoteSpec s).carriesReceived id) (w.signed + 1)
        signed := w.signed + 1 }
  | .receive (.revokeAndAck _) =>
    if revocationTaken s t then { w with state := t, revoked := w.revoked + 1 } else { w with state := t }
  | _ => { w with state := t }

variable (prim : Primitives) (ver : Verifier)

def step (w : Watched) (input : ChannelInput) : Watched :=
  let r := w.state.step prim ver input
  w.note input r.state r.sent

def irrevocable (w : Watched) (id : Nat) : Bool :=
  (w.adds id).any fun p => p.acknowledged && p.coveredBy.any fun n => n ≤ w.revoked

/-- We sign when no signature of ours is unanswered, and the peer does not use the id of an HTLC again
    that it has signed for. -/
def orderly (w : Watched) : ChannelInput → Bool
  | .signCommitment _ _ _ => w.signed = w.revoked
  | .receive (.updateAddHtlc msg) =>
    w.state.htlcs.has (.received, msg.id) || !(w.adds msg.id).any AddProgress.acknowledged
  | _ => true

end Watched

section Entries

structure HtlcEntry.Dispatchable (e : HtlcEntry) : Prop where
  removing : e.state.live = false → e.removalRemoteCommitted = some false
  covering : e.addCoverPending = some true →
    e.addRemotelyRevoked = some false ∧ e.addLocallyRevoked ≠ some false ∧ e.state ≠ .pending
  unsigned : e.addLocallyRevoked = some false → e.addRemotelyRevoked = some false
  emitted : e.direction = .received → e.state.live = true →
    (e.forwardEmitted = some true ↔ e.addRemotelyRevoked ≠ some false)

theorem HtlcEntry.commitPending_committed (e : HtlcEntry) : e.commitPending.state ≠ .pending := by
  unfold commitPending
  split
  · exact nofun
  · assumption

theorem HtlcEntry.Dispatchable.commitPending {e : HtlcEntry}
    (removing : e.state.live = false → e.removalRemoteCommitted = some false)
    (covering : e.addCoverPending = some true → e.addRemotelyRevoked = some false ∧ e.addLocallyRevoked ≠ some false)
    (unsigned : e.addLocallyRevoked = some false → e.addRemotelyRevoked = some false)
    (emitted : e.direction = .received → e.state.live = true →
      (e.forwardEmitted = some true ↔ e.addRemotelyRevoked ≠ some false)) : e.commitPending.Dispatchable := by
  have committed := e.commitPending_committed
  unfold HtlcEntry.commitPending at committed ⊢
  split
  · rename_i pending
    exact ⟨nofun, fun stamped => ⟨(covering stamped).1, (covering stamped).2, nofun⟩, unsigned,
      fun received _ => emitted received (by rw [pending]; rfl)⟩
  · rename_i other
    exact ⟨removing, fun stamped => ⟨(covering stamped).1, (covering stamped).2, other⟩, unsigned, emitted⟩

theorem dispatchable_invariant : EntryInvariant (fun _ _ => True) (fun _ _ => True) HtlcEntry.Dispatchable where
  offered := fun _ _ _ _ _ _ => ⟨nofun, nofun, nofun, nofun⟩
  received := fun _ _ => ⟨nofun, nofun, fun _ => rfl, fun _ _ => by simp [incomingEntry, receivedEntry]⟩
  settled := fun e intent known received live dead _ =>
    ⟨fun _ => rfl, fun stamped => ⟨(known.covering stamped).1, (known.covering stamped).2.1, by
      rintro rfl
      cases dead⟩, known.unsigned, fun _ live => absurd live (by simp [HtlcEntry.settleAs, dead])⟩
  removed := fun e intent known offered _ dead _ =>
    ⟨fun _ => rfl, fun stamped => ⟨(known.covering stamped).1, (known.covering stamped).2.1, by
      rintro rfl
      cases dead⟩, known.unsigned, fun received => by cases offered.symm.trans received⟩
  signed := fun e known => by
    refine .commitPending known.removing (fun stamped => ?_) known.unsigned known.emitted
    simp only [HtlcEntry.stampCover] at stamped
    split at stamped
    · rename_i uncovered
      simp only [HtlcEntry.receivedAddUncovered, Bool.and_eq_true, decide_eq_true_eq] at uncovered
      exact ⟨uncovered.1.1, uncovered.1.2⟩
    · exact ⟨(known.covering stamped).1, (known.covering stamped).2.1⟩
  accepted := fun e known => by
    refine .commitPending known.removing (fun stamped => ?_) (fun unsigned => ?_) known.emitted
    · refine ⟨(known.covering stamped).1, ?_⟩
      simp [HtlcEntry.acceptSigned, (known.covering stamped).2.1]
    · simp only [HtlcEntry.acceptSigned] at unsigned
      split at unsigned
      · cases unsigned
      · exact known.unsigned unsigned
  acknowledged := fun e known unsettled => by
    have removing : e.acknowledge.state.live = false → e.acknowledge.removalRemoteCommitted = some false := by
      intro dead
      simpa [HtlcEntry.settled, dead] using unsettled
    have uncovering : e.acknowledge.addCoverPending ≠ some true := by
      simp only [HtlcEntry.acknowledge]
      split <;> simp_all
    have unsigned : e.acknowledge.addLocallyRevoked = some false →
        e.acknowledge.addRemotelyRevoked = some false := by
      intro unsigned
      have unstamped : e.addCoverPending ≠ some true := fun stamped => (known.covering stamped).2.1 unsigned
      simp only [HtlcEntry.acknowledge, if_neg unstamped]
      exact known.unsigned unsigned
    unfold HtlcEntry.markForwarded
    split
    · rename_i forwards
      simp only [HtlcEntry.forwards, receivedAddIrrevocablyCommitted, Bool.and_eq_true, decide_eq_true_eq] at forwards
      exact ⟨removing, fun stamped => absurd stamped uncovering, unsigned,
        fun _ _ => ⟨fun _ => forwards.1.2.2, fun _ => rfl⟩⟩
    · rename_i stays
      refine ⟨removing, fun stamped => absurd stamped uncovering, unsigned, fun received live => ?_⟩
      by_cases stamped : e.addCoverPending = some true
      · obtain ⟨-, signed, committed⟩ := known.covering stamped
        have state : e.state = .committed := (live_cases live).resolve_left committed
        simp_all [HtlcEntry.forwards, receivedAddIrrevocablyCommitted, HtlcEntry.acknowledge]
      · simp only [HtlcEntry.acknowledge, if_neg stamped] at received live ⊢
        exact known.emitted received live
  restored := fun e known kept => by
    unfold HtlcEntry.restoreRemoval
    split
    · rename_i removal
      simp only [HtlcEntry.uncommittedRemoval, Bool.and_eq_true, decide_eq_true_eq] at removal
      exact ⟨by rintro ⟨⟩, fun stamped => ⟨(known.covering stamped).1, (known.covering stamped).2.1, by rintro ⟨⟩⟩,
        known.unsigned, fun received => by cases removal.1.1.symm.trans received⟩
    · exact known

end Entries

section Steps

inductive Coverage (revoked : Nat) (e : HtlcEntry) : Option Nat → Prop
  | uncovered (unrevoked : e.addRemotelyRevoked = some false) (unstamped : e.addCoverPending ≠ some true) :
      Coverage revoked e none
  | unanswered (stamped : e.addCoverPending = some true) : Coverage revoked e (some (revoked + 1))
  | through {n : Nat} (answered : n ≤ revoked) (gone : e.addRemotelyRevoked ≠ some false) :
      Coverage revoked e (some n)

structure Traces (revoked : Nat) (p : AddProgress) (e : HtlcEntry) : Prop where
  acknowledged : p.acknowledged = true ↔ e.addLocallyRevoked ≠ some false
  coverage : Coverage revoked e p.coveredBy

structure Watched.Sound (w : Watched) : Prop where
  current : Current w.state
  dispatchable : ∀ e ∈ w.state.htlcs.values, e.Dispatchable
  tracked : ∀ id e, w.state.htlcs.get? (.received, id) = some e → ∃ p, w.adds id = some p ∧ Traces w.revoked p e

variable {prim : Primitives} {ver : Verifier} {w : Watched} {t : ChannelState} {input : ChannelInput}
  {sent : List Message}

theorem Watched.note_state (w : Watched) (input : ChannelInput) (t : ChannelState) (sent : List Message) :
    (w.note input t sent).state = t := by
  unfold Watched.note
  dsimp only
  split <;> (try split) <;> rfl

theorem Watched.note_unchanged (htlcs : t.htlcs = w.state.htlcs)
    (untaken : revocationTaken w.state t = false) : w.note input t [] = { w with state := t } := by
  unfold Watched.note
  dsimp only
  split
  · rw [if_neg]
    rw [htlcs]
    simp +contextual
  · rfl
  · rfl
  · rw [if_neg (by simp [untaken])]
  · rfl

theorem revocationTaken_self (s : ChannelState) : revocationTaken s s = false := by
  unfold revocationTaken ChannelState.remoteRevocationCountForRaa
  cases s.remoteRevocationNumber <;> simp

def HtlcEntry.addFlags (e : HtlcEntry) : Option Bool × Option Bool × Option Bool :=
  (e.addLocallyRevoked, e.addRemotelyRevoked, e.addCoverPending)

theorem HtlcEntry.addFlags_eq {e e' : HtlcEntry} :
    e'.addFlags = e.addFlags ↔ e'.addLocallyRevoked = e.addLocallyRevoked ∧
      e'.addRemotelyRevoked = e.addRemotelyRevoked ∧ e'.addCoverPending = e.addCoverPending := by
  simp [addFlags]

variable {revoked : Nat}

theorem Coverage.congr {covered : Option Nat} {e e' : HtlcEntry} (coverage : Coverage revoked e covered)
    (remotely : e'.addRemotelyRevoked = e.addRemotelyRevoked) (stamp : e'.addCoverPending = e.addCoverPending) :
    Coverage revoked e' covered := by
  cases coverage with
  | uncovered unrevoked unstamped => exact .uncovered (by rw [remotely, unrevoked]) (by rwa [stamp])
  | unanswered stamped => exact .unanswered (by rw [stamp, stamped])
  | through answered gone => exact .through answered (by rwa [remotely])

variable {p : AddProgress} (e : HtlcEntry)

theorem Traces.of_addFlags {e e' : HtlcEntry} (tracks : Traces revoked p e)
    (same : e'.addFlags = e.addFlags) : Traces revoked p e' := by
  obtain ⟨locally, remotely, stamp⟩ := HtlcEntry.addFlags_eq.mp same
  exact ⟨by rw [locally]; exact tracks.acknowledged, tracks.coverage.congr remotely stamp⟩

@[simp] theorem HtlcEntry.commitPending_addFlags : e.commitPending.addFlags = e.addFlags := by
  unfold commitPending
  split <;> rfl

@[simp] theorem HtlcEntry.markForwarded_addFlags : e.markForwarded.addFlags = e.addFlags := by
  unfold markForwarded
  split <;> rfl

@[simp] theorem HtlcEntry.restoreRemoval_addFlags : e.restoreRemoval.addFlags = e.addFlags := by
  unfold restoreRemoval
  split <;> rfl

def KeepsAdds (s t : ChannelState) : Prop :=
  ∀ id e', t.htlcs.get? (.received, id) = some e' →
    ∃ e, s.htlcs.get? (.received, id) = some e ∧ e'.addFlags = e.addFlags

theorem KeepsAdds.of_htlcs {s t : ChannelState} (same : t.htlcs = s.htlcs) : KeepsAdds s t :=
  fun id e' found => ⟨e', by rw [← same]; exact found, rfl⟩

theorem KeepsAdds.tracked {s t : ChannelState} {adds : Nat → Option AddProgress} (keeps : KeepsAdds s t)
    (tracked : ∀ id e, s.htlcs.get? (.received, id) = some e → ∃ p, adds id = some p ∧ Traces revoked p e) :
    ∀ id e, t.htlcs.get? (.received, id) = some e → ∃ p, adds id = some p ∧ Traces revoked p e := by
  intro id e' found
  obtain ⟨e, before, same⟩ := keeps id e' found
  obtain ⟨p, noted, tracks⟩ := tracked id e before
  exact ⟨p, noted, tracks.of_addFlags same⟩

theorem markForReestablish_keepsAdds {s : ChannelState} (recent : s.restoreRecencyUnproven = false) :
    KeepsAdds s (markForReestablish s).1 := by
  rw [ChannelState.markForReestablish_fst recent]
  split
  · intro id e' found
    rw [ChannelState.get?_rolledBack] at found
    obtain ⟨e, kept, rfl⟩ := Option.map_eq_some_iff.mp found
    exact ⟨e, (Option.filter_eq_some_iff.mp kept).1, by simp⟩
  · exact .of_htlcs rfl

variable {e : HtlcEntry} {id : Nat}

theorem Traces.acknowledge (tracks : Traces revoked p e)
    (known : e.Dispatchable) : Traces (revoked + 1) p e.acknowledge := by
  refine ⟨tracks.acknowledged, ?_⟩
  obtain ⟨-, coverage⟩ := tracks
  generalize p.coveredBy = covered at coverage ⊢
  cases coverage with
  | uncovered unrevoked unstamped =>
    exact .uncovered (by simpa [HtlcEntry.acknowledge, unstamped] using unrevoked)
      (by simp [HtlcEntry.acknowledge, unstamped])
  | unanswered stamped => exact .through le_rfl (by simp [HtlcEntry.acknowledge, stamped])
  | through answered gone =>
    have unstamped : e.addCoverPending ≠ some true := fun stamped => gone (known.covering stamped).1
    exact .through (answered.trans (Nat.le_succ _)) (by simpa [HtlcEntry.acknowledge, unstamped] using gone)

theorem carriesReceived_iff {s : ChannelState} {spec : CommitmentSpec} {carries : HtlcEntry → Bool}
    (htlcs : spec.htlcs = s.htlcs.values.filter carries)
    (found : s.htlcs.get? (.received, id) = some e) : spec.carriesReceived id = carries e := by
  obtain ⟨inside, key⟩ := (s.htlcs.get?_eq_some _ _).mp found
  rw [CommitmentSpec.carriesReceived, htlcs, Bool.eq_iff_iff, List.any_eq_true]
  constructor
  · rintro ⟨other, member, same⟩
    obtain ⟨present, carried⟩ := List.mem_filter.mp member
    rwa [← KeyedMap.eq_of_key_eq present inside ((of_decide_eq_true same).trans key.symm)]
  · intro carried
    exact ⟨e, List.mem_filter.mpr ⟨inside, carried⟩, decide_eq_true key⟩

@[simp] theorem AddProgress.cover_acknowledged (p : AddProgress) (carried : Bool) (number : Nat) :
    (p.cover carried number).acknowledged = p.acknowledged := by
  unfold cover
  split <;> rfl

theorem Traces.stampCover (tracks : Traces revoked p e) (received : e.direction = .received) :
    Traces revoked (p.cover (remoteCarries e) (revoked + 1)) e.stampCover := by
  obtain ⟨acknowledged, covered⟩ := p
  obtain ⟨agrees, coverage⟩ := tracks
  refine ⟨by rw [AddProgress.cover_acknowledged]; exact agrees, ?_⟩
  unfold AddProgress.cover
  dsimp only at coverage ⊢
  cases coverage with
  | uncovered unrevoked unstamped =>
    -- A commitment of the peer's that carries the add is the first one to do so.
    have first : e.receivedAddUncovered = remoteCarries e := by
      cases live : e.state.live <;> simp [HtlcEntry.receivedAddUncovered, remoteCarries, unrevoked, received, live]
    by_cases carries : remoteCarries e = true
    · rw [if_pos ⟨rfl, carries⟩]
      exact .unanswered (by simp [HtlcEntry.stampCover, first, carries])
    · rw [if_neg fun both => carries both.2]
      exact .uncovered unrevoked (by simpa [HtlcEntry.stampCover, first, carries] using unstamped)
  | unanswered stamped =>
    rw [if_neg (by simp)]
    exact .unanswered (by simp [HtlcEntry.stampCover, stamped])
  | through answered gone =>
    rw [if_neg (by simp)]
    exact .through answered gone

theorem localCarries_received (known : e.Dispatchable) (received : e.direction = .received) :
    localCarries false e = true := by
  cases live : e.state.live with
  | true => simp [localCarries, signedLocalLacksReceivedAdd, live, received]
  | false => simp [localCarries, signedLocalLacksReceivedAdd, live, received, known.removing live]

theorem Traces.acceptSigned (tracks : Traces revoked p e)
    (known : e.Dispatchable) (received : e.direction = .received) :
    Traces revoked (p.acknowledge (localCarries false e)) e.acceptSigned := by
  have revoked' : e.acceptSigned.addLocallyRevoked ≠ some false := by
    simp only [HtlcEntry.acceptSigned]
    split
    · decide
    · assumption
  refine ⟨by simp [AddProgress.acknowledge, localCarries_received known received, revoked'], ?_⟩
  exact tracks.coverage.congr rfl rfl

theorem Watched.Sound.dispatchable_of_get? (sound : w.Sound) {k : HtlcDirection × Nat}
    (found : w.state.htlcs.get? k = some e) : e.Dispatchable :=
  sound.dispatchable e ((w.state.htlcs.get?_eq_some _ _).mp found).1

theorem Watched.note_added {msg : UpdateAddHtlc} (fresh : w.state.htlcs.get? (.received, msg.id) = none) :
    w.note (.receive (.updateAddHtlc msg)) (w.state.receive (incomingEntry w.state msg)) [] = { w with
        state := w.state.receive (incomingEntry w.state msg)
        adds := Function.update w.adds msg.id (some ⟨false, none⟩) } := by
  simp only [Watched.note]
  rw [if_pos]
  have same : (HtlcDirection.received, msg.id) = (incomingEntry w.state msg).key := rfl
  simp only [KeyedMap.has, fresh, ChannelState.get?_receive, if_pos same, Option.isSome_none, Option.isSome_some,
    and_self]

theorem ChannelState.revocationAccepted_remoteRevocationNumber (s : ChannelState) :
    s.revocationAccepted.remoteRevocationNumber = s.remoteRevocationNumber := rfl

theorem Watched.note_taken {rotated : ChannelState} (msg : RevokeAndAck) {store : Keys.ShaChainStore}
    {next : Option Bytes} (rotates : rotated = w.state.pointsRotated store next)
    (operational : w.state.operational = true) : w.note (.receive (.revokeAndAck msg)) rotated.revocationAccepted [] =
      { w with state := rotated.revocationAccepted, revoked := w.revoked + 1 } := by
  have taken : revocationTaken w.state rotated.revocationAccepted = true := by
    rw [revocationTaken, ChannelState.revocationAccepted_remoteRevocationNumber,
      ChannelState.revocationAccepted_phase, rotates]
    have running : w.state.phase ≠ .errored := by
      intro errored
      simp [ChannelState.operational, errored] at operational
    simp [ChannelState.pointsRotated, ChannelState.rotatePoints, running]
  simp only [Watched.note]
  rw [if_pos taken]

inductive AddEffect (ver : Verifier) (w : Watched) : ChannelInput → ChannelState → List Message → Prop
  | kept {input : ChannelInput} {t : ChannelState} {sent : List Message} (keeps : KeepsAdds w.state t)
      (unnoted : w.note input t sent = { w with state := t }) : AddEffect ver w input t sent
  | added (msg : UpdateAddHtlc) (fresh : w.state.htlcs.get? (.received, msg.id) = none) :
      AddEffect ver w (.receive (.updateAddHtlc msg)) (w.state.receive (incomingEntry w.state msg)) []
  | covered (signature : Bytes) (htlcSigs : List Bytes) (partialSig : Option Bytes)
      (msg : CommitmentSigned) :
      AddEffect ver w (.signCommitment signature htlcSigs partialSig) w.state.commitmentSent
        [.commitmentSigned msg]
  | acknowledged (msg : CommitmentSigned) (revocation : RevokeAndAck) :
      AddEffect ver w (.receive (.commitmentSigned msg)) (w.state.commitmentAccepted ver msg)
        [.revokeAndAck revocation]
  | revoked (rotated : ChannelState) (msg : RevokeAndAck) (store : Keys.ShaChainStore) (next : Option Bytes)
      (rotates : rotated = w.state.pointsRotated store next) (operational : w.state.operational = true) :
      AddEffect ver w (.receive (.revokeAndAck msg)) rotated.revocationAccepted []

theorem StepEffect.adds (effect : StepEffect prim ver w.state input t sent) (current : Current w.state) :
    AddEffect ver w input t sent := by
  cases effect with
  | refused => exact .kept (.of_htlcs rfl) (Watched.note_unchanged rfl (revocationTaken_self _))
  | failed | misrevoked => exact .kept (.of_htlcs rfl) (Watched.note_unchanged rfl rfl)
  | feeStaged | heightSet | feeReceived => exact .kept (.of_htlcs rfl) rfl
  | disconnected => exact .kept (markForReestablish_keepsAdds current.recent) rfl
  | resumed =>
    refine .kept (.of_htlcs ?_) rfl
    unfold resumeReestablished
    split <;> rfl
  | offered amount hash cltv onion blinding =>
    refine .kept (fun id e' found => ⟨e', ?_, rfl⟩) rfl
    rw [ChannelState.queueUpdate_htlcs, ChannelState.get?_offer, if_neg (by rintro ⟨⟩)] at found
    exact found
  | settled update settles =>
    refine .kept (fun id e' found => ?_) (by cases input <;> cases settles <;> rfl)
    rw [ChannelState.queueUpdate_htlcs, ChannelState.get?_settleReceived] at found
    split at found
    · obtain ⟨e, before, rfl⟩ := Option.map_eq_some_iff.mp found
      exact ⟨e, before, rfl⟩
    · exact ⟨e', found, rfl⟩
  | removed removes =>
    refine .kept (fun id e' found => ⟨e', ?_, rfl⟩) ?_
    · rw [ChannelState.get?_removeOffered, if_neg (by rintro ⟨⟩)] at found
      exact found
    · rename_i msg _ _ _ _ _ _ _ _
      cases msg <;> first | rfl | cases removes
  | received msg _ fresh => exact .added msg fresh
  | signed signature htlcSigs partialSig msg => exact .covered signature htlcSigs partialSig msg
  | accepted msg => exact .acknowledged msg _
  | revoked rotated msg store next rotates operational => exact .revoked rotated msg store next rotates operational

theorem StepEffect.sound (effect : StepEffect prim ver w.state input t sent) (sound : w.Sound)
    (orderly : w.orderly input = true) : (w.note input t sent).Sound := by
  have current := effect.current sound.current
  have dispatchable := effect.forall_entries dispatchable_invariant sound.current (fun _ _ _ _ _ => trivial)
    (fun _ _ _ _ _ _ _ _ _ _ => trivial) sound.dispatchable
  rw [← Watched.note_state w input t sent] at current dispatchable
  refine ⟨current, dispatchable, ?_⟩
  cases effect.adds sound.current with
  | kept keeps unnoted =>
    rw [unnoted]
    exact keeps.tracked sound.tracked
  | added msg fresh =>
    rw [Watched.note_added fresh]
    intro id e found
    change ∃ p, Function.update w.adds msg.id (some ⟨false, none⟩) id = some p ∧ Traces w.revoked p e
    rw [ChannelState.get?_receive] at found
    split at found
    · rename_i same
      obtain rfl : id = msg.id := congrArg Prod.snd same
      cases found
      exact ⟨⟨false, none⟩, Function.update_self .., by simp [incomingEntry], .uncovered rfl (by rintro ⟨⟩)⟩
    · rename_i other
      have distinct : id ≠ msg.id := by
        rintro rfl
        exact other rfl
      rw [Function.update_of_ne distinct]
      exact sound.tracked id e found
  | covered signature htlcSigs partialSig msg =>
    intro id e' found
    have answered : w.signed = w.revoked := by simpa [Watched.orderly] using orderly
    obtain ⟨e, before, rfl⟩ := Option.map_eq_some_iff.mp ((ChannelState.get?_commitmentSent ..).symm.trans found)
    obtain ⟨p, noted, tracks⟩ := sound.tracked id e before
    refine ⟨_, congrArg (Option.map _) noted, Traces.of_addFlags ?_ (HtlcEntry.commitPending_addFlags _)⟩
    have carries : (remoteSpec w.state).carriesReceived id = remoteCarries e := carriesReceived_iff rfl before
    rw [carries, answered]
    exact tracks.stampCover (direction_of_get? before)
  | acknowledged msg revocation =>
    intro id e' found
    obtain ⟨e, before, rfl⟩ :=
      Option.map_eq_some_iff.mp ((ChannelState.get?_commitmentAccepted ..).symm.trans found)
    obtain ⟨p, noted, tracks⟩ := sound.tracked id e before
    refine ⟨_, congrArg (Option.map _) noted, Traces.of_addFlags ?_ (HtlcEntry.commitPending_addFlags _)⟩
    have carries : (localSpec w.state false).carriesReceived id = localCarries false e :=
      carriesReceived_iff (List.append_nil _) before
    rw [carries]
    exact tracks.acceptSigned (sound.dispatchable_of_get? before) (direction_of_get? before)
  | revoked rotated msg store next rotates operational =>
    rw [Watched.note_taken msg rotates operational]
    intro id e' found
    obtain ⟨e, before, left⟩ :=
      Option.bind_eq_some_iff.mp ((ChannelState.get?_revocationAccepted ..).symm.trans found)
    have before : w.state.htlcs.get? (.received, id) = some e := by rw [rotates] at before; exact before
    obtain ⟨p, noted, tracks⟩ := sound.tracked id e before
    refine ⟨p, noted, ?_⟩
    obtain ⟨-, rfl⟩ := HtlcEntry.afterRevocation_eq_some.mp left
    exact (tracks.acknowledge (sound.dispatchable_of_get? before)).of_addFlags
      (HtlcEntry.markForwarded_addFlags _)

theorem Watched.irrevocable_eq_true : w.irrevocable id = true ↔
      ∃ p n, w.adds id = some p ∧ p.acknowledged = true ∧ p.coveredBy = some n ∧ n ≤ w.revoked := by
  unfold irrevocable
  cases noted : w.adds id with
  | none => simp
  | some p => cases covered : p.coveredBy <;> simp [covered]

theorem Watched.Sound.irrevocable_iff (sound : w.Sound) (found : w.state.htlcs.get? (.received, id) = some e) :
    w.irrevocable id = true ↔ e.addRemotelyRevoked ≠ some false := by
  obtain ⟨p, noted, acknowledged, coverage⟩ := sound.tracked id e found
  have known := sound.dispatchable_of_get? found
  have same : ∀ q, w.adds id = some q ↔ p = q := by simp [noted]
  simp only [irrevocable_eq_true, same]
  generalize covering : p.coveredBy = covered at coverage
  cases coverage with
  | uncovered unrevoked unstamped => simp [unrevoked, covering]
  | unanswered stamped => simp [(known.covering stamped).1, covering]
  | through answered gone =>
    have signed : e.addLocallyRevoked ≠ some false := fun unsigned => gone (known.unsigned unsigned)
    simp [covering, gone, answered, acknowledged.mpr signed]

theorem AddEffect.irrevocable (effect : AddEffect ver w input t sent) (orderly : w.orderly input = true)
    (irrevocable : w.irrevocable id = true) : (w.note input t sent).irrevocable id = true := by
  obtain ⟨p, n, noted, acknowledged, covered, answered⟩ := Watched.irrevocable_eq_true.mp irrevocable
  rw [Watched.irrevocable_eq_true]
  cases effect with
  | kept _ unnoted =>
    rw [unnoted]
    exact ⟨p, n, noted, acknowledged, covered, answered⟩
  | added msg fresh =>
    rw [Watched.note_added fresh]
    have distinct : id ≠ msg.id := by
      rintro rfl
      simp [Watched.orderly, KeyedMap.has, fresh, noted, acknowledged] at orderly
    exact ⟨p, n, (Function.update_of_ne distinct ..).trans noted, acknowledged, covered, answered⟩
  | covered signature htlcSigs partialSig msg =>
    refine ⟨_, n, congrArg (Option.map _) noted, ?_, ?_, answered⟩
    · rw [AddProgress.cover_acknowledged, acknowledged]
    · simp [AddProgress.cover, covered]
  | acknowledged msg revocation =>
    exact ⟨_, n, congrArg (Option.map _) noted, by simp [AddProgress.acknowledge, acknowledged], covered, answered⟩
  | revoked rotated msg store next rotates operational =>
    rw [Watched.note_taken msg rotates operational]
    exact ⟨p, n, noted, acknowledged, covered, answered.trans (Nat.le_succ _)⟩

def KeepsRevoked (s t : ChannelState) : Prop :=
  ∀ id e', t.htlcs.get? (.received, id) = some e' → e'.addRemotelyRevoked ≠ some false →
    ∃ e, s.htlcs.get? (.received, id) = some e ∧ e.addRemotelyRevoked ≠ some false

theorem KeepsAdds.keepsRevoked {s t : ChannelState} (keeps : KeepsAdds s t) : KeepsRevoked s t := by
  intro id e' found revoked
  obtain ⟨e, before, same⟩ := keeps id e' found
  exact ⟨e, before, by rwa [← (HtlcEntry.addFlags_eq.mp same).2.1]⟩

theorem HtlcEntry.commitPending_addRemotelyRevoked (e : HtlcEntry) :
    e.commitPending.addRemotelyRevoked = e.addRemotelyRevoked :=
  (HtlcEntry.addFlags_eq.mp e.commitPending_addFlags).2.1

theorem AddEffect.keepsRevoked (effect : AddEffect ver w input t sent)
    (other : ∀ msg, input ≠ .receive (.revokeAndAck msg)) : KeepsRevoked w.state t := by
  cases effect with
  | kept keeps => exact keeps.keepsRevoked
  | added msg fresh =>
    intro id e' found revoked
    rw [ChannelState.get?_receive] at found
    split at found
    · cases found
      exact absurd rfl revoked
    · exact ⟨e', found, revoked⟩
  | covered signature htlcSigs partialSig msg =>
    intro id e' found revoked
    rw [ChannelState.get?_commitmentSent] at found
    obtain ⟨e, before, rfl⟩ := Option.map_eq_some_iff.mp found
    exact ⟨e, before, by rwa [HtlcEntry.commitPending_addRemotelyRevoked] at revoked⟩
  | acknowledged msg revocation =>
    intro id e' found revoked
    rw [ChannelState.get?_commitmentAccepted] at found
    obtain ⟨e, before, rfl⟩ := Option.map_eq_some_iff.mp found
    exact ⟨e, before, by rwa [HtlcEntry.commitPending_addRemotelyRevoked] at revoked⟩
  | revoked rotated msg => exact absurd rfl (other msg)

end Steps

section Dispatch

variable (prim : Primitives) (ver : Verifier) {w : Watched} {input : ChannelInput}

theorem Watched.step_state (w : Watched) (input : ChannelInput) :
    (w.step prim ver input).state = (w.state.step prim ver input).state :=
  w.note_state ..

theorem Watched.Sound.step (sound : w.Sound) (orderly : w.orderly input = true) : (w.step prim ver input).Sound :=
  (step_effect prim ver w.state input).sound sound orderly

def Watched.Completes (w w' : Watched) (id : Nat) : Prop :=
  w.irrevocable id = false ∧ w'.irrevocable id = true ∧
    ∃ e, w'.state.htlcs.get? (.received, id) = some e ∧ e.state.live = true

variable {prim ver} {w' : Watched} {rotated : ChannelState}

theorem Watched.Sound.not_completes (sound : w.Sound) (sound' : w'.Sound)
    (keeps : KeepsRevoked w.state w'.state) (id : Nat) : ¬ w.Completes w' id := by
  rintro ⟨before, after, e', found, -⟩
  obtain ⟨e, held, revoked⟩ := keeps id e' found ((sound'.irrevocable_iff found).mp after)
  rw [(sound.irrevocable_iff held).mpr revoked] at before
  cases before

theorem mem_settled_forwards {id : Nat} :
    id ∈ (rotated.settleRemovals.htlcs.values.filter HtlcEntry.forwards).map HtlcEntry.id ↔
      ∃ e, rotated.htlcs.get? (.received, id) = some e ∧ e.acknowledge.settled = false ∧
        e.acknowledge.forwards = true := by
  have lookup : ∀ e', rotated.settleRemovals.htlcs.get? (.received, id) = some e' ↔
      ∃ e, rotated.htlcs.get? (.received, id) = some e ∧ e.acknowledge.settled = false ∧ e.acknowledge = e' := by
    intro e'
    change (rotated.acknowledgedHtlcs.filter fun e => !e.settled).get? (.received, id) = some e' ↔ _
    rw [KeyedMap.get?_filter, ChannelState.get?_acknowledgedHtlcs, Option.filter_eq_some_iff, Option.map_eq_some_iff]
    constructor
    · rintro ⟨⟨e, found, rfl⟩, unsettled⟩
      exact ⟨e, found, by simpa using unsettled, rfl⟩
    · rintro ⟨e, found, unsettled, rfl⟩
      exact ⟨⟨e, found, rfl⟩, by simpa using unsettled⟩
  rw [List.mem_map]
  constructor
  · rintro ⟨e', member, rfl⟩
    obtain ⟨inside, forwards⟩ := List.mem_filter.mp member
    have received : e'.direction = .received := by
      simp only [HtlcEntry.forwards, Bool.and_eq_true, decide_eq_true_eq] at forwards
      exact forwards.1.1
    have key : e'.key = (.received, e'.id) := by rw [HtlcEntry.key, received]
    obtain ⟨e, found, unsettled, rfl⟩ := (lookup e').mp ((KeyedMap.get?_eq_some _ _ _).mpr ⟨inside, key⟩)
    exact ⟨e, found, unsettled, forwards⟩
  · rintro ⟨e, found, unsettled, forwards⟩
    obtain ⟨inside, key⟩ := (KeyedMap.get?_eq_some _ _ _).mp ((lookup e.acknowledge).mpr ⟨e, found, unsettled, rfl⟩)
    exact ⟨e.acknowledge, List.mem_filter.mpr ⟨inside, forwards⟩, congrArg Prod.snd key⟩

theorem nodup_settled_forwards (rotated : ChannelState) :
    ((rotated.settleRemovals.htlcs.values.filter HtlcEntry.forwards).map HtlcEntry.id).Nodup := by
  refine (rotated.settleRemovals.htlcs.nodup_values.filter _).map_on fun e member e' member' same => ?_
  obtain ⟨inside, forwards⟩ := List.mem_filter.mp member
  obtain ⟨inside', forwards'⟩ := List.mem_filter.mp member'
  simp only [HtlcEntry.forwards, Bool.and_eq_true, decide_eq_true_eq] at forwards forwards'
  refine KeyedMap.eq_of_key_eq inside inside' ?_
  rw [HtlcEntry.key, HtlcEntry.key, forwards.1.1, forwards'.1.1, same]

theorem Watched.Sound.mem_forwards_iff (sound : w.Sound) (sound' : w'.Sound)
    (htlcs : rotated.htlcs = w.state.htlcs) (after : w'.state = rotated.revocationAccepted) (id : Nat) :
    id ∈ (rotated.settleRemovals.htlcs.values.filter HtlcEntry.forwards).map HtlcEntry.id ↔ w.Completes w' id := by
  rw [mem_settled_forwards, htlcs]
  constructor
  · rintro ⟨e, found, unsettled, forwards⟩
    have known := sound.dispatchable_of_get? found
    simp only [HtlcEntry.forwards, receivedAddIrrevocablyCommitted, Bool.and_eq_true, decide_eq_true_eq] at forwards
    obtain ⟨⟨received, ⟨state, -⟩, revoked⟩, unemitted⟩ := forwards
    have live : e.state.live = true := by
      change e.acknowledge.state.live = true
      rw [state]
      rfl
    have unrevoked : ¬ e.addRemotelyRevoked ≠ some false := fun gone =>
      unemitted ((known.emitted received live).mpr gone)
    have present : w'.state.htlcs.get? (.received, id) = some e.acknowledge.markForwarded := by
      rw [after, ChannelState.get?_revocationAccepted, htlcs, found]
      simp [HtlcEntry.afterRevocation, unsettled]
    refine ⟨?_, (sound'.irrevocable_iff present).mpr ?_, _, present, ?_⟩
    · rw [← Bool.not_eq_true, sound.irrevocable_iff found]
      exact unrevoked
    · rw [HtlcEntry.markForwarded_eq]
      exact revoked
    · rw [HtlcEntry.markForwarded_eq]
      exact live
  · rintro ⟨before, irrevocable, e', found', live⟩
    have revoked := (sound'.irrevocable_iff found').mp irrevocable
    rw [after, ChannelState.get?_revocationAccepted, htlcs, Option.bind_eq_some_iff] at found'
    obtain ⟨e, found, left⟩ := found'
    obtain ⟨unsettled, rfl⟩ := HtlcEntry.afterRevocation_eq_some.mp left
    have known := sound.dispatchable_of_get? found
    have received := direction_of_get? found
    rw [HtlcEntry.markForwarded_eq] at live revoked
    rw [← Bool.not_eq_true, sound.irrevocable_iff found, not_not] at before
    have stamped : e.addCoverPending = some true := by
      by_contra unstamped
      simp [HtlcEntry.acknowledge, unstamped, before] at revoked
    obtain ⟨-, signed, committed⟩ := known.covering stamped
    have state : e.state = .committed := (live_cases live).resolve_left committed
    have unemitted : e.forwardEmitted ≠ some true := fun emitted =>
      (known.emitted received live).mp emitted before
    refine ⟨e, found, unsettled, ?_⟩
    simp only [HtlcEntry.forwards, receivedAddIrrevocablyCommitted, Bool.and_eq_true, decide_eq_true_eq]
    exact ⟨⟨received, ⟨state, signed⟩, revoked⟩, unemitted⟩

variable (prim ver)

theorem Watched.Sound.forwarded (sound : w.Sound) (orderly : w.orderly input = true) :
    (w.state.step prim ver input).forwarded.Nodup ∧
      ∀ id, id ∈ (w.state.step prim ver input).forwarded ↔ w.Completes (w.step prim ver input) id := by
  have effect := step_effect prim ver w.state input
  have sound' := sound.step prim ver orderly
  have silence : (w.state.step prim ver input).forwarded = [] →
      KeepsRevoked w.state (w.state.step prim ver input).state →
      (w.state.step prim ver input).forwarded.Nodup ∧
        ∀ id, id ∈ (w.state.step prim ver input).forwarded ↔ w.Completes (w.step prim ver input) id := by
    intro silent keeps
    rw [← w.step_state prim ver] at keeps
    rw [silent]
    exact ⟨List.nodup_nil, fun id => ⟨fun member => absurd member List.not_mem_nil,
      fun completes => absurd completes (sound.not_completes sound' keeps id)⟩⟩
  by_cases revocation : ∃ msg, input = .receive (.revokeAndAck msg)
  · obtain ⟨msg, rfl⟩ := revocation
    rcases handleRevokeAndAck_dispatch prim w.state msg with
      ⟨silent, unchanged⟩ | ⟨operational, outstanding, store, next, state, forwarded⟩
    · refine silence silent (KeepsAdds.keepsRevoked (.of_htlcs ?_))
      have replied : (w.state.step prim ver (.receive (.revokeAndAck msg))).state.htlcs =
          (handleRevokeAndAck prim w.state msg).state.htlcs := rfl
      rcases unchanged with unchanged | failed | ⟨store, next, misrevoked⟩
      · rw [replied, unchanged.1]
      · rw [replied, failed.1]
      · rw [replied, misrevoked]
        rfl
    · have after := (w.step_state prim ver (.receive (.revokeAndAck msg))).trans state
      rw [show (w.state.step prim ver (.receive (.revokeAndAck msg))).forwarded = _ from forwarded]
      exact ⟨nodup_settled_forwards _, fun id => sound.mem_forwards_iff sound' (w.state.pointsRotated_htlcs store next) after id⟩
  · rw [not_exists] at revocation
    exact silence (step_forwarded prim ver w.state revocation)
      ((effect.adds sound.current).keepsRevoked revocation)

def ChannelState.forwardedIn (s : ChannelState) : List ChannelInput → List Nat
  | [] => []
  | input :: rest =>
    (s.step prim ver input).forwarded ++ (s.step prim ver input).state.forwardedIn rest

theorem Watched.Sound.forwardedIn (sound : w.Sound) {inputs : List ChannelInput}
    (along : Along (Watched.step prim ver) (fun w input => w.orderly input = true) w inputs) :
    (w.state.forwardedIn prim ver inputs).Nodup ∧
      ∀ id ∈ w.state.forwardedIn prim ver inputs, w.irrevocable id = false := by
  induction inputs generalizing w with
  | nil => exact ⟨List.nodup_nil, fun id member => absurd member List.not_mem_nil⟩
  | cons input rest ih =>
    obtain ⟨nodup, completes⟩ := sound.forwarded prim ver along.1
    have later := ih (sound.step prim ver along.1) along.2
    rw [w.step_state prim ver] at later
    have before : ∀ id ∈ (w.state.step prim ver input).state.forwardedIn prim ver rest, w.irrevocable id = false := by
      intro id member
      cases irrevocable : w.irrevocable id with
      | false => rfl
      | true =>
        have stays := ((step_effect prim ver w.state input).adds sound.current).irrevocable along.1 irrevocable
        exact absurd stays (by rw [← Watched.step.eq_def, later.2 id member]; exact Bool.false_ne_true)
    refine ⟨List.nodup_append.mpr ⟨nodup, later.1, ?_⟩, fun id member => ?_⟩
    · rintro id first other second rfl
      have done := ((completes id).mp first).2.1
      rw [later.2 id second] at done
      cases done
    · rcases List.mem_append.mp member with first | second
      · exact ((completes id).mp first).1
      · exact before id second

def Opening.watched (o : Opening) (role : ChannelRole) : Watched := ⟨o.party prim role, fun _ => none, 0, 0⟩

theorem Opening.watched_sound (o : Opening) (role : ChannelRole) : (o.watched prim role).Sound where
  current := o.party_current prim role
  dispatchable := by
    change ∀ e ∈ (o.party prim role).htlcs.values, _
    rw [o.party_htlcs]
    exact fun e member => absurd member List.not_mem_nil
  tracked := fun id e found => by
    change (o.party prim role).htlcs.get? _ = _ at found
    rw [o.party_htlcs] at found
    cases found

theorem Watched.run_state (w : Watched) (inputs : List ChannelInput) :
    (inputs.foldl (Watched.step prim ver) w).state = w.state.run prim ver inputs := by
  induction inputs generalizing w with
  | nil => rfl
  | cons input rest ih => rw [List.foldl_cons, ih, w.step_state, ChannelState.run_cons]

end Dispatch

def incomingPayment : List ChannelInput :=
  [.receive (.updateAddHtlc ⟨0, 20000000, [6], 500, [], none, none⟩), .receive (.commitmentSigned ⟨[8], [[1]], none⟩)]

def watchedOpener (inputs : List ChannelInput) : Watched :=
  inputs.foldl (Watched.step plainPrimitives plainVerifier) (plainOpening.watched plainPrimitives .opener)

end Beignet.Channel
