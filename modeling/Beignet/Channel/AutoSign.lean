import Beignet.Data.Machine
import Beignet.Channel.Entries

namespace Beignet.Channel

open Beignet.Data

/-! The manager signs when the channel owes a signature. Whether what it signs is new to the peer. -/

section Manager

variable (prim : Primitives) (ver : Verifier)

def autoSignAndSendCommitment (s : ChannelState) (signature : Bytes) (htlcSignatures : List Bytes)
    (partialSignatureWithNonce : Option Bytes) : Reply :=
  if s.needsCommitment = false then ⟨s, []⟩
  -- The deferred signature goes out after the revocation that is waited for.
  else if s.isAwaitingRemoteRevocation = true then ⟨s, []⟩
  else if s.hasSigner = false then ⟨s, []⟩
  else if nextSignedPoint s = none then ⟨s, []⟩
  else signCommitment prim s signature htlcSignatures partialSignatureWithNonce

def ChannelState.managedStep (s : ChannelState) : ChannelInput → Reply
  | .signCommitment signature htlcSigs partialSig =>
    autoSignAndSendCommitment prim s signature htlcSigs partialSig
  | input => s.step prim ver input

structure CarriedUpdates where
  htlcs : List (HtlcDirection × Nat)
  feeratePerKw : Nat
  deriving DecidableEq, Repr

def CommitmentSpec.updates (spec : CommitmentSpec) : CarriedUpdates :=
  ⟨spec.htlcs.map HtlcEntry.key, spec.feeratePerKw⟩

def CarriedUpdates.Differ (a b : CarriedUpdates) : Prop :=
  (∃ k, ¬ (k ∈ a.htlcs ↔ k ∈ b.htlcs)) ∨ a.feeratePerKw ≠ b.feeratePerKw

structure Managed where
  state : ChannelState
  held : CarriedUpdates

namespace Managed

def newlySigned (m : Managed) (input : ChannelInput) : Option CarriedUpdates :=
  match input with
  | .signCommitment _ _ _ =>
    if (m.state.managedStep prim ver input).sent = [] then none else some (remoteSpec m.state).updates
  | _ => none

def step (m : Managed) (input : ChannelInput) : Managed where
  state := (m.state.managedStep prim ver input).state
  held := (m.newlySigned prim ver input).getD m.held

/-- A step leaves no update owed that the next signature does not show: we settle an HTLC that the peer's
    commitment carries, a new feerate is none of those in use, no fee of our own is waiting for a
    signature when the connection is lost, and the peer removes no HTLC both ways. -/
def showsUpdates (m : Managed) (input : ChannelInput) : Bool :=
  match input with
  | .updateFee rate => rate ≠ m.held.feeratePerKw
  | .receive (.updateFee rate) =>
    rate ≠ m.held.feeratePerKw && rate ≠ getRemoteCommitmentFeeRate m.state
  | .disconnect =>
    !(m.state.role = .opener && m.state.pendingFeeratePerKw.isSome && !m.state.pendingFeerateCommitted)
  | .receive msg => !contradicts prim m.state (.receive msg)
  | input =>
    match input.settles with
    | some (id, _) => (m.state.htlcs.get? (.received, id)).all fun e =>
        !e.state.live || (.received, id) ∈ m.held.htlcs
    | none => true

end Managed

theorem managedStep_effect (s : ChannelState) (input : ChannelInput) :
    let r := s.managedStep prim ver input
    StepEffect prim ver s input r.state r.sent := by
  cases input with
  | signCommitment signature htlcSigs partialSig =>
    have signs := step_effect prim ver s (.signCommitment signature htlcSigs partialSig)
    change StepEffect prim ver s _ (autoSignAndSendCommitment prim s signature htlcSigs partialSig).state
      (autoSignAndSendCommitment prim s signature htlcSigs partialSig).sent
    unfold autoSignAndSendCommitment
    split_ifs
    · exact .refused trivial
    · exact .refused trivial
    · exact .refused trivial
    · exact .refused trivial
    · exact signs
  | _ => exact step_effect prim ver s _

end Manager

section Entries

def HtlcEntry.onHeld (e : HtlcEntry) : Bool :=
  match e.direction with
  | .offered =>
    if e.state.live then e.addRemoteCommitted ≠ some false || e.commitCoverPending = some true
    else e.commitCoverPending ≠ some true
  | .received =>
    (e.addRemotelyRevoked ≠ some false || e.addCoverPending = some true) &&
      (e.state.live || e.commitCoverPending ≠ some true)

def HtlcEntry.owed (e : HtlcEntry) : Bool := remoteCarries e != e.onHeld

structure HtlcEntry.Signable (e : HtlcEntry) : Prop where
  removing : e.state.live = false → e.removalRemoteCommitted = some false
  offeredLive : e.direction = .offered → e.state.live = true → e.commitCoverPending = some true →
    e.addRemoteCommitted = some false
  offeredDead : e.direction = .offered → e.state.live = false → e.commitCoverPending = some true →
    e.removalLocallyRevoked ≠ some false
  offeredAdd : e.direction = .offered → e.state.live = false → e.addRemoteCommitted ≠ some false
  receivedLive : e.direction = .received → e.state.live = true → e.commitCoverPending ≠ some true
  receivedAdd : e.direction = .received → e.addRemoteCommitted ≠ some false ∧ e.removalLocallyRevoked ≠ some false
  unsigned : e.addLocallyRevoked = some false →
    e.direction = .received ∧ e.addRemotelyRevoked = some false ∧ e.addCoverPending ≠ some true

variable {e : HtlcEntry}

theorem HtlcEntry.Signable.commitPending (known : e.Signable) : e.commitPending.Signable := by
  unfold HtlcEntry.commitPending
  split
  · rename_i pending
    have live : e.state.live = true := by rw [pending]; rfl
    exact ⟨nofun, fun offered _ => known.offeredLive offered live, nofun, nofun,
      fun received _ => known.receivedLive received live, known.receivedAdd, known.unsigned⟩
  · exact known

theorem HtlcEntry.Signable.stampCover (known : e.Signable) : e.stampCover.Signable := by
  refine ⟨known.removing, ?_, ?_, known.offeredAdd, ?_, known.receivedAdd, ?_⟩
  · intro offered live stamped
    by_cases uncovered : e.addRemoteCommitted = some false
    · exact uncovered
    · refine known.offeredLive offered live ?_
      simpa [HtlcEntry.stampCover, HtlcEntry.addUncovered, HtlcEntry.removalUncovered, uncovered,
        show e.state.live = true from live] using stamped
  · intro offered dead stamped unrevoked
    have dead : e.state.live = false := dead
    have unrevoked : e.removalLocallyRevoked = some false := unrevoked
    refine known.offeredDead offered dead ?_ unrevoked
    simpa [HtlcEntry.stampCover, HtlcEntry.addUncovered, HtlcEntry.removalUncovered, dead, unrevoked] using stamped
  · intro received live stamped
    have live : e.state.live = true := live
    refine known.receivedLive received live ?_
    simpa [HtlcEntry.stampCover, HtlcEntry.addUncovered, HtlcEntry.removalUncovered, live,
      (known.receivedAdd received).1] using stamped
  · intro unsigned
    have unsigned : e.addLocallyRevoked = some false := unsigned
    obtain ⟨received, unrevoked, uncovered⟩ := known.unsigned unsigned
    refine ⟨received, unrevoked, ?_⟩
    simpa [HtlcEntry.stampCover, HtlcEntry.receivedAddUncovered, unsigned] using uncovered

theorem HtlcEntry.Signable.acceptSigned (known : e.Signable) : e.acceptSigned.Signable := by
  refine ⟨known.removing, known.offeredLive, ?_, known.offeredAdd, known.receivedLive, ?_, ?_⟩
  · intro offered dead stamped
    have kept := known.offeredDead offered dead stamped
    simp [HtlcEntry.acceptSigned, kept]
  · intro received
    refine ⟨(known.receivedAdd received).1, ?_⟩
    simp [HtlcEntry.acceptSigned, (known.receivedAdd received).2]
  · intro unsigned
    refine known.unsigned ?_
    simp only [HtlcEntry.acceptSigned] at unsigned
    split at unsigned
    · cases unsigned
    · exact unsigned

theorem HtlcEntry.acknowledge_unstamped (e : HtlcEntry) : e.acknowledge.commitCoverPending ≠ some true := by
  simp only [acknowledge]
  split
  · decide
  · assumption

theorem HtlcEntry.acknowledge_added (added : e.addRemoteCommitted ≠ some false) :
    e.acknowledge.addRemoteCommitted ≠ some false := by
  simp only [acknowledge]
  split
  · decide
  · exact added

theorem HtlcEntry.Signable.acknowledge (known : e.Signable) (unsettled : e.acknowledge.settled = false) :
    e.acknowledge.Signable := by
  have unstamped := e.acknowledge_unstamped
  refine ⟨fun dead => ?_, fun _ _ stamped => absurd stamped unstamped, fun _ _ stamped => absurd stamped unstamped,
    fun offered dead => ?_, fun _ _ => unstamped, fun received => ⟨?_, (known.receivedAdd received).2⟩,
    fun unsigned => ?_⟩
  · simpa [HtlcEntry.settled, dead] using unsettled
  · exact HtlcEntry.acknowledge_added (known.offeredAdd offered dead)
  · exact HtlcEntry.acknowledge_added (known.receivedAdd received).1
  · obtain ⟨received, unrevoked, uncovered⟩ := known.unsigned unsigned
    refine ⟨received, ?_⟩
    simp [HtlcEntry.acknowledge, uncovered, unrevoked]

theorem HtlcEntry.Signable.markForwarded (known : e.Signable) : e.markForwarded.Signable := by
  rw [e.markForwarded_eq]
  exact { known with }

theorem signable_invariant :
    EntryInvariant (fun _ _ => True) (fun e _ => e.state.live = true) HtlcEntry.Signable where
  offered := fun _ _ _ _ _ _ => ⟨nofun, nofun, nofun, nofun, nofun, nofun, nofun⟩
  received := fun _ _ => ⟨nofun, nofun, nofun, nofun, nofun, fun _ => ⟨nofun, nofun⟩, fun _ => ⟨rfl, rfl, nofun⟩⟩
  settled := fun e intent known received _ dead _ =>
    have other : e.direction ≠ .offered := by rw [received]; exact nofun
    ⟨fun _ => rfl, fun offered => absurd offered other, fun offered => absurd offered other,
      fun offered => absurd offered other, fun _ live => absurd (live.symm.trans dead) nofun, known.receivedAdd,
      known.unsigned⟩
  removed := fun e intent known offered committed dead live => by
    have other : e.direction ≠ .received := by rw [offered]; exact nofun
    have added : e.addRemoteCommitted ≠ some false := by
      simp only [addNotYetCommitted, Bool.or_eq_false_iff, decide_eq_false_iff_not] at committed
      exact committed.2
    exact ⟨fun _ => rfl, fun _ live' => absurd (live'.symm.trans dead) nofun,
      fun _ _ stamped => absurd (known.offeredLive offered live stamped) added, fun _ _ => added,
      fun received => absurd received other, fun received => absurd received other, known.unsigned⟩
  signed := fun e known => known.stampCover.commitPending
  accepted := fun e known => known.acceptSigned.commitPending
  acknowledged := fun e known unsettled => (known.acknowledge unsettled).markForwarded
  restored := fun e known _ => by
    unfold HtlcEntry.restoreRemoval
    split
    · rename_i removal
      simp only [HtlcEntry.uncommittedRemoval, Bool.and_eq_true, decide_eq_true_eq, Bool.not_eq_true'] at removal
      obtain ⟨⟨offered, dead⟩, unrevoked⟩ := removal
      have other : e.direction ≠ .received := by rw [offered]; exact nofun
      exact ⟨by rintro ⟨⟩, fun _ _ stamped => absurd unrevoked (known.offeredDead offered dead stamped),
        by rintro _ ⟨⟩, by rintro _ ⟨⟩,
        fun received => absurd received other, fun received => absurd received other, known.unsigned⟩
    · exact known

end Entries

section Held

variable {e : HtlcEntry}

@[simp] theorem HtlcEntry.onHeld_commitPending (e : HtlcEntry) : e.commitPending.onHeld = e.onHeld := by
  unfold commitPending
  split
  · rename_i pending
    cases direction : e.direction <;> simp [onHeld, direction, pending, HtlcState.live]
  · rfl

@[simp] theorem remoteCarries_commitPending (e : HtlcEntry) : remoteCarries e.commitPending = remoteCarries e := by
  unfold HtlcEntry.commitPending
  split
  · rename_i pending
    simp [remoteCarries, pending, HtlcState.live]
  · rfl

@[simp] theorem HtlcEntry.onHeld_acceptSigned (e : HtlcEntry) : e.acceptSigned.onHeld = e.onHeld := rfl

@[simp] theorem HtlcEntry.onHeld_markForwarded (e : HtlcEntry) : e.markForwarded.onHeld = e.onHeld := by
  unfold markForwarded
  split <;> rfl

@[simp] theorem remoteCarries_markForwarded (e : HtlcEntry) : remoteCarries e.markForwarded = remoteCarries e := by
  unfold HtlcEntry.markForwarded
  split <;> rfl

namespace HtlcEntry.Signable

variable (known : e.Signable)
include known

variable {intent : HtlcState}

theorem onHeld_settleAs (received : e.direction = .received) (live : e.state.live = true) :
    (e.settleAs intent).onHeld = e.onHeld := by
  simp [onHeld, settleAs, received, live, known.receivedLive received live]

theorem onHeld_removeAs (offered : e.direction = .offered) (live : e.state.live = true)
    (committed : addNotYetCommitted e = false) (dead : intent.live = false) :
    e.onHeld = true ∧ (e.removeAs intent).onHeld = true := by
  simp only [addNotYetCommitted, Bool.or_eq_false_iff, decide_eq_false_iff_not] at committed
  have unstamped : e.commitCoverPending ≠ some true := fun stamped =>
    committed.2 (known.offeredLive offered live stamped)
  simp [onHeld, removeAs, offered, live, dead, committed.2, unstamped]

theorem unstamped (offered : e.direction = .offered) (dead : e.state.live = false)
    (unrevoked : e.removalLocallyRevoked = some false) : e.commitCoverPending ≠ some true :=
  fun stamped => known.offeredDead offered dead stamped unrevoked

theorem onHeld_stampCover : e.stampCover.onHeld = remoteCarries e := by
  cases direction : e.direction with
  | offered =>
    cases live : e.state.live with
    | true =>
      by_cases added : e.addRemoteCommitted = some false <;>
        simp [onHeld, HtlcEntry.stampCover, addUncovered, remoteCarries, direction, live, added]
    | false =>
      have removing := known.removing live
      by_cases unrevoked : e.removalLocallyRevoked = some false
      · simp [onHeld, HtlcEntry.stampCover, addUncovered, removalUncovered, remoteCarries, direction, live, unrevoked,
          known.unstamped direction live unrevoked]
      · simp [onHeld, HtlcEntry.stampCover, addUncovered, removalUncovered, remoteCarries, direction, live, unrevoked,
          removing]
  | received =>
    obtain ⟨added, removal⟩ := known.receivedAdd direction
    cases live : e.state.live with
    | true =>
      by_cases unsigned : e.addLocallyRevoked = some false
      · obtain ⟨-, unrevoked, uncovered⟩ := known.unsigned unsigned
        simp [onHeld, HtlcEntry.stampCover, receivedAddUncovered, remoteCarries, direction, live, unsigned, unrevoked,
          uncovered]
      · by_cases unrevoked : e.addRemotelyRevoked = some false <;>
          simp [onHeld, HtlcEntry.stampCover, receivedAddUncovered, remoteCarries, direction, live, unsigned, unrevoked]
    | false =>
      simp [onHeld, HtlcEntry.stampCover, addUncovered, removalUncovered, remoteCarries, direction, live, removal,
        known.removing live]

theorem onHeld_acknowledge (unsettled : e.acknowledge.settled = false) : e.acknowledge.onHeld = e.onHeld := by
  have unstamped : e.state.live = false → e.commitCoverPending ≠ some true := by
    intro dead stamped
    rw [(settled_of_removing dead (known.removing dead)).mpr stamped] at unsettled
    cases unsettled
  cases direction : e.direction with
  | offered =>
    cases live : e.state.live with
    | true =>
      by_cases stamped : e.commitCoverPending = some true <;>
        simp [onHeld, HtlcEntry.acknowledge, direction, live, stamped]
    | false => simp [onHeld, HtlcEntry.acknowledge, direction, live, unstamped live]
  | received =>
    cases live : e.state.live with
    | true =>
      by_cases covered : e.addCoverPending = some true <;>
        simp [onHeld, HtlcEntry.acknowledge, direction, live, covered]
    | false =>
      by_cases covered : e.addCoverPending = some true <;>
        simp [onHeld, HtlcEntry.acknowledge, direction, live, covered, unstamped live]

theorem off_of_settled (settled : e.acknowledge.settled = true) : e.onHeld = false ∧ remoteCarries e = false := by
  have dead := live_of_settled settled
  have stamped := (settled_of_removing dead (known.removing dead)).mp settled
  cases direction : e.direction with
  | offered => simp [onHeld, remoteCarries, direction, dead, stamped, known.offeredDead direction dead stamped]
  | received => simp [onHeld, remoteCarries, direction, dead, stamped]

theorem restoreRemoval_same :
    e.restoreRemoval.onHeld = e.onHeld ∧ remoteCarries e.restoreRemoval = remoteCarries e := by
  unfold restoreRemoval
  split
  · rename_i removal
    simp only [uncommittedRemoval, Bool.and_eq_true, decide_eq_true_eq, Bool.not_eq_true'] at removal
    obtain ⟨⟨offered, dead⟩, unrevoked⟩ := removal
    simp [onHeld, remoteCarries, HtlcState.live, offered, unrevoked, known.unstamped offered dead unrevoked,
      known.offeredAdd offered dead]
  · exact ⟨rfl, rfl⟩

theorem off_of_uncommittedAdd (uncommitted : e.uncommittedAdd = true) :
    e.onHeld = false ∧ remoteCarries e = false := by
  simp only [uncommittedAdd, Bool.and_eq_true, decide_eq_true_eq] at uncommitted
  obtain ⟨⟨received, pending⟩, unsigned⟩ := uncommitted
  obtain ⟨-, unrevoked, uncovered⟩ := known.unsigned unsigned
  simp [onHeld, remoteCarries, HtlcState.live, received, pending, unsigned, unrevoked, uncovered]

theorem owed_settleAs (received : e.direction = .received) (live : e.state.live = true)
    (dead : intent.live = false) (held : e.onHeld = true) : (e.settleAs intent).owed = true := by
  rw [owed, known.onHeld_settleAs received live, held]
  simp [remoteCarries, settleAs, dead, received]

theorem owed_acceptSigned (owes : e.owed = true ∨ e.owesSignature = true) :
    e.acceptSigned.commitPending.owed = true := by
  rw [owed, onHeld_commitPending, remoteCarries_commitPending, onHeld_acceptSigned]
  cases direction : e.direction with
  | offered =>
    have signed : e.addLocallyRevoked ≠ some false := fun unsigned =>
      absurd (direction.symm.trans (known.unsigned unsigned).1) nofun
    cases live : e.state.live with
    | true => simpa [owed, owesSignature, remoteCarries, HtlcEntry.acceptSigned, direction, live, signed] using owes
    | false =>
      by_cases unrevoked : e.removalLocallyRevoked = some false
      · simp [onHeld, remoteCarries, HtlcEntry.acceptSigned, direction, live, unrevoked,
          known.unstamped direction live unrevoked]
      · simpa [owed, owesSignature, remoteCarries, HtlcEntry.acceptSigned, direction, live, unrevoked] using owes
  | received =>
    have removal := (known.receivedAdd direction).2
    cases live : e.state.live with
    | true =>
      by_cases unsigned : e.addLocallyRevoked = some false
      · obtain ⟨-, unrevoked, uncovered⟩ := known.unsigned unsigned
        simp [onHeld, remoteCarries, HtlcEntry.acceptSigned, direction, live, unsigned, unrevoked, uncovered]
      · simpa [owed, owesSignature, remoteCarries, HtlcEntry.acceptSigned, direction, live, unsigned] using owes
    | false => simpa [owed, owesSignature, remoteCarries, HtlcEntry.acceptSigned, direction, live, removal] using owes

theorem owed_acknowledge (owes : e.owed = true) :
    e.acknowledge.settled = false ∧ e.acknowledge.markForwarded.owed = true := by
  have unsettled : e.acknowledge.settled = false := by
    by_contra settled
    obtain ⟨off, uncarried⟩ := known.off_of_settled (Bool.eq_true_of_not_eq_false settled)
    simp [owed, off, uncarried] at owes
  refine ⟨unsettled, ?_⟩
  rw [owed, onHeld_markForwarded, remoteCarries_markForwarded, known.onHeld_acknowledge unsettled]
  exact owes

theorem owed_restoreRemoval (owes : e.owed = true) : e.uncommittedAdd = false ∧ e.restoreRemoval.owed = true := by
  refine ⟨?_, ?_⟩
  · by_contra uncommitted
    obtain ⟨off, uncarried⟩ := known.off_of_uncommittedAdd (Bool.eq_true_of_not_eq_false uncommitted)
    simp [owed, off, uncarried] at owes
  · rw [owed, known.restoreRemoval_same.1, known.restoreRemoval_same.2]
    exact owes

end HtlcEntry.Signable

end Held

section Fee

variable {ver : Verifier} {s t : ChannelState} {input : ChannelInput}
  {sent : List Message} {held : Nat}

structure StagedFee (s : ChannelState) (held : Nat) : Prop where
  uncommitted : s.role = .acceptor → s.pendingFeerateSignable = false → s.pendingFeeratePerKw.isSome = true →
    s.pendingFeerateCommitted = false
  fresh : ∀ rate, s.role = .acceptor → s.pendingFeerateSignable = false → s.pendingFeeratePerKw = some rate →
    rate ≠ held ∧ rate ≠ committedFeeRate s

theorem getRemoteCommitmentFeeRate_of_unsignable (role : s.role = .acceptor)
    (unsignable : s.pendingFeerateSignable = false) : getRemoteCommitmentFeeRate s = committedFeeRate s := by
  cases pending : s.pendingFeeratePerKw <;> simp [getRemoteCommitmentFeeRate, pending, role, unsignable]

theorem StagedFee.resign (staged : StagedFee s held) : StagedFee s (getRemoteCommitmentFeeRate s) := by
  refine ⟨staged.uncommitted, fun rate role unsignable pending => ?_⟩
  have fresh := (staged.fresh rate role unsignable pending).2
  rw [getRemoteCommitmentFeeRate_of_unsignable role unsignable]
  exact ⟨fresh, fresh⟩

theorem StagedFee.stagePeerFee {rate : Nat} (role : s.role = .acceptor) (other : rate ≠ held)
    (new : rate ≠ getRemoteCommitmentFeeRate s) : StagedFee (s.stagePeerFee rate) held ∧
      getRemoteCommitmentFeeRate (s.stagePeerFee rate) = getRemoteCommitmentFeeRate s := by
  have same : committedFeeRate (s.stagePeerFee rate) = getRemoteCommitmentFeeRate s := by
    cases pending : s.pendingFeeratePerKw with
    | none => simp [committedFeeRate, getRemoteCommitmentFeeRate, ChannelState.stagePeerFee, ChannelState.stageFee,
        role, pending]
    | some _ => cases signable : s.pendingFeerateSignable <;>
        simp [committedFeeRate, getRemoteCommitmentFeeRate, ChannelState.stagePeerFee, ChannelState.stageFee,
          role, pending, signable]
  refine ⟨⟨fun _ _ _ => rfl, fun staged _ _ pending => ?_⟩, ?_⟩
  · obtain rfl : rate = staged := Option.some.inj pending
    rw [same]
    exact ⟨other, new⟩
  · rw [← same]
    exact getRemoteCommitmentFeeRate_of_unsignable role rfl

theorem StagedFee.commitmentSent (staged : StagedFee s held) :
    StagedFee s.commitmentSent (getRemoteCommitmentFeeRate s) := by
  refine ⟨fun role unsignable some => ?_, staged.resign.fresh⟩
  have unsignable : s.pendingFeerateSignable = false := unsignable
  simp [ChannelState.commitmentSent, show s.role = .acceptor from role, unsignable,
    staged.uncommitted role unsignable some]

theorem StagedFee.commitmentAccepted (ver : Verifier) (staged : StagedFee s held) (msg : CommitmentSigned) :
    StagedFee (s.commitmentAccepted ver msg) held ∧
      (getRemoteCommitmentFeeRate (s.commitmentAccepted ver msg) = getRemoteCommitmentFeeRate s ∧
          becomesSignable s s.pendingFeeratePerKw s.pendingFeerateSignable = false ∨
        getRemoteCommitmentFeeRate (s.commitmentAccepted ver msg) ≠ held) := by
  cases becomes : becomesSignable s s.pendingFeeratePerKw s.pendingFeerateSignable with
  | false =>
    have same : (s.commitmentAccepted ver msg).pendingFeerateSignable = s.pendingFeerateSignable := by
      simp [ChannelState.commitmentAccepted, becomes]
    refine ⟨⟨fun role unsignable => staged.uncommitted role (same.symm.trans unsignable),
      fun rate role unsignable => staged.fresh rate role (same.symm.trans unsignable)⟩, .inl ⟨?_, rfl⟩⟩
    rw [getRemoteCommitmentFeeRate, same]
    rfl
  | true =>
    have signable : (s.commitmentAccepted ver msg).pendingFeerateSignable = true := by
      simp [ChannelState.commitmentAccepted, becomes]
    simp only [becomesSignable, Bool.and_eq_true, Bool.not_eq_true', decide_eq_true_eq] at becomes
    obtain ⟨⟨some, role⟩, unsignable⟩ := becomes
    obtain ⟨rate, pending⟩ := Option.isSome_iff_exists.mp some
    refine ⟨⟨fun _ unsignable => absurd (signable.symm.trans unsignable) nofun,
      fun _ _ unsignable => absurd (signable.symm.trans unsignable) nofun⟩, .inr ?_⟩
    have shown : getRemoteCommitmentFeeRate (s.commitmentAccepted ver msg) = rate := by
      rw [getRemoteCommitmentFeeRate, signable, show (s.commitmentAccepted ver msg).pendingFeeratePerKw = _ from pending]
      simp
    rw [shown]
    exact (staged.fresh rate role unsignable pending).1

theorem StagedFee.promoteFee (staged : StagedFee s held) :
    StagedFee s.promoteFee held ∧ getRemoteCommitmentFeeRate s.promoteFee = getRemoteCommitmentFeeRate s := by
  cases pending : s.pendingFeeratePerKw with
  | none =>
    refine ⟨⟨?_, ?_⟩, ?_⟩
    · simp [ChannelState.promoteFee, pending]
    · simp [ChannelState.promoteFee, pending]
    · simp [getRemoteCommitmentFeeRate, committedFeeRate, ChannelState.promoteFee, pending]
  | some rate =>
    cases committed : s.pendingFeerateCommitted with
    | false =>
      refine ⟨⟨fun _ _ _ => by simp [ChannelState.promoteFee, committed], fun rate' role unsignable staged' => ?_⟩, ?_⟩
      · simp only [ChannelState.promoteFee, committed, pending, Bool.false_eq_true, ↓reduceIte, Option.isSome_none]
          at role unsignable staged'
        have fresh := staged.fresh rate' role unsignable (pending.trans staged')
        simpa [committedFeeRate, ChannelState.promoteFee, committed] using fresh
      · simp [getRemoteCommitmentFeeRate, committedFeeRate, ChannelState.promoteFee, pending, committed]
    | true =>
      refine ⟨⟨?_, ?_⟩, ?_⟩
      · simp [ChannelState.promoteFee, pending, committed]
      · simp [ChannelState.promoteFee, pending, committed]
      · cases role : s.role with
        | opener => simp [getRemoteCommitmentFeeRate, committedFeeRate, ChannelState.promoteFee, pending, committed, role]
        | acceptor =>
          have signable : s.pendingFeerateSignable = true := by
            by_contra unsignable
            have flag := staged.uncommitted role (Bool.eq_false_of_not_eq_true unsignable) (by rw [pending]; rfl)
            rw [committed] at flag
            cases flag
          simp [getRemoteCommitmentFeeRate, committedFeeRate, ChannelState.promoteFee, pending, committed, role, signable]

theorem StagedFee.rollbackFee (staged : StagedFee s held)
    (kept : ¬ (s.role = .opener ∧ s.pendingFeeratePerKw.isSome = true ∧ s.pendingFeerateCommitted = false)) :
    StagedFee s.rollbackFee held ∧ getRemoteCommitmentFeeRate s.rollbackFee = getRemoteCommitmentFeeRate s := by
  by_cases dropped : s.pendingFeerateSignable = false ∧ s.pendingFeerateCommitted = false
  · refine ⟨⟨?_, ?_⟩, ?_⟩
    · simp [ChannelState.rollbackFee, dropped]
    · simp [ChannelState.rollbackFee, dropped]
    · have none : s.rollbackFee.pendingFeeratePerKw = none := by simp [ChannelState.rollbackFee, dropped]
      rw [getRemoteCommitmentFeeRate, none]
      change committedFeeRate s = _
      cases role : s.role with
      | acceptor => rw [getRemoteCommitmentFeeRate_of_unsignable role dropped.1]
      | opener =>
        cases pending : s.pendingFeeratePerKw with
        | none => simp [getRemoteCommitmentFeeRate, pending]
        | some rate => exact absurd ⟨role, by rw [pending]; rfl, dropped.2⟩ kept
  · have same : s.rollbackFee = s := by simp [ChannelState.rollbackFee, dropped]
    rw [same]
    exact ⟨staged, rfl⟩

structure SameFee (t s : ChannelState) : Prop where
  role : t.role = s.role
  rate : committedFeeRate t = committedFeeRate s
  pending : t.pendingFeeratePerKw = s.pendingFeeratePerKw
  signable : t.pendingFeerateSignable = s.pendingFeerateSignable
  committed : t.pendingFeerateCommitted = s.pendingFeerateCommitted

theorem SameFee.keeps (same : SameFee t s) (staged : StagedFee s held) :
    StagedFee t held ∧ getRemoteCommitmentFeeRate t = getRemoteCommitmentFeeRate s := by
  obtain ⟨role, rate, pending, signable, committed⟩ := same
  refine ⟨⟨?_, ?_⟩, ?_⟩
  · rw [role, pending, signable, committed]
    exact staged.uncommitted
  · rw [role, pending, signable, rate]
    exact staged.fresh
  · rw [getRemoteCommitmentFeeRate, getRemoteCommitmentFeeRate, role, rate, pending, signable]

theorem StagedFee.revocationAccepted (staged : StagedFee s held) : StagedFee s.revocationAccepted held ∧
      getRemoteCommitmentFeeRate s.revocationAccepted = getRemoteCommitmentFeeRate s := by
  have settling : SameFee s.acknowledgeUpdates.settleRemovals s := ⟨rfl, rfl, rfl, rfl, rfl⟩
  obtain ⟨settled, rate⟩ := settling.keeps staged
  obtain ⟨promoted, rate'⟩ := settled.promoteFee
  have forwarding (t : ChannelState) : SameFee t.promoteLease.forwardCommitted t := ⟨rfl, rfl, rfl, rfl, rfl⟩
  obtain ⟨forwarded, rate''⟩ := (forwarding _).keeps promoted
  exact ⟨forwarded, rate''.trans (rate'.trans rate)⟩

theorem ChannelState.revocationAccepted_needsCommitment (s : ChannelState) :
    s.revocationAccepted.needsCommitment = s.needsCommitment := by
  simp only [revocationAccepted, forwardCommitted, promoteLease, promoteFee, settleRemovals, acknowledgeUpdates]

theorem sameFee_rolledBack (s : ChannelState) : SameFee s.rolledBack s.rollbackFee := ⟨rfl, rfl, rfl, rfl, rfl⟩

theorem ChannelState.promoteLease_unleased (unleased : s.pendingLeaseBlockheight = none) :
    s.promoteLease.pendingLeaseBlockheight = none := by
  simp [promoteLease, unleased]

end Fee

namespace Managed

structure Owing (m : Managed) : Prop where
  current : Current m.state
  unleased : m.state.pendingLeaseBlockheight = none
  entries : ∀ e ∈ m.state.htlcs.values, e.Signable
  held : ∀ k, k ∈ m.held.htlcs ↔ ∃ e, m.state.htlcs.get? k = some e ∧ e.onHeld = true
  staged : StagedFee m.state m.held.feeratePerKw
  owes : m.state.needsCommitment = true → (∃ e ∈ m.state.htlcs.values, e.owed = true) ∨
    getRemoteCommitmentFeeRate m.state ≠ m.held.feeratePerKw

variable {prim : Primitives} {ver : Verifier} {m : Managed} {t : ChannelState} {input : ChannelInput}
  {sent : List Message}

theorem mem_updates (s : ChannelState) (k : HtlcDirection × Nat) :
    k ∈ (remoteSpec s).updates.htlcs ↔ ∃ e, s.htlcs.get? k = some e ∧ remoteCarries e = true := by
  simp only [CommitmentSpec.updates, remoteSpec, List.mem_map, List.mem_filter, KeyedMap.get?_eq_some]
  constructor
  · rintro ⟨e, ⟨member, carried⟩, rfl⟩
    exact ⟨e, ⟨member, rfl⟩, carried⟩
  · rintro ⟨e, ⟨member, rfl⟩, carried⟩
    exact ⟨e, ⟨member, carried⟩, rfl⟩

theorem Owing.differ (owing : m.Owing) (needed : m.state.needsCommitment = true) :
    (remoteSpec m.state).updates.Differ m.held := by
  rcases owing.owes needed with ⟨e, member, owed⟩ | rate
  · refine .inl ⟨e.key, fun same => ?_⟩
    have found := (m.state.htlcs.get?_eq_some e.key e).mpr ⟨member, rfl⟩
    have next := mem_updates m.state e.key
    have last := owing.held e.key
    simp only [found, Option.some.injEq, exists_eq_left'] at next last
    have agree : remoteCarries e = e.onHeld := Bool.eq_iff_iff.mpr (next.symm.trans (same.trans last))
    simp [HtlcEntry.owed, agree] at owed
  · exact .inr rate

theorem Owing.held_of_bind (owing : m.Owing) {f : HtlcEntry → Option HtlcEntry}
    (lookup : ∀ k, t.htlcs.get? k = (m.state.htlcs.get? k).bind f)
    (keeps : ∀ e ∈ m.state.htlcs.values, (∃ e', f e = some e' ∧ e'.onHeld = true) ↔ e.onHeld = true) :
    ∀ k, k ∈ m.held.htlcs ↔ ∃ e, t.htlcs.get? k = some e ∧ e.onHeld = true := by
  intro k
  rw [owing.held, lookup]
  cases found : m.state.htlcs.get? k with
  | none => simp
  | some e =>
    have member := ((m.state.htlcs.get?_eq_some _ _).mp found).1
    simp [keeps e member]

variable {entry : HtlcEntry}

theorem Owing.held_of_set (owing : m.Owing) (fresh : m.state.htlcs.get? entry.key = none) (off : entry.onHeld = false)
    (lookup : ∀ k, t.htlcs.get? k = if k = entry.key then some entry else m.state.htlcs.get? k) :
    ∀ k, k ∈ m.held.htlcs ↔ ∃ e, t.htlcs.get? k = some e ∧ e.onHeld = true := by
  intro k
  rw [owing.held, lookup]
  split
  · rename_i same
    simp [same, fresh, off]
  · rfl

theorem Owing.held_of_modify (owing : m.Owing) {k₀ : HtlcDirection × Nat} {f : HtlcEntry → HtlcEntry}
    (found : m.state.htlcs.get? k₀ = some entry) (same : (f entry).onHeld = entry.onHeld)
    (lookup : ∀ k, t.htlcs.get? k = if k = k₀ then (m.state.htlcs.get? k).map f else m.state.htlcs.get? k) :
    ∀ k, k ∈ m.held.htlcs ↔ ∃ e, t.htlcs.get? k = some e ∧ e.onHeld = true := by
  intro k
  rw [owing.held, lookup]
  split
  · rename_i here
    simp [here, found, same]
  · rfl

theorem Owing.owes_of_keeps (owing : m.Owing) (needs : t.needsCommitment = m.state.needsCommitment)
    (rate : getRemoteCommitmentFeeRate t = getRemoteCommitmentFeeRate m.state)
    (keeps : ∀ e ∈ m.state.htlcs.values, e.owed = true → ∃ e' ∈ t.htlcs.values, e'.owed = true) :
    t.needsCommitment = true → (∃ e ∈ t.htlcs.values, e.owed = true) ∨
      getRemoteCommitmentFeeRate t ≠ m.held.feeratePerKw := by
  rw [needs, rate]
  intro needed
  rcases owing.owes needed with ⟨e, member, owed⟩ | other
  · exact .inl (keeps e member owed)
  · exact .inr other

theorem Owing.of_same (owing : m.Owing) (current : Current t) (htlcs : t.htlcs = m.state.htlcs)
    (unleased : t.pendingLeaseBlockheight = m.state.pendingLeaseBlockheight) (fee : SameFee t m.state)
    (needs : t.needsCommitment = m.state.needsCommitment) : Owing ⟨t, m.held⟩ where
  current := current
  unleased := unleased.trans owing.unleased
  entries := by rw [htlcs]; exact owing.entries
  held := by rw [htlcs]; exact owing.held
  staged := (fee.keeps owing.staged).1
  owes := owing.owes_of_keeps needs (fee.keeps owing.staged).2 fun e member owed =>
    ⟨e, by rw [htlcs]; exact member, owed⟩

def heldAfter (m : Managed) (input : ChannelInput) (sent : List Message) : CarriedUpdates :=
  match input with
  | .signCommitment _ _ _ => if sent = [] then m.held else (remoteSpec m.state).updates
  | _ => m.held

theorem step_eq (m : Managed) (input : ChannelInput) :
    m.step prim ver input = ⟨(m.state.managedStep prim ver input).state,
      m.heldAfter input (m.state.managedStep prim ver input).sent⟩ := by
  cases input with
  | signCommitment =>
    simp only [step, newlySigned, heldAfter]
    split <;> rfl
  | _ => rfl

@[simp] theorem heldAfter_nil (m : Managed) (input : ChannelInput) : m.heldAfter input [] = m.held := by
  cases input <;> rfl

theorem shown_removal (shown : m.showsUpdates prim input = true) (msg : Message) (id : Nat) (intent : HtlcState)
    (e : HtlcEntry) (receives : input = .receive msg) (removes : msg.removes = some (id, intent))
    (operational : m.state.operational = true) (found : m.state.htlcs.get? (.offered, id) = some e)
    (proved : msg.provesRemoval prim e = true) (other : e.state ≠ intent) : e.state.live = true := by
  subst receives
  have agrees : contradicts prim m.state (.receive msg) = false := by
    cases msg <;> cases removes <;> simpa [showsUpdates] using shown
  simpa [contradicts, removes, found, operational, other, proved] using agrees

section

variable (owing : m.Owing)
include owing

variable {id : Nat} {intent : HtlcState} {update : PendingUpdate}

theorem shown_settlement (shown : m.showsUpdates prim input = true)
    {e : HtlcEntry} (settles : input.settles = some (id, intent))
    (found : m.state.htlcs.get? (.received, id) = some e) (live : e.state.live = true) : e.onHeld = true := by
  have carried : (.received, id) ∈ m.held.htlcs := by
    cases input <;> cases settles <;>
      simpa [showsUpdates, ChannelInput.settles, found, live] using shown
  obtain ⟨e', found', onHeld⟩ := (owing.held _).mp carried
  rw [Option.some.inj (found.symm.trans found')]
  exact onHeld

theorem Owing.offer (current : Current ((m.state.offer entry).queueUpdate update))
    (entries : ∀ e ∈ ((m.state.offer entry).queueUpdate update).htlcs.values, e.Signable)
    (fresh : m.state.htlcs.get? entry.key = none) (off : entry.onHeld = false) (carried : remoteCarries entry = true) :
    Owing ⟨(m.state.offer entry).queueUpdate update, m.held⟩ where
  current := current
  unleased := owing.unleased
  entries := entries
  held := owing.held_of_set fresh off (m.state.get?_offer · entry)
  staged := { owing.staged with }
  owes := fun _ => .inl ⟨entry, KeyedMap.mem_set.mpr (.inl rfl), by simp [HtlcEntry.owed, off, carried]⟩

theorem Owing.receive (current : Current (m.state.receive entry))
    (entries : ∀ e ∈ (m.state.receive entry).htlcs.values, e.Signable)
    (fresh : m.state.htlcs.get? entry.key = none) (off : entry.onHeld = false) :
    Owing ⟨m.state.receive entry, m.held⟩ := by
  have fee : SameFee (m.state.receive entry) m.state := ⟨rfl, rfl, rfl, rfl, rfl⟩
  obtain ⟨staged, same⟩ := fee.keeps owing.staged
  refine ⟨current, owing.unleased, entries, owing.held_of_set fresh off (m.state.get?_receive · entry), staged,
    owing.owes_of_keeps rfl same fun e member owed => ⟨e, KeyedMap.mem_set.mpr (.inr ⟨member, ?_⟩), owed⟩⟩
  exact (m.state.htlcs.get?_eq_none _).mp fresh e member

theorem Owing.settleReceived (current : Current ((m.state.settleReceived id intent).queueUpdate update))
    (entries : ∀ e ∈ ((m.state.settleReceived id intent).queueUpdate update).htlcs.values, e.Signable)
    (found : m.state.htlcs.get? (.received, id) = some entry) (live : entry.state.live = true)
    (dead : intent.live = false) (onHeld : entry.onHeld = true) :
    Owing ⟨(m.state.settleReceived id intent).queueUpdate update, m.held⟩ := by
  have known := owing.entries entry ((m.state.htlcs.get?_eq_some _ _).mp found).1
  have received := direction_of_get? found
  have after : (m.state.settleReceived id intent).htlcs.get? (.received, id) = some (entry.settleAs intent) := by
    simp [found]
  exact ⟨current, owing.unleased, entries, owing.held_of_modify found (known.onHeld_settleAs received live)
    (m.state.get?_settleReceived · id intent), { owing.staged with },
    fun _ => .inl ⟨entry.settleAs intent, ((KeyedMap.get?_eq_some _ _ _).mp after).1,
      known.owed_settleAs received live dead onHeld⟩⟩

theorem Owing.removeOffered (current : Current (m.state.removeOffered id intent))
    (entries : ∀ e ∈ (m.state.removeOffered id intent).htlcs.values, e.Signable)
    (found : m.state.htlcs.get? (.offered, id) = some entry) (live : entry.state.live = true)
    (dead : intent.live = false) (committed : addNotYetCommitted entry = false) :
    Owing ⟨m.state.removeOffered id intent, m.held⟩ := by
  have known := owing.entries entry ((m.state.htlcs.get?_eq_some _ _).mp found).1
  have offered := direction_of_get? found
  obtain ⟨before, after⟩ := known.onHeld_removeAs offered live committed dead
  have fee : SameFee (m.state.removeOffered id intent) m.state := ⟨rfl, rfl, rfl, rfl, rfl⟩
  obtain ⟨staged, same⟩ := fee.keeps owing.staged
  refine ⟨current, owing.unleased, entries, owing.held_of_modify found (after.trans before.symm)
    (m.state.get?_removeOffered · id intent), staged,
    owing.owes_of_keeps rfl same fun e member owed => ⟨e, ?_, owed⟩⟩
  have elsewhere : e.key ≠ (.offered, id) := by
    intro here
    have same : e = entry := Option.some.inj
      (((m.state.htlcs.get?_eq_some _ _).mpr ⟨member, here⟩).symm.trans found)
    rw [same, HtlcEntry.owed, before] at owed
    simp [remoteCarries, live, offered] at owed
  have kept : (m.state.removeOffered id intent).htlcs.get? e.key = some e := by
    rw [ChannelState.get?_removeOffered, if_neg elsewhere]
    exact (m.state.htlcs.get?_eq_some _ _).mpr ⟨member, rfl⟩
  exact ((KeyedMap.get?_eq_some _ _ _).mp kept).1

theorem Owing.commitmentSent (current : Current m.state.commitmentSent)
    (entries : ∀ e ∈ m.state.commitmentSent.htlcs.values, e.Signable) :
    Owing ⟨m.state.commitmentSent, (remoteSpec m.state).updates⟩ := by
  refine ⟨current, owing.unleased, entries, fun k => ?_, owing.staged.commitmentSent, nofun⟩
  rw [mem_updates, ChannelState.get?_commitmentSent]
  cases found : m.state.htlcs.get? k with
  | none => simp
  | some e => simp [(owing.entries e ((m.state.htlcs.get?_eq_some _ _).mp found).1).onHeld_stampCover]

theorem Owing.commitmentAccepted {msg : CommitmentSigned} (current : Current (m.state.commitmentAccepted ver msg))
    (entries : ∀ e ∈ (m.state.commitmentAccepted ver msg).htlcs.values, e.Signable) :
    Owing ⟨m.state.commitmentAccepted ver msg, m.held⟩ := by
  obtain ⟨staged, fee⟩ := owing.staged.commitmentAccepted ver msg
  refine ⟨current, owing.unleased, entries, ?_, staged, fun needed => ?_⟩
  · refine owing.held_of_bind (f := fun e => some e.acceptSigned.commitPending)
      (fun k => by simp [Option.map_eq_bind]) fun e member => ?_
    simp [HtlcEntry.onHeld_acceptSigned]
  rcases fee with ⟨same, unstaged⟩ | other
  · have covers : ∀ e ∈ m.state.htlcs.values, e.owed = true ∨ e.owesSignature = true →
        ∃ e' ∈ (m.state.commitmentAccepted ver msg).htlcs.values, e'.owed = true := fun e member owes =>
      ⟨_, List.mem_map_of_mem member, (owing.entries e member).owed_acceptSigned owes⟩
    have cause : m.state.needsCommitment = true ∨ ∃ e ∈ m.state.htlcs.values, e.owesSignature = true := by
      have unleased : becomesSignable m.state m.state.pendingLeaseBlockheight
          m.state.pendingLeaseBlockheightSignable = false := by simp [becomesSignable, owing.unleased]
      simpa [ChannelState.commitmentAccepted, unstaged, unleased] using needed
    rw [same]
    rcases cause with before | ⟨e, member, owes⟩
    · rcases owing.owes before with ⟨e, member, owed⟩ | other
      · exact .inl (covers e member (.inl owed))
      · exact .inr other
    · exact .inl (covers e member (.inr owes))
  · exact .inr other

theorem Owing.revocationAccepted (current : Current m.state.revocationAccepted)
    (entries : ∀ e ∈ m.state.revocationAccepted.htlcs.values, e.Signable) :
    Owing ⟨m.state.revocationAccepted, m.held⟩ := by
  obtain ⟨staged, same⟩ := owing.staged.revocationAccepted
  refine ⟨current, ?_, entries, owing.held_of_bind (fun k => ChannelState.get?_revocationAccepted ..) ?_, staged,
    owing.owes_of_keeps m.state.revocationAccepted_needsCommitment same fun e member owed => ?_⟩
  · exact ChannelState.promoteLease_unleased (s := m.state.acknowledgeUpdates.settleRemovals.promoteFee) owing.unleased
  · intro e member
    cases settled : e.acknowledge.settled with
    | true => simp [HtlcEntry.afterRevocation, settled, ((owing.entries e member).off_of_settled settled).1]
    | false => simp [HtlcEntry.afterRevocation, settled, (owing.entries e member).onHeld_acknowledge settled]
  · obtain ⟨unsettled, still⟩ := (owing.entries e member).owed_acknowledge owed
    have after : m.state.revocationAccepted.htlcs.get? e.key = some e.acknowledge.markForwarded := by
      simp [(m.state.htlcs.get?_eq_some _ _).mpr ⟨member, rfl⟩, HtlcEntry.afterRevocation, unsettled]
    exact ⟨_, ((KeyedMap.get?_eq_some _ _ _).mp after).1, still⟩

theorem Owing.rolledBack (current : Current m.state.rolledBack)
    (entries : ∀ e ∈ m.state.rolledBack.htlcs.values, e.Signable)
    (kept : ¬ (m.state.role = .opener ∧ m.state.pendingFeeratePerKw.isSome = true ∧
      m.state.pendingFeerateCommitted = false)) : Owing ⟨m.state.rolledBack, m.held⟩ := by
  obtain ⟨dropped, rate⟩ := owing.staged.rollbackFee kept
  obtain ⟨staged, same⟩ := (sameFee_rolledBack m.state).keeps dropped
  refine ⟨current, ?_, entries, ?_, staged, owing.owes_of_keeps rfl (same.trans rate) fun e member owed => ?_⟩
  · change (if _ then none else m.state.pendingLeaseBlockheight) = none
    rw [owing.unleased, ite_self]
  · refine owing.held_of_bind (f := fun e => if e.uncommittedAdd then none else some e.restoreRemoval)
      (fun k => ?_) fun e member => ?_
    · rw [ChannelState.get?_rolledBack]
      cases m.state.htlcs.get? k with
      | none => rfl
      | some e => cases uncommitted : e.uncommittedAdd <;> simp [uncommitted]
    · cases uncommitted : e.uncommittedAdd with
      | true => simp [((owing.entries e member).off_of_uncommittedAdd uncommitted).1]
      | false => simp [(owing.entries e member).restoreRemoval_same.1]
  · obtain ⟨covered, still⟩ := (owing.entries e member).owed_restoreRemoval owed
    exact ⟨_, (m.state.mem_rolledBack _).mpr ⟨e, member, covered, rfl⟩, still⟩

theorem Owing.step_effect (shown : m.showsUpdates prim input = true)
    (effect : StepEffect prim ver m.state input t sent) : Owing ⟨t, m.heldAfter input sent⟩ := by
  have current := effect.current owing.current
  have entries := effect.forall_entries signable_invariant owing.current (fun _ _ _ _ _ => trivial)
    (shown_removal shown) owing.entries
  cases effect with
  | refused =>
    rw [heldAfter_nil]
    exact owing
  | failed =>
    rw [heldAfter_nil]
    exact owing.of_same current rfl rfl ⟨rfl, rfl, rfl, rfl, rfl⟩ rfl
  | offered =>
    refine owing.offer current entries ?_ rfl rfl
    by_contra taken
    obtain ⟨e, found⟩ := Option.ne_none_iff_exists'.mp taken
    exact absurd (owing.current.numbered _ e found) (lt_irrefl _)
  | received msg operational fresh => exact owing.receive current entries fresh rfl
  | @settled input id intent entry msg update settles operational found live =>
    have unsigned : m.heldAfter input [msg] = m.held := by cases input <;> first | rfl | cases settles
    rw [unsigned]
    exact owing.settleReceived current entries found live (ChannelInput.settles_dead settles)
      (shown_settlement owing shown settles found live)
  | removed removes operational found proved other committed =>
    exact owing.removeOffered current entries found
      (shown_removal shown _ _ _ _ rfl removes operational found proved other) (Message.removes_dead removes) committed
  | feeStaged rate phase role =>
    have other : rate ≠ m.held.feeratePerKw := by simpa [showsUpdates] using shown
    have opener : m.state.role ≠ .acceptor := by rw [role]; exact nofun
    refine ⟨current, owing.unleased, entries, owing.held, ⟨fun acceptor => absurd acceptor opener,
      fun _ acceptor => absurd acceptor opener⟩, fun _ => .inr ?_⟩
    simpa [getRemoteCommitmentFeeRate, ChannelState.stageFee, ChannelState.queueUpdate, role, heldAfter] using other
  | feeReceived rate operational role =>
    have fresh : rate ≠ m.held.feeratePerKw ∧ rate ≠ getRemoteCommitmentFeeRate m.state := by
      simpa [showsUpdates] using shown
    obtain ⟨staged, same⟩ := StagedFee.stagePeerFee role fresh.1 fresh.2
    exact ⟨current, owing.unleased, entries, owing.held, staged,
      owing.owes_of_keeps rfl same fun e member owed => ⟨e, member, owed⟩⟩
  | signed => exact owing.commitmentSent current entries
  | accepted => exact owing.commitmentAccepted current entries
  | misrevoked => exact owing.of_same current rfl rfl ⟨rfl, rfl, rfl, rfl, rfl⟩ rfl
  | revoked rotated msg store next rotates =>
    have before : Owing ⟨rotated, m.held⟩ := by
      rw [rotates]
      exact owing.of_same { owing.current with } rfl rfl ⟨rfl, rfl, rfl, rfl, rfl⟩ rfl
    exact before.revocationAccepted current entries
  | heightSet => exact owing.of_same current rfl rfl ⟨rfl, rfl, rfl, rfl, rfl⟩ rfl
  | disconnected =>
    rw [ChannelState.markForReestablish_fst owing.current.recent] at current entries ⊢
    split_ifs at current entries ⊢
    · exact owing.rolledBack current entries (by simpa [showsUpdates, imp_iff_not_or, or_assoc] using shown)
    · exact owing
  | resumed =>
    unfold resumeReestablished at current ⊢
    split at current
    · exact owing.of_same current rfl rfl ⟨rfl, rfl, rfl, rfl, rfl⟩ rfl
    · exact owing

theorem Owing.step (shown : m.showsUpdates prim input = true) : (m.step prim ver input).Owing := by
  rw [step_eq]
  exact owing.step_effect shown (managedStep_effect prim ver m.state input)

end

theorem needed_of_newlySigned {u : CarriedUpdates} (signs : m.newlySigned prim ver input = some u) :
    m.state.needsCommitment = true ∧ u = (remoteSpec m.state).updates := by
  cases input with
  | signCommitment signature htlcSigs partialSig =>
    simp only [newlySigned] at signs
    split at signs
    · cases signs
    · rename_i sends
      refine ⟨?_, (Option.some.inj signs).symm⟩
      by_contra settled
      refine sends ?_
      simp only [ChannelState.managedStep, autoSignAndSendCommitment, Bool.eq_false_of_not_eq_true settled, ↓reduceIte]
      rfl
  | _ => cases signs

end Managed

section Runs

variable (prim : Primitives) (ver : Verifier) (o : Opening) (role : ChannelRole)

def Opening.managed : Managed := ⟨o.party prim role, ⟨[], o.openerConfig.feeratePerKw⟩⟩

theorem Opening.managed_owing : (o.managed prim role).Owing where
  current := o.party_current prim role
  unleased := by cases role <;> rfl
  entries := by
    change ∀ e ∈ (o.party prim role).htlcs.values, _
    rw [o.party_htlcs]
    exact fun e member => absurd member List.not_mem_nil
  held := fun k => by
    change k ∈ [] ↔ ∃ e, (o.party prim role).htlcs.get? k = some e ∧ _
    rw [o.party_htlcs]
    simp
  staged := by
    constructor
    · cases role <;> rintro _ _ ⟨⟩
    · cases role <;> rintro _ _ _ ⟨⟩
  owes := by cases role <;> rintro ⟨⟩

end Runs

def managedOpener (inputs : List ChannelInput) : Managed :=
  inputs.foldl (Managed.step plainPrimitives plainVerifier) (plainOpening.managed plainPrimitives .opener)

def repricedPayment : List ChannelInput :=
  [.addHtlc 30000000 [7] 500 [] none none, .signCommitment [8] [] none, .updateFee 2000]

end Beignet.Channel
