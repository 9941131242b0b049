import Beignet.Channel.Holdings
import Beignet.Channel.Removals

namespace Beignet.Channel

open Beignet.Data
open HtlcEntry (heldTerms terms settled retained localCredit remoteCredit addUncovered uncommittedAdd)

/-! The commitment a force close rebuilds from the flags of the entries is the one the peer's last
    signature was checked against. -/

structure HtlcEntry.Faithful (e : HtlcEntry) : Prop where
  unsigned : e.addRemoteCommitted = some false → e.addRemoteSigned = some false
  removing : e.state.live = false → e.removalRemoteCommitted = some false
  received : e.direction = .received → e.state.live = false → e.addLocallyRevoked ≠ some false
  offered : e.direction = .offered → e.state.live = false → e.addRemoteCommitted ≠ some false
  addCover : e.state.live = true → e.commitCoverPending = some true → e.addRemoteCommitted = some false
  removalCover : e.direction = .offered → e.state.live = false → e.commitCoverPending = some true →
    e.removalLocallyRevoked ≠ some false
  fulfilled : e.direction = .offered → e.state = .fulfilled → e.removalLocallyRevoked ≠ some false →
    e.addRemoteSigned ≠ some false

section Shares

variable {e : HtlcEntry} {intent : HtlcState}

theorem localShare_commitPending (e : HtlcEntry) (b : Bool) : localShare b e.commitPending = localShare b e := by
  unfold HtlcEntry.commitPending
  split
  · rename_i pending
    have live : e.state.live = true := by rw [pending]; rfl
    by_cases offered : e.direction = .offered
    · rw [localShare_offered_live offered live]
      exact localShare_offered_live offered rfl
    · have received := HtlcDirection.eq_received offered
      rw [localShare_received_live received live]
      exact localShare_received_live received rfl
  · rfl

theorem localShare_markForwarded (e : HtlcEntry) (b : Bool) : localShare b e.markForwarded = localShare b e := by
  unfold HtlcEntry.markForwarded
  split <;> rfl

theorem localShare_acceptSigned (e : HtlcEntry) : localShare true e.acceptSigned = localShare false e := by
  have revoked : e.acceptSigned.addLocallyRevoked ≠ some false := by
    simp only [HtlcEntry.acceptSigned]
    split
    · simp
    · assumption
  cases direction : e.direction with
  | offered =>
    cases live : e.state.live with
    | true =>
      rw [localShare_offered_live (e := e.acceptSigned) direction live, localShare_offered_live direction live]
      rcases live_cases live with state | state <;> by_cases committed : e.addRemoteCommitted = some false <;>
        simp [localCommitmentCarriesAdd, HtlcEntry.acceptSigned, direction, state, committed, heldTerms, terms]
    | false =>
      rw [localShare_offered_dead (e := e.acceptSigned) direction live, localShare_offered_dead direction live]
      rcases dead_cases live with state | state <;> by_cases committed : e.addRemoteCommitted = some false <;>
        by_cases uncovered : e.removalLocallyRevoked = some false <;>
        simp [localCommitmentCarriesAdd, signedLocalCarriesRemoval, HtlcEntry.acceptSigned, direction, state,
          committed, uncovered, HtlcState.live]
  | received =>
    have covered : signedLocalLacksReceivedAdd e.acceptSigned true = false := by
      simp [signedLocalLacksReceivedAdd, revoked]
    cases live : e.state.live with
    | true =>
      rw [localShare_received_live (e := e.acceptSigned) direction live, localShare_received_live direction live, covered]
      rfl
    | false =>
      rw [localShare_received_dead (e := e.acceptSigned) direction live, localShare_received_dead direction live, covered]
      rfl

theorem localShare_received_covered (received : e.direction = .received) (covered : e.addLocallyRevoked ≠ some false)
    (uncommitted : e.state.live = false → e.removalRemoteCommitted = some false) :
    localShare true e = locked e.heldTerms := by
  have present : signedLocalLacksReceivedAdd e true = false := by
    simp [signedLocalLacksReceivedAdd, covered]
  cases live : e.state.live with
  | true =>
    rw [localShare_received_live received live, present]
    rfl
  | false =>
    rw [localShare_received_dead received live, present, uncommitted live]
    rfl

theorem localShare_offered_uncovered (offered : e.direction = .offered)
    (committed : e.addRemoteCommitted ≠ some false)
    (uncovered : e.state.live = false → e.removalLocallyRevoked = some false) : localShare true e =
      if e.addRemoteSigned ≠ some false then locked e.heldTerms else ours e.amountMsat := by
  have add : localCommitmentCarriesAdd e true = decide (e.addRemoteSigned ≠ some false) := by
    simp [localCommitmentCarriesAdd, committed]
  cases live : e.state.live with
  | true =>
    rw [localShare_offered_live offered live, add]
    simp
  | false =>
    have removal : signedLocalCarriesRemoval e true = decide (e.addRemoteSigned ≠ some false) := by
      simp [signedLocalCarriesRemoval, offered, live, uncovered live]
    rw [localShare_offered_dead offered live, removal, add]
    split <;> simp_all

theorem localShare_settleAs (received : e.direction = .received)
    (live : e.state.live = true) (covered : e.addLocallyRevoked ≠ some false) :
    localShare true (e.settleAs intent) = localShare true e := by
  rw [localShare_received_covered received covered (by simp [live])]
  exact localShare_received_covered received covered fun _ => rfl

theorem localShare_removeAs (offered : e.direction = .offered)
    (live : e.state.live = true) (committed : e.addRemoteCommitted ≠ some false) :
    localShare true (e.removeAs intent) = localShare true e := by
  rw [localShare_offered_uncovered offered committed (by simp [live])]
  exact localShare_offered_uncovered offered committed fun _ => rfl

variable (faithful : e.Faithful)
include faithful

theorem localShare_restoreRemoval : localShare true e.restoreRemoval = localShare true e := by
  unfold HtlcEntry.restoreRemoval
  split
  · rename_i uncommitted
    simp only [HtlcEntry.uncommittedRemoval, Bool.and_eq_true, decide_eq_true_eq, Bool.not_eq_true']
      at uncommitted
    obtain ⟨⟨offered, removed⟩, uncovered⟩ := uncommitted
    have committed := faithful.offered offered removed
    rw [localShare_offered_uncovered offered committed fun _ => uncovered]
    exact localShare_offered_uncovered offered committed (by rintro ⟨⟩)
  · rfl

def HtlcEntry.creditShare (e : HtlcEntry) : Holdings := (e.localCredit, e.remoteCredit, 0)

theorem HtlcEntry.Faithful.settled_iff :
    e.acknowledge.settled = true ↔ e.state.live = false ∧ e.commitCoverPending = some true := by
  cases live : e.state.live with
  | true => simp [settled, HtlcEntry.acknowledge, live]
  | false => simp [settled, HtlcEntry.acknowledge, live, faithful.removing live]

theorem localShare_acknowledge (unfinished : e.acknowledge.settled = false) :
    localShare true e.acknowledge = localShare true e := by
  by_cases pending : e.commitCoverPending = some true
  · -- An add of ours that the peer now has is none that it has signed for.
    have live : e.state.live = true := by
      by_contra removed
      rw [(faithful.settled_iff).mpr ⟨Bool.eq_false_of_not_eq_true removed, pending⟩] at unfinished
      cases unfinished
    have uncommitted := faithful.addCover live pending
    by_cases offered : e.direction = .offered
    · rw [localShare_offered_live offered live, localShare_offered_live (e := e.acknowledge) offered live]
      simp [localCommitmentCarriesAdd, HtlcEntry.acknowledge, pending, live, uncommitted,
        faithful.unsigned uncommitted]
    · have received := HtlcDirection.eq_received offered
      rw [localShare_received_live received live, localShare_received_live (e := e.acknowledge) received live]
      rfl
  · have same : e.acknowledge =
        { e with
          addCoverPending := e.acknowledge.addCoverPending
          addRemotelyRevoked := e.acknowledge.addRemotelyRevoked } := by
      simp [HtlcEntry.acknowledge, pending]
    rw [same]
    rfl

theorem localShare_settled (through : e.acknowledge.settled = true) :
    localShare true e = e.acknowledge.creditShare +
      if e.acknowledge.retained then retainedShare e.acknowledge else 0 := by
  obtain ⟨removed, pending⟩ := faithful.settled_iff.mp through
  by_cases offered : e.direction = .offered
  · have covered := faithful.removalCover offered removed pending
    have committed := faithful.offered offered removed
    have uncarried : signedLocalCarriesRemoval e true = false := by
      simp [signedLocalCarriesRemoval, covered]
    have passed : e.acknowledge.retained = false := by
      simp [retained, HtlcEntry.acknowledge, offered]
    rw [passed, if_neg Bool.false_ne_true, add_zero, localShare_offered_dead offered removed, uncarried]
    rcases dead_cases removed with state | state
    · have signed := faithful.fulfilled offered state covered
      simp [localCommitmentCarriesAdd, committed, signed, theirs, HtlcEntry.creditShare,
        localCredit, remoteCredit, HtlcEntry.acknowledge, state, offered]
    · simp [ours, HtlcEntry.creditShare, localCredit, remoteCredit, HtlcEntry.acknowledge, state, offered]
  · have received := HtlcDirection.eq_received offered
    have covered := faithful.received received removed
    have kept : e.acknowledge.retained = true := by
      simp [retained, HtlcEntry.acknowledge, received, covered]
    rw [localShare_received_covered received covered faithful.removing, kept]
    rcases dead_cases removed with state | state <;>
      simp [locked, retainedShare, retainedAdjustment, carried, HtlcEntry.creditShare,
        localCredit, remoteCredit, HtlcEntry.acknowledge, state, received, heldTerms, terms]

end Shares

namespace HtlcEntry.Faithful

variable {e : HtlcEntry}

theorem of_live (live : e.state.live = true)
    (unsigned : e.addRemoteCommitted = some false → e.addRemoteSigned = some false)
    (addCover : e.commitCoverPending = some true → e.addRemoteCommitted = some false) : e.Faithful where
  unsigned := unsigned
  removing removed := by simp [live] at removed
  received _ removed := by simp [live] at removed
  offered _ removed := by simp [live] at removed
  addCover _ := addCover
  removalCover _ removed := by simp [live] at removed
  fulfilled _ state := by simp [state, HtlcState.live] at live

section

variable (faithful : e.Faithful)
include faithful

theorem commitPending : e.commitPending.Faithful := by
  unfold HtlcEntry.commitPending
  split
  · rename_i pending
    exact of_live rfl faithful.unsigned (faithful.addCover (by rw [pending]; rfl))
  · exact faithful

theorem settleAs {intent : HtlcState} (received : e.direction = .received)
    (removal : intent.live = false) (covered : e.addLocallyRevoked ≠ some false) : (e.settleAs intent).Faithful where
  unsigned := faithful.unsigned
  removing _ := rfl
  received _ _ := covered
  offered offered := by simp [HtlcEntry.settleAs, received] at offered
  addCover live := by simp [HtlcEntry.settleAs, removal] at live
  removalCover offered := by simp [HtlcEntry.settleAs, received] at offered
  fulfilled offered := by simp [HtlcEntry.settleAs, received] at offered

theorem removeAs {intent : HtlcState} (offered : e.direction = .offered)
    (live : e.state.live = true) (removal : intent.live = false)
    (committed : e.addRemoteCommitted ≠ some false) : (e.removeAs intent).Faithful where
  unsigned := faithful.unsigned
  removing _ := rfl
  received received := by simp [HtlcEntry.removeAs, offered] at received
  offered _ _ := committed
  addCover live := by simp [HtlcEntry.removeAs, removal] at live
  removalCover _ _ pending := absurd (faithful.addCover live pending) committed
  fulfilled _ _ covered := absurd rfl covered

theorem stampCover : e.stampCover.Faithful where
  unsigned := faithful.unsigned
  removing := faithful.removing
  received := faithful.received
  offered := faithful.offered
  addCover live pending := by
    have live' : e.state.live = true := live
    simp only [HtlcEntry.stampCover] at pending
    split at pending
    · rename_i new
      simp only [addUncovered, HtlcEntry.removalUncovered, live', Bool.not_true, Bool.and_false,
        Bool.or_false, Bool.and_true, decide_eq_true_eq] at new
      exact new
    · exact faithful.addCover live' pending
  removalCover offered removed pending := by
    have removed' : e.state.live = false := removed
    simp only [HtlcEntry.stampCover] at pending
    split at pending
    · rename_i new
      simp only [addUncovered, HtlcEntry.removalUncovered, removed', Bool.not_false,
        Bool.and_false, Bool.false_or, Bool.and_true, Bool.and_eq_true, decide_eq_true_eq] at new
      exact new.2
    · exact faithful.removalCover offered removed' pending
  fulfilled := faithful.fulfilled

theorem acceptSigned : e.acceptSigned.Faithful where
  unsigned uncommitted := by
    have uncommitted' : e.addRemoteCommitted = some false := uncommitted
    simp [HtlcEntry.acceptSigned, uncommitted', faithful.unsigned uncommitted']
  removing := faithful.removing
  received _ _ := by simp only [HtlcEntry.acceptSigned]; split <;> simp_all
  offered := faithful.offered
  addCover := faithful.addCover
  removalCover _ removed _ := by
    have removed' : e.state.live = false := removed
    simp only [HtlcEntry.acceptSigned, removed', and_true]
    split <;> simp_all
  fulfilled offered state _ := by
    have offered' : e.direction = .offered := offered
    have state' : e.state = .fulfilled := state
    have committed := faithful.offered offered' (by rw [state']; rfl)
    simp [HtlcEntry.acceptSigned, offered', state', committed]

theorem markForwarded : e.markForwarded.Faithful := by
  rw [e.markForwarded_eq]
  exact { faithful with }

theorem acknowledge (unfinished : e.acknowledge.settled = false) : e.acknowledge.Faithful where
  unsigned uncommitted := by
    simp only [HtlcEntry.acknowledge] at uncommitted
    split at uncommitted
    · cases uncommitted
    · exact faithful.unsigned uncommitted
  removing removed := by simpa [settled, removed] using unfinished
  received := faithful.received
  offered offered removed := by
    simp only [HtlcEntry.acknowledge]
    split
    · simp
    · exact faithful.offered offered removed
  addCover _ pending := by simp only [HtlcEntry.acknowledge] at pending; split at pending <;> simp_all
  removalCover _ _ pending := by
    simp only [HtlcEntry.acknowledge] at pending; split at pending <;> simp_all
  fulfilled := faithful.fulfilled

theorem restoreRemoval : e.restoreRemoval.Faithful := by
  unfold HtlcEntry.restoreRemoval
  split
  · rename_i uncommitted
    simp only [HtlcEntry.uncommittedRemoval, Bool.and_eq_true, decide_eq_true_eq, Bool.not_eq_true']
      at uncommitted
    refine of_live rfl faithful.unsigned fun pending => ?_
    exact absurd uncommitted.2 (faithful.removalCover uncommitted.1.1 uncommitted.1.2 pending)
  · exact faithful

end

end HtlcEntry.Faithful

theorem keptOutputs_lock_perm (channelType : ChannelType) (keys : CommitmentKeys) (dust rate : Nat)
    {entries entries' : List HtlcEntry} (same : (entries.map heldTerms).Perm (entries'.map heldTerms)) :
    ((keptOutputs channelType dust rate (entries.map (buildLocalHtlcOutput channelType keys))).map
        HtlcOutput.lock).Perm
      ((keptOutputs channelType dust rate (entries'.map (buildLocalHtlcOutput channelType keys))).map
        HtlcOutput.lock) := by
  have locks := fun l => keptOutputs_lock channelType keys dust rate l HtlcEntry.direction
    HtlcOutput.direction fun _ => rfl
  rw [show buildLocalHtlcOutput channelType keys = fun e => htlcOutput channelType keys e.direction e from rfl,
    locks entries, locks entries']
  have terms := fun l => keptOutputs_heldTerms channelType keys dust rate l
  refine List.Perm.map _ ?_
  exact ((List.Perm.of_eq (terms entries)).trans (same.filter _)).trans (.of_eq (terms entries').symm)

theorem buildLocalCommitment_same (prim : Primitives) {s t : ChannelState} {b b' : Bool}
    (constants : s.constants = t.constants) (unleased : s.leaseExpiry = none)
    (spec : (localSpec s b).Same (localSpec t b')) (point : Bytes) (number : Nat) :
    Option.Rel BuiltCommitment.Same (buildLocalCommitment prim s point number b)
      (buildLocalCommitment prim t point number b') := by
  have unleased' : t.leaseExpiry = none :=
    (congrArg ChannelConstants.leaseExpiry constants).symm.trans unleased
  have channelType : s.channelType = t.channelType := congrArg ChannelConstants.channelType constants
  have view : ∀ basepoints, localView prim s basepoints point number b =
      localView prim t basepoints point number b' := by
    intro basepoints
    have role : s.role = t.role := congrArg ChannelConstants.role constants
    have own : s.localBasepoints = t.localBasepoints := congrArg ChannelConstants.localBasepoints constants
    have lessor : s.isLessor = t.isLessor := congrArg ChannelConstants.isLessor constants
    have dust : s.localConfig.dustLimitSatoshis = t.localConfig.dustLimitSatoshis :=
      congrArg (fun c => c.localTerms.dustLimitSatoshis) constants
    have delay : s.remoteConfig.toSelfDelay = t.remoteConfig.toSelfDelay :=
      congrArg (fun c => c.remoteTerms.toSelfDelay) constants
    simp only [localView, obscuredNumber, leaseCsvBlocks, Option.getD_none, unleased, unleased', role, own,
      lessor, dust, delay]
  unfold buildLocalCommitment
  rw [show s.remoteBasepoints = t.remoteBasepoints from congrArg ChannelConstants.remoteBasepoints constants,
    show s.fundingTxid = t.fundingTxid from congrArg ChannelConstants.fundingTxid constants]
  cases t.remoteBasepoints with
  | none => exact .none
  | some basepoints =>
    cases t.fundingTxid with
    | none => exact .none
    | some txid =>
      dsimp only [Option.bind_eq_bind, Option.bind_some]
      rw [view basepoints]
      refine assembleCommitment_same prim txid _ channelType
        (congrArg ChannelConstants.fundingOutputIndex constants)
        (congrArg ChannelConstants.fundingSatoshis constants) spec.feeratePerKw spec.toLocalMsat
        spec.toRemoteMsat ?_
      rw [channelType, spec.feeratePerKw]
      exact keptOutputs_lock_perm _ _ _ _ spec.htlcs

section Specs

variable {s t : ChannelState} {l : List HtlcEntry}

structure SameFrame (s t : ChannelState) : Prop where
  rate : t.lastSignedCommitFeeratePerKw = s.lastSignedCommitFeeratePerKw
  ours : t.localBalanceMsat = s.localBalanceMsat
  theirs : t.remoteBalanceMsat = s.remoteBalanceMsat
  removals : t.signedLocalRemovals = s.signedLocalRemovals

theorem signedRate (rated : s.lastSignedCommitFeeratePerKw ≠ none)
    (rate : t.lastSignedCommitFeeratePerKw = s.lastSignedCommitFeeratePerKw) :
    (localSpec s true).feeratePerKw = (localSpec t true).feeratePerKw := by
  obtain ⟨r, signed⟩ := Option.ne_none_iff_exists'.mp rated
  simp [localSpec, getLocalCommitmentFeeRate, rate, signed]

theorem localSpec_same_of_map {b b' : Bool} {f : HtlcEntry → HtlcEntry}
    (rate : (localSpec s b).feeratePerKw = (localSpec t b').feeratePerKw)
    (ours : t.localBalanceMsat = s.localBalanceMsat) (theirs : t.remoteBalanceMsat = s.remoteBalanceMsat)
    (removals : signedLocalRetainedRemovals t b' = signedLocalRetainedRemovals s b)
    (values : t.htlcs.values = s.htlcs.values.map f)
    (shares : ∀ e ∈ s.htlcs.values, localShare b' (f e) = localShare b e) :
    (localSpec s b).Same (localSpec t b') := by
  rw [CommitmentSpec.same_iff]
  have same : s.htlcs.values.map (localShare b' ∘ f) = s.htlcs.values.map (localShare b) :=
    List.map_congr_left shares
  refine ⟨rate, ?_⟩
  rw [localSpec_held, localSpec_held, ours, theirs, removals, values, List.map_map, same]

theorem localSpec_same_of_append {entry : HtlcEntry} (rated : s.lastSignedCommitFeeratePerKw ≠ none)
    (rate : t.lastSignedCommitFeeratePerKw = s.lastSignedCommitFeeratePerKw)
    (removals : t.signedLocalRemovals = s.signedLocalRemovals) (values : t.htlcs.values = s.htlcs.values ++ [entry])
    (balances : ((t.localBalanceMsat, t.remoteBalanceMsat, 0) : Holdings) + localShare true entry =
      (s.localBalanceMsat, s.remoteBalanceMsat, 0)) : (localSpec s true).Same (localSpec t true) := by
  rw [CommitmentSpec.same_iff]
  refine ⟨signedRate rated rate, ?_⟩
  have retained : signedLocalRetainedRemovals t true = signedLocalRetainedRemovals s true := removals
  rw [localSpec_held, localSpec_held, retained, values, List.map_append, List.sum_append,
    List.map_singleton, List.sum_singleton, ← balances]
  abel

theorem sum_creditShare (l : List HtlcEntry) : (l.map HtlcEntry.creditShare).sum =
      ((l.map localCredit).sum, (l.map remoteCredit).sum, 0) := by
  have parts : (l.map HtlcEntry.creditShare).sum = _ := sum_map_holdings ..
  rw [parts]
  simp

theorem sum_localShare_acknowledged (faithful : ∀ e ∈ l, e.Faithful) :
    let through := (l.map HtlcEntry.acknowledge).filter HtlcEntry.settled
    let others := (l.map HtlcEntry.acknowledge).filter fun e => !e.settled
    (l.map (localShare true)).sum =
      (through.map HtlcEntry.creditShare).sum + ((through.filter HtlcEntry.retained).map retainedShare).sum +
        ((others.map HtlcEntry.markForwarded).map (localShare true)).sum := by
  intro through others
  induction l with
  | nil => rfl
  | cons e rest ih =>
    have tail := ih fun e' member => faithful e' (List.mem_cons_of_mem _ member)
    have head := faithful e List.mem_cons_self
    cases settled : e.acknowledge.settled with
    | true =>
      cases retained : e.acknowledge.retained <;>
        simp only [through, others, List.map_cons, List.filter_cons, settled, retained, List.sum_cons, tail,
          localShare_settled head settled, ↓reduceIte, Bool.not_true, Bool.false_eq_true] <;> abel
    | false =>
      simp only [through, others, List.map_cons, List.filter_cons, settled, List.sum_cons, tail,
        localShare_markForwarded, localShare_acknowledge head settled, ↓reduceIte, Bool.not_false,
        Bool.false_eq_true]
      abel

theorem localSpec_same_of_revocation (rated : s.lastSignedCommitFeeratePerKw ≠ none)
    (faithful : ∀ e ∈ s.htlcs.values, e.Faithful) :
    (localSpec s true).Same (localSpec s.revocationAccepted true) := by
  rw [CommitmentSpec.same_iff]
  refine ⟨signedRate rated rfl, ?_⟩
  have shares := sum_localShare_acknowledged faithful
  have paid := sum_creditShare s.settledHtlcs
  have balances : ((s.revocationAccepted.localBalanceMsat, s.revocationAccepted.remoteBalanceMsat, 0) :
      Holdings) = (s.localBalanceMsat, s.remoteBalanceMsat, 0) +
        (s.settledHtlcs.map HtlcEntry.creditShare).sum := by
    rw [paid]
    rfl
  have removals : signedLocalRetainedRemovals s.revocationAccepted true =
      signedLocalRetainedRemovals s true ++ s.settledHtlcs.filter retained := rfl
  rw [localSpec_held, localSpec_held, shares, balances, removals, List.map_append, List.sum_append]
  change _ + ((s.settledHtlcs.map HtlcEntry.creditShare).sum +
    ((s.settledHtlcs.filter retained).map retainedShare).sum +
    (s.revocationAccepted.htlcs.values.map (localShare true)).sum) + _ = _
  abel

theorem sum_localShare_rolledBack (faithful : ∀ e ∈ l, e.Faithful) : (l.map (localShare true)).sum =
      (0, ((l.filter uncommittedAdd).map fun e => (e.amountMsat : Int)).sum, 0) +
        (((l.filter fun e => !e.uncommittedAdd).map HtlcEntry.restoreRemoval).map (localShare true)).sum := by
  induction l with
  | nil => rfl
  | cons e rest ih =>
    have tail := ih fun e' member => faithful e' (List.mem_cons_of_mem _ member)
    have head := localShare_restoreRemoval (faithful e List.mem_cons_self)
    cases uncommitted : e.uncommittedAdd with
    | true =>
      have share : localShare true e = theirs e.amountMsat := by
        simp only [uncommittedAdd, Bool.and_eq_true, decide_eq_true_eq] at uncommitted
        rw [localShare_received_live uncommitted.1.1 (by rw [uncommitted.1.2]; rfl)]
        simp [signedLocalLacksReceivedAdd, uncommitted]
      have split : ∀ x : Int, ((0, e.amountMsat + x, 0) : Holdings) = theirs e.amountMsat + (0, x, 0) :=
        fun _ => rfl
      simp only [List.map_cons, List.filter_cons, uncommitted, List.sum_cons, tail, share, ↓reduceIte,
        Bool.not_true, Bool.false_eq_true, split]
      abel
    | false =>
      simp only [List.map_cons, List.filter_cons, uncommitted, List.sum_cons, tail, head, ↓reduceIte,
        Bool.not_false, Bool.false_eq_true]
      abel

theorem localSpec_same_of_rollback (rated : s.lastSignedCommitFeeratePerKw ≠ none)
    (faithful : ∀ e ∈ s.htlcs.values, e.Faithful) : (localSpec s true).Same (localSpec s.rolledBack true) := by
  rw [CommitmentSpec.same_iff]
  refine ⟨signedRate rated rfl, ?_⟩
  have balances : ((s.rolledBack.localBalanceMsat, s.rolledBack.remoteBalanceMsat, 0) : Holdings) =
      (s.localBalanceMsat, s.remoteBalanceMsat, 0) +
        (0, ((s.htlcs.values.filter uncommittedAdd).map fun e => (e.amountMsat : Int)).sum, 0) := by
    rw [Prod.mk_add_mk, Prod.mk_add_mk, add_zero, add_zero]
    rfl
  have removals : signedLocalRetainedRemovals s.rolledBack true = signedLocalRetainedRemovals s true := rfl
  rw [localSpec_held, localSpec_held, sum_localShare_rolledBack faithful, balances, removals]
  change _ + (_ + (s.rolledBack.htlcs.values.map (localShare true)).sum) + _ = _
  abel

end Specs

def settlesCommitted (s : ChannelState) (input : ChannelInput) : Bool :=
  match input.settles with
  | some (id, _) =>
    match s.htlcs.get? (.received, id) with
    | some e => receivedAddIrrevocablyCommitted e
    | none => true
  | none => true

structure Rebuildable (s : ChannelState) : Prop where
  current : Current s
  rated : s.lastSignedCommitFeeratePerKw ≠ none
  unleased : s.leaseExpiry = none
  faithful : ∀ e ∈ s.htlcs.values, e.Faithful

section Steps

variable {prim : Primitives} {ver : Verifier} {s t : ChannelState} {input : ChannelInput}
  {sent : List Message}

theorem incomingEntry_faithful (s : ChannelState) (msg : UpdateAddHtlc) :
    (incomingEntry s msg).Faithful := .of_live rfl nofun nofun

theorem StepEffect.rated (effect : StepEffect prim ver s input t sent) (ready : Rebuildable s) :
    t.lastSignedCommitFeeratePerKw ≠ none := by
  have rated := ready.rated
  cases effect with
  | accepted => exact nofun
  | disconnected =>
    rw [ChannelState.markForReestablish_fst ready.current.recent]
    split <;> exact rated
  | resumed =>
    unfold resumeReestablished
    split <;> exact rated
  | revoked rotated msg store next rotates =>
    change rotated.lastSignedCommitFeeratePerKw ≠ none
    rwa [rotates]
  | _ => exact rated

def Keeps (s t : ChannelState) : Prop :=
  (∀ e ∈ t.htlcs.values, e.Faithful) ∧ (localSpec s true).Same (localSpec t true)

namespace Rebuildable

variable (ready : Rebuildable s)
include ready

variable {f : HtlcEntry → HtlcEntry} {entry : HtlcEntry} {id : Nat} {intent : HtlcState}

theorem keeps_of_map (frame : SameFrame s t) (values : t.htlcs.values = s.htlcs.values.map f)
    (each : ∀ e ∈ s.htlcs.values, (f e).Faithful ∧ localShare true (f e) = localShare true e) : Keeps s t := by
  refine ⟨fun e member => ?_, localSpec_same_of_map (signedRate ready.rated frame.rate) frame.ours frame.theirs
    frame.removals values fun e member => (each e member).2⟩
  rw [values] at member
  obtain ⟨before, inside, rfl⟩ := List.mem_map.mp member
  exact (each before inside).1

theorem keeps_of_frame (frame : SameFrame s t) (htlcs : t.htlcs = s.htlcs) : Keeps s t :=
  ready.keeps_of_map (f := id) frame (by rw [htlcs, List.map_id]) fun e inside => ⟨ready.faithful e inside, rfl⟩

theorem keeps_of_modify {k : HtlcDirection × Nat}
    (keeps : ∀ e, (f e).key = e.key) (found : s.htlcs.get? k = some entry)
    (faithful : (f entry).Faithful) (share : localShare true (f entry) = localShare true entry)
    (frame : SameFrame s t) (htlcs : t.htlcs = s.htlcs.modify k f keeps) : Keeps s t := by
  obtain ⟨member, same⟩ := (s.htlcs.get?_eq_some k entry).mp found
  refine ready.keeps_of_map (f := fun e => if e.key = k then f e else e) frame (by rw [htlcs]; rfl)
    fun e inside => ?_
  by_cases own : e.key = k
  · rw [if_pos own, KeyedMap.eq_of_key_eq inside member (own.trans same.symm)]
    exact ⟨faithful, share⟩
  · rw [if_neg own]
    exact ⟨ready.faithful e inside, rfl⟩

theorem keeps_of_set {e : HtlcEntry} (absent : s.htlcs.has e.key = false) (faithful : e.Faithful)
    (rate : t.lastSignedCommitFeeratePerKw = s.lastSignedCommitFeeratePerKw)
    (removals : t.signedLocalRemovals = s.signedLocalRemovals) (htlcs : t.htlcs = s.htlcs.set e)
    (balances : ((t.localBalanceMsat, t.remoteBalanceMsat, 0) : Holdings) + localShare true e =
      (s.localBalanceMsat, s.remoteBalanceMsat, 0)) : Keeps s t := by
  have values : t.htlcs.values = s.htlcs.values ++ [e] := by
    rw [htlcs, KeyedMap.values_set_of_absent absent]
  refine ⟨fun other member => ?_, localSpec_same_of_append ready.rated rate removals values balances⟩
  rw [values, List.mem_append, List.mem_singleton] at member
  rcases member with member | rfl
  · exact ready.faithful other member
  · exact faithful

theorem keeps_offer (amount : Nat) (hash : Bytes) (cltv : Nat) (onion : Bytes) (blinding : Option Bytes)
    (update : PendingUpdate) :
    Keeps s ((s.offer (offeredEntry s amount hash cltv onion blinding)).queueUpdate update) := by
  refine ready.keeps_of_set (e := offeredEntry s amount hash cltv onion blinding)
    (offer_absent ready.current.numbered) (.of_live rfl (fun _ => rfl) nofun) rfl rfl rfl ?_
  rw [localShare_offered_live rfl rfl]
  simp [localCommitmentCarriesAdd, offeredEntry, ours, ChannelState.queueUpdate, ChannelState.offer]

theorem keeps_receive (msg : UpdateAddHtlc) (fresh : s.htlcs.get? (.received, msg.id) = none) :
    Keeps s (s.receive (incomingEntry s msg)) := by
  refine ready.keeps_of_set (e := incomingEntry s msg) ?_ (incomingEntry_faithful s msg) rfl rfl rfl ?_
  · change (s.htlcs.get? (.received, msg.id)).isSome = false
    rw [fresh]
    rfl
  · rw [localShare_received_live rfl rfl]
    simp [signedLocalLacksReceivedAdd, incomingEntry, receivedEntry, theirs, ChannelState.receive]

theorem keeps_settle (update : PendingUpdate)
    (found : s.htlcs.get? (.received, id) = some entry) (live : entry.state.live = true)
    (removal : intent.live = false) (committed : receivedAddIrrevocablyCommitted entry = true) :
    Keeps s ((s.settleReceived id intent).queueUpdate update) := by
  obtain ⟨member, same⟩ := (s.htlcs.get?_eq_some _ entry).mp found
  have received : entry.direction = .received := congrArg Prod.fst same
  simp only [receivedAddIrrevocablyCommitted, Bool.and_eq_true, decide_eq_true_eq] at committed
  have covered := committed.1.2
  exact ready.keeps_of_modify (f := HtlcEntry.settleAs intent) (fun _ => rfl) found
    ((ready.faithful entry member).settleAs received removal covered)
    (localShare_settleAs received live covered) ⟨rfl, rfl, rfl, rfl⟩ rfl

theorem keeps_remove (found : s.htlcs.get? (.offered, id) = some entry) (live : entry.state.live = true)
    (removal : intent.live = false) (committed : addNotYetCommitted entry = false) :
    Keeps s (s.removeOffered id intent) := by
  obtain ⟨member, same⟩ := (s.htlcs.get?_eq_some _ entry).mp found
  have offered : entry.direction = .offered := congrArg Prod.fst same
  simp only [addNotYetCommitted, Bool.or_eq_false_iff, decide_eq_false_iff_not] at committed
  exact ready.keeps_of_modify (f := HtlcEntry.removeAs intent) (fun _ => rfl) found
    ((ready.faithful entry member).removeAs offered live removal committed.2)
    (localShare_removeAs offered live committed.2) ⟨rfl, rfl, rfl, rfl⟩ rfl

theorem keeps_sign : Keeps s s.commitmentSent := by
  refine ready.keeps_of_map (f := fun e => e.stampCover.commitPending) ⟨rfl, rfl, rfl, rfl⟩ rfl fun e member => ?_
  exact ⟨(ready.faithful e member).stampCover.commitPending, localShare_commitPending _ _⟩

theorem keeps_revoke : Keeps s s.revocationAccepted := by
  refine ⟨fun e member => ?_, localSpec_same_of_revocation ready.rated ready.faithful⟩
  obtain ⟨before, inside, left⟩ := (s.mem_revocationAccepted e).mp member
  obtain ⟨unfinished, rfl⟩ := HtlcEntry.afterRevocation_eq_some.mp left
  exact ((ready.faithful before inside).acknowledge unfinished).markForwarded

theorem keeps_rollback : Keeps s s.rolledBack := by
  refine ⟨fun e member => ?_, localSpec_same_of_rollback ready.rated ready.faithful⟩
  obtain ⟨before, inside, -, rfl⟩ := (s.mem_rolledBack e).mp member
  exact (ready.faithful before inside).restoreRemoval

theorem rotated (store : Keys.ShaChainStore) (next : Option Bytes) : Rebuildable (s.pointsRotated store next) :=
  ⟨{ ready.current with }, ready.rated, ready.unleased, ready.faithful⟩

end Rebuildable

theorem Keeps.trans {u : ChannelState} (first : Keeps s t) (second : Keeps t u) : Keeps s u :=
  ⟨second.1, first.2.trans second.2⟩

theorem localSpec_same_of_accepted (s : ChannelState) (ver : Verifier) (msg : CommitmentSigned) :
    (localSpec s false).Same (localSpec (s.commitmentAccepted ver msg) true) := by
  refine localSpec_same_of_map (f := fun e => e.acceptSigned.commitPending) rfl rfl rfl rfl rfl
    fun e _ => ?_
  rw [localShare_commitPending, localShare_acceptSigned]

theorem commitmentAccepted_faithful (ready : Rebuildable s) (msg : CommitmentSigned) :
    ∀ e ∈ (s.commitmentAccepted ver msg).htlcs.values, e.Faithful := by
  intro e member
  change e ∈ s.htlcs.values.map _ at member
  obtain ⟨before, inside, rfl⟩ := List.mem_map.mp member
  exact (ready.faithful before inside).acceptSigned.commitPending

def revokes (sent : List Message) : Bool :=
  sent.any fun
    | .revokeAndAck _ => true
    | _ => false

theorem StepEffect.rebuilds (effect : StepEffect prim ver s input t sent) (ready : Rebuildable s)
    (agrees : contradicts prim s input = false) (irrevocable : settlesCommitted s input = true) :
    (revokes sent = true ∧ (nextLocalCommitment prim s).isSome = true ∧ ∃ msg, t = s.commitmentAccepted ver msg) ∨
      revokes sent = false ∧ t.localCommitmentNumber = s.localCommitmentNumber ∧ Keeps s t := by
  cases effect with
  | refused | failed | feeStaged | feeReceived | misrevoked | heightSet =>
    exact .inr ⟨rfl, rfl, ready.keeps_of_frame ⟨rfl, rfl, rfl, rfl⟩ rfl⟩
  | offered amount hash cltv onion blinding => exact .inr ⟨rfl, rfl, ready.keeps_offer ..⟩
  | received msg _ fresh => exact .inr ⟨rfl, rfl, ready.keeps_receive msg fresh⟩
  | settled update settles operational found live removes =>
    simp only [settlesCommitted, settles, found] at irrevocable
    refine .inr ⟨?_, rfl, ready.keeps_settle update found live (ChannelInput.settles_dead settles) irrevocable⟩
    rename_i msg
    cases msg <;> first | rfl | cases removes
  | removed removes operational found proved other committed =>
    rename_i msg id intent entry
    have live : entry.state.live = true := by
      simpa [contradicts, removes, found, operational, other, proved] using agrees
    exact .inr ⟨rfl, rfl, ready.keeps_remove found live (Message.removes_dead removes) committed⟩
  | signed => exact .inr ⟨rfl, rfl, ready.keeps_sign⟩
  | accepted msg operational built => exact .inl ⟨rfl, built, msg, rfl⟩
  | revoked rotated msg store next rotates =>
    have frame : Keeps s rotated := by
      rw [rotates]
      exact ready.keeps_of_frame ⟨rfl, rfl, rfl, rfl⟩ rfl
    have ready' : Rebuildable rotated := by
      rw [rotates]
      exact ready.rotated store next
    refine .inr ⟨rfl, ?_, frame.trans ready'.keeps_revoke⟩
    change rotated.localCommitmentNumber = _
    rw [rotates]
    rfl
  | disconnected =>
    rw [ChannelState.markForReestablish_fst ready.current.recent]
    split
    · exact .inr ⟨rfl, rfl, ready.keeps_rollback⟩
    · exact .inr ⟨rfl, rfl, ready.keeps_of_frame ⟨rfl, rfl, rfl, rfl⟩ rfl⟩
  | resumed =>
    refine .inr ⟨rfl, ?_⟩
    unfold resumeReestablished
    split
    · exact ⟨rfl, ready.keeps_of_frame ⟨rfl, rfl, rfl, rfl⟩ rfl⟩
    · exact ⟨rfl, ready.keeps_of_frame ⟨rfl, rfl, rfl, rfl⟩ rfl⟩

theorem StepEffect.rebuildable (effect : StepEffect prim ver s input t sent) (ready : Rebuildable s)
    (agrees : contradicts prim s input = false) (irrevocable : settlesCommitted s input = true) : Rebuildable t := by
  have constants := effect.constants ready.current.recent
  refine ⟨effect.current ready.current, effect.rated ready,
    (congrArg ChannelConstants.leaseExpiry constants).trans ready.unleased, ?_⟩
  rcases effect.rebuilds ready agrees irrevocable with ⟨-, -, msg, rfl⟩ | ⟨-, -, keeps⟩
  · exact commitmentAccepted_faithful ready msg
  · exact keeps.1

end Steps

section Runs

variable (prim : Primitives) (ver : Verifier) {verified : VerifiedCommitment} {s : ChannelState}

structure VerifiedCommitment where
  spec : CommitmentSpec
  built : Option BuiltCommitment

/-- The commitment the stored signature is for, as a run goes on: every signature that passes the
    checks is for the commitment built when it arrived. -/
def lastVerified (s : ChannelState) (verified : VerifiedCommitment) : List ChannelInput → VerifiedCommitment
  | [] => verified
  | input :: rest =>
    let reply := s.step prim ver input
    lastVerified reply.state
      (if revokes reply.sent then ⟨localSpec s false, nextLocalCommitment prim s⟩ else verified) rest

def localCommitment (s : ChannelState) (number : Nat) (signedLocal : Bool) : Option BuiltCommitment :=
  buildLocalCommitment prim s (getPerCommitmentPoint prim s.localPerCommitmentSeed number) number signedLocal

def fundingCommitment (s : ChannelState) : VerifiedCommitment :=
  ⟨localSpec s false, localCommitment prim s 0 false⟩

structure Rebuilds (verified : VerifiedCommitment) (s : ChannelState) : Prop where
  spec : verified.spec.Same (localSpec s true)
  built : ∃ before after, verified.built = some before ∧
    localCommitment prim s s.localCommitmentNumber true = some after ∧ before.Same after

theorem rebuilt_of_same {s t : ChannelState} {b : Bool} {number : Nat} (constants : s.constants = t.constants)
    (unleased : s.leaseExpiry = none) (spec : (localSpec s b).Same (localSpec t true))
    {before : BuiltCommitment} (built : localCommitment prim s number b = some before) :
    ∃ after, localCommitment prim t number true = some after ∧ before.Same after := by
  have seed : s.localPerCommitmentSeed = t.localPerCommitmentSeed :=
    congrArg ChannelConstants.localPerCommitmentSeed constants
  have same := buildLocalCommitment_same prim constants unleased spec
    (getPerCommitmentPoint prim s.localPerCommitmentSeed number) number
  rw [localCommitment] at built
  rw [built] at same
  rw [localCommitment, ← seed]
  cases rebuilt : buildLocalCommitment prim t (getPerCommitmentPoint prim s.localPerCommitmentSeed number)
      number true with
  | none => rw [rebuilt] at same; cases same
  | some after =>
    rw [rebuilt] at same
    cases same with
    | some same => exact ⟨after, rfl, same⟩

theorem Rebuilds.step (input : ChannelInput) (rebuilds : Rebuilds prim verified s) (ready : Rebuildable s)
    (agrees : contradicts prim s input = false) (irrevocable : settlesCommitted s input = true) :
    let reply := s.step prim ver input
    Rebuilds prim (if revokes reply.sent then ⟨localSpec s false, nextLocalCommitment prim s⟩ else verified)
      reply.state := by
  intro reply
  have effect := step_effect prim ver s input
  have constants := (effect.constants ready.current.recent).symm
  rcases effect.rebuilds ready agrees irrevocable with ⟨revoked, built, msg, accepted⟩ | ⟨quiet, number, keeps⟩
  · rw [if_pos revoked]
    rw [accepted] at constants
    have spec := localSpec_same_of_accepted s ver msg
    obtain ⟨before, built⟩ := Option.isSome_iff_exists.mp built
    obtain ⟨after, rebuilt, same⟩ := rebuilt_of_same prim constants ready.unleased spec built
    have state : reply.state = s.commitmentAccepted ver msg := accepted
    rw [state]
    exact ⟨spec, before, after, built, rebuilt, same⟩
  · rw [if_neg (by rw [quiet]; exact Bool.false_ne_true)]
    obtain ⟨before, middle, built, again, same⟩ := rebuilds.built
    obtain ⟨after, rebuilt, same'⟩ := rebuilt_of_same prim constants ready.unleased keeps.2 again
    refine ⟨rebuilds.spec.trans keeps.2, before, after, built, ?_, same.trans same'⟩
    rw [number]
    exact rebuilt

theorem Rebuilds.run {inputs : List ChannelInput} (rebuilds : Rebuilds prim verified s) (ready : Rebuildable s)
    (along : s.Along prim ver
      (fun s input => contradicts prim s input = false ∧ settlesCommitted s input = true) inputs) :
    Rebuilds prim (lastVerified prim ver s verified inputs) (s.run prim ver inputs) := by
  induction inputs generalizing s verified with
  | nil => exact rebuilds
  | cons input rest ih =>
    obtain ⟨⟨agrees, irrevocable⟩, later⟩ := along
    exact ih (rebuilds.step prim ver input ready agrees irrevocable)
      ((step_effect prim ver s input).rebuildable ready agrees irrevocable) later

theorem buildLocalCommitment_isSome (keys : s.remoteBasepoints.isSome = true)
    (funded : s.fundingTxid.isSome = true) (unleased : s.leaseExpiry = none) (point : Bytes) (number : Nat)
    (b : Bool) : (buildLocalCommitment prim s point number b).isSome = true := by
  obtain ⟨basepoints, keys⟩ := Option.isSome_iff_exists.mp keys
  obtain ⟨txid, funded⟩ := Option.isSome_iff_exists.mp funded
  simp only [buildLocalCommitment, keys, funded, Option.bind_eq_bind, Option.bind_some]
  rw [assembleCommitment_isSome]
  simp [localView, leaseCsvBlocks, unleased]

theorem Opening.party_rebuildable (o : Opening) (role : ChannelRole) : Rebuildable (o.party prim role) := by
  have rated : (o.party prim role).lastSignedCommitFeeratePerKw = some o.openerConfig.feeratePerKw := by
    cases role <;> rfl
  refine ⟨o.party_current prim role, by rw [rated]; exact Option.some_ne_none _, by cases role <;> rfl, ?_⟩
  rw [o.party_htlcs prim role]
  exact fun e member => absurd member List.not_mem_nil

theorem Opening.party_rebuilds (o : Opening) (role : ChannelRole) :
    Rebuilds prim (fundingCommitment prim (o.party prim role)) (o.party prim role) := by
  have spec : (localSpec (o.party prim role) false).Same (localSpec (o.party prim role) true) := by
    cases role <;> exact ⟨rfl, rfl, rfl, .refl _⟩
  have funded : (localCommitment prim (o.party prim role) 0 false).isSome = true := by
    cases role <;> exact buildLocalCommitment_isSome prim rfl rfl rfl _ _ _
  have number : (o.party prim role).localCommitmentNumber = 0 := by cases role <;> rfl
  obtain ⟨before, built⟩ := Option.isSome_iff_exists.mp funded
  obtain ⟨after, rebuilt, same⟩ := rebuilt_of_same prim rfl (o.party_rebuildable prim role).unleased spec built
  exact ⟨spec, before, after, built, by rw [number]; exact rebuilt, same⟩

/-- The rebuild matches the stored signature in every run in which we remove only HTLCs that are
    irrevocably committed and the peer does not remove one HTLC both ways. -/
theorem force_close_rebuilds (o : Opening) (role : ChannelRole) (inputs : List ChannelInput)
    (along : (o.party prim role).Along prim ver
      (fun s input => contradicts prim s input = false ∧ settlesCommitted s input = true) inputs) :
    Rebuilds prim
      (lastVerified prim ver (o.party prim role) (fundingCommitment prim (o.party prim role)) inputs)
      ((o.party prim role).run prim ver inputs) :=
  (o.party_rebuilds prim role).run prim ver (o.party_rebuildable prim role) along

end Runs

def openerVerified (inputs : List ChannelInput) : VerifiedCommitment :=
  lastVerified plainPrimitives plainVerifier (plainOpening.opener plainPrimitives)
    (fundingCommitment plainPrimitives (plainOpening.opener plainPrimitives)) inputs

theorem signed_fulfilment_rebuilds :
    let inputs := fulfilledOffer ++ [peerSignature, .disconnect, .resume]
    (openerAfter inputs).htlcs.values.length = 1 ∧
      Rebuilds plainPrimitives (openerVerified inputs) (openerAfter inputs) := by
  refine ⟨by decide +kernel, force_close_rebuilds plainPrimitives plainVerifier plainOpening .opener _ ?_⟩
  refine ⟨?_, ?_, ?_, ?_, ?_, ?_, ?_, trivial⟩ <;> decide +kernel

/-- After the reconnect the peer fails the HTLC it has fulfilled and signed for: the rebuild puts the
    HTLC back on a commitment whose signature does not have it. -/
theorem contradicted_fulfilment_breaks_rebuild :
    let inputs := fulfilledOffer ++ [peerSignature, .disconnect, .resume, .receive (.updateFailHtlc 0 [])]
    (openerVerified inputs).spec.htlcs = [] ∧ (localSpec (openerAfter inputs) true).htlcs.map HtlcEntry.heldTerms =
        [⟨30000000, [7], 500, .offered⟩] ∧
      ¬ Rebuilds plainPrimitives (openerVerified inputs) (openerAfter inputs) := by
  intro inputs
  have verified : (openerVerified inputs).spec.htlcs = [] := by decide +kernel
  have rebuilt : (localSpec (openerAfter inputs) true).htlcs.map HtlcEntry.heldTerms =
      [⟨30000000, [7], 500, .offered⟩] := by decide +kernel
  refine ⟨verified, rebuilt, fun rebuilds => ?_⟩
  have same := rebuilds.spec.htlcs.length_eq
  rw [verified, rebuilt] at same
  cases same

end Beignet.Channel
