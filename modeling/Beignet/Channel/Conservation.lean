import Beignet.Channel.Holdings
import Beignet.Channel.Entries

namespace Beignet.Channel

open Beignet.Data
open HtlcState (live)
open HtlcEntry (acknowledge localCredit remoteCredit markForwarded settled uncommittedAdd restoreRemoval settleAs removeAs stampCover commitPending uncoveredAdd acceptSigned)

/-! Where the value of a channel is: no step makes or loses any, and no commitment pays out more than
    the channel holds. -/

section Accounts

structure Account where
  own : Int
  peer : Int
  entry : HtlcEntry → Int
  retained : HtlcEntry → Int

def Account.value (a : Account) (s : ChannelState) : Int :=
  a.own * s.localBalanceMsat + a.peer * s.remoteBalanceMsat + (s.htlcs.values.map a.entry).sum +
    (s.signedLocalRemovals.map a.retained).sum

/-- What each update must do to an entry for the account not to fall. Entries are known to be `good`. -/
structure Account.Grows (good : HtlcEntry → Prop) (a : Account) : Prop where
  offered : ∀ s amount hash cltv onion blinding,
    a.own * (amount : Nat) ≤ a.entry (offeredEntry s amount hash cltv onion blinding)
  received : ∀ s msg, a.peer * (msg.amountMsat : Nat) ≤ a.entry (incomingEntry s msg)
  settled : ∀ e intent, e.direction = .received → a.entry e ≤ a.entry (e.settleAs intent)
  removed : ∀ e intent, addNotYetCommitted e = false → a.entry e ≤ a.entry (e.removeAs intent)
  signed : ∀ e, a.entry e ≤ a.entry e.stampCover.commitPending
  acknowledged : ∀ e, good e → e.acknowledge.settled = false → a.entry e ≤ a.entry e.acknowledge.markForwarded
  paid : ∀ e, good e → e.acknowledge.settled = true →
    a.entry e ≤ a.own * e.acknowledge.localCredit + a.peer * e.acknowledge.remoteCredit +
      if e.acknowledge.retained then a.retained e.acknowledge else 0
  dropped : ∀ e, e.uncommittedAdd = true → a.entry e ≤ a.peer * (e.amountMsat : Nat)
  restored : ∀ e, a.entry e ≤ a.entry e.restoreRemoval

end Accounts

namespace Account

variable {a : Account} {good : HtlcEntry → Prop} {s : ChannelState} {entry : HtlcEntry}

theorem value_map_le {f : HtlcEntry → HtlcEntry} {t : ChannelState}
    (entries : t.htlcs.values = s.htlcs.values.map f) (own : t.localBalanceMsat = s.localBalanceMsat)
    (peer : t.remoteBalanceMsat = s.remoteBalanceMsat) (retained : t.signedLocalRemovals = s.signedLocalRemovals)
    (grows : ∀ e ∈ s.htlcs.values, a.entry e ≤ a.entry (f e)) : a.value s ≤ a.value t := by
  have sums : (s.htlcs.values.map a.entry).sum ≤ (s.htlcs.values.map fun e => a.entry (f e)).sum :=
    List.sum_le_sum grows
  rw [value, value, entries, own, peer, retained, List.map_map]
  simp only [Function.comp_def]
  omega

theorem value_modify_le {k : HtlcDirection × Nat} (f : HtlcEntry → HtlcEntry)
    (keeps : ∀ e, (f e).key = e.key) (found : s.htlcs.get? k = some entry) (grows : a.entry entry ≤ a.entry (f entry)) :
    a.value s ≤ a.value { s with htlcs := s.htlcs.modify k f keeps } := by
  refine value_map_le rfl rfl rfl rfl fun e member => ?_
  split
  · rename_i same
    obtain ⟨inside, key⟩ := (s.htlcs.get?_eq_some _ _).mp found
    rw [KeyedMap.eq_of_key_eq member inside (same.trans key.symm)]
    exact grows
  · exact le_rfl

theorem value_add (absent : s.htlcs.has entry.key = false) :
    (a.own * (entry.amountMsat : Nat) ≤ a.entry entry → a.value s ≤ a.value (s.offer entry)) ∧
      (a.peer * (entry.amountMsat : Nat) ≤ a.entry entry → a.value s ≤ a.value (s.receive entry)) := by
  simp only [value, ChannelState.offer, ChannelState.receive, KeyedMap.values_set_of_absent absent, List.map_append,
    List.sum_append, List.map_singleton, List.sum_singleton, Int.mul_sub]
  omega

variable (grows : a.Grows good)
include grows

theorem sum_entries_le_settled {l : List HtlcEntry} (known : ∀ e ∈ l, good e) :
    (l.map a.entry).sum ≤ a.own * (((l.map acknowledge).filter HtlcEntry.settled).map localCredit).sum +
      a.peer * (((l.map acknowledge).filter HtlcEntry.settled).map remoteCredit).sum +
      ((((l.map acknowledge).filter fun e => !e.settled).map markForwarded).map a.entry).sum +
      ((((l.map acknowledge).filter HtlcEntry.settled).filter HtlcEntry.retained).map a.retained).sum := by
  induction l with
  | nil => simp
  | cons e rest ih =>
    obtain ⟨here, there⟩ := List.forall_mem_cons.mp known
    have ih := ih there
    cases settled : e.acknowledge.settled with
    | false =>
      have kept := grows.acknowledged e here settled
      simp only [List.map_cons, List.filter_cons, settled, Bool.false_eq_true, ↓reduceIte, Bool.not_false,
        List.sum_cons]
      omega
    | true =>
      have paid := grows.paid e here settled
      cases retained : e.acknowledge.retained <;>
        simp only [List.map_cons, List.filter_cons, settled, retained, Bool.not_true, Bool.false_eq_true,
          ↓reduceIte, List.sum_cons, Int.mul_add] at paid ⊢ <;> omega

theorem value_revocationAccepted (known : ∀ e ∈ s.htlcs.values, good e) :
    a.value s ≤ a.value s.revocationAccepted := by
  have paid := sum_entries_le_settled grows known
  change _ ≤ a.own * (s.localBalanceMsat + (((s.htlcs.values.map acknowledge).filter settled).map localCredit).sum) +
      a.peer * (s.remoteBalanceMsat + (((s.htlcs.values.map acknowledge).filter settled).map remoteCredit).sum) +
      ((((s.htlcs.values.map acknowledge).filter fun e => !e.settled).map
        markForwarded).map a.entry).sum +
      ((s.signedLocalRemovals ++ ((s.htlcs.values.map acknowledge).filter
        settled).filter HtlcEntry.retained).map a.retained).sum
  rw [List.map_append, List.sum_append, Int.mul_add, Int.mul_add, value]
  omega

theorem sum_entries_le_rolledBack (l : List HtlcEntry) : (l.map a.entry).sum ≤
      a.peer * ((l.filter uncommittedAdd).map fun e => (e.amountMsat : Int)).sum +
      (((l.filter fun e => !e.uncommittedAdd).map restoreRemoval).map a.entry).sum := by
  induction l with
  | nil => simp
  | cons e rest ih =>
    have restored := grows.restored e
    have dropped := grows.dropped e
    cases uncommitted : e.uncommittedAdd with
    | false =>
      simp only [List.map_cons, List.filter_cons, uncommitted, Bool.false_eq_true, ↓reduceIte,
        Bool.not_false, List.sum_cons]
      omega
    | true =>
      have dropped := dropped uncommitted
      simp only [List.map_cons, List.filter_cons, uncommitted, Bool.not_true, Bool.false_eq_true,
        ↓reduceIte, List.sum_cons, Int.mul_add]
      omega

theorem value_rolledBack : a.value s ≤ a.value s.rolledBack := by
  have returned := sum_entries_le_rolledBack grows s.htlcs.values
  change _ ≤ a.own * s.localBalanceMsat + a.peer * (s.remoteBalanceMsat +
      ((s.htlcs.values.filter uncommittedAdd).map fun e => (e.amountMsat : Int)).sum) +
      (((s.htlcs.values.filter fun e => !e.uncommittedAdd).map restoreRemoval).map a.entry).sum +
      (s.signedLocalRemovals.map a.retained).sum
  rw [Int.mul_add, value]
  omega

end Account

section Steps

variable {prim : Primitives} {ver : Verifier} {s t : ChannelState} {input : ChannelInput}
  {sent : List Message} {a : Account} {good : HtlcEntry → Prop}

theorem StepEffect.value_le (effect : StepEffect prim ver s input t sent) (grows : a.Grows good)
    (current : Current s) (known : ∀ e ∈ s.htlcs.values, good e) :
    a.value s ≤ a.value t ∨ ∃ msg, t = s.commitmentAccepted ver msg := by
  cases effect with
  | accepted msg => exact .inr ⟨msg, rfl⟩
  | refused | failed | feeStaged | feeReceived | misrevoked | heightSet => exact .inl le_rfl
  | offered amount hash cltv onion blinding =>
    exact .inl ((Account.value_add (offer_absent current.numbered)).1 (grows.offered ..))
  | received msg _ fresh =>
    refine .inl ((Account.value_add ?_).2 (grows.received s msg))
    rw [KeyedMap.has, Option.isSome_eq_false_iff, Option.isNone_iff_eq_none]
    exact fresh
  | settled update settles _ found =>
    exact .inl (Account.value_modify_le (settleAs _) (fun _ => rfl) found
      (grows.settled _ _ (direction_of_get? found)))
  | removed removes _ found _ _ committed =>
    exact .inl (Account.value_modify_le (removeAs _) (fun _ => rfl) found
      (grows.removed _ _ committed))
  | signed => exact .inl (Account.value_map_le rfl rfl rfl rfl fun e _ => grows.signed e)
  | revoked rotated msg store next rotates =>
    refine .inl ?_
    have same : a.value s = a.value rotated := by rw [rotates]; rfl
    rw [same]
    exact Account.value_revocationAccepted grows (by rw [rotates]; exact known)
  | disconnected =>
    rw [ChannelState.markForReestablish_fst current.recent]
    split
    · exact .inl (Account.value_rolledBack grows)
    · exact .inl le_rfl
  | resumed =>
    unfold resumeReestablished
    split <;> exact .inl le_rfl

end Steps

section Credits

variable {e : HtlcEntry}

theorem HtlcEntry.localCredit_nonneg : 0 ≤ e.localCredit := by
  unfold localCredit
  split <;> omega

theorem HtlcEntry.remoteCredit_nonneg : 0 ≤ e.remoteCredit := by
  unfold remoteCredit
  split <;> omega

theorem HtlcEntry.credits_of_dead (dead : e.state.live = false) : e.localCredit + e.remoteCredit = e.amountMsat := by
  cases state : e.state <;> cases direction : e.direction <;>
    simp_all [localCredit, remoteCredit, live]

@[simp] theorem HtlcEntry.commitPending_amountMsat : e.commitPending.amountMsat = e.amountMsat := by
  unfold commitPending
  split <;> rfl

@[simp] theorem HtlcEntry.markForwarded_amountMsat : e.markForwarded.amountMsat = e.amountMsat := by
  unfold markForwarded
  split <;> rfl

@[simp] theorem HtlcEntry.restoreRemoval_amountMsat : e.restoreRemoval.amountMsat = e.amountMsat := by
  unfold restoreRemoval
  split <;> rfl

theorem credit_covers_retained (dead : e.state.live = false) (retained : e.retained = true) :
    0 ≤ e.localCredit + (retainedAdjustment e).1 ∧ 0 ≤ e.remoteCredit + (retainedAdjustment e).2 := by
  simp only [HtlcEntry.retained, Bool.and_eq_true, decide_eq_true_eq] at retained
  cases state : e.state <;>
    simp_all [localCredit, remoteCredit, retainedAdjustment, live]

end Credits

def heldAccount (sign : Int) : Account := ⟨sign, sign, fun e => sign * e.amountMsat, fun _ => 0⟩

theorem heldAccount_value (sign : Int) (s : ChannelState) : (heldAccount sign).value s = sign * s.totalMsat := by
  have entries : ∀ l : List HtlcEntry, (l.map fun e => sign * (e.amountMsat : Int)).sum =
      sign * (l.map fun e => (e.amountMsat : Int)).sum := by
    intro l
    induction l with
    | nil => simp
    | cons e rest ih => simp [ih, Int.mul_add]
  have none : (s.signedLocalRemovals.map fun _ => (0 : Int)).sum = 0 := by simp
  simp only [Account.value, heldAccount, entries, none, ChannelState.totalMsat, ChannelState.htlcTotalMsat,
    Int.mul_add]
  omega

theorem heldAccount_grows (sign : Int) : (heldAccount sign).Grows fun _ => True where
  offered := fun _ _ _ _ _ _ => le_rfl
  received := fun _ _ => le_rfl
  settled := fun _ _ _ => le_rfl
  removed := fun _ _ _ => le_rfl
  signed := fun e => by simp [heldAccount, stampCover]
  acknowledged := fun e _ _ => by simp [heldAccount, acknowledge]
  paid := fun e _ settled => by
    have credits := HtlcEntry.credits_of_dead (live_of_settled settled)
    have same : e.acknowledge.localCredit + e.acknowledge.remoteCredit = e.amountMsat := credits
    simp only [heldAccount, ite_self, ← same, Int.mul_add, Int.add_zero]
    exact le_rfl
  dropped := fun _ _ => le_rfl
  restored := fun e => by simp [heldAccount]

/-- An HTLC of ours that no local commitment carries yet and that no revocation can settle before one does. -/
def HtlcEntry.unsignedOffer (e : HtlcEntry) : Bool :=
  e.direction = .offered && e.addRemoteSigned = some false &&
    ((e.addRemoteCommitted = some false && e.state.live) ||
      (e.commitCoverPending ≠ some true && (e.state.live || e.removalLocallyRevoked = some false)))

open HtlcEntry (unsignedOffer)

def ownAccount : Account :=
  ⟨1, 0, fun e => if e.unsignedOffer then e.amountMsat else 0, fun e => (retainedAdjustment e).1⟩

def peerAccount : Account :=
  ⟨0, 1, fun e => if e.uncoveredAdd then e.amountMsat else 0, fun e => (retainedAdjustment e).2⟩

structure HtlcEntry.Accountable (e : HtlcEntry) : Prop where
  removing : e.state.live = false → e.removalRemoteCommitted = some false
  signed : e.direction = .received → e.state = .fulfilled → e.addLocallyRevoked ≠ some false

theorem ite_amount_le {b c : Bool} {amount amount' : Nat} (same : amount' = amount) (kept : b = true → c = true) :
    (if b then (amount : Int) else 0) ≤ if c then (amount' : Int) else 0 := by
  cases b with
  | false => cases c <;> simp
  | true => simp [kept rfl, same]

theorem ownAccount_grows : ownAccount.Grows HtlcEntry.Accountable where
  offered := fun _ _ _ _ _ _ => by
    simp [ownAccount, offeredEntry, unsignedOffer, live]
  received := fun _ _ => by simp [ownAccount, incomingEntry, receivedEntry, unsignedOffer]
  settled := fun e intent received => by
    simp [ownAccount, settleAs, unsignedOffer, received]
  removed := fun e intent committed => ite_amount_le rfl fun unsigned => by
    simp only [addNotYetCommitted, Bool.or_eq_false_iff, decide_eq_false_iff_not] at committed
    simp only [unsignedOffer, Bool.and_eq_true, Bool.or_eq_true, decide_eq_true_eq] at unsigned ⊢
    simp only [removeAs]
    tauto
  signed := fun e => ite_amount_le HtlcEntry.commitPending_amountMsat fun unsigned => by
    unfold commitPending
    split <;>
      simp only [unsignedOffer, stampCover, HtlcEntry.addUncovered,
        HtlcEntry.removalUncovered, Bool.and_eq_true, Bool.or_eq_true, decide_eq_true_eq] at unsigned ⊢ <;>
      grind [live]
  acknowledged := fun e _ unsettled => ite_amount_le HtlcEntry.markForwarded_amountMsat fun unsigned => by
    unfold markForwarded
    split <;>
      simp only [unsignedOffer, acknowledge, Bool.and_eq_true, Bool.or_eq_true, decide_eq_true_eq] at unsigned ⊢ <;>
      grind [live]
  paid := fun e accountable settled => by
    have dead := live_of_settled settled
    have covered := (settled_of_removing dead (accountable.removing dead)).mp settled
    have signed : e.unsignedOffer = false := by simp [unsignedOffer, dead, covered]
    have credit := e.acknowledge.localCredit_nonneg
    simp only [ownAccount, signed, Bool.false_eq_true, ↓reduceIte, Int.one_mul, Int.zero_mul, Int.add_zero]
    split
    · rename_i retained
      exact (credit_covers_retained (e := e.acknowledge) dead retained).1
    · omega
  dropped := fun e uncommitted => by
    simp only [uncommittedAdd, Bool.and_eq_true, decide_eq_true_eq] at uncommitted
    simp [ownAccount, unsignedOffer, uncommitted.1.1]
  restored := fun e => ite_amount_le HtlcEntry.restoreRemoval_amountMsat fun unsigned => by
    unfold restoreRemoval
    split
    · rename_i removal
      simp only [unsignedOffer, HtlcEntry.uncommittedRemoval, Bool.and_eq_true, Bool.or_eq_true,
        decide_eq_true_eq] at unsigned removal ⊢
      grind [live]
    · exact unsigned

theorem peerAccount_grows : peerAccount.Grows HtlcEntry.Accountable where
  offered := fun _ _ _ _ _ _ => by simp [peerAccount, offeredEntry, uncoveredAdd]
  received := fun _ _ => by simp [peerAccount, incomingEntry, receivedEntry, uncoveredAdd]
  settled := fun _ _ _ => le_rfl
  removed := fun _ _ _ => le_rfl
  signed := fun e => ite_amount_le HtlcEntry.commitPending_amountMsat fun uncovered => by
    unfold commitPending
    split <;> exact uncovered
  acknowledged := fun e _ _ => ite_amount_le HtlcEntry.markForwarded_amountMsat fun uncovered => by
    unfold markForwarded
    split <;> exact uncovered
  paid := fun e accountable settled => by
    have dead := live_of_settled settled
    have credit := e.acknowledge.remoteCredit_nonneg
    simp only [peerAccount, Int.zero_mul, Int.zero_add, Int.one_mul]
    cases uncovered : e.uncoveredAdd with
    | false =>
      simp only [Bool.false_eq_true, ↓reduceIte]
      split
      · rename_i retained
        exact (credit_covers_retained (e := e.acknowledge) dead retained).2
      · omega
    | true =>
      simp only [uncoveredAdd, Bool.and_eq_true, decide_eq_true_eq] at uncovered
      have failed : e.state = .failed := by
        cases state : e.state with
        | failed => rfl
        | fulfilled => exact absurd uncovered.2 (accountable.signed uncovered.1 state)
        | pending | committed => simp [state, live] at dead
      simp [acknowledge, remoteCredit, HtlcEntry.retained, uncovered, failed]
  dropped := fun e uncommitted => by
    simp only [peerAccount, Int.one_mul]
    split <;> omega
  restored := fun e => ite_amount_le HtlcEntry.restoreRemoval_amountMsat fun uncovered => by
    unfold restoreRemoval
    split <;> exact uncovered

/-- We fulfil an HTLC only once the peer has signed a commitment of ours that carries it. -/
def fulfilsSigned (s : ChannelState) : ChannelInput → Bool
  | .fulfillHtlc id _ => (s.htlcs.get? (.received, id)).all fun e => e.addLocallyRevoked ≠ some false
  | _ => true

theorem accountable_invariant : EntryInvariant
    (fun e intent => intent = .fulfilled → e.addLocallyRevoked ≠ some false) (fun _ _ => True)
    HtlcEntry.Accountable where
  offered := fun _ _ _ _ _ _ => ⟨nofun, nofun⟩
  received := fun _ _ => ⟨nofun, nofun⟩
  settled := fun e intent _ _ _ _ allowed => ⟨fun _ => rfl, fun _ => allowed⟩
  removed := fun e intent _ offered _ _ _ =>
    ⟨fun _ => rfl, fun received => by cases offered.symm.trans received⟩
  signed := fun e known => by
    unfold commitPending
    split
    · exact ⟨by rintro ⟨⟩, by rintro _ ⟨⟩⟩
    · exact { known with }
  accepted := fun e known => by
    unfold commitPending
    split
    · exact ⟨by rintro ⟨⟩, by rintro _ ⟨⟩⟩
    refine ⟨known.removing, fun _ _ => ?_⟩
    simp only [acceptSigned]
    split
    · decide
    assumption
  acknowledged := fun e known unsettled => by
    have kept : e.acknowledge.Accountable := by
      refine ⟨fun dead => ?_, known.signed⟩
      simpa [HtlcEntry.settled, dead] using unsettled
    rw [HtlcEntry.markForwarded_eq]
    exact { kept with }
  restored := fun e known _ => by
    unfold restoreRemoval
    split
    · exact ⟨by rintro ⟨⟩, by rintro _ ⟨⟩⟩
    · exact known

section Balances

def funderFloorMsat (s : ChannelState) (role : ChannelRole) : Int :=
  if s.role = role ∧ isAnchorChannel s.channelType = true then (anchorTotalCost : Int) * 1000 else 0

theorem funderFloorMsat_nonneg (s : ChannelState) (role : ChannelRole) : 0 ≤ funderFloorMsat s role := by
  unfold funderFloorMsat
  split <;> omega

theorem anchorCost_le_funderCost (feerate count : Nat) (channelType : ChannelType) :
    (if isAnchorChannel channelType then anchorTotalCost else 0) ≤
      funderCommitmentCostSats feerate count channelType :=
  Nat.le_add_left _ _

variable {s : ChannelState}

theorem remoteFunderCeilingMsat_le {spendable : Int} (nonneg : 0 ≤ spendable) :
    remoteFunderCeilingMsat s spendable ≤ spendable := by
  unfold remoteFunderCeilingMsat
  dsimp only
  split_ifs
  · exact le_rfl
  · exact le_rfl
  · exact nonneg
  · exact min_le_right _ _

theorem floor_le_of_spendable {amount : Nat} (solvent : funderFloorMsat s .opener ≤ s.localBalanceMsat)
    (affordable : (amount : Int) ≤ getSpendableOutboundMsat s) :
    funderFloorMsat s .opener ≤ s.localBalanceMsat - amount := by
  unfold getSpendableOutboundMsat at affordable
  dsimp only at affordable
  have bounded := affordable.trans (remoteFunderCeilingMsat_le (le_max_right _ _))
  rcases Nat.eq_zero_or_pos amount with rfl | positive
  · simpa using solvent
  rcases le_max_iff.mp bounded with spends | nothing
  · cases role : s.role with
    | opener =>
      have anchors := anchorCost_le_funderCost
        (max (getLocalCommitmentFeeRate s false) (getRemoteCommitmentFeeRate s) * 2) (countActiveHtlcs s + 2)
        s.channelType
      simp only [role] at spends
      rw [funderFloorMsat]
      by_cases anchor : isAnchorChannel s.channelType = true
      · rw [if_pos anchor] at anchors
        rw [if_pos ⟨role, anchor⟩]
        omega
      · rw [if_neg fun funder => anchor funder.2]
        omega
    | acceptor =>
      simp only [role] at spends
      rw [funderFloorMsat, if_neg (by simp [role])]
      omega
  · omega

theorem floor_le_of_remoteRequired {msg : UpdateAddHtlc}
    (affordable : (remoteRequiredMsat s msg : Int) ≤ s.remoteBalanceMsat - msg.amountMsat) :
    funderFloorMsat s .acceptor ≤ s.remoteBalanceMsat - msg.amountMsat := by
  refine le_trans ?_ affordable
  unfold funderFloorMsat
  split
  · rename_i funder
    have cost := anchorCost_le_funderCost (getLocalCommitmentFeeRate s false)
      (countUntrimmedRows s ((s.htlcs.values.filter fun e => e.state.live).map HtlcEntry.row ++
        [(⟨msg.amountMsat, .received⟩ : Candidate).row]) s.localConfig.dustLimitSatoshis
        (getLocalCommitmentFeeRate s false)) s.channelType
    rw [if_pos funder.2] at cost
    have least : anchorTotalCost * 1000 ≤
        remoteFunderLocalCostMsat s (getLocalCommitmentFeeRate s false) [⟨msg.amountMsat, .received⟩] :=
      Nat.mul_le_mul_right _ cost
    have required : anchorTotalCost * 1000 ≤ remoteRequiredMsat s msg := by
      unfold remoteRequiredMsat
      rw [funder.1]
      exact least.trans ((le_max_left _ _).trans (Nat.le_add_left _ _))
    have cast := Int.ofNat_le.mpr required
    rwa [Int.natCast_mul] at cast
  · exact Int.natCast_nonneg _

structure Solvent (s : ChannelState) : Prop where
  total : s.totalMsat = 1000 * s.fundingSatoshis
  own : funderFloorMsat s .opener ≤ s.localBalanceMsat
  peer : funderFloorMsat s .acceptor ≤ s.remoteBalanceMsat

variable {prim : Primitives} {ver : Verifier} {s t : ChannelState} {input : ChannelInput}
  {sent : List Message}

theorem sum_credits_nonneg {f : HtlcEntry → Int} (nonneg : ∀ e, 0 ≤ f e) (l : List HtlcEntry) : 0 ≤ (l.map f).sum :=
  List.sum_nonneg fun x member => by
    obtain ⟨e, -, rfl⟩ := List.mem_map.mp member
    exact nonneg e

section

variable (effect : StepEffect prim ver s input t sent)
include effect

variable (current : Current s)
include current

theorem StepEffect.total : t.totalMsat = s.totalMsat := by
  have accepted : ∀ msg, (s.commitmentAccepted ver msg).totalMsat = s.totalMsat := by
    intro msg
    change s.localBalanceMsat + s.remoteBalanceMsat +
      ((s.htlcs.values.map fun e => e.acceptSigned.commitPending).map fun e => (e.amountMsat : Int)).sum = _
    rw [List.map_map]
    simp [Function.comp_def, acceptSigned, ChannelState.totalMsat, ChannelState.htlcTotalMsat]
  have bound : ∀ sign : Int, sign * s.totalMsat ≤ sign * t.totalMsat := by
    intro sign
    rcases effect.value_le (heldAccount_grows sign) current (fun _ _ => trivial) with grows | ⟨msg, rfl⟩
    · rwa [heldAccount_value, heldAccount_value] at grows
    · rw [accepted]
  have up := bound 1
  have down := bound (-1)
  omega

theorem StepEffect.floors (role : ChannelRole) : funderFloorMsat t role = funderFloorMsat s role := by
  have constants := effect.constants current.recent
  have roles := congrArg ChannelConstants.role constants
  have types := congrArg ChannelConstants.channelType constants
  simp only [ChannelState.constants] at roles types
  rw [funderFloorMsat, funderFloorMsat, roles, types]

theorem StepEffect.balances : (s.localBalanceMsat ≤ t.localBalanceMsat ∨
      ∃ amount hash cltv onion blinding skimmed,
        input = .addHtlc amount hash cltv onion blinding skimmed ∧ s.phase = .normal ∧
        (amount : Int) ≤ getSpendableOutboundMsat s ∧ t.localBalanceMsat = s.localBalanceMsat - amount) ∧
    (s.remoteBalanceMsat ≤ t.remoteBalanceMsat ∨ ∃ msg, input = .receive (.updateAddHtlc msg) ∧ s.operational = true ∧
        s.htlcs.get? (.received, msg.id) = none ∧
        (remoteRequiredMsat s msg : Int) ≤ s.remoteBalanceMsat - msg.amountMsat ∧
        t = s.receive (incomingEntry s msg)) := by
  cases effect with
  | offered amount hash cltv onion blinding skimmed phase affordable =>
    exact ⟨.inr ⟨amount, hash, cltv, onion, blinding, skimmed, rfl, phase, affordable, rfl⟩, .inl le_rfl⟩
  | received msg operational fresh affordable =>
    exact ⟨.inl le_rfl, .inr ⟨msg, rfl, operational, fresh, affordable, rfl⟩⟩
  | revoked rotated msg store next rotates =>
    have localPaid := sum_credits_nonneg (fun e => e.localCredit_nonneg) rotated.settledHtlcs
    have remotePaid := sum_credits_nonneg (fun e => e.remoteCredit_nonneg) rotated.settledHtlcs
    have same : rotated.localBalanceMsat = s.localBalanceMsat ∧
        rotated.remoteBalanceMsat = s.remoteBalanceMsat := by
      rw [rotates]
      exact ⟨rfl, rfl⟩
    constructor
    · left
      change _ ≤ rotated.localBalanceMsat + (rotated.settledHtlcs.map localCredit).sum
      omega
    · left
      change _ ≤ rotated.remoteBalanceMsat + (rotated.settledHtlcs.map remoteCredit).sum
      omega
  | disconnected =>
    rw [ChannelState.markForReestablish_fst current.recent]
    split
    · have returned := sum_credits_nonneg (fun e => Int.natCast_nonneg e.amountMsat)
        (s.htlcs.values.filter uncommittedAdd)
      refine ⟨.inl le_rfl, .inl ?_⟩
      change _ ≤ s.remoteBalanceMsat + ((s.htlcs.values.filter uncommittedAdd).map fun e => (e.amountMsat : Int)).sum
      omega
    · exact ⟨.inl le_rfl, .inl le_rfl⟩
  | resumed =>
    unfold resumeReestablished
    split <;> exact ⟨.inl le_rfl, .inl le_rfl⟩
  | _ => exact ⟨.inl le_rfl, .inl le_rfl⟩

theorem StepEffect.solvent (solvent : Solvent s) : Solvent t := by
  have floors := effect.floors current
  have constants := effect.constants current.recent
  have funding := congrArg ChannelConstants.fundingSatoshis constants
  simp only [ChannelState.constants] at funding
  obtain ⟨ours, theirs⟩ := effect.balances current
  refine ⟨?_, ?_, ?_⟩
  · rw [effect.total current, solvent.total, funding]
  · rw [floors]
    rcases ours with grown | ⟨amount, -, -, -, -, -, -, -, affordable, paid⟩
    · exact solvent.own.trans grown
    · rw [paid]
      exact floor_le_of_spendable solvent.own affordable
  · rw [floors]
    rcases theirs with grown | ⟨msg, -, -, -, affordable, rfl⟩
    · exact solvent.peer.trans grown
    · exact floor_le_of_remoteRequired affordable

end

end Balances

end Beignet.Channel
