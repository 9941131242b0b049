import Beignet.Channel.Ledger
import Beignet.Channel.Rebuild
import Beignet.Channel.Entries

namespace Beignet.Channel

open Beignet.Data Beignet.TwoLogs
open Option (elim_some elim_none bind_some)
open HtlcEntry (stampCover addUncovered removalUncovered acceptSigned afterRevocation acknowledge)
open HtlcRecord (balance share place_of_unremoved place_of_late place_of_removed place_of_unadded share_returned)

/-! How the entries of a channel follow the ledger: each flag of an entry says how the position of an
    add or a removal in its log compares with one of the counts of the side. -/

structure OpenOffer (v : View) (r : HtlcRecord) (e : HtlcEntry) : Prop where
  direction : e.direction = .offered
  terms : e.terms .offered = r.terms .offered
  unremoved : ∀ k d, r.removal = some (k, d) → v.received ≤ k
  live : e.state.live = true
  committed : e.addRemoteCommitted = some (decide (r.addedAt < v.acked))
  cover : e.commitCoverPending = some true ↔ v.acked ≤ r.addedAt ∧ r.addedAt < v.signedOwn

structure RemovedOffer (v : View) (r : HtlcRecord) (k : Nat) (d : HtlcState) (e : HtlcEntry) : Prop where
  direction : e.direction = .offered
  terms : e.terms .offered = r.terms .offered
  removal : r.removal = some (k, d)
  seen : k < v.received
  unsettled : v.settled ≤ k
  state : e.state = d
  dead : d.live = false
  acked : r.addedAt < v.acked
  committed : e.addRemoteCommitted = some true
  removing : e.removalRemoteCommitted = some false
  revoked : e.removalLocallyRevoked = some (decide (k < v.revoked))
  cover : e.commitCoverPending = some true ↔ k < v.signedOther

inductive TracksOffer (v : View) : Option HtlcRecord → Option HtlcEntry → Prop
  | absent : TracksOffer v none none
  | gone {r : HtlcRecord} {k : Nat} {d : HtlcState} (removal : r.removal = some (k, d))
      (through : k < v.settled) (acked : r.addedAt < v.acked) : TracksOffer v (some r) none
  | unremoved {r : HtlcRecord} {e : HtlcEntry} (offer : OpenOffer v r e) : TracksOffer v (some r) (some e)
  | removed {r : HtlcRecord} {k : Nat} {d : HtlcState} {e : HtlcEntry} (offer : RemovedOffer v r k d e) :
      TracksOffer v (some r) (some e)

structure OpenReceipt (v : View) (r : HtlcRecord) (e : HtlcEntry) : Prop where
  direction : e.direction = .received
  terms : e.terms .received = r.terms .received
  unremoved : r.removal = none
  seen : r.addedAt < v.received
  live : e.state.live = true
  committed : e.addRemoteCommitted = none
  revoked : e.addLocallyRevoked = some (decide (r.addedAt < v.revoked))
  settled : e.addRemotelyRevoked = some (decide (r.addedAt < v.settled))
  addCover : e.addCoverPending = some true ↔ v.settled ≤ r.addedAt ∧ r.addedAt < v.signedOther
  removal : e.removalLocallyRevoked = none
  cover : e.commitCoverPending ≠ some true

structure RemovedReceipt (v : View) (r : HtlcRecord) (k : Nat) (d : HtlcState) (e : HtlcEntry) : Prop where
  direction : e.direction = .received
  terms : e.terms .received = r.terms .received
  removal : r.removal = some (k, d)
  unacked : v.acked ≤ k
  settled : r.addedAt < v.settled
  state : e.state = d
  dead : d.live = false
  committed : e.addRemoteCommitted = none
  revoked : e.addLocallyRevoked = some true
  irrevocable : e.addRemotelyRevoked = some true
  removing : e.removalRemoteCommitted = some false
  unrevoked : e.removalLocallyRevoked = none
  cover : e.commitCoverPending = some true ↔ k < v.signedOwn

inductive TracksReceipt (v : View) : Option HtlcRecord → Option HtlcEntry → Prop
  | absent : TracksReceipt v none none
  | unseen {r : HtlcRecord} (later : v.received ≤ r.addedAt) (unremoved : r.removal = none) :
      TracksReceipt v (some r) none
  | gone {r : HtlcRecord} {k : Nat} {d : HtlcState} (removal : r.removal = some (k, d))
      (through : k < v.acked) (settled : r.addedAt < v.settled) : TracksReceipt v (some r) none
  | unremoved {r : HtlcRecord} {e : HtlcEntry} (receipt : OpenReceipt v r e) :
      TracksReceipt v (some r) (some e)
  | removed {r : HtlcRecord} {k : Nat} {d : HtlcState} {e : HtlcEntry}
      (receipt : RemovedReceipt v r k d e) : TracksReceipt v (some r) (some e)

def ownBalance (v : View) (r : HtlcRecord) : Holdings :=
  r.balance .offered (r.place (r.addedAt + 1) v.settled)

def peerBalance (v : View) (r : HtlcRecord) : Holdings := r.balance .received (r.place v.received v.acked)

def mirror (h : Holdings) : Holdings := (h.2.1, h.1, h.2.2)

theorem mirror_balance (r : HtlcRecord) (d : HtlcDirection) (p : Place) :
    mirror (r.balance d p) = r.balance d.flip p := by
  cases d <;> cases p <;>
    simp [mirror, balance, debit, credit, ours, theirs, HtlcDirection.flip]

theorem mirror_debit (d : HtlcDirection) (amount : Nat) : mirror (debit d amount) = debit d.flip amount := by
  cases d <;> simp [mirror, debit, ours, theirs, HtlcDirection.flip]

theorem debit_ours (amount : Nat) : debit .offered amount + ours amount = 0 := by simp [debit, ours]

theorem debit_theirs (amount : Nat) : debit .received amount + theirs amount = 0 := by simp [debit, theirs]

variable {v : View} {own other : Nat} (bounded : v.Bounded own other) {r : HtlcRecord} {k : Nat}
  {d : HtlcState} {e : HtlcEntry}

section Terms

variable {d : HtlcDirection} (terms : e.terms d = r.terms d)
include terms

theorem amount_of_terms : e.amountMsat = r.amountMsat := congrArg HtlcTerms.amountMsat terms

theorem heldTerms_of_terms (direction : e.direction = d) : e.heldTerms = r.terms d := by
  rw [HtlcEntry.heldTerms, direction, terms]

theorem signedTerms_of_terms (direction : e.direction = d) : e.signedTerms = r.terms d.flip := by
  have amount := amount_of_terms terms
  have hash : e.paymentHash = r.paymentHash := congrArg HtlcTerms.paymentHash terms
  have cltv : e.cltvExpiry = r.cltvExpiry := congrArg HtlcTerms.cltvExpiry terms
  rw [HtlcEntry.signedTerms, direction, HtlcEntry.terms, amount, hash, cltv]
  rfl

end Terms

theorem share_of_removed (r : HtlcRecord) (d : HtlcDirection) (disposition : HtlcState) :
    r.share d (if disposition = .fulfilled then .paid else .returned) =
      r.balance d (if disposition = .fulfilled then .paid else .returned) := by
  split <;> simp [share]

theorem share_inFlight (r : HtlcRecord) (d : HtlcDirection) :
    r.share d .inFlight = debit d r.amountMsat + locked (r.terms d) := rfl

section Shares

include bounded

theorem OpenOffer.ownBalance_eq (offer : OpenOffer v r e) : ownBalance v r = debit .offered r.amountMsat := by
  rw [ownBalance, place_of_unremoved (Nat.lt_succ_self _)
    fun k d removal => bounded.settled_le_received.trans (offer.unremoved k d removal)]
  rfl

omit bounded in
theorem RemovedOffer.ownBalance_eq {k : Nat} {d : HtlcState}
    (offer : RemovedOffer v r k d e) : ownBalance v r = debit .offered r.amountMsat := by
  rw [ownBalance, place_of_late (Nat.lt_succ_self _) offer.removal offer.unsettled]
  rfl

variable {e : Option HtlcEntry} {r : Option HtlcRecord}

theorem TracksOffer.localShare_eq (tracks : TracksOffer v r e) :
    r.elim 0 (ownBalance v) + e.elim 0 (localShare false) =
      r.elim 0 fun r => r.share .offered (r.place v.acked v.received) := by
  cases tracks with
  | absent => rfl
  | @gone r k d removal through acked =>
    simp only [elim_some, elim_none, add_zero, ownBalance, place_of_removed (Nat.lt_succ_self _) removal through,
      place_of_removed acked removal (through.trans_le bounded.settled_le_received),
      share_of_removed]
  | @unremoved r e offer =>
    simp only [elim_some, offer.ownBalance_eq bounded,
      localShare_offered_live offer.direction offer.live, localCommitmentCarriesAdd, offer.committed]
    by_cases acked : r.addedAt < v.acked
    · rw [place_of_unremoved acked offer.unremoved, share_inFlight, heldTerms_of_terms offer.terms offer.direction]
      simp [acked]
    · rw [place_of_unadded (Nat.not_lt.mp acked), share_returned, amount_of_terms offer.terms]
      simpa [acked] using debit_ours r.amountMsat
  | @removed r k d e offer =>
    simp only [elim_some, offer.ownBalance_eq, place_of_removed offer.acked offer.removal offer.seen]
    rw [localShare_offered_dead offer.direction (by rw [offer.state, offer.dead]), offer.state,
      amount_of_terms offer.terms]
    rcases dead_cases offer.dead with rfl | rfl
    · simp [signedLocalCarriesRemoval, localCommitmentCarriesAdd, offer.committed, share, balance, credit]
    · simpa [signedLocalCarriesRemoval, share_returned] using debit_ours r.amountMsat

theorem TracksOffer.remoteShare_eq (tracks : TracksOffer v r e) (logged : ∀ r', r = some r' → r'.addedAt < own) :
    mirror (r.elim 0 (ownBalance v)) + e.elim 0 remoteShare =
      r.elim 0 fun r => r.share .received (r.place own v.revoked) := by
  cases tracks with
  | absent => rfl
  | @gone r k d removal through acked =>
    simp only [elim_some, elim_none, add_zero, ownBalance, mirror_balance,
      place_of_removed (Nat.lt_succ_self _) removal through,
      place_of_removed (logged r rfl) removal (through.trans_le bounded.settled_le_revoked),
      share_of_removed]
    rfl
  | @unremoved r e offer =>
    simp only [elim_some, offer.ownBalance_eq bounded, remoteShare_offered_live offer.direction offer.live,
      signedTerms_of_terms offer.terms offer.direction, HtlcDirection.flip]
    rw [place_of_unremoved (logged r rfl)
      fun k d removal => bounded.revoked.trans (offer.unremoved k d removal), share_inFlight, mirror_debit]
    rfl
  | @removed r k d e offer =>
    simp only [elim_some, offer.ownBalance_eq, mirror_debit, HtlcDirection.flip]
    rw [remoteShare_offered_dead offer.direction (by rw [offer.state, offer.dead]), offer.state,
      amount_of_terms offer.terms, signedTerms_of_terms offer.terms offer.direction]
    by_cases revoked : k < v.revoked
    · rw [place_of_removed (logged r rfl) offer.removal revoked]
      rcases dead_cases offer.dead with rfl | rfl
      · simp [offer.revoked, revoked, share, balance, credit]
      · simpa [offer.revoked, revoked, share_returned] using debit_theirs r.amountMsat
    · rw [place_of_late (logged r rfl) offer.removal (Nat.not_lt.mp revoked), share_inFlight]
      simp [offer.revoked, revoked, HtlcDirection.flip]

omit bounded in
theorem OpenReceipt.peerBalance_eq {r : HtlcRecord} {e : HtlcEntry} (receipt : OpenReceipt v r e) :
    peerBalance v r = debit .received r.amountMsat := by
  rw [peerBalance, place_of_unremoved receipt.seen]
  · rfl
  · simp [receipt.unremoved]

theorem RemovedReceipt.peerBalance_eq {r : HtlcRecord} {k : Nat} {d : HtlcState} {e : HtlcEntry}
    (receipt : RemovedReceipt v r k d e) : peerBalance v r = debit .received r.amountMsat := by
  rw [peerBalance, place_of_late (receipt.settled.trans_le bounded.settled_le_received) receipt.removal receipt.unacked]
  rfl

theorem TracksReceipt.localShare_eq (tracks : TracksReceipt v r e) :
    r.elim 0 (peerBalance v) + e.elim 0 (localShare false) =
      r.elim 0 fun r => r.share .received (r.place v.received v.acked) := by
  cases tracks with
  | absent => rfl
  | @unseen r later unremoved =>
    simp only [elim_some, elim_none, add_zero, peerBalance, place_of_unadded later, share_returned]
    rfl
  | @gone r k d removal through settled =>
    simp only [elim_some, elim_none, add_zero, peerBalance,
      place_of_removed (settled.trans_le bounded.settled_le_received) removal through,
      share_of_removed]
  | @unremoved r e receipt =>
    simp only [elim_some, receipt.peerBalance_eq,
      localShare_received_live receipt.direction receipt.live, signedLocalLacksReceivedAdd,
      heldTerms_of_terms receipt.terms receipt.direction]
    rw [place_of_unremoved receipt.seen (by simp [receipt.unremoved]), share_inFlight]
    simp
  | @removed r k d e receipt =>
    simp only [elim_some, receipt.peerBalance_eq bounded]
    rw [place_of_late (receipt.settled.trans_le bounded.settled_le_received) receipt.removal receipt.unacked,
      share_inFlight, localShare_received_dead receipt.direction (by rw [receipt.state, receipt.dead]),
      heldTerms_of_terms receipt.terms receipt.direction]
    simp [signedLocalLacksReceivedAdd, receipt.removing]

theorem TracksReceipt.remoteShare_eq (tracks : TracksReceipt v r e)
    (logged : ∀ r' k d, r = some r' → r'.removal = some (k, d) → k < own) :
    mirror (r.elim 0 (peerBalance v)) + e.elim 0 remoteShare =
      r.elim 0 fun r => r.share .offered (r.place v.revoked own) := by
  cases tracks with
  | absent => rfl
  | @unseen r later unremoved =>
    simp only [elim_some, elim_none, add_zero, peerBalance, mirror_balance,
      place_of_unadded later, place_of_unadded (bounded.revoked.trans later),
      share_returned]
    rfl
  | @gone r k d removal through settled =>
    simp only [elim_some, elim_none, add_zero, peerBalance, mirror_balance,
      place_of_removed (settled.trans_le bounded.settled_le_received) removal through,
      place_of_removed (settled.trans_le bounded.settled_le_revoked) removal
        (logged r k d rfl removal), share_of_removed]
    rfl
  | @unremoved r e receipt =>
    simp only [elim_some, receipt.peerBalance_eq, mirror_debit, HtlcDirection.flip,
      remoteShare_received_live receipt.direction receipt.live, receipt.revoked]
    by_cases revoked : r.addedAt < v.revoked
    · rw [place_of_unremoved revoked (by simp [receipt.unremoved]), share_inFlight,
        signedTerms_of_terms receipt.terms receipt.direction]
      simp [revoked, HtlcDirection.flip]
    · rw [place_of_unadded (Nat.not_lt.mp revoked), share_returned, amount_of_terms receipt.terms]
      simpa [revoked] using debit_ours r.amountMsat
  | @removed r k d e receipt =>
    simp only [elim_some, receipt.peerBalance_eq bounded, mirror_debit, HtlcDirection.flip]
    rw [place_of_removed (receipt.settled.trans_le bounded.settled_le_revoked) receipt.removal
      (logged r k d rfl receipt.removal), remoteShare_received_dead receipt.direction (by rw [receipt.state, receipt.dead]),
      receipt.state, amount_of_terms receipt.terms]
    rcases dead_cases receipt.dead with rfl | rfl
    · simp [share, balance, credit]
    · simpa [share_returned] using debit_ours r.amountMsat

end Shares

theorem HtlcEntry.commitPending_of_dead (dead : e.state.live = false) : e.commitPending = e := by
  rw [HtlcEntry.commitPending, if_neg]
  intro pending
  simp [pending, HtlcState.live] at dead

theorem OpenOffer.commitPending (offer : OpenOffer v r e) : OpenOffer v r e.commitPending := by
  unfold HtlcEntry.commitPending
  split
  · exact { offer with live := rfl }
  · exact offer

theorem OpenReceipt.commitPending (receipt : OpenReceipt v r e) : OpenReceipt v r e.commitPending := by
  unfold HtlcEntry.commitPending
  split
  · exact { receipt with live := rfl }
  · exact receipt

theorem RemovedOffer.commitPending (offer : RemovedOffer v r k d e) : RemovedOffer v r k d e.commitPending := by
  rw [HtlcEntry.commitPending_of_dead (by rw [offer.state, offer.dead])]
  exact offer

theorem RemovedReceipt.commitPending
    (receipt : RemovedReceipt v r k d e) : RemovedReceipt v r k d e.commitPending := by
  rw [HtlcEntry.commitPending_of_dead (by rw [receipt.state, receipt.dead])]
  exact receipt

section Sign

variable (idle : v.awaiting = false)
include bounded idle

theorem OpenOffer.sign (offer : OpenOffer v r e) (logged : r.addedAt < own) : OpenOffer (v.sign own) r e.stampCover :=
  { offer with
    cover := by
      have old := offer.cover
      rw [(bounded.idle idle).1] at old
      by_cases acked : r.addedAt < v.acked
      · have uncovered : e.commitCoverPending ≠ some true := fun cover => by have := old.mp cover; omega
        simp [stampCover, addUncovered, removalUncovered, offer.committed, offer.live, acked, uncovered, View.sign]
      · simp [stampCover, addUncovered, offer.committed, offer.live, acked, logged, View.sign, Nat.not_lt.mp acked] }

theorem RemovedOffer.sign (offer : RemovedOffer v r k d e) : RemovedOffer (v.sign own) r k d e.stampCover :=
  { offer with
    cover := by
      have uncovered : e.commitCoverPending ≠ some true := fun cover => by
        have := offer.cover.mp cover
        have := offer.unsettled
        have := (bounded.idle idle).2
        omega
      have dead : e.state.live = false := by rw [offer.state, offer.dead]
      by_cases revoked : k < v.revoked <;>
        simp [stampCover, addUncovered, removalUncovered, offer.committed,
          offer.removing, offer.revoked, dead, revoked, uncovered, View.sign] }

theorem OpenReceipt.sign (receipt : OpenReceipt v r e) : OpenReceipt (v.sign own) r e.stampCover :=
  { receipt with
    addCover := by
      have uncovered : e.addCoverPending ≠ some true := fun cover => by
        have := receipt.addCover.mp cover
        have := (bounded.idle idle).2
        omega
      by_cases settled : r.addedAt < v.settled
      · simp [stampCover, HtlcEntry.receivedAddUncovered, receipt.settled, settled, uncovered, View.sign]
      · by_cases revoked : r.addedAt < v.revoked <;>
          simp [stampCover, HtlcEntry.receivedAddUncovered, receipt.settled, receipt.revoked,
            receipt.live, settled, revoked, uncovered, View.sign, Nat.not_lt.mp settled]
    cover := by
      simpa [stampCover, addUncovered, removalUncovered, receipt.committed, receipt.live] using receipt.cover }

omit bounded idle in
theorem RemovedReceipt.sign (receipt : RemovedReceipt v r k d e) (logged : k < own) :
    RemovedReceipt (v.sign own) r k d e.stampCover :=
  { receipt with
    cover := by
      have dead : e.state.live = false := by rw [receipt.state, receipt.dead]
      simp [stampCover, removalUncovered, receipt.removing, receipt.unrevoked, dead, logged, View.sign] }

theorem TracksOffer.sign {r : Option HtlcRecord} {e : Option HtlcEntry} (tracks : TracksOffer v r e)
    (logged : ∀ r', r = some r' → r'.addedAt < own) :
    TracksOffer (v.sign own) r (e.map fun e => e.stampCover.commitPending) := by
  cases tracks with
  | absent => exact .absent
  | gone removal through acked => exact .gone removal through acked
  | unremoved offer => exact .unremoved (offer.sign bounded idle (logged _ rfl)).commitPending
  | removed offer => exact .removed (offer.sign bounded idle).commitPending

theorem TracksReceipt.sign {r : Option HtlcRecord} {e : Option HtlcEntry} (tracks : TracksReceipt v r e)
    (logged : ∀ r' k d, r = some r' → r'.removal = some (k, d) → k < own) :
    TracksReceipt (v.sign own) r (e.map fun e => e.stampCover.commitPending) := by
  cases tracks with
  | absent => exact .absent
  | unseen later unremoved => exact .unseen later unremoved
  | gone removal through settled => exact .gone removal through settled
  | unremoved receipt => exact .unremoved (receipt.sign bounded idle).commitPending
  | removed receipt => exact .removed (receipt.sign (logged _ _ _ rfl receipt.removal)).commitPending

end Sign

section Accept

theorem RemovedOffer.accept (offer : RemovedOffer v r k d e) : RemovedOffer v.revoke r k d e.acceptSigned :=
  { offer with
    revoked := by
      have dead : e.state.live = false := by rw [offer.state, offer.dead]
      by_cases revoked : k < v.revoked <;>
        simp [acceptSigned, offer.revoked, offer.seen, dead, revoked, View.revoke] }

theorem OpenReceipt.accept (receipt : OpenReceipt v r e) : OpenReceipt v.revoke r e.acceptSigned :=
  { receipt with
    revoked := by
      by_cases revoked : r.addedAt < v.revoked <;>
        simp [acceptSigned, receipt.revoked, receipt.seen, revoked, View.revoke]
    removal := by simp [acceptSigned, receipt.removal] }

theorem RemovedReceipt.accept (receipt : RemovedReceipt v r k d e) : RemovedReceipt v.revoke r k d e.acceptSigned :=
  { receipt with
    revoked := by simp [acceptSigned, receipt.revoked]
    unrevoked := by simp [acceptSigned, receipt.unrevoked] }

theorem TracksOffer.accept {r : Option HtlcRecord} {e : Option HtlcEntry} (tracks : TracksOffer v r e) :
    TracksOffer v.revoke r (e.map fun e => e.acceptSigned.commitPending) := by
  cases tracks with
  | absent => exact .absent
  | gone removal through acked => exact .gone removal through acked
  | @unremoved r e offer =>
    have accepted : OpenOffer v.revoke r e.acceptSigned := { offer with }
    exact .unremoved accepted.commitPending
  | removed offer => exact .removed offer.accept.commitPending

theorem TracksReceipt.accept {r : Option HtlcRecord} {e : Option HtlcEntry} (tracks : TracksReceipt v r e) :
    TracksReceipt v.revoke r (e.map fun e => e.acceptSigned.commitPending) := by
  cases tracks with
  | absent => exact .absent
  | unseen later unremoved => exact .unseen later unremoved
  | gone removal through settled => exact .gone removal through settled
  | unremoved receipt => exact .unremoved receipt.accept.commitPending
  | removed receipt => exact .removed receipt.accept.commitPending

end Accept

def HtlcEntry.payout (e : HtlcEntry) : Holdings := if e.acknowledge.settled then e.creditShare else 0

open HtlcEntry (payout)

theorem HtlcEntry.revoked_of_unsettled (kept : e.acknowledge.settled = false) :
    e.afterRevocation = some { e.acknowledge with forwardEmitted := e.acknowledge.markForwarded.forwardEmitted } ∧
      e.payout = 0 := by
  rw [afterRevocation, payout, kept, if_neg Bool.false_ne_true, if_neg Bool.false_ne_true, ← markForwarded_eq]
  exact ⟨rfl, rfl⟩

section Revoke

theorem flag_caught_up {flag cover : Option Bool} {position low high : Nat} [Decidable (cover = some true)]
    (grows : low ≤ high) (known : flag = some (decide (position < low)))
    (covers : cover = some true ↔ low ≤ position ∧ position < high) :
    (if cover = some true then some true else flag) = some (decide (position < high)) := by
  split
  · rename_i covered
    rw [decide_eq_true (covers.mp covered).2]
  · rename_i uncovered
    have same : position < low ↔ position < high := by
      have := mt covers.mpr uncovered
      omega
    rw [known, decide_eq_decide.mpr same]

include bounded in
theorem OpenOffer.revoke (offer : OpenOffer v r e) : OpenOffer v.settle r e.acknowledge :=
  { offer with
    committed := by
      simp only [acknowledge, offer.live, and_true]
      exact flag_caught_up bounded.acked offer.committed offer.cover
    cover := by
      by_cases cover : e.commitCoverPending = some true <;>
        simp [acknowledge, cover, View.settle] }

include bounded in
theorem RemovedOffer.revoke (offer : RemovedOffer v r k d e) (uncovered : ¬ e.commitCoverPending = some true) :
    RemovedOffer v.settle r k d e.acknowledge :=
  { offer with
    unsettled := Nat.not_lt.mp (mt offer.cover.mpr uncovered)
    acked := offer.acked.trans_le bounded.acked
    committed := by simp [acknowledge, uncovered, offer.committed]
    removing := by simp [acknowledge, uncovered, offer.removing]
    cover := by
      simpa [acknowledge, uncovered, View.settle] using mt offer.cover.mpr uncovered }

include bounded in
theorem OpenReceipt.revoke (receipt : OpenReceipt v r e) : OpenReceipt v.settle r e.acknowledge :=
  { receipt with
    committed := by simp [acknowledge, receipt.cover, receipt.committed]
    settled := flag_caught_up bounded.settled receipt.settled receipt.addCover
    addCover := by
      by_cases cover : e.addCoverPending = some true <;>
        simp [acknowledge, cover, View.settle]
    cover := by simp [acknowledge, receipt.cover] }

include bounded in
theorem RemovedReceipt.revoke (receipt : RemovedReceipt v r k d e) (uncovered : ¬ e.commitCoverPending = some true) :
    RemovedReceipt v.settle r k d e.acknowledge :=
  { receipt with
    unacked := Nat.not_lt.mp (mt receipt.cover.mpr uncovered)
    settled := receipt.settled.trans_le bounded.settled
    committed := by simp [acknowledge, uncovered, receipt.committed]
    irrevocable := by simp [acknowledge, receipt.irrevocable]
    removing := by simp [acknowledge, uncovered, receipt.removing]
    cover := by
      simpa [acknowledge, uncovered, View.settle] using mt receipt.cover.mpr uncovered }

theorem creditShare_paid (direction : HtlcDirection) (same : e.direction = direction)
    (amount : e.amountMsat = r.amountMsat) (state : e.state = d) (dead : d.live = false) :
    debit direction r.amountMsat + e.creditShare =
      r.balance direction (if d = .fulfilled then .paid else .returned) := by
  rcases dead_cases dead with rfl | rfl <;> cases direction <;>
    simp [HtlcEntry.creditShare, HtlcEntry.localCredit, HtlcEntry.remoteCredit, balance, debit,
      credit, ours, theirs, same, state, amount]

include bounded

variable {e : Option HtlcEntry} {r : Option HtlcRecord}

theorem TracksOffer.settle (tracks : TracksOffer v r e) : TracksOffer v.settle r (e.bind afterRevocation) ∧
    r.elim 0 (ownBalance v) + e.elim 0 payout = r.elim 0 (ownBalance v.settle) := by
  cases tracks with
  | absent => exact ⟨.absent, rfl⟩
  | @gone r k d removal through acked =>
    refine ⟨.gone removal (through.trans_le bounded.settled) (acked.trans_le bounded.acked), ?_⟩
    simp only [elim_some, elim_none, add_zero, ownBalance, place_of_removed (Nat.lt_succ_self _) removal through,
      place_of_removed (Nat.lt_succ_self _) removal (through.trans_le bounded.settled),
      View.settle]
  | @unremoved r e offer =>
    obtain ⟨kept, unpaid⟩ := HtlcEntry.revoked_of_unsettled (settled_of_live offer.live)
    have after := offer.revoke bounded
    simp only [elim_some, bind_some, kept, unpaid, add_zero]
    exact ⟨.unremoved { after with }, (offer.ownBalance_eq bounded).trans (after.ownBalance_eq bounded.settle).symm⟩
  | @removed r k d e offer =>
    have through := settled_of_removing (by rw [offer.state, offer.dead]) offer.removing
    simp only [elim_some, bind_some, offer.ownBalance_eq]
    by_cases cover : e.commitCoverPending = some true
    · have paid := place_of_removed (Nat.lt_succ_self _) offer.removal (offer.cover.mp cover)
      rw [afterRevocation, payout, if_pos (through.mpr cover), if_pos (through.mpr cover),
        creditShare_paid .offered offer.direction (amount_of_terms offer.terms) offer.state offer.dead]
      exact ⟨.gone offer.removal (offer.cover.mp cover) (offer.acked.trans_le bounded.acked), congrArg _ paid.symm⟩
    · obtain ⟨kept, unpaid⟩ := HtlcEntry.revoked_of_unsettled (Bool.eq_false_of_not_eq_true (mt through.mp cover))
      have after := offer.revoke bounded cover
      rw [kept, unpaid, add_zero]
      exact ⟨.removed { after with }, after.ownBalance_eq.symm⟩

theorem TracksReceipt.settle (tracks : TracksReceipt v r e) : TracksReceipt v.settle r (e.bind afterRevocation) ∧
    r.elim 0 (peerBalance v) + e.elim 0 payout = r.elim 0 (peerBalance v.settle) := by
  cases tracks with
  | absent => exact ⟨.absent, rfl⟩
  | unseen later unremoved =>
    refine ⟨.unseen later unremoved, ?_⟩
    simp only [elim_some, elim_none, add_zero, peerBalance, View.settle, place_of_unadded later]
  | @gone r k d removal through settled =>
    have seen := settled.trans_le bounded.settled_le_received
    refine ⟨.gone removal (through.trans_le bounded.acked) (settled.trans_le bounded.settled), ?_⟩
    simp only [elim_some, elim_none, add_zero, peerBalance, View.settle, place_of_removed seen removal through,
      place_of_removed seen removal (through.trans_le bounded.acked)]
  | @unremoved r e receipt =>
    obtain ⟨kept, unpaid⟩ := HtlcEntry.revoked_of_unsettled (settled_of_live receipt.live)
    have after := receipt.revoke bounded
    simp only [elim_some, bind_some, kept, unpaid, add_zero]
    exact ⟨.unremoved { after with }, receipt.peerBalance_eq.trans after.peerBalance_eq.symm⟩
  | @removed r k d e receipt =>
    have through := settled_of_removing (by rw [receipt.state, receipt.dead]) receipt.removing
    simp only [elim_some, bind_some, receipt.peerBalance_eq bounded]
    by_cases cover : e.commitCoverPending = some true
    · have paid := place_of_removed (receipt.settled.trans_le bounded.settled_le_received) receipt.removal
        (receipt.cover.mp cover)
      rw [afterRevocation, payout, if_pos (through.mpr cover), if_pos (through.mpr cover),
        creditShare_paid .received receipt.direction (amount_of_terms receipt.terms) receipt.state receipt.dead]
      exact ⟨.gone receipt.removal (receipt.cover.mp cover) (receipt.settled.trans_le bounded.settled),
        congrArg _ paid.symm⟩
    · obtain ⟨kept, unpaid⟩ := HtlcEntry.revoked_of_unsettled (Bool.eq_false_of_not_eq_true (mt through.mp cover))
      have after := receipt.revoke bounded cover
      rw [kept, unpaid, add_zero]
      exact ⟨.removed { after with }, (after.peerBalance_eq bounded.settle).symm⟩

end Revoke

section Advance

variable {r : Option HtlcRecord} {e : Option HtlcEntry}

theorem TracksOffer.advance (tracks : TracksOffer v r e)
    (elsewhere : ∀ r' k d, r = some r' → r'.removal = some (k, d) → k ≠ v.received) : TracksOffer v.advance r e := by
  cases tracks with
  | absent => exact .absent
  | gone removal through acked => exact .gone removal through acked
  | unremoved offer =>
    refine .unremoved { offer with unremoved := fun k d removal => ?_ }
    exact Nat.lt_of_le_of_ne (offer.unremoved k d removal) (elsewhere _ k d rfl removal).symm
  | removed offer => exact .removed { offer with seen := Nat.lt_succ_of_lt offer.seen }

theorem TracksReceipt.advance (tracks : TracksReceipt v r e)
    (elsewhere : ∀ r', r = some r' → r'.addedAt ≠ v.received) : TracksReceipt v.advance r e := by
  cases tracks with
  | absent => exact .absent
  | unseen later unremoved =>
    exact .unseen (Nat.lt_of_le_of_ne later (elsewhere _ rfl).symm) unremoved
  | gone removal through settled => exact .gone removal through settled
  | unremoved receipt => exact .unremoved { receipt with seen := Nat.lt_succ_of_lt receipt.seen }
  | removed receipt => exact .removed { receipt with }

end Advance

section Updates

include bounded

theorem OpenOffer.remove (offer : OpenOffer v r e) (removal : r.removal = some (v.received, d))
    (dead : d.live = false) (committed : addNotYetCommitted e = false) :
    RemovedOffer v.advance r v.received d (e.removeAs d) := by
  have known : e.addRemoteCommitted ≠ some false := by
    intro uncommitted
    simp [addNotYetCommitted, uncommitted] at committed
  have acked : r.addedAt < v.acked := by
    by_contra later
    exact known (by rw [offer.committed, decide_eq_false later])
  exact
    { direction := offer.direction
      terms := offer.terms
      removal := removal
      seen := Nat.lt_succ_self _
      unsettled := bounded.settled_le_received
      state := rfl
      dead := dead
      acked := acked
      committed := by rw [← decide_eq_true acked]; exact offer.committed
      removing := rfl
      revoked := (congrArg some (decide_eq_false (Nat.not_lt.mpr bounded.revoked))).symm
      cover := by
        have late := Nat.not_lt.mpr (bounded.signedOther.trans bounded.revoked)
        have uncovered : e.commitCoverPending ≠ some true := fun cover => by
          have := (offer.cover.mp cover).1
          omega
        exact iff_of_false uncovered late }

theorem arrived (s : ChannelState) (msg : UpdateAddHtlc) (addedAt : r.addedAt = v.received) (fresh : r.removal = none)
    (terms : r.terms .received = ⟨msg.amountMsat, msg.paymentHash, msg.cltvExpiry, .received⟩) :
    OpenReceipt v.advance r (incomingEntry s msg) where
  direction := rfl
  terms := terms.symm
  unremoved := fresh
  seen := by rw [addedAt]; exact Nat.lt_succ_self _
  live := rfl
  committed := rfl
  revoked := by
    rw [addedAt]
    exact (congrArg some (decide_eq_false (Nat.not_lt.mpr bounded.revoked))).symm
  settled := by
    rw [addedAt]
    exact (congrArg some (decide_eq_false (Nat.not_lt.mpr bounded.settled_le_received))).symm
  addCover := by
    rw [addedAt]
    have late := Nat.not_lt.mpr (bounded.signedOther.trans bounded.revoked)
    exact iff_of_false nofun fun covered => late covered.2
  removal := rfl
  cover := nofun

theorem offeredEntry_open (s : ChannelState) {amount : Nat} {hash : Bytes} {cltv : Nat} (onion : Bytes)
    (blinding : Option Bytes) :
    OpenOffer v ⟨amount, hash, cltv, own, none⟩ (offeredEntry s amount hash cltv onion blinding) where
  direction := rfl
  terms := rfl
  unremoved := nofun
  live := rfl
  committed := (congrArg some (decide_eq_false (Nat.not_lt.mpr bounded.acked_le))).symm
  cover := iff_of_false nofun fun covered => Nat.not_lt.mpr bounded.signedOwn covered.2

theorem OpenReceipt.remove (receipt : OpenReceipt v r e) (dead : d.live = false)
    (irrevocable : receivedAddIrrevocablyCommitted e = true) :
    RemovedReceipt v { r with removal := some (own, d) } own d (e.settleAs d) := by
  simp only [receivedAddIrrevocablyCommitted, Bool.and_eq_true, decide_eq_true_eq, receipt.revoked,
    receipt.settled, ne_eq, Option.some.injEq, decide_eq_false_iff_not, not_not] at irrevocable
  exact
    { direction := receipt.direction
      terms := receipt.terms
      removal := rfl
      unacked := bounded.acked_le
      settled := irrevocable.2
      state := rfl
      dead := dead
      committed := receipt.committed
      revoked := by rw [← decide_eq_true irrevocable.1.2]; exact receipt.revoked
      irrevocable := by rw [← decide_eq_true irrevocable.2]; exact receipt.settled
      removing := rfl
      unrevoked := receipt.removal
      cover := iff_of_false receipt.cover (Nat.not_lt.mpr bounded.signedOwn) }

omit bounded in
theorem TracksOffer.later {e : Option HtlcEntry} (tracks : TracksOffer v (some r) e)
    (unremoved : r.removal = none) (late : v.received ≤ k) :
    TracksOffer v (some { r with removal := some (k, d) }) e := by
  cases tracks with
  | gone removal => cases unremoved.symm.trans removal
  | unremoved offer =>
    refine .unremoved { offer with unremoved := fun k' d' removal => ?_ }
    cases removal
    exact late
  | removed offer => cases unremoved.symm.trans offer.removal

end Updates

end Beignet.Channel
