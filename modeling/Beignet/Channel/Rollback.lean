import Beignet.Channel.Runs

namespace Beignet.Channel

open Beignet.Data
open HeldAdds (scan)
open HtlcEntry (key restoreRemoval uncommittedAdd)

def ChannelState.htlcTotalMsat (s : ChannelState) : Int :=
  (s.htlcs.values.map fun e => (e.amountMsat : Int)).sum

def ChannelState.totalMsat (s : ChannelState) : Int :=
  s.localBalanceMsat + s.remoteBalanceMsat + s.htlcTotalMsat

def ChannelState.SameBut (t s : ChannelState) : Prop :=
  t.remoteBalanceMsat = s.remoteBalanceMsat ∧ t.pendingFeeratePerKw = s.pendingFeeratePerKw

section Scan

def HtlcEntry.queuedIn (updates : List PendingUpdate) (e : HtlcEntry) : Prop :=
  e.direction = .offered ∧ ∃ amountMsat paymentHash, .addHtlc e.id amountMsat paymentHash ∈ updates

theorem HtlcEntry.queuedIn_cons (e : HtlcEntry) (update : PendingUpdate) (rest : List PendingUpdate) :
    e.queuedIn (update :: rest) ↔ e.queuedIn [update] ∨ e.queuedIn rest := by
  constructor
  · rintro ⟨offered, amount, hash, queued⟩
    rcases List.mem_cons.mp queued with rfl | later
    · exact .inl ⟨offered, amount, hash, List.mem_singleton_self _⟩
    · exact .inr ⟨offered, amount, hash, later⟩
  · rintro (⟨offered, amount, hash, queued⟩ | ⟨offered, amount, hash, later⟩)
    · exact ⟨offered, amount, hash, List.mem_cons.mpr (.inl (List.mem_singleton.mp queued))⟩
    · exact ⟨offered, amount, hash, List.mem_cons_of_mem _ later⟩

theorem HtlcEntry.key_eq_of_queuedIn {e e' : HtlcEntry} {update : PendingUpdate}
    (queued : e.queuedIn [update]) (queued' : e'.queuedIn [update]) : e.key = e'.key := by
  obtain ⟨offered, amount, hash, member⟩ := queued
  obtain ⟨offered', amount', hash', member'⟩ := queued'
  rw [List.mem_singleton] at member member'
  have same := member.trans member'.symm
  injection same with ids
  rw [key, key, offered, offered', ids]

theorem ChannelState.giveUp_totalMsat {s : ChannelState} {entry : HtlcEntry}
    (member : entry ∈ s.htlcs.values) : (s.giveUp entry).totalMsat = s.totalMsat := by
  have found := (s.htlcs.get?_eq_some entry.key entry).mpr ⟨member, rfl⟩
  have split := ((KeyedMap.values_perm_cons_delete found).map fun e => (e.amountMsat : Int)).sum_eq
  rw [List.map_cons, List.sum_cons] at split
  simp only [totalMsat, htlcTotalMsat, giveUp]
  omega

theorem HeldAdds.scan_cases (acc : HeldAdds) (update : PendingUpdate) :
    (∃ entry ∈ acc.state.htlcs.values, entry.unsignedAdd = true ∧ entry.queuedIn [update] ∧
        (acc.scan update).state = acc.state.giveUp entry ∧ (acc.scan update).dropped ≠ []) ∨
      ((∀ e ∈ acc.state.htlcs.values, e.queuedIn [update] → e.unsignedAdd = false) ∧
        (acc.scan update).state = acc.state ∧ ((acc.scan update).dropped = [] → acc.dropped = [])) := by
  cases update with
  | addHtlc id amountMsat paymentHash =>
    have own : ∀ e : HtlcEntry, e.queuedIn [.addHtlc id amountMsat paymentHash] → e.key = (.offered, id) := by
      rintro e ⟨offered, amount, hash, queued⟩
      simp only [List.mem_singleton, PendingUpdate.addHtlc.injEq] at queued
      rw [key, offered, queued.1]
    cases found : acc.state.htlcs.get? (.offered, id) with
    | none =>
      have absent := (acc.state.htlcs.get?_eq_none _).mp found
      simp only [scan, found]
      exact .inr ⟨fun e member queued => absurd (own e queued) (absent e member), trivial, by simp⟩
    | some entry =>
      obtain ⟨member, same⟩ := (acc.state.htlcs.get?_eq_some _ _).mp found
      cases unsigned : entry.unsignedAdd with
      | true =>
        simp only [scan, found, unsigned, ↓reduceIte]
        refine .inl ⟨entry, member, unsigned, ⟨congrArg Prod.fst same, amountMsat, paymentHash, ?_⟩, rfl, ?_⟩
        · rw [show entry.id = id from congrArg Prod.snd same]
          exact List.mem_singleton_self _
        · simp
      | false =>
        simp only [scan, found, unsigned, Bool.false_eq_true, ↓reduceIte]
        refine .inr ⟨fun e inside queued => ?_, trivial, fun nil => nil⟩
        rw [KeyedMap.eq_of_key_eq inside member ((own e queued).trans same.symm)]
        exact unsigned
  | fulfillHtlc | failHtlc | failMalformedHtlc | fee =>
    refine .inr ⟨?_, rfl, id⟩
    rintro e - ⟨-, amount, hash, queued⟩
    simp at queued

variable (updates : List PendingUpdate) (acc : HeldAdds) (s : ChannelState)

theorem HeldAdds.foldl_scan : (∀ e, e ∈ (updates.foldl scan acc).state.htlcs.values ↔
      e ∈ acc.state.htlcs.values ∧ ¬ (e.unsignedAdd = true ∧ e.queuedIn updates)) ∧
    (updates.foldl scan acc).state.totalMsat = acc.state.totalMsat ∧
    (updates.foldl scan acc).state.SameBut acc.state := by
  induction updates generalizing acc with
  | nil => simp [HtlcEntry.queuedIn, ChannelState.SameBut]
  | cons update rest ih =>
    obtain ⟨members, total, frame⟩ := ih (acc.scan update)
    rw [List.foldl_cons]
    rcases acc.scan_cases update with ⟨entry, member, unsigned, queued, gone, -⟩ | ⟨signed, kept, -⟩
    · rw [gone] at members total frame
      refine ⟨fun e => ?_, total.trans (ChannelState.giveUp_totalMsat member), frame⟩
      have own : e ∈ acc.state.htlcs.values → (e.key = entry.key ↔ e.unsignedAdd = true ∧
          e.queuedIn [update]) := by
        intro inside
        constructor
        · intro same
          obtain rfl := KeyedMap.eq_of_key_eq inside member same
          exact ⟨unsigned, queued⟩
        · intro given
          exact HtlcEntry.key_eq_of_queuedIn given.2 queued
      rw [members, ChannelState.giveUp, KeyedMap.mem_delete, HtlcEntry.queuedIn_cons]
      tauto
    · rw [kept] at members total frame
      refine ⟨fun e => ?_, total, frame⟩
      have own : e ∈ acc.state.htlcs.values → e.queuedIn [update] → ¬ e.unsignedAdd = true := by
        intro inside queued unsigned
        rw [signed e inside queued] at unsigned
        cases unsigned
      rw [members, HtlcEntry.queuedIn_cons]
      tauto

theorem HeldAdds.foldl_scan_of_dropped_nil (nothing : (updates.foldl scan acc).dropped = []) :
    acc.dropped = [] ∧ (updates.foldl scan acc).state = acc.state := by
  induction updates generalizing acc with
  | nil => exact ⟨nothing, rfl⟩
  | cons update rest ih =>
    obtain ⟨before, same⟩ := ih (acc.scan update) nothing
    rcases acc.scan_cases update with ⟨entry, -, -, -, -, something⟩ | ⟨-, kept, monotone⟩
    · exact absurd before something
    · exact ⟨monotone before, same.trans kept⟩

def ChannelState.GivesUp (e : HtlcEntry) : Prop :=
  s.restoreRecencyUnproven = true ∧ e.unsignedAdd = true ∧
    e.queuedIn (s.pendingLocalUpdates.drop s.pendingLocalUpdatesSignedCount)

theorem dropUnsignedLocalAddsIfHeld_spec :
    (∀ e, e ∈ (dropUnsignedLocalAddsIfHeld s).1.htlcs.values ↔ e ∈ s.htlcs.values ∧ ¬ s.GivesUp e) ∧
    (dropUnsignedLocalAddsIfHeld s).1.totalMsat = s.totalMsat ∧ (dropUnsignedLocalAddsIfHeld s).1.SameBut s := by
  obtain ⟨members, total, frame⟩ := HeldAdds.foldl_scan
    (s.pendingLocalUpdates.drop s.pendingLocalUpdatesSignedCount)
    ⟨s, s.pendingLocalUpdates.take s.pendingLocalUpdatesSignedCount, []⟩
  unfold dropUnsignedLocalAddsIfHeld
  dsimp only
  split
  · rename_i quiet
    refine ⟨fun e => ?_, rfl, rfl, rfl⟩
    rcases quiet with proven | nothing
    · simp [ChannelState.GivesUp, proven]
    · have same := (HeldAdds.foldl_scan_of_dropped_nil _ _ nothing).2
      rw [same] at members
      have held := members e
      unfold ChannelState.GivesUp
      tauto
  · rename_i held
    have unproven : s.restoreRecencyUnproven = true := by
      cases flag : s.restoreRecencyUnproven <;> simp_all
    refine ⟨fun e => ?_, total, frame⟩
    simp only [ChannelState.GivesUp, unproven, true_and]
    exact members e

end Scan

def HtlcEntry.uncoveredAdd (e : HtlcEntry) : Bool :=
  e.direction = .received && e.addLocallyRevoked = some false

/-- Every update of the peer's that its signatures do not cover is undone from `s` to `t`, and
    nothing else is. -/
structure RolledBack (s t : ChannelState) : Prop where
  noAdd : ∀ e ∈ t.htlcs.values, e.direction = .received → e.addLocallyRevoked ≠ some false
  noRemoval : ∀ e ∈ t.htlcs.values, e.direction = .offered → e.state.live = false →
    e.removalLocallyRevoked ≠ some false
  total : t.totalMsat = s.totalMsat
  returned : t.remoteBalanceMsat = s.remoteBalanceMsat +
    ((s.htlcs.values.filter fun e => e.direction = .received && !t.htlcs.has e.key).map
      fun e => (e.amountMsat : Int)).sum
  restored : ∀ e ∈ s.htlcs.values, e.uncommittedRemoval = true →
    { e with state := .committed, removalRemoteCommitted := none, removalLocallyRevoked := none } ∈
      t.htlcs.values
  kept : ∀ e ∈ s.htlcs.values, e.uncoveredAdd = false → e.uncommittedRemoval = false → e ∈ t.htlcs.values
  fee : t.pendingFeeratePerKw =
    if s.role = .acceptor ∧ s.pendingFeerateSignable = false then none else s.pendingFeeratePerKw

/-- No signature of ours has moved on an add the peer has yet to sign, the channel gives up no add
    of its own, and a staged fee is the peer's or signed by us. -/
structure CleanlyStaged (s : ChannelState) : Prop where
  adds : ∀ e ∈ s.htlcs.values, e.uncoveredAdd = true → e.state = .pending
  own : ∀ e ∈ s.htlcs.values, ¬ s.rollbackFee.GivesUp e
  fee : s.pendingFeeratePerKw ≠ none → match s.role with
    | .opener => s.pendingFeerateSignable = true ∨ s.pendingFeerateCommitted = true
    | .acceptor => s.pendingFeerateCommitted = true → s.pendingFeerateSignable = true

namespace ChannelState

def rolledBack (s : ChannelState) : ChannelState := s.suspend.rollbackHtlcs.rollbackFee.rollbackLease

variable (s : ChannelState)

theorem mem_rolledBack (e : HtlcEntry) : e ∈ s.rolledBack.htlcs.values ↔
      ∃ before ∈ s.htlcs.values, before.uncommittedAdd = false ∧ before.restoreRemoval = e := by
  change e ∈ (s.htlcs.values.filter fun e => !e.uncommittedAdd).map restoreRemoval ↔ _
  simp [and_assoc]

theorem get?_rolledBack (k : HtlcDirection × Nat) : s.rolledBack.htlcs.get? k =
      ((s.htlcs.get? k).filter fun e => !e.uncommittedAdd).map restoreRemoval := by
  change ((s.htlcs.filter fun e => !e.uncommittedAdd).map restoreRemoval
    HtlcEntry.restoreRemoval_key).get? k = _
  rw [KeyedMap.get?_map, KeyedMap.get?_filter]

theorem markForReestablish_fst {s : ChannelState} (recent : s.restoreRecencyUnproven = false) :
    (markForReestablish s).1 = if s.reestablishable then s.rolledBack else s := by
  unfold markForReestablish
  split
  · unfold dropUnsignedLocalAddsIfHeld
    dsimp only
    rw [if_pos (.inl recent)]
    rfl
  · rfl

theorem rolledBack_totalMsat : s.rolledBack.totalMsat = s.totalMsat := by
  have amounts : (fun e : HtlcEntry => (e.amountMsat : Int)) ∘ restoreRemoval =
      fun e => (e.amountMsat : Int) := by
    funext e
    simp only [Function.comp_apply, restoreRemoval]
    split <;> rfl
  have split := ((List.filter_append_perm uncommittedAdd s.htlcs.values).map
    fun e => (e.amountMsat : Int)).sum_eq
  rw [List.map_append, List.sum_append] at split
  change s.localBalanceMsat + (s.remoteBalanceMsat +
      ((s.htlcs.values.filter uncommittedAdd).map fun e => (e.amountMsat : Int)).sum) +
      (((s.htlcs.values.filter fun e => !e.uncommittedAdd).map restoreRemoval).map
        fun e => (e.amountMsat : Int)).sum = s.localBalanceMsat + s.remoteBalanceMsat +
      (s.htlcs.values.map fun e => (e.amountMsat : Int)).sum
  rw [List.map_map, amounts]
  omega

end ChannelState

namespace HtlcEntry

variable {e : HtlcEntry}

theorem restoreRemoval_of_covered (covered : e.uncommittedRemoval = false) : e.restoreRemoval = e := by
  simp [restoreRemoval, covered]

theorem uncommittedRemoval_of_received (received : e.direction = .received) : e.uncommittedRemoval = false := by
  simp [uncommittedRemoval, received]

theorem unsignedAdd_untouched (unsigned : e.unsignedAdd = true) (offered : e.direction = .offered) :
    e.uncoveredAdd = false ∧ e.uncommittedAdd = false ∧ e.uncommittedRemoval = false := by
  simp only [unsignedAdd, Bool.and_eq_true, decide_eq_true_eq] at unsigned
  simp [uncoveredAdd, uncommittedAdd, uncommittedRemoval, offered, unsigned.1.1, HtlcState.live]

end HtlcEntry

theorem StepEffect.constants {prim : Primitives} {ver : Verifier} {s t : ChannelState}
    {input : ChannelInput} {sent : List Message} (effect : StepEffect prim ver s input t sent)
    (recent : s.restoreRecencyUnproven = false) : t.constants = s.constants := by
  cases effect with
  | feeReceived rate => exact s.stagePeerFee_constants rate
  | revoked rotated msg store next rotates =>
    rw [ChannelState.revocationAccepted_constants, rotates, ChannelState.pointsRotated_constants]
  | disconnected =>
    rw [ChannelState.markForReestablish_fst recent]
    split <;> rfl
  | resumed =>
    unfold resumeReestablished
    split <;> rfl
  | _ => rfl

section MarkForReestablish

variable {s : ChannelState} (operational : s.operational = true)
include operational

theorem markForReestablish_operational : markForReestablish s = dropUnsignedLocalAddsIfHeld s.rolledBack := by
  have phase : s.reestablishable = true := by
    simp only [ChannelState.operational, Bool.or_eq_true, decide_eq_true_eq] at operational
    rcases operational with normal | closing
    · simp [ChannelState.reestablishable, normal]
    · simp [ChannelState.reestablishable, closing]
  unfold markForReestablish
  rw [if_pos phase]
  rfl

theorem mem_markForReestablish (e : HtlcEntry) : e ∈ (markForReestablish s).1.htlcs.values ↔
      (∃ before ∈ s.htlcs.values, before.uncommittedAdd = false ∧ before.restoreRemoval = e) ∧
        ¬ s.rollbackFee.GivesUp e := by
  rw [markForReestablish_operational operational, (dropUnsignedLocalAddsIfHeld_spec _).1, ChannelState.mem_rolledBack]
  rfl

variable {e : HtlcEntry}

theorem mem_markForReestablish_received (received : e.direction = .received) :
    e ∈ (markForReestablish s).1.htlcs.values ↔ e ∈ s.htlcs.values ∧ e.uncommittedAdd = false := by
  rw [mem_markForReestablish operational]
  constructor
  · rintro ⟨⟨before, member, kept, rfl⟩, -⟩
    have same : before.restoreRemoval.direction = before.direction :=
      congrArg Prod.fst before.restoreRemoval_key
    rw [same] at received
    rw [HtlcEntry.restoreRemoval_of_covered (HtlcEntry.uncommittedRemoval_of_received received)]
    exact ⟨member, kept⟩
  · rintro ⟨member, kept⟩
    have covered := HtlcEntry.uncommittedRemoval_of_received received
    refine ⟨⟨e, member, kept, HtlcEntry.restoreRemoval_of_covered covered⟩, ?_⟩
    rintro ⟨-, -, offered, -⟩
    rw [received] at offered
    cases offered

theorem has_markForReestablish_received (member : e ∈ s.htlcs.values) (received : e.direction = .received) :
    (markForReestablish s).1.htlcs.has e.key = !e.uncommittedAdd := by
  cases uncommitted : e.uncommittedAdd with
  | false =>
    rw [Bool.not_false, KeyedMap.has_eq_true]
    exact ⟨e, (mem_markForReestablish_received operational received).mpr ⟨member, uncommitted⟩, rfl⟩
  | true =>
    rw [Bool.not_true, KeyedMap.has_eq_false]
    intro other inside same
    have direction : other.direction = .received := (congrArg Prod.fst same).trans received
    obtain ⟨present, kept⟩ := (mem_markForReestablish_received operational direction).mp inside
    rw [KeyedMap.eq_of_key_eq present member same, uncommitted] at kept
    cases kept

theorem markForReestablish_noRemoval
    (member : e ∈ (markForReestablish s).1.htlcs.values) (offered : e.direction = .offered)
    (removed : e.state.live = false) : e.removalLocallyRevoked ≠ some false := by
  obtain ⟨⟨before, -, -, rfl⟩, -⟩ := (mem_markForReestablish operational e).mp member
  cases uncommitted : before.uncommittedRemoval with
  | true => simp [restoreRemoval, uncommitted, HtlcState.live] at removed
  | false =>
    rw [HtlcEntry.restoreRemoval_of_covered uncommitted] at offered removed ⊢
    simpa [HtlcEntry.uncommittedRemoval, offered, removed] using uncommitted

theorem markForReestablish_returned : (markForReestablish s).1.remoteBalanceMsat = s.remoteBalanceMsat +
      ((s.htlcs.values.filter fun e => e.direction = .received &&
        !(markForReestablish s).1.htlcs.has e.key).map fun e => (e.amountMsat : Int)).sum := by
  have dropped : (s.htlcs.values.filter fun e => e.direction = .received &&
      !(markForReestablish s).1.htlcs.has e.key) = s.htlcs.values.filter uncommittedAdd := by
    refine List.filter_congr fun e member => ?_
    by_cases received : e.direction = .received
    · simp [received, has_markForReestablish_received operational member received]
    · simp [received, uncommittedAdd]
  rw [dropped, markForReestablish_operational operational]
  exact (dropUnsignedLocalAddsIfHeld_spec _).2.2.1

theorem markForReestablish_restored (member : e ∈ s.htlcs.values) (uncommitted : e.uncommittedRemoval = true) :
    { e with state := .committed, removalRemoteCommitted := none, removalLocallyRevoked := none } ∈
      (markForReestablish s).1.htlcs.values := by
  have offered : e.direction = .offered := by
    simp only [HtlcEntry.uncommittedRemoval, Bool.and_eq_true, decide_eq_true_eq] at uncommitted
    exact uncommitted.1.1
  refine (mem_markForReestablish operational _).mpr ⟨⟨e, member, ?_, ?_⟩, ?_⟩
  · simp [uncommittedAdd, offered]
  · simp [restoreRemoval, uncommitted]
  · rintro ⟨-, unsigned, -⟩
    simp [HtlcEntry.unsignedAdd] at unsigned

theorem markForReestablish_fee : (markForReestablish s).1.pendingFeeratePerKw =
    if s.pendingFeerateSignable = false ∧ s.pendingFeerateCommitted = false then none
    else s.pendingFeeratePerKw := by
  rw [markForReestablish_operational operational]
  exact (dropUnsignedLocalAddsIfHeld_spec _).2.2.2

theorem noAdd_iff : (∀ e ∈ (markForReestablish s).1.htlcs.values, e.direction = .received →
        e.addLocallyRevoked ≠ some false) ↔ ∀ e ∈ s.htlcs.values, e.uncoveredAdd = true → e.state = .pending := by
  simp only [HtlcEntry.uncoveredAdd, Bool.and_eq_true, decide_eq_true_eq]
  constructor
  · rintro gone e member ⟨received, uncovered⟩
    by_contra moved
    have kept : e.uncommittedAdd = false := by simp [uncommittedAdd, moved]
    exact gone e ((mem_markForReestablish_received operational received).mpr ⟨member, kept⟩) received
      uncovered
  · intro pending e inside received uncovered
    obtain ⟨member, kept⟩ := (mem_markForReestablish_received operational received).mp inside
    simp [uncommittedAdd, received, uncovered, pending e member ⟨received, uncovered⟩] at kept

theorem kept_iff_own : (∀ e ∈ s.htlcs.values, e.uncoveredAdd = false → e.uncommittedRemoval = false →
        e ∈ (markForReestablish s).1.htlcs.values) ↔ ∀ e ∈ s.htlcs.values, ¬ s.rollbackFee.GivesUp e := by
  constructor
  · intro kept e member given
    obtain ⟨uncovered, -, committed⟩ := HtlcEntry.unsignedAdd_untouched given.2.1 given.2.2.1
    exact ((mem_markForReestablish operational e).mp (kept e member uncovered committed)).2 given
  · intro own e member covered committed
    have present : e.uncommittedAdd = false := by
      simp only [HtlcEntry.uncoveredAdd, uncommittedAdd] at covered ⊢
      grind
    exact (mem_markForReestablish operational e).mpr
      ⟨⟨e, member, present, HtlcEntry.restoreRemoval_of_covered committed⟩, own e member⟩

theorem fee_iff : ((markForReestablish s).1.pendingFeeratePerKw =
        if s.role = .acceptor ∧ s.pendingFeerateSignable = false then none
        else s.pendingFeeratePerKw) ↔ (s.pendingFeeratePerKw ≠ none → match s.role with
        | .opener => s.pendingFeerateSignable = true ∨ s.pendingFeerateCommitted = true
        | .acceptor => s.pendingFeerateCommitted = true → s.pendingFeerateSignable = true) := by
  rw [markForReestablish_fee operational]
  cases s.pendingFeeratePerKw <;> cases s.role <;> cases s.pendingFeerateSignable <;>
    cases s.pendingFeerateCommitted <;> simp

end MarkForReestablish

def peerAdd : ChannelInput :=
  .receive (.updateAddHtlc
    { id := 0, amountMsat := 20000000, paymentHash := [6], cltvExpiry := 500, onionRoutingPacket := [] })

def openerAfter (inputs : List ChannelInput) : ChannelState :=
  (plainOpening.opener plainPrimitives).run plainPrimitives plainVerifier inputs

def peerRevocation (number : Nat) : ChannelInput :=
  .receive (.revokeAndAck
    { perCommitmentSecret := getPerCommitmentSecret plainPrimitives plainOpening.acceptorSeed number
      nextPerCommitmentPoint := getPerCommitmentPoint plainPrimitives plainOpening.acceptorSeed (number + 2) })

end Beignet.Channel
