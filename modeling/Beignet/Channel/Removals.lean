import Beignet.Channel.Rollback

namespace Beignet.Channel

open Beignet.Data
open ChannelState (queueUpdate_htlcs get?_offer get?_receive get?_removeOffered)

/-! What becomes of a removal of the peer's: while a connection lasts, an HTLC of ours that was removed
    stays removed the way it was, unless the peer removes it the other way. -/

def OffersNumbered (s : ChannelState) : Prop :=
  ∀ id e, s.htlcs.get? (.offered, id) = some e → id < s.localHtlcCounter

variable {s : ChannelState}

theorem offer_absent (numbered : OffersNumbered s) : s.htlcs.has (.offered, s.localHtlcCounter) = false := by
  rw [KeyedMap.has, Option.isSome_eq_false_iff, Option.isNone_iff_eq_none]
  cases found : s.htlcs.get? (.offered, s.localHtlcCounter) with
  | none => rfl
  | some e => exact absurd (numbered _ e found) (lt_irrefl _)

structure RemovalKept (before after : HtlcEntry) : Prop where
  state : after.state = before.state
  locally : before.removalLocallyRevoked = some true → after.removalLocallyRevoked = some true
  remotely : before.removalRemoteCommitted = some true → after.removalRemoteCommitted = some true

def RemovalsKept (s t : ChannelState) : Prop :=
  ∀ id before after, s.htlcs.get? (.offered, id) = some before → before.state.live = false →
    t.htlcs.get? (.offered, id) = some after → RemovalKept before after

/-- The peer removes, with the proof it takes, an HTLC that is already removed the other way. -/
def contradicts (prim : Primitives) (s : ChannelState) : ChannelInput → Bool
  | .receive msg =>
    match msg.removes with
    | some (id, intent) =>
      match s.htlcs.get? (.offered, id) with
      | some e => s.operational && !e.state.live && e.state ≠ intent && msg.provesRemoval prim e
      | none => false
    | none => false
  | _ => false

namespace RemovalKept

theorem refl (e : HtlcEntry) : RemovalKept e e := ⟨rfl, id, id⟩

theorem trans {a b c : HtlcEntry} (first : RemovalKept a b) (second : RemovalKept b c) : RemovalKept a c where
  state := second.state.trans first.state
  locally := second.locally ∘ first.locally
  remotely := second.remotely ∘ first.remotely

variable {e : HtlcEntry} (removed : e.state.live = false)
include removed

theorem commitPending : RemovalKept e e.commitPending := by
  have same : e.commitPending = e := by
    unfold HtlcEntry.commitPending
    rw [if_neg]
    intro pending
    rw [pending] at removed
    cases removed
  rw [same]
  exact .refl e

theorem stampCover : RemovalKept e e.stampCover.commitPending :=
  (⟨rfl, id, id⟩ : RemovalKept e e.stampCover).trans (.commitPending removed)

theorem acceptSigned : RemovalKept e e.acceptSigned.commitPending := by
  have kept : RemovalKept e e.acceptSigned := by
    refine ⟨rfl, fun revoked => ?_, id⟩
    simp [HtlcEntry.acceptSigned, revoked]
  exact kept.trans (.commitPending removed)

omit removed in
theorem markForwarded : RemovalKept e e.markForwarded := by
  rw [e.markForwarded_eq]
  exact ⟨rfl, id, id⟩

omit removed in
theorem afterRevocation {after : HtlcEntry} (left : e.afterRevocation = some after) : RemovalKept e after := by
  obtain ⟨-, rfl⟩ := HtlcEntry.afterRevocation_eq_some.mp left
  have kept : RemovalKept e e.acknowledge := by
    refine ⟨rfl, id, fun committed => ?_⟩
    simp [HtlcEntry.acknowledge, committed]
  exact kept.trans .markForwarded

end RemovalKept

structure Continues (s t : ChannelState) : Prop where
  counter : s.localHtlcCounter ≤ t.localHtlcCounter
  gone : ∀ id, id < s.localHtlcCounter → s.htlcs.get? (.offered, id) = none → t.htlcs.get? (.offered, id) = none
  kept : RemovalsKept s t

namespace Continues

theorem refl (s : ChannelState) : Continues s s where
  counter := le_rfl
  gone _ _ := id
  kept id before after found _ found' := by
    cases found.symm.trans found'
    exact .refl before

theorem trans {s t u : ChannelState} (numbered : OffersNumbered s) (first : Continues s t)
    (second : Continues t u) : Continues s u where
  counter := first.counter.trans second.counter
  gone id below absent := second.gone id (below.trans_le first.counter) (first.gone id below absent)
  kept id before after found removed found' := by
    cases between : t.htlcs.get? (.offered, id) with
    | none =>
      have below := (numbered id before found).trans_le first.counter
      rw [second.gone id below between] at found'
      cases found'
    | some middle =>
      have early := first.kept id before middle found removed between
      exact early.trans (second.kept id middle after between (by rw [early.state, removed]) found')

theorem of_bind {s t : ChannelState} {f : HtlcEntry → Option HtlcEntry}
    (counter : t.localHtlcCounter = s.localHtlcCounter) (lookup : ∀ k, t.htlcs.get? k = (s.htlcs.get? k).bind f)
    (keeps : ∀ e after, e.state.live = false → f e = some after → RemovalKept e after) : Continues s t where
  counter := counter.ge
  gone id _ absent := by rw [lookup, absent]; rfl
  kept id before after found removed found' := by
    rw [lookup, found] at found'
    exact keeps before after removed found'

theorem of_same {s t : ChannelState} (counter : t.localHtlcCounter = s.localHtlcCounter)
    (htlcs : t.htlcs = s.htlcs) : Continues s t :=
  of_bind (f := some) counter (by simp [htlcs]) (by rintro e _ - ⟨⟩; exact .refl e)

end Continues

section Steps

variable {prim : Primitives} {ver : Verifier} {s t : ChannelState} {input : ChannelInput}
  {sent : List Message}

variable (effect : StepEffect prim ver s input t sent)
include effect

theorem StepEffect.continues (numbered : OffersNumbered s)
    (connected : input ≠ .disconnect) (agrees : contradicts prim s input = false) : Continues s t := by
  cases effect with
  | refused | failed | feeStaged | feeReceived | misrevoked | heightSet => exact .of_same rfl rfl
  | offered amount hash cltv onion blinding skimmed =>
    have other : ∀ id, id < s.localHtlcCounter →
        ((.offered, id) : HtlcDirection × Nat) ≠ (offeredEntry s amount hash cltv onion blinding).key := by
      intro id below same
      exact below.ne (congrArg Prod.snd same)
    refine ⟨Nat.le_succ _, fun id below absent => ?_, fun id before after found removed found' => ?_⟩
    · simpa [other id below] using absent
    · simp only [queueUpdate_htlcs, get?_offer,
        other id (numbered id before found), ↓reduceIte, found, Option.some.injEq] at found'
      exact found' ▸ .refl before
  | received msg =>
    have other : ∀ id, ((.offered, id) : HtlcDirection × Nat) ≠ (incomingEntry s msg).key := by
      intro id same
      cases congrArg Prod.fst same
    refine ⟨le_rfl, fun id _ absent => ?_, fun id before after found removed found' => ?_⟩
    · simpa [other id] using absent
    · simp only [get?_receive, other id, ↓reduceIte, found, Option.some.injEq] at found'
      exact found' ▸ .refl before
  | settled =>
    refine ⟨le_rfl, fun id _ absent => ?_, fun id before after found removed found' => ?_⟩
    · simpa using absent
    · simp only [queueUpdate_htlcs, ChannelState.get?_settleReceived, Prod.mk.injEq,
        reduceCtorEq, false_and, ↓reduceIte, found, Option.some.injEq] at found'
      exact found' ▸ .refl before
  | removed removes operational found proved other committed =>
    rename_i msg id intent entry
    have live : entry.state.live = true := by
      simpa [contradicts, removes, found, operational, other, proved] using agrees
    refine ⟨le_rfl, fun id' _ absent => ?_, fun id' before after found' removed found'' => ?_⟩
    · simp [absent]
    · have differ : id' ≠ id := by
        rintro rfl
        cases found.symm.trans found'
        rw [live] at removed
        cases removed
      simp only [get?_removeOffered, Prod.mk.injEq, true_and, differ, ↓reduceIte, found',
        Option.some.injEq] at found''
      exact found'' ▸ .refl before
  | signed =>
    refine .of_bind (f := fun e => some e.stampCover.commitPending) rfl (by simp [Option.map_eq_bind]) ?_
    rintro e _ removed ⟨⟩
    exact .stampCover removed
  | accepted =>
    refine .of_bind (f := fun e => some e.acceptSigned.commitPending) rfl (by simp [Option.map_eq_bind]) ?_
    rintro e _ removed ⟨⟩
    exact .acceptSigned removed
  | revoked rotated msg store next rotates =>
    refine .of_bind (f := HtlcEntry.afterRevocation) (by simp [rotates]) (fun k => ?_) ?_
    · rw [ChannelState.get?_revocationAccepted, rotates, ChannelState.pointsRotated_htlcs]
    · intro e after _ left
      exact .afterRevocation left
  | disconnected => exact absurd rfl connected
  | resumed =>
    unfold resumeReestablished
    split
    · exact .of_same rfl rfl
    · exact .refl s

structure Current (s : ChannelState) : Prop where
  numbered : OffersNumbered s
  recent : s.restoreRecencyUnproven = false

omit effect in
theorem OffersNumbered.of_bind {f : HtlcEntry → Option HtlcEntry} (numbered : OffersNumbered s)
    (counter : t.localHtlcCounter = s.localHtlcCounter)
    (lookup : ∀ k, t.htlcs.get? k = (s.htlcs.get? k).bind f) : OffersNumbered t := by
  intro id e found
  rw [lookup, Option.bind_eq_some_iff] at found
  obtain ⟨before, found, -⟩ := found
  rw [counter]
  exact numbered id before found

theorem StepEffect.numbered (current : Current s) :
    OffersNumbered t := by
  have numbered := current.numbered
  cases effect with
  | refused | failed | feeStaged | feeReceived | misrevoked | heightSet => exact numbered
  | offered amount hash cltv onion blinding skimmed =>
    intro id e found
    simp only [queueUpdate_htlcs, get?_offer] at found
    split at found
    · rename_i same
      rw [show id = s.localHtlcCounter from congrArg Prod.snd same]
      exact Nat.lt_succ_self _
    · exact (numbered id e found).trans (Nat.lt_succ_self _)
  | received msg =>
    intro id e found
    rw [get?_receive, if_neg] at found
    · exact numbered id e found
    · intro same
      cases congrArg Prod.fst same
  | settled =>
    intro id e found
    exact numbered id e (by simpa using found)
  | removed =>
    intro id e found
    rw [get?_removeOffered] at found
    split at found
    · obtain ⟨before, found, -⟩ := Option.map_eq_some_iff.mp found
      exact numbered id before found
    · exact numbered id e found
  | signed => exact numbered.of_bind (f := fun e => some e.stampCover.commitPending) rfl (by simp [Option.map_eq_bind])
  | accepted =>
    exact numbered.of_bind (f := fun e => some e.acceptSigned.commitPending) rfl (by simp [Option.map_eq_bind])
  | revoked rotated msg store next rotates =>
    refine numbered.of_bind (f := HtlcEntry.afterRevocation) (by simp [rotates]) fun k => ?_
    rw [ChannelState.get?_revocationAccepted, rotates, ChannelState.pointsRotated_htlcs]
  | disconnected =>
    rw [ChannelState.markForReestablish_fst current.recent]
    split
    · intro id e found
      rw [ChannelState.get?_rolledBack] at found
      obtain ⟨before, found, -⟩ := Option.map_eq_some_iff.mp found
      exact numbered id before (Option.filter_eq_some_iff.mp found).1
    · exact numbered
  | resumed =>
    unfold resumeReestablished
    split <;> exact numbered

theorem StepEffect.current (current : Current s) : Current t := by
  have constants := effect.constants current.recent
  exact ⟨effect.numbered current, (congrArg ChannelConstants.restoreRecencyUnproven constants).trans current.recent⟩

end Steps

theorem Current.of_empty (empty : s.htlcs = .empty) (recent : s.restoreRecencyUnproven = false) : Current s := by
  refine ⟨fun id e found => ?_, recent⟩
  rw [empty] at found
  cases found

section Runs

variable (prim : Primitives) (ver : Verifier)

theorem Opening.party_current (o : Opening) (role : ChannelRole) : Current (o.party prim role) := by
  cases role <;> exact .of_empty rfl rfl

theorem Current.run (current : Current s) (inputs : List ChannelInput) : Current (s.run prim ver inputs) :=
  ChannelState.run_invariant prim ver (fun s input => (step_effect prim ver s input).current) current
    inputs

theorem Current.continues (current : Current s) {inputs : List ChannelInput} (connected : .disconnect ∉ inputs)
    (agreeing : s.Along prim ver (fun s input => contradicts prim s input = false) inputs) :
    Continues s (s.run prim ver inputs) := by
  induction inputs generalizing s with
  | nil => exact .refl s
  | cons input rest ih =>
    rw [List.mem_cons, not_or] at connected
    have effect := step_effect prim ver s input
    have first := effect.continues current.numbered (Ne.symm connected.1) agreeing.1
    exact first.trans current.numbered (ih (effect.current current) connected.2 agreeing.2)

/-- A removal stands until the connection is lost, in every run in which the peer does not remove one
    HTLC both ways. -/
theorem removals_final (o : Opening) (role : ChannelRole) (before after : List ChannelInput)
    (connected : .disconnect ∉ after)
    (agreeing : ((o.party prim role).run prim ver before).Along prim ver
      (fun s input => contradicts prim s input = false) after) :
    RemovalsKept ((o.party prim role).run prim ver before)
      ((o.party prim role).run prim ver (before ++ after)) := by
  rw [ChannelState.run_append]
  exact (((o.party_current prim role).run prim ver before).continues prim ver connected agreeing).kept

end Runs

def fulfilledOffer : List ChannelInput :=
  [.addHtlc 30000000 [7] 500 [] none none, .signCommitment [8] [] none, .receive (.revokeAndAck
      { perCommitmentSecret := getPerCommitmentSecret plainPrimitives plainOpening.acceptorSeed 0
        nextPerCommitmentPoint := getPerCommitmentPoint plainPrimitives plainOpening.acceptorSeed 2 }),
    .receive (.updateFulfillHtlc 0 [7])]

def peerSignature : ChannelInput := .receive (.commitmentSigned ⟨[8], [], none⟩)

def firstRemoval (s : ChannelState) : Option (HtlcState × Option Bool) :=
  (s.htlcs.get? (.offered, 0)).map fun e => (e.state, e.removalLocallyRevoked)

theorem repeated_fulfil_kept :
    let after := [peerSignature, .receive (.updateFulfillHtlc 0 [7])]
    firstRemoval (openerAfter (fulfilledOffer ++ after)) = some (.fulfilled, some true) ∧
      RemovalsKept (openerAfter fulfilledOffer) (openerAfter (fulfilledOffer ++ after)) :=
  ⟨by decide +kernel, removals_final plainPrimitives plainVerifier plainOpening .opener fulfilledOffer _
    (by decide) ⟨by decide, by decide +kernel, trivial⟩⟩

/-- The peer has signed for the fulfilment and then fails the HTLC: the preimage it revealed counts
    for nothing any more, and the removal starts over. -/
theorem fulfilled_offer_turns_failed :
    let s := openerAfter (fulfilledOffer ++ [peerSignature])
    let t := openerAfter (fulfilledOffer ++ [peerSignature, .receive (.updateFailHtlc 0 [])])
    firstRemoval s = some (.fulfilled, some true) ∧ firstRemoval t = some (.failed, some false) ∧
      ¬ RemovalsKept s t := by
  intro s t
  have fulfilled : firstRemoval s = some (.fulfilled, some true) := by decide +kernel
  have failed : firstRemoval t = some (.failed, some false) := by decide +kernel
  refine ⟨fulfilled, failed, fun kept => ?_⟩
  obtain ⟨before, found, same⟩ := Option.map_eq_some_iff.mp fulfilled
  obtain ⟨after, found', same'⟩ := Option.map_eq_some_iff.mp failed
  have state : before.state = .fulfilled := congrArg Prod.fst same
  have state' : after.state = .failed := congrArg Prod.fst same'
  have unmoved := (kept 0 before after found (by rw [state]; rfl) found').state
  rw [state, state'] at unmoved
  cases unmoved

end Beignet.Channel
