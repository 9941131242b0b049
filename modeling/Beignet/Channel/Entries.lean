import Beignet.Channel.Removals

namespace Beignet.Channel

open Beignet.Data

/-! What can become of one entry, and so what every entry keeps. -/

variable {e : HtlcEntry}

theorem settled_of_live (live : e.state.live = true) : e.acknowledge.settled = false := by
  simp [HtlcEntry.settled, HtlcEntry.acknowledge, live]

theorem settled_of_removing (dead : e.state.live = false) (removing : e.removalRemoteCommitted = some false) :
    e.acknowledge.settled = true ↔ e.commitCoverPending = some true := by
  by_cases cover : e.commitCoverPending = some true <;>
    simp [HtlcEntry.settled, HtlcEntry.acknowledge, dead, removing, cover]

theorem live_of_settled (settled : e.acknowledge.settled = true) : e.state.live = false := by
  cases live : e.state.live with
  | false => rfl
  | true => exact absurd settled (by rw [settled_of_live live]; exact Bool.false_ne_true)

/-- A property of entries that every update keeps, when we settle and the peer removes only entries for
    which that is allowed. -/
structure EntryInvariant (maySettle mayRemove : HtlcEntry → HtlcState → Prop) (P : HtlcEntry → Prop) :
    Prop where
  offered : ∀ s amount hash cltv onion blinding, P (offeredEntry s amount hash cltv onion blinding)
  received : ∀ s msg, P (incomingEntry s msg)
  settled : ∀ e intent, P e → e.direction = .received → e.state.live = true → intent.live = false →
    maySettle e intent → P (e.settleAs intent)
  removed : ∀ e intent, P e → e.direction = .offered → addNotYetCommitted e = false →
    intent.live = false → mayRemove e intent → P (e.removeAs intent)
  signed : ∀ e, P e → P e.stampCover.commitPending
  accepted : ∀ e, P e → P e.acceptSigned.commitPending
  acknowledged : ∀ e, P e → e.acknowledge.settled = false → P e.acknowledge.markForwarded
  restored : ∀ e, P e → e.uncommittedAdd = false → P e.restoreRemoval

section Steps

variable {prim : Primitives} {ver : Verifier} {s t : ChannelState} {input : ChannelInput}
  {sent : List Message} {maySettle mayRemove : HtlcEntry → HtlcState → Prop} {P : HtlcEntry → Prop}
  {k : HtlcDirection × Nat} {m : HtlcMap} {entry : HtlcEntry}

theorem direction_of_get? {e : HtlcEntry} (found : s.htlcs.get? k = some e) : e.direction = k.1 :=
  congrArg Prod.fst ((s.htlcs.get?_eq_some _ _).mp found).2

theorem forall_mem_modify (f : HtlcEntry → HtlcEntry)
    (keeps : ∀ e, (f e).key = e.key) (found : m.get? k = some entry) (changed : P (f entry))
    (known : ∀ e ∈ m.values, P e) : ∀ e ∈ (m.modify k f keeps).values, P e := by
  intro e member
  obtain ⟨before, inside, rfl⟩ := List.mem_map.mp member
  split
  · rename_i same
    obtain ⟨present, key⟩ := (m.get?_eq_some _ _).mp found
    rw [KeyedMap.eq_of_key_eq inside present (same.trans key.symm)]
    exact changed
  · exact known before inside

theorem forall_mem_set (new : P entry) (known : ∀ e ∈ m.values, P e) : ∀ e ∈ (m.set entry).values, P e := by
  intro e member
  rcases KeyedMap.mem_set.mp member with rfl | ⟨inside, -⟩
  · exact new
  · exact known e inside

theorem StepEffect.forall_entries (effect : StepEffect prim ver s input t sent)
    (invariant : EntryInvariant maySettle mayRemove P) (current : Current s)
    (settles : ∀ id intent e, input.settles = some (id, intent) → s.htlcs.get? (.received, id) = some e →
      maySettle e intent) (removes : ∀ msg id intent e, input = .receive msg → msg.removes = some (id, intent) →
      s.operational = true → s.htlcs.get? (.offered, id) = some e → msg.provesRemoval prim e = true →
      e.state ≠ intent → mayRemove e intent) (known : ∀ e ∈ s.htlcs.values, P e) : ∀ e ∈ t.htlcs.values, P e := by
  cases effect with
  | refused | failed | feeStaged | feeReceived | misrevoked | heightSet => exact known
  | offered amount hash cltv onion blinding => exact forall_mem_set (invariant.offered ..) known
  | received msg => exact forall_mem_set (invariant.received s msg) known
  | settled update settling _ found live =>
    refine forall_mem_modify (HtlcEntry.settleAs _) (fun _ => rfl) found ?_ known
    exact invariant.settled _ _ (known _ ((s.htlcs.get?_eq_some _ _).mp found).1) (direction_of_get? found)
      live (ChannelInput.settles_dead settling) (settles _ _ _ settling found)
  | removed removal operational found proved other committed =>
    refine forall_mem_modify (HtlcEntry.removeAs _) (fun _ => rfl) found ?_ known
    exact invariant.removed _ _ (known _ ((s.htlcs.get?_eq_some _ _).mp found).1) (direction_of_get? found)
      committed (Message.removes_dead removal)
      (removes _ _ _ _ rfl removal operational found proved other)
  | signed =>
    intro e member
    obtain ⟨before, inside, rfl⟩ := List.mem_map.mp member
    exact invariant.signed before (known before inside)
  | accepted =>
    intro e member
    obtain ⟨before, inside, rfl⟩ := List.mem_map.mp member
    exact invariant.accepted before (known before inside)
  | revoked rotated msg store next rotates =>
    intro e member
    obtain ⟨before, inside, left⟩ := (rotated.mem_revocationAccepted e).mp member
    obtain ⟨unsettled, rfl⟩ := HtlcEntry.afterRevocation_eq_some.mp left
    rw [rotates] at inside
    exact invariant.acknowledged before (known before inside) unsettled
  | disconnected =>
    rw [ChannelState.markForReestablish_fst current.recent]
    split
    · intro e member
      obtain ⟨before, inside, covered, rfl⟩ := (s.mem_rolledBack e).mp member
      exact invariant.restored before (known before inside) covered
    · exact known
  | resumed =>
    unfold resumeReestablished
    split <;> exact known

end Steps

end Beignet.Channel
