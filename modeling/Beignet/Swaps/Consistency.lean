import Beignet.Data.Machine
import Beignet.Swaps.Ledger

namespace Beignet.Swaps

open Beignet.Data Beignet.Storage

variable {json : Json} {scanRows : Bool} {swaps next : SwapLedger json scanRows}

section Effects

structure SwapRecord.Rewrites (before after : SwapRecord) : Prop where
  id : after.id = before.id
  direction : after.direction = before.direction
  peerNodeIdHex : after.peerNodeIdHex = before.peerNodeIdHex
  paymentHashHex : after.paymentHashHex = before.paymentHashHex
  arrow : after.state = before.state ∨ after.state ∈ transitionsFor before.direction before.state
  preimage : before.hasPreimage = true → after.preimageHex = before.preimageHex

variable {current : SwapRecord} {patch : SwapPatch} {target : SwapState} {now : Int}

theorem SwapRecord.Rewrites.patched
    (arrow : target = current.state ∨ target ∈ transitionsFor current.direction current.state) :
    current.Rewrites { withoutPreimageRemoval current patch current with state := target, updatedAt := now } where
  id := by
    unfold withoutPreimageRemoval
    split <;> exact patch.id current
  direction := by
    unfold withoutPreimageRemoval
    split <;> exact patch.direction current
  peerNodeIdHex := by
    unfold withoutPreimageRemoval
    split <;> exact patch.peerNodeIdHex current
  paymentHashHex := by
    unfold withoutPreimageRemoval
    split <;> exact patch.paymentHashHex current
  arrow := arrow
  preimage known := by simp [withoutPreimageRemoval, known]

def SwapCall.wellFormed (swaps : SwapLedger json scanRows) : SwapCall × Bool → Bool
  | (.insert input now, _) => (input.opened now).readable
  | (.move id _ change _, _) => (swaps.get id).all fun current => (change.apply current).readable
  | (.patch id change _, _) => (swaps.get id).all fun current => (change.apply current).readable
  | (.recordPreimage _ preimageHex _ _, _) => isHex64 preimageHex
  | _ => true

theorem readable_patched (readable : current.readable = true) (patched : (patch.apply current).readable = true)
    (state : target ∈ swapStatesFor current.direction) : SwapRecord.readable
      { withoutPreimageRemoval current patch current with state := target, updatedAt := now } = true := by
  rw [← patch.direction current] at state
  unfold withoutPreimageRemoval
  split
  · simp_all [SwapRecord.readable]
  · simp_all [SwapRecord.readable]

def SwapCall.inserts : SwapCall → Bool
  | .insert .. => true
  | _ => false

inductive SwapLedger.Effect (wellFormed inserts : Prop) (swaps : SwapLedger json scanRows) :
    SwapLedger json scanRows → Prop
  | unchanged : Effect wellFormed inserts swaps swaps
  | opened (row : SwapRecord) (table : Metadata json.Text) (inserting : inserts) (running : swaps.ledger.rehydrated = true)
      (absent : swaps.get row.id = none)
      (written : (swapStore json scanRows).put swaps.ledger.table row = some table)
      (readable : wellFormed → row.readable = true) :
      Effect wellFormed inserts swaps
        ⟨{ swaps.ledger with table := table, records := swaps.ledger.records.set row },
          swaps.indexes.track row.id none (some row)⟩
  | rewritten (before after : SwapRecord) (table : Metadata json.Text) (running : swaps.ledger.rehydrated = true)
      (found : swaps.get before.id = some before) (rewrites : before.Rewrites after)
      (written : (swapStore json scanRows).put swaps.ledger.table after = some table)
      (readable : wellFormed → before.readable = true → after.readable = true) :
      Effect wellFormed inserts swaps
        ⟨{ swaps.ledger with table := table, records := swaps.ledger.records.set after },
          swaps.indexes.track before.id (some before) (some after)⟩
  | removed (rows : List SwapRecord) (table : Metadata json.Text) (distinct : (rows.map (·.id)).Nodup)
      (found : ∀ row ∈ rows, swaps.get row.id = some row)
      (written : (rows.map (·.id)).foldlM (swapStore json scanRows).delete swaps.ledger.table = some table) :
      Effect wellFormed inserts swaps
        ⟨{ swaps.ledger with table := table, records := (rows.map (·.id)).foldl KeyedMap.delete swaps.ledger.records },
          rows.foldl (fun indexes row => indexes.track row.id (some row) none) swaps.indexes⟩
  | reloaded : Effect wellFormed inserts swaps swaps.rehydrate

namespace SwapLedger

variable {id : String}

theorem get_id {row : SwapRecord} (found : swaps.get id = some row) : row.id = id :=
  ((swaps.ledger.records.get?_eq_some id row).mp found).2

theorem tracked_left {before : Option SwapRecord}
    {written : DurableLedger.Written (swapStore json scanRows)} (left : swaps.ledger.Left written) :
    (swaps.tracked id before written).2.2 = swaps := by
  obtain ⟨outcome, record, ledger⟩ := written
  obtain ⟨refused, same⟩ := left
  dsimp only at refused same
  simp only [tracked, if_neg refused, same]

theorem effect_insert (input : SwapRecord) (now : Int) (throws : Bool) {wellFormed : Prop}
    (readable : wellFormed → (input.opened now).readable = true) :
    swaps.Effect wellFormed True (swaps.insert input now throws).2.2 := by
  unfold insert
  rcases swaps.ledger.insert_cases (input.opened now) throws with left | ⟨running, absent, table, stored, wrote⟩
  · rw [tracked_left left]
    exact .unchanged
  · rw [wrote]
    exact .opened (input.opened now) table trivial running absent stored readable

theorem effect_transition {current : SwapRecord} (found : swaps.get id = some current)
    {mayStart : SwapRecord → Bool} {change : SwapRecord → SwapRecord} (throws : Bool) {wellFormed inserts : Prop}
    (rewrites : mayStart current = true → current.Rewrites (change current))
    (readable : mayStart current = true → wellFormed → current.readable = true → (change current).readable = true) :
    swaps.Effect wellFormed inserts
      (swaps.tracked id (some current) (swaps.ledger.transition id mayStart change throws)).2.2 := by
  rcases swaps.ledger.transition_cases id throws mayStart change with
    left | ⟨row, running, here, starts, table, stored, wrote⟩
  · rw [tracked_left left]
    exact .unchanged
  · have same : row = current := Option.some.inj (here.symm.trans found)
    subst same
    rw [wrote, ← get_id found]
    rw [← get_id found] at found
    exact .rewritten row (change row) table running found (rewrites starts) stored (readable starts)

theorem effect_move (id : String) (target : SwapState) (patch : SwapPatch) (now : Int) (throws : Bool) (inserts : Prop) :
    swaps.Effect (SwapCall.wellFormed swaps (.move id target patch now, throws) = true) inserts
      (swaps.move id target patch now throws).2.2 := by
  unfold move
  split
  · exact .unchanged
  cases found : swaps.get id with
  | none => exact .unchanged
  | some current =>
    dsimp only
    split
    · exact .unchanged
    apply effect_transition found
    · intro starts
      exact .patched (.inr (mem_transitionsFor_of_source (by simpa using starts)))
    · intro starts wellFormed readable
      apply readable_patched readable
      · simpa [SwapCall.wellFormed, found] using wellFormed
      · exact mem_swapStatesFor_of_source (by simpa using starts)

theorem effect_patch (id : String) (patch : SwapPatch) (now : Int) (throws : Bool) (inserts : Prop) :
    swaps.Effect (SwapCall.wellFormed swaps (.patch id patch now, throws) = true) inserts
      (swaps.patch id patch now throws).2.2 := by
  unfold SwapLedger.patch
  split
  · exact .unchanged
  · cases found : swaps.get id with
    | none => exact .unchanged
    | some current =>
      apply effect_transition found
      · intro _
        exact .patched (.inl rfl)
      · intro _ wellFormed readable
        apply readable_patched readable
        · simpa [SwapCall.wellFormed, found] using wellFormed
        · simp [SwapRecord.readable] at readable
          exact readable.2.1

theorem effect_recordPreimage (id preimageHex : String) (source : SwapPreimageSource) (now : Int) (throws : Bool) (inserts : Prop) :
    swaps.Effect (SwapCall.wellFormed swaps (.recordPreimage id preimageHex source now, throws) = true) inserts
      (swaps.recordPreimage id preimageHex source now throws).2.2 := by
  unfold recordPreimage
  split
  · exact .unchanged
  cases found : swaps.get id with
  | none => exact .unchanged
  | some current =>
    dsimp only
    split
    · exact .unchanged
    split
    · exact .unchanged
    rename_i unknown
    apply effect_transition found
    · intro _
      exact ⟨rfl, rfl, rfl, rfl, .inl rfl, fun known => absurd known unknown⟩
    · intro _ wellFormed readable
      simp only [SwapCall.wellFormed] at wellFormed
      simp_all [SwapRecord.readable]

theorem effect_forget (id : String) (throws : Bool) (wellFormed inserts : Prop) :
    swaps.Effect wellFormed inserts (swaps.forget id throws).2 := by
  unfold forget
  cases found : swaps.get id with
  | none => exact .unchanged
  | some current =>
    dsimp only
    split
    · exact .unchanged
    · rcases swaps.ledger.remove_cases id throws with kept | ⟨table, deleted, removed⟩
      · rw [kept]
        exact .unchanged
      · rw [removed]
        have same := get_id found
        subst same
        exact .removed [current] table (List.nodup_singleton _) (by simpa using found) (by simpa using deleted)

theorem gathered_rows {ids : List String} {rows : List SwapRecord}
    (gathered : (ids.mapM fun id => (swaps.get id).filter (isTerminalSwapState ·.state)) = some rows) :
    rows.map (·.id) = ids ∧ ∀ row ∈ rows, swaps.get row.id = some row := by
  induction ids generalizing rows with
  | nil =>
    cases gathered
    exact ⟨rfl, by simp⟩
  | cons id rest ih =>
    rw [List.mapM_cons] at gathered
    obtain ⟨row, here, others⟩ := Option.bind_eq_some_iff.mp gathered
    obtain ⟨tail, inside, same⟩ := Option.bind_eq_some_iff.mp others
    cases same
    have found := (Option.filter_eq_some_iff.mp here).1
    have named := get_id found
    subst named
    obtain ⟨listed, each⟩ := ih inside
    exact ⟨by rw [List.map_cons, listed], by simpa using ⟨found, each⟩⟩

theorem effect_forgetAll (ids : List String) (throws : Bool) (wellFormed inserts : Prop) :
    swaps.Effect wellFormed inserts (swaps.forgetAll ids throws).2 := by
  unfold forgetAll
  split
  · exact .unchanged
  · rename_i rows gathered
    obtain ⟨listed, found⟩ := gathered_rows gathered
    have distinct : (rows.map (·.id)).Nodup := listed ▸ nodup_eraseDups ids
    rcases swaps.ledger.removeSet_cases throws distinct (by
        intro id member
        obtain ⟨row, inside, rfl⟩ := List.mem_map.mp member
        exact Option.isSome_iff_exists.mpr ⟨row, found row inside⟩) with kept | ⟨table, deleted, removed⟩
    · dsimp only
      rw [kept]
      exact .unchanged
    · rw [removed]
      exact .removed rows table distinct found deleted

theorem effect_step (call : SwapCall × Bool) :
    swaps.Effect (SwapCall.wellFormed swaps call = true) (call.1.inserts = true) (swaps.step call) := by
  obtain ⟨call, throws⟩ := call
  cases call with
  | insert input now =>
    rw [show (SwapCall.insert input now).inserts = true ↔ True from iff_true_intro rfl]
    exact effect_insert input now throws fun wellFormed => wellFormed
  | move id target patch now => exact effect_move id target patch now throws _
  | patch id patch now => exact effect_patch id patch now throws _
  | recordPreimage id preimageHex source now => exact effect_recordPreimage id preimageHex source now throws _
  | forget id => exact effect_forget id throws _ _
  | forgetAll ids => exact effect_forgetAll ids throws _ _
  | rehydrate => exact .reloaded

end SwapLedger

end Effects

section Tracked

def SwapRecord.riskKey (record : SwapRecord) : Option Unit := if record.isSwapExposure then some () else none

structure SwapIndexes.Tracks (indexes : SwapIndexes) (rows : KeyedMap SwapRecord.id) : Prop where
  byHash : Listed SwapRecord.paymentHashHex rows indexes.idsByHash
  byPeer : Indexes SwapRecord.createdPeer rows indexes.createdIdsByPeer
  byState : Indexes (some ∘ SwapRecord.stateKey) rows indexes.idsByState
  byDepth : Indexes SwapRecord.resolvedDepth rows indexes.resolvedIdsByDepth
  atRisk : Indexes SwapRecord.riskKey rows indexes.atRiskIds

namespace SwapIndexes.Tracks

variable {indexes : SwapIndexes} {rows rows' : KeyedMap SwapRecord.id}

theorem empty : SwapIndexes.empty.Tracks .empty where
  byHash _ := rfl
  byPeer := ⟨fun _ => List.nodup_nil, by simp [SwapIndexes.empty]⟩
  byState := ⟨fun _ => List.nodup_nil, by simp [SwapIndexes.empty]⟩
  byDepth := ⟨fun _ => List.nodup_nil, by simp [SwapIndexes.empty]⟩
  atRisk := ⟨fun _ => List.nodup_nil, by simp [SwapIndexes.empty]⟩

section

variable (tracks : indexes.Tracks rows)
include tracks

theorem track (id : String) (others : ∀ other, other ≠ id → rows'.get? other = rows.get? other)
    (byHash : Listed SwapRecord.paymentHashHex rows' (indexes.track id (rows.get? id) (rows'.get? id)).idsByHash) :
    (indexes.track id (rows.get? id) (rows'.get? id)).Tracks rows' where
  byHash := byHash
  byPeer := by
    apply tracks.byPeer.change id others
    · exact IdIndex.nodup_rekey tracks.byPeer.distinct
    · intro key other
      apply IdIndex.mem_rekey
      intro k
      rw [tracks.byPeer.filed, Option.bind_eq_some_iff]
  byState := by
    apply tracks.byState.change id others
    · exact IdIndex.nodup_refile tracks.byState.distinct
    · intro key other
      rw [show (rows'.get? id).bind (some ∘ SwapRecord.stateKey) = (rows'.get? id).map SwapRecord.stateKey from
        (Option.map_eq_bind ..).symm]
      apply IdIndex.mem_refile
      intro k
      rw [tracks.byState.filed, Option.map_eq_bind, Option.bind_eq_some_iff]
  byDepth := by
    apply tracks.byDepth.change id others
    · exact IdIndex.nodup_refile tracks.byDepth.distinct
    · intro key other
      apply IdIndex.mem_refile
      intro k
      rw [tracks.byDepth.filed, Option.bind_eq_some_iff]
  atRisk := by
    have key : ∀ row, Option.bind row SwapRecord.riskKey = some () ↔ row.any SwapRecord.isSwapExposure = true := by
      intro row
      cases row <;> simp [SwapRecord.riskKey]
    apply tracks.atRisk.change id others
    · intro key
      unfold SwapIndexes.track
      dsimp only
      split
      · exact IdIndex.nodup_add tracks.atRisk.distinct key
      · exact IdIndex.nodup_drop tracks.atRisk.distinct key
    · intro k other
      unfold SwapIndexes.track
      dsimp only
      rw [key]
      split
      · rename_i exposed
        rw [IdIndex.mem_add]
        by_cases same : other = id <;> simp [same, exposed]
      · rename_i exposed
        rw [IdIndex.mem_drop]
        by_cases same : other = id <;> simp [same, exposed]

theorem opened {row : SwapRecord} (absent : rows.get? row.id = none) :
    (indexes.track row.id none (some row)).Tracks (rows.set row) := by
  have here : (rows.set row).get? row.id = some row := by simp
  rw [← absent, ← here]
  apply tracks.track row.id
  · intro other differ
    simp [differ]
  · rw [absent, here]
    exact tracks.byHash.append (by simp [KeyedMap.has, absent])

theorem rewritten {before after : SwapRecord} (found : rows.get? before.id = some before)
    (rewrites : before.Rewrites after) : (indexes.track before.id (some before) (some after)).Tracks (rows.set after) := by
  have here : (rows.set after).get? before.id = some after := by simp [rewrites.id]
  rw [← found, ← here]
  apply tracks.track before.id
  · intro other differ
    rw [KeyedMap.get?_set, if_neg (by rw [rewrites.id]; exact differ)]
  · rw [found, here]
    have kept : (indexes.track before.id (some before) (some after)).idsByHash = indexes.idsByHash := by
      unfold SwapIndexes.track IdIndex.refile
      dsimp only [Option.map_some]
      rw [if_pos (by rw [rewrites.paymentHashHex])]
    rw [kept]
    exact tracks.byHash.replace ((rows.get?_eq_some _ _).mp found).1 rewrites.id rewrites.paymentHashHex

theorem removed {row : SwapRecord} (found : rows.get? row.id = some row) :
    (indexes.track row.id (some row) none).Tracks (rows.delete row.id) := by
  have gone : (rows.delete row.id).get? row.id = none := by simp
  rw [← found, ← gone]
  apply tracks.track row.id
  · intro other differ
    simp [differ]
  · rw [found, gone]
    exact tracks.byHash.delete ((rows.get?_eq_some _ _).mp found).1

theorem removed_all {gone : List SwapRecord} (distinct : (gone.map (·.id)).Nodup)
    (found : ∀ row ∈ gone, rows.get? row.id = some row) :
    (gone.foldl (fun indexes row => indexes.track row.id (some row) none) indexes).Tracks
      ((gone.map (·.id)).foldl KeyedMap.delete rows) := by
  induction gone generalizing indexes rows with
  | nil => exact tracks
  | cons row rest ih =>
    obtain ⟨fresh, tail⟩ := List.nodup_cons.mp distinct
    apply ih (tracks.removed (found row (by simp))) tail
    intro other member
    have differ : other.id ≠ row.id := by
      intro same
      exact fresh (List.mem_map.mpr ⟨other, member, same⟩)
    rw [KeyedMap.get?_delete, if_neg differ]
    exact found other (by simp [member])

end

theorem rebuilt (rows : KeyedMap SwapRecord.id) :
    (rows.values.foldl (fun indexes row => indexes.track row.id none (some row)) SwapIndexes.empty).Tracks rows := by
  obtain ⟨values, distinct⟩ := rows
  induction values using List.reverseRecOn with
  | nil => exact empty
  | append_singleton rest row ih =>
    have apart := distinct
    rw [List.map_append, List.nodup_append'] at apart
    have absent : (⟨rest, apart.1⟩ : KeyedMap SwapRecord.id).get? row.id = none := by
      rw [KeyedMap.get?_eq_none]
      intro other member same
      exact apart.2.2 (List.mem_map_of_mem member) (by simp [same])
    have extended : (⟨rest, apart.1⟩ : KeyedMap SwapRecord.id).set row = ⟨rest ++ [row], distinct⟩ :=
      KeyedMap.ext_values (KeyedMap.values_set_of_absent (by simp [KeyedMap.has, absent]))
    rw [List.foldl_append, ← extended]
    exact (ih apart.1).opened absent

end SwapIndexes.Tracks

theorem SwapLedger.Effect.tracks {wellFormed inserts : Prop} (effect : swaps.Effect wellFormed inserts next)
    (tracks : swaps.indexes.Tracks swaps.ledger.records) : next.indexes.Tracks next.ledger.records := by
  cases effect with
  | unchanged => exact tracks
  | opened row table inserting running absent written readable => exact tracks.opened absent
  | rewritten before after table running found rewrites written readable => exact tracks.rewritten found rewrites
  | removed rows table distinct found written => exact tracks.removed_all distinct found
  | reloaded => exact .rebuilt _

end Tracked

end Beignet.Swaps
