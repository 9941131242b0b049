import Beignet.Swaps.Consistency

namespace Beignet.Swaps

open Beignet.Data Beignet.Storage
open KeyedMap (delete get?_set)

variable {json : Json} {scanRows : Bool} {swaps next : SwapLedger json scanRows}

section Queries

theorem filter_or_perm {α : Type*} {p q : α → Bool} {l : List α} (apart : ∀ a ∈ l, p a = true → q a = false) :
    (l.filter fun a => p a || q a).Perm (l.filter p ++ l.filter q) := by
  induction l with
  | nil => exact .nil
  | cons a rest ih =>
    have tail := ih fun b member => apart b (by simp [member])
    cases left : p a with
    | true =>
      have right := apart a (by simp) left
      simpa [left, right] using tail
    | false =>
      cases right : q a with
      | true =>
        simp only [List.filter_cons, left, right, Bool.or_true, Bool.false_eq_true, if_true, if_false]
        exact (tail.cons a).trans List.perm_middle.symm
      | false => simpa [left, right] using tail

structure SwapLedger.Recomputed (swaps : SwapLedger json scanRows) : Prop where
  atRisk : ∀ depth : Nat, 1 ≤ depth →
    (swaps.atRisk depth).Perm (swaps.list.filter fun row => row.isSwapExposure depth)
  byPaymentHash : ∀ hash, swaps.byPaymentHash hash = swaps.list.filter fun row => row.paymentHashHex = hash
  createdCount : ∀ peer direction, swaps.createdCount peer direction = swaps.list.countP fun row =>
    row.state = .created ∧ row.peerNodeIdHex = peer ∧ direction.all (row.direction = ·)
  countInStates : ∀ direction states, swaps.countInStates direction states =
    (states.map fun state => swaps.list.countP fun row => row.direction = direction ∧ row.state = state).sum
  pastRetention : ∀ direction height blocks, (swaps.pastRetention direction height blocks).Perm
    (swaps.list.filter fun row =>
      row.direction = direction ∧ isTerminalSwapState row.state ∧ row.endedAt + blocks ≤ height)

namespace SwapLedger

variable (tracks : swaps.indexes.Tracks swaps.ledger.records) (direction : SwapDirection)

include tracks

theorem atRisk_perm (depth : Nat) (positive : 1 ≤ depth) :
    (swaps.atRisk depth).Perm (swaps.list.filter fun row => row.isSwapExposure depth) := by
  induction depth, positive using Nat.le_induction with
  | base =>
    have perm := tracks.atRisk.rowsUnder_perm ()
    have same : ∀ row : SwapRecord, decide (row.riskKey = some ()) = row.isSwapExposure := by
      intro row
      unfold SwapRecord.riskKey
      cases row.isSwapExposure <;> rfl
    simp only [same] at perm
    simpa [SwapLedger.atRisk, copies, SwapLedger.list, DurableLedger.list] using perm
  | succ depth positive ih =>
    -- One more depth is read, and the rows resolved at it are the ones that one more policy counts.
    have read : swaps.atRisk (depth + 1) =
        swaps.atRisk depth ++ swaps.copies (swaps.indexes.resolvedIdsByDepth depth) := by
      obtain ⟨below, rfl⟩ := Nat.exists_eq_add_of_le positive
      unfold SwapLedger.atRisk
      rw [show 1 + below + 1 - 1 = below + 1 by omega, show 1 + below - 1 = below by omega, List.range'_concat,
        List.flatMap_append, ← List.append_assoc]
      simp
    have counts : ∀ row : SwapRecord, row.isSwapExposure (depth + 1 : Nat) =
        (row.isSwapExposure depth || decide (row.resolvedDepth = some (depth : Int))) := by
      intro row
      rw [Bool.eq_iff_iff, Bool.or_eq_true, decide_eq_true_eq, row.isSwapExposure_iff (depth + 1 : Nat),
        row.isSwapExposure_iff depth]
      constructor
      · rintro (always | ⟨resolved, found, shallow⟩)
        · exact .inl (.inl always)
        · by_cases same : resolved = depth
          · exact .inr (same ▸ found)
          · exact .inl (.inr ⟨resolved, found, by omega⟩)
      · rintro ((always | ⟨resolved, found, shallow⟩) | found)
        · exact .inl always
        · exact .inr ⟨resolved, found, by omega⟩
        · exact .inr ⟨depth, found, by omega⟩
    have apart : ∀ row ∈ swaps.list, row.isSwapExposure depth = true →
        decide (row.resolvedDepth = some (depth : Int)) = false := by
      intro row _ exposed
      rw [decide_eq_false_iff_not]
      intro resolved
      rcases (row.isSwapExposure_iff depth).mp exposed with always | ⟨other, found, shallow⟩
      · rw [row.not_isSwapExposure_of_resolvedDepth resolved] at always
        cases always
      · rw [resolved] at found
        cases found
        omega
    rw [read]
    simp only [counts]
    exact (ih.append (tracks.byDepth.rowsUnder_perm (depth : Int))).trans (filter_or_perm apart).symm

theorem createdCount_eq (peer : String) (direction : Option SwapDirection) :
    swaps.createdCount peer direction = swaps.list.countP fun row =>
      row.state = .created ∧ row.peerNodeIdHex = peer ∧ direction.all (row.direction = ·) := by
  have perm := tracks.byPeer.rowsUnder_perm peer
  have keyed : ∀ row : SwapRecord, row.createdPeer = some peer ↔ row.state = .created ∧ row.peerNodeIdHex = peer := by
    intro row
    unfold SwapRecord.createdPeer
    split <;> simp_all
  unfold createdCount
  cases direction with
  | none =>
    dsimp only
    rw [← tracks.byPeer.length_rowsUnder peer, perm.length_eq, ← List.countP_eq_length_filter]
    simp [keyed, SwapLedger.list, DurableLedger.list]
  | some direction =>
    have counted : (swaps.indexes.createdIdsByPeer peer).countP (fun id => (swaps.get id).any (·.direction = direction)) =
        (rowsUnder swaps.ledger.records (swaps.indexes.createdIdsByPeer peer)).countP (·.direction = direction) := by
      unfold rowsUnder
      induction swaps.indexes.createdIdsByPeer peer with
      | nil => rfl
      | cons id rest ih =>
        rw [List.countP_cons, ih, List.filterMap_cons]
        have same : swaps.get id = swaps.ledger.records.get? id := rfl
        rw [same]
        cases swaps.ledger.records.get? id with
        | none => rfl
        | some row => rw [List.countP_cons]; rfl
    dsimp only
    rw [counted, perm.countP_eq, List.countP_filter]
    apply List.countP_congr
    intro row _
    simp only [keyed, Bool.and_eq_true, decide_eq_true_eq, Option.all_some]
    tauto

theorem length_idsByState (state : SwapState) : (swaps.indexes.idsByState (direction, state)).length =
      swaps.list.countP fun row => row.direction = direction ∧ row.state = state := by
  rw [← tracks.byState.length_rowsUnder, (tracks.byState.rowsUnder_perm _).length_eq, ← List.countP_eq_length_filter]
  apply List.countP_congr
  intro row _
  simp [SwapRecord.stateKey]

theorem pastRetention_perm (height blocks : Int) :
    (swaps.pastRetention direction height blocks).Perm (swaps.list.filter fun row =>
      row.direction = direction ∧ isTerminalSwapState row.state ∧ row.endedAt + blocks ≤ height) := by
  have each : ∀ states : List SwapState, states.Nodup →
      (states.flatMap fun state => (swaps.copies (swaps.indexes.idsByState (direction, state))).filter fun row =>
        row.endedAt + blocks ≤ height).Perm (swaps.list.filter fun row =>
          row.direction = direction ∧ row.state ∈ states ∧ row.endedAt + blocks ≤ height) := by
    intro states distinct
    induction states with
    | nil => simp
    | cons state rest ih =>
      obtain ⟨fresh, tail⟩ := List.nodup_cons.mp distinct
      have here := (tracks.byState.rowsUnder_perm (direction, state)).filter fun row =>
        row.endedAt + blocks ≤ height
      rw [List.filter_filter] at here
      rw [List.flatMap_cons]
      refine (here.append (ih tail)).trans (.trans (filter_or_perm ?_).symm (.of_eq ?_))
      · intro row _ first
        simp only [Function.comp_apply, SwapRecord.stateKey, Bool.and_eq_true, decide_eq_true_eq, Option.some.injEq,
          Prod.mk.injEq] at first
        simp [first.2.2, fresh]
      · apply List.filter_congr
        intro row _
        rw [Bool.eq_iff_iff]
        simp [SwapRecord.stateKey]
        tauto
  have perm := each terminalStates (by decide)
  simpa [isTerminalSwapState, SwapLedger.pastRetention] using perm

theorem recomputed : swaps.Recomputed where
  atRisk := atRisk_perm tracks
  byPaymentHash hash := tracks.byHash.rowsUnder_eq hash
  createdCount := createdCount_eq tracks
  countInStates direction states := by
    unfold countInStates
    congr 1
    apply List.map_congr_left
    intro state _
    exact length_idsByState tracks direction state
  pastRetention := pastRetention_perm tracks

end SwapLedger

end Queries

section Stored

structure SwapLedger.Backed (swaps : SwapLedger json scanRows) : Prop where
  laid : (swapStore json scanRows).Laid swaps.ledger.table
  stored : swaps.ledger.rehydrated = true → ∀ id, (swapStore json scanRows).stored swaps.ledger.table id =
      (swaps.get id).bind (LedgerStore.readBack SwapRecord.reset SwapRecord.readable)
  idle : swaps.ledger.rehydrated = false → ∀ id, swaps.get id = none

def SwapLedger.Readable (swaps : SwapLedger json scanRows) : Prop :=
  ∀ id row, swaps.get id = some row → row.readable = true

def SwapLedger.Follows (swaps next : SwapLedger json scanRows) : Prop :=
  ∀ id before after, swaps.get id = some before → next.get id = some after →
    after.direction = before.direction ∧ after.paymentHashHex = before.paymentHashHex ∧
      (after.state = before.state ∨ after.state ∈ transitionsFor before.direction before.state) ∧
      (before.hasPreimage = true → after.preimageHex = before.preimageHex)

variable {row : SwapRecord} {ids : List String} {wellFormed inserts : Prop}

theorem readBack_of_decoded {raw : json.Text} (decoded : (swapStore json scanRows).decode raw = some row) :
    row.readable = true ∧ LedgerStore.readBack SwapRecord.reset SwapRecord.readable row = some row := by
  obtain ⟨parsed, -, accepted⟩ := Option.bind_eq_some_iff.mp decoded
  split at accepted
  · rename_i readable
    cases accepted
    have again : parsed.reset.reset = parsed.reset := by
      unfold SwapRecord.reset
      cases parsed.resolution <;> rfl
    have kept : parsed.reset.readable = true := readable
    refine ⟨kept, ?_⟩
    rw [LedgerStore.readBack, if_pos kept, again]
  · cases accepted

theorem stored_foldlM_delete (roundTrips : json.RoundTrips) {table last : Metadata json.Text}
    (laid : (swapStore json scanRows).Laid table)
    (written : ids.foldlM (swapStore json scanRows).delete table = some last) :
    (swapStore json scanRows).Laid last ∧ ∀ id, (swapStore json scanRows).stored last id =
      if id ∈ ids then none else (swapStore json scanRows).stored table id := by
  induction ids generalizing table with
  | nil =>
    cases written
    exact ⟨laid, by simp⟩
  | cons gone rest ih =>
    rw [List.foldlM_cons] at written
    obtain ⟨middle, deleted, others⟩ := Option.bind_eq_some_iff.mp written
    obtain ⟨between, erased⟩ := (roundTrips.lawful scanRows).stored_delete laid deleted
    obtain ⟨after, left⟩ := ih between others
    refine ⟨after, ?_⟩
    intro id
    rw [left, erased]
    by_cases here : id = gone <;> by_cases later : id ∈ rest <;> simp [here, later]

theorem get?_foldl_delete {rows : KeyedMap SwapRecord.id} (id : String) :
    (ids.foldl delete rows).get? id = if id ∈ ids then none else rows.get? id := by
  induction ids generalizing rows with
  | nil => simp
  | cons gone rest ih =>
    rw [List.foldl_cons, ih, KeyedMap.get?_delete]
    by_cases here : id = gone <;> by_cases later : id ∈ rest <;> simp [here, later]

theorem SwapLedger.Backed.written (roundTrips : json.RoundTrips) (backed : swaps.Backed)
    (running : swaps.ledger.rehydrated = true) {table : Metadata json.Text} {indexes : SwapIndexes}
    (written : (swapStore json scanRows).put swaps.ledger.table row = some table) :
    (⟨{ swaps.ledger with table := table, records := swaps.ledger.records.set row }, indexes⟩ :
      SwapLedger json scanRows).Backed := by
  obtain ⟨laid, stored⟩ := (roundTrips.lawful scanRows).stored_put backed.laid written
  constructor
  · exact laid
  · intro _ id
    show (swapStore json scanRows).stored table id = ((swaps.ledger.records.set row).get? id).bind _
    rw [stored, get?_set, backed.stored running]
    split <;> rfl
  · intro idle
    exact absurd (running.symm.trans idle) (by decide)

theorem SwapLedger.Effect.backed (roundTrips : json.RoundTrips)
    (effect : swaps.Effect wellFormed inserts next) (backed : swaps.Backed) : next.Backed := by
  cases effect with
  | unchanged => exact backed
  | opened row table inserting running absent written readable => exact backed.written roundTrips running written
  | rewritten before after table running found rewrites written readable =>
    exact backed.written roundTrips running written
  | removed rows table distinct found written =>
    obtain ⟨laid, stored⟩ := stored_foldlM_delete roundTrips backed.laid written
    have got : ∀ id, ((rows.map (·.id)).foldl delete swaps.ledger.records).get? id =
        if id ∈ rows.map (·.id) then none else swaps.get id := get?_foldl_delete
    constructor
    · exact laid
    · intro running id
      show (swapStore json scanRows).stored table id =
        (((rows.map (·.id)).foldl delete swaps.ledger.records).get? id).bind _
      rw [stored, got, backed.stored running]
      split <;> rfl
    · intro idle id
      show ((rows.map (·.id)).foldl delete swaps.ledger.records).get? id = none
      rw [got, backed.idle idle]
      split <;> rfl
  | reloaded =>
    have got : ∀ id, swaps.rehydrate.get id = (swapStore json scanRows).stored swaps.ledger.table id :=
      swaps.ledger.get?_rehydrate backed.laid
    constructor
    · exact backed.laid
    · intro _ id
      rw [got]
      show (swapStore json scanRows).stored swaps.ledger.table id = _
      cases found : (swapStore json scanRows).stored swaps.ledger.table id with
      | none => rfl
      | some row =>
        obtain ⟨raw, decoded⟩ := LedgerStore.decoded_of_stored found
        exact (readBack_of_decoded decoded).2.symm
    · intro idle
      cases idle

theorem SwapLedger.Effect.readable {inserts : Prop} (effect : swaps.Effect True inserts next) (backed : swaps.Backed)
    (readable : swaps.Readable) : next.Readable := by
  intro id row here
  cases effect with
  | unchanged => exact readable id row here
  | opened new table inserting running absent written reads =>
    replace here : (swaps.ledger.records.set new).get? id = some row := here
    rw [get?_set] at here
    split at here
    · cases here
      exact reads trivial
    · exact readable id row here
  | rewritten before after table running found rewrites written reads =>
    replace here : (swaps.ledger.records.set after).get? id = some row := here
    rw [get?_set] at here
    split at here
    · cases here
      exact reads trivial (readable _ _ found)
    · exact readable id row here
  | removed rows table distinct found written =>
    replace here : ((rows.map (·.id)).foldl delete swaps.ledger.records).get? id = some row := here
    rw [get?_foldl_delete] at here
    split at here
    · cases here
    · exact readable id row here
  | reloaded =>
    replace here : swaps.ledger.rehydrate.records.get? id = some row := here
    rw [swaps.ledger.get?_rehydrate backed.laid] at here
    obtain ⟨raw, decoded⟩ := LedgerStore.decoded_of_stored here
    exact (readBack_of_decoded decoded).1

theorem SwapLedger.Effect.follows (effect : swaps.Effect wellFormed inserts next) (backed : swaps.Backed) :
    swaps.Follows next := by
  have stays : swaps.Follows swaps := by
    intro id before after found here
    cases found.symm.trans here
    exact ⟨rfl, rfl, .inl rfl, fun _ => rfl⟩
  intro id before after found here
  cases effect with
  | unchanged => exact stays id before after found here
  | opened row table inserting running absent written readable =>
    replace here : (swaps.ledger.records.set row).get? id = some after := here
    rw [get?_set] at here
    split at here
    · rename_i same
      rw [same, absent] at found
      cases found
    · exact stays id before after found here
  | rewritten old row table running present rewrites written readable =>
    replace here : (swaps.ledger.records.set row).get? id = some after := here
    rw [get?_set] at here
    split at here
    · rename_i same
      cases here
      have named : id = old.id := same.trans rewrites.id
      rw [named, present] at found
      cases found
      exact ⟨rewrites.direction, rewrites.paymentHashHex, rewrites.arrow, rewrites.preimage⟩
    · exact stays id before after found here
  | removed rows table distinct gone written =>
    replace here : ((rows.map (·.id)).foldl delete swaps.ledger.records).get? id = some after := here
    rw [get?_foldl_delete] at here
    split at here
    · cases here
    · exact stays id before after found here
  | reloaded =>
    have running : swaps.ledger.rehydrated = true := by
      by_contra idle
      rw [backed.idle (by simpa using idle)] at found
      cases found
    replace here : swaps.ledger.rehydrate.records.get? id = some after := here
    rw [swaps.ledger.get?_rehydrate backed.laid, backed.stored running, found, Option.bind_some,
      LedgerStore.readBack] at here
    split at here
    · cases here
      exact ⟨rfl, rfl, .inl rfl, fun _ => rfl⟩
    · cases here

end Stored

section Runs

def SwapLedger.CallReads (swaps : SwapLedger json scanRows) (call : SwapCall × Bool) : Prop :=
  SwapCall.wellFormed swaps call = true

theorem SwapLedger.tracks_run (json : Json) (scanRows : Bool) (table : Metadata json.Text) (calls : List (SwapCall × Bool)) :
    (calls.foldl step (fresh table : SwapLedger json scanRows)).indexes.Tracks
      (calls.foldl step (fresh table : SwapLedger json scanRows)).ledger.records := by
  induction calls using List.reverseRecOn with
  | nil => exact .empty
  | append_singleton calls call ih =>
    rw [List.foldl_concat]
    exact (effect_step call).tracks ih

theorem SwapLedger.Effect.of_reads {call : SwapCall × Bool} (reads : swaps.CallReads call) :
    swaps.Effect True (call.1.inserts = true) (swaps.step call) := by
  have effect : swaps.Effect (SwapCall.wellFormed swaps call = true) (call.1.inserts = true) (swaps.step call) :=
    effect_step call
  rwa [eq_true (show SwapCall.wellFormed swaps call = true from reads)] at effect

variable {table : Metadata json.Text}

theorem SwapLedger.get_fresh (id : String) : (fresh table : SwapLedger json scanRows).get id = none := rfl

theorem SwapLedger.backed_fresh (laid : (swapStore json scanRows).Laid table) :
    (fresh table : SwapLedger json scanRows).Backed := by
  constructor
  · exact laid
  · intro running
    cases running
  · intro _ id
    exact get_fresh id

theorem SwapLedger.backed_run (roundTrips : json.RoundTrips)
    (laid : (swapStore json scanRows).Laid table) (calls : List (SwapCall × Bool)) :
    (calls.foldl step (fresh table : SwapLedger json scanRows)).Backed := by
  induction calls using List.reverseRecOn with
  | nil => exact backed_fresh laid
  | append_singleton calls call ih =>
    rw [List.foldl_concat]
    exact (effect_step call).backed roundTrips ih

theorem SwapLedger.readable_run (roundTrips : json.RoundTrips)
    (laid : (swapStore json scanRows).Laid table) {calls : List (SwapCall × Bool)}
    (along : Along step CallReads (fresh table : SwapLedger json scanRows) calls) :
    (calls.foldl step (fresh table : SwapLedger json scanRows)).Readable := by
  induction calls using List.reverseRecOn with
  | nil =>
    intro id row found
    rw [List.foldl_nil, get_fresh] at found
    cases found
  | append_singleton calls call ih =>
    obtain ⟨before, reads, -⟩ := Along.append.mp along
    rw [List.foldl_concat]
    exact (Effect.of_reads reads).readable (backed_run roundTrips laid calls) (ih before)

/-- After every call the lookups are what the rows say, the rows moved along the arrows of their
    direction, and a preimage stayed. When the codec reads back what the calls write, a fresh copy
    of the store has the rows of memory. -/
theorem SwapLedger.lookups_and_store_follow (roundTrips : json.RoundTrips) {table : Metadata json.Text}
    (laid : (swapStore json scanRows).Laid table) (calls : List (SwapCall × Bool)) (call : SwapCall × Bool) :
    let swaps := calls.foldl step (fresh table : SwapLedger json scanRows)
    (swaps.step call).Recomputed ∧ swaps.Follows (swaps.step call) ∧
      (Along step CallReads (fresh table : SwapLedger json scanRows) (calls ++ [call]) →
        (swaps.step call).ledger.rehydrated = true →
          ∀ id, (swaps.step call).rehydrate.get id = ((swaps.step call).get id).map SwapRecord.reset) := by
  intro swaps
  have tracks := tracks_run json scanRows table (calls ++ [call])
  have after := backed_run roundTrips laid (calls ++ [call])
  rw [List.foldl_concat] at tracks after
  refine ⟨recomputed tracks, (effect_step call).follows (backed_run roundTrips laid calls), ?_⟩
  intro along running id
  have readable := readable_run roundTrips laid along
  rw [List.foldl_concat] at readable
  have stored : (swaps.step call).rehydrate.get id = _ :=
    ((swaps.step call).ledger.get?_rehydrate after.laid id).trans (after.stored running id)
  rw [stored]
  cases found : (swaps.step call).get id with
  | none => rfl
  | some row =>
    rw [Option.bind_some, LedgerStore.readBack, if_pos (readable id row found)]
    rfl

def plainJson : Json where
  Text := Option (SwapRecord ⊕ List String)
  blank := none
  isBlank text := text.isNone
  stringify record := some (.inl record)
  parse text := text.bind Sum.getLeft?
  stringifyIds ids := some (.inr ids)
  parseIds text := text.bind Sum.getRight?

theorem plainJson_roundTrips : plainJson.RoundTrips where
  row _ := rfl
  row_notBlank _ := rfl
  ids _ := rfl

def hex64 (digit : Char) : String := String.ofList (List.replicate 64 digit)

def sampleSwap : SwapRecord where
  id := "a1"
  state := .created
  direction := .reverse
  peerNodeIdHex := "02"
  paymentHashHex := hex64 '7'
  claimPubkeyHex := "02"
  refundPubkeyHex := "03"
  refundHeight := 900
  outputScriptHex := "5120"
  address := "bcrt1p"
  network := .regtest
  onchainSat := "50000"
  invoiceMsat := "51000000"
  totalFeeSat := "1000"
  minerFeeSat := "300"
  createdAt := 1
  createdHeight := 800
  updatedAt := 1
  fundingAttempts := 0
  refundBumps := 0

def holding : SwapPatch where
  apply record := { record with heldAt := some 2, heldHeight := some 801 }
  id _ := rfl
  direction _ := rfl
  peerNodeIdHex _ := rfl
  paymentHashHex _ := rfl

theorem stored_empty (json : Json) (scanRows : Bool) (id : String) :
    (swapStore json scanRows).stored .empty id = none := by
  have absent : (swapStore json scanRows).load .empty id = none := rfl
  rw [LedgerStore.stored, absent, ite_self]

theorem laid_empty (json : Json) (scanRows : Bool) : (swapStore json scanRows).Laid .empty := by
  intro id record found
  rw [stored_empty] at found
  cases found

theorem lookups_and_store_follow_held :
    let swaps := [(.rehydrate, false), (.insert sampleSwap 1, false)].foldl SwapLedger.step
      (SwapLedger.fresh .empty : SwapLedger plainJson false)
    let next := swaps.step (.move "a1" .held holding 2, false)
    (next.get "a1").map (·.state) = some .held ∧ next.Recomputed ∧ swaps.Follows next ∧
      ∀ id, next.rehydrate.get id = (next.get id).map SwapRecord.reset := by
  have result := SwapLedger.lookups_and_store_follow plainJson_roundTrips (laid_empty plainJson false)
    [(.rehydrate, false), (.insert sampleSwap 1, false)] (.move "a1" .held holding 2, false)
  have stored := result.2.2 (by
    refine ⟨?_, ?_, ?_, trivial⟩ <;>
      (show SwapCall.wellFormed _ _ = true) <;> decide)
  exact ⟨by decide, result.1, result.2.1, stored (by decide)⟩

/-- A row whose hash is no hash is written, and no fresh copy has it. -/
theorem unreadable_row_in_memory_only :
    let swaps := [(.rehydrate, false), (.insert { sampleSwap with paymentHashHex := "zz" } 1, false)].foldl
      SwapLedger.step (SwapLedger.fresh .empty : SwapLedger plainJson false)
    (swaps.get "a1").isSome ∧ swaps.rehydrate.get "a1" = none := by
  decide

end Runs

end Beignet.Swaps
