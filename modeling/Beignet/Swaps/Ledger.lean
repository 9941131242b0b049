import Beignet.Data.IdIndex
import Beignet.Storage.DurableLedger
import Beignet.Swaps.Record

namespace Beignet.Swaps

open Beignet.Data Beignet.Storage

section Codec

/-- The texts of the storage, with `JSON.stringify` and `JSON.parse` of a row and of the id index.
    A text whose fields are not of the types of a row does not parse. -/
structure Json where
  Text : Type
  blank : Text
  isBlank : Text → Bool
  stringify : SwapRecord → Text
  parse : Text → Option SwapRecord
  stringifyIds : List String → Text
  parseIds : Text → Option (List String)

structure Json.RoundTrips (json : Json) : Prop where
  row : ∀ record, json.parse (json.stringify record) = some record
  row_notBlank : ∀ record, json.isBlank (json.stringify record) = false
  ids : ∀ ids, json.parseIds (json.stringifyIds ids) = some ids

abbrev swapStore (json : Json) (scanRows : Bool) : LedgerStore SwapRecord json.Text where
  idOf := SwapRecord.id
  ledger := "swap"
  scanRows := scanRows
  blank := json.blank
  isBlank := json.isBlank
  encode := json.stringify
  decode raw := (json.parse raw).bind fun record => if record.readable then some record.reset else none
  encodeIds := json.stringifyIds
  decodeIds := json.parseIds

theorem Json.RoundTrips.lawful {json : Json} (roundTrips : json.RoundTrips) (scanRows : Bool) :
    (swapStore json scanRows).Lawful SwapRecord.reset SwapRecord.readable where
  decode_encode record := by simp [roundTrips.row, LedgerStore.readBack]
  isBlank_encode := roundTrips.row_notBlank
  idOf_reset _ := rfl
  decodeIds_encodeIds := roundTrips.ids

end Codec

section Indexes

def SwapRecord.stateKey (record : SwapRecord) : SwapDirection × SwapState := (record.direction, record.state)

def SwapRecord.createdPeer (record : SwapRecord) : Option String :=
  if record.state = .created then some record.peerNodeIdHex else none

structure SwapIndexes where
  idsByHash : IdIndex String String
  createdIdsByPeer : IdIndex String String
  idsByState : IdIndex (SwapDirection × SwapState) String
  atRiskIds : IdIndex Unit String
  resolvedIdsByDepth : IdIndex Int String

namespace SwapIndexes

def empty : SwapIndexes := ⟨fun _ => [], fun _ => [], fun _ => [], fun _ => [], fun _ => []⟩

def track (indexes : SwapIndexes) (id : String) (before after : Option SwapRecord) : SwapIndexes where
  -- Left alone when unchanged, so `byPaymentHash` keeps the order of insertion.
  idsByHash := indexes.idsByHash.refile id (before.map (·.paymentHashHex)) (after.map (·.paymentHashHex))
  createdIdsByPeer :=
    indexes.createdIdsByPeer.rekey id (before.bind SwapRecord.createdPeer) (after.bind SwapRecord.createdPeer)
  idsByState := indexes.idsByState.refile id (before.map SwapRecord.stateKey) (after.map SwapRecord.stateKey)
  resolvedIdsByDepth :=
    indexes.resolvedIdsByDepth.refile id (before.bind SwapRecord.resolvedDepth) (after.bind SwapRecord.resolvedDepth)
  atRiskIds :=
    if after.any SwapRecord.isSwapExposure then indexes.atRiskIds.add () id else indexes.atRiskIds.drop () id

end SwapIndexes

end Indexes

section Ledger

/-- Fields that a caller changes on a row. The id, the direction, the peer and the hash are no such field. -/
structure SwapPatch where
  apply : SwapRecord → SwapRecord
  id : ∀ record, (apply record).id = record.id
  direction : ∀ record, (apply record).direction = record.direction
  peerNodeIdHex : ∀ record, (apply record).peerNodeIdHex = record.peerNodeIdHex
  paymentHashHex : ∀ record, (apply record).paymentHashHex = record.paymentHashHex

structure SwapLedger (json : Json) (scanRows : Bool) where
  ledger : DurableLedger (swapStore json scanRows)
  indexes : SwapIndexes

def SwapRecord.hasPreimage (record : SwapRecord) : Bool := record.preimageHex.any (· ≠ "")

def withoutPreimageRemoval (current : SwapRecord) (patch : SwapPatch) (record : SwapRecord) : SwapRecord :=
  let patched := patch.apply record
  if current.hasPreimage then
    { patched with preimageHex := record.preimageHex, preimageSource := record.preimageSource }
  else patched

def SwapRecord.opened (input : SwapRecord) (now : Int) : SwapRecord :=
  { input with state := .created, updatedAt := now }

namespace SwapLedger

variable {json : Json} {scanRows : Bool} (swaps : SwapLedger json scanRows) (ids : List String)
  (direction : SwapDirection) (id : String)

def fresh (table : Metadata json.Text) : SwapLedger json scanRows where
  ledger := { table := table, records := .empty, rehydrated := false }
  indexes := .empty

def rehydrate : SwapLedger json scanRows :=
  let ledger := swaps.ledger.rehydrate
  { ledger := ledger
    indexes := ledger.list.foldl (fun indexes record => indexes.track record.id none (some record)) .empty }

def get (id : String) : Option SwapRecord := swaps.ledger.get id

def list : List SwapRecord := swaps.ledger.list

def copies : List SwapRecord := rowsUnder swaps.ledger.records ids

def byPaymentHash (paymentHashHex : String) : List SwapRecord := swaps.copies (swaps.indexes.idsByHash paymentHashHex)

def atRisk (resolutionConfirmations : Nat) : List SwapRecord :=
  swaps.copies (swaps.indexes.atRiskIds ()) ++
    (List.range' 1 (resolutionConfirmations - 1)).flatMap fun (depth : Nat) =>
      swaps.copies (swaps.indexes.resolvedIdsByDepth (depth : Int))

def createdCount (peerNodeIdHex : String) (direction : Option SwapDirection) : Nat :=
  let ids := swaps.indexes.createdIdsByPeer peerNodeIdHex
  match direction with
  | none => ids.length
  | some direction => ids.countP fun id => (swaps.get id).any (·.direction = direction)

def countInStates (states : List SwapState) : Nat :=
  (states.map fun state => (swaps.indexes.idsByState (direction, state)).length).sum

def pastRetention (height retentionBlocks : Int) : List SwapRecord :=
  terminalStates.flatMap fun state =>
    (swaps.copies (swaps.indexes.idsByState (direction, state))).filter fun record =>
      record.endedAt + retentionBlocks ≤ height

abbrev SwapTransition (json : Json) (scanRows : Bool) :=
  LedgerOutcome × Option SwapRecord × SwapLedger json scanRows

def tracked (before : Option SwapRecord)
    (written : DurableLedger.Written (swapStore json scanRows)) : SwapTransition json scanRows :=
  let (outcome, record, ledger) := written
  if outcome = .applied then (outcome, record, ⟨ledger, swaps.indexes.track id before record⟩)
  else (outcome, record, { swaps with ledger := ledger })

def insert (input : SwapRecord) (now : Int) (throws : Bool) : SwapTransition json scanRows :=
  swaps.tracked input.id none (swaps.ledger.insert (input.opened now) throws)

/-- Along a legal arrow of the row's direction: a row in any other state is stale. -/
def move (target : SwapState) (patch : SwapPatch) (now : Int) (throws : Bool) : SwapTransition json scanRows :=
  if swaps.ledger.rehydrated = false then (.notRehydrated, none, swaps)
  else
    match swaps.get id with
    | none => (.missing, none, swaps)
    | some current =>
      let sources := swapSourcesFor current.direction target
      if sources = [] then (.stale, some current, swaps)
      else swaps.tracked id (some current) (swaps.ledger.transition id (fun record => record.state ∈ sources)
        (fun record => { withoutPreimageRemoval current patch record with state := target, updatedAt := now }) throws)

def patch (id : String) (patch : SwapPatch) (now : Int) (throws : Bool) : SwapTransition json scanRows :=
  if swaps.ledger.rehydrated = false then (.notRehydrated, none, swaps)
  else
    match swaps.get id with
    | none => (.missing, none, swaps)
    | some current =>
      swaps.tracked id (some current) (swaps.ledger.transition id (fun record => record.state = current.state)
        (fun record =>
          { withoutPreimageRemoval current patch record with state := current.state, updatedAt := now }) throws)

def recordPreimage (id preimageHex : String) (source : SwapPreimageSource) (now : Int) (throws : Bool) :
    SwapTransition json scanRows :=
  if swaps.ledger.rehydrated = false then (.notRehydrated, none, swaps)
  else
    match swaps.get id with
    | none => (.missing, none, swaps)
    | some current =>
      if isTerminalSwapState current.state then (.stale, some current, swaps)
      else if current.hasPreimage then (.applied, some current, swaps)
      else swaps.tracked id (some current) (swaps.ledger.transition id (fun record => record.state = current.state)
        (fun record =>
          { record with
            preimageHex := some preimageHex
            preimageSource := some source
            state := current.state
            updatedAt := now }) throws)

def forget (throws : Bool) : Bool × SwapLedger json scanRows :=
  match swaps.get id with
  | none => (false, swaps)
  | some current =>
    if isTerminalSwapState current.state = false then (false, swaps)
    else
      let (removed, ledger) := swaps.ledger.remove id throws
      if removed then (true, ⟨ledger, swaps.indexes.track id (some current) none⟩) else (false, swaps)

def forgetAll (throws : Bool) : Bool × SwapLedger json scanRows :=
  match ids.eraseDups.mapM fun id => (swaps.get id).filter (isTerminalSwapState ·.state) with
  | none => (false, swaps)
  | some rows =>
    let (removed, ledger) := swaps.ledger.removeSet (rows.map (·.id)) throws
    if removed then
      (true, ⟨ledger, rows.foldl (fun indexes row => indexes.track row.id (some row) none) swaps.indexes⟩)
    else (false, swaps)

end SwapLedger

inductive SwapCall
  | insert (input : SwapRecord) (now : Int)
  | move (id : String) (target : SwapState) (patch : SwapPatch) (now : Int)
  | patch (id : String) (patch : SwapPatch) (now : Int)
  | recordPreimage (id preimageHex : String) (source : SwapPreimageSource) (now : Int)
  | forget (id : String)
  | forgetAll (ids : List String)
  | rehydrate

variable {json : Json} {scanRows : Bool}

def SwapLedger.step (swaps : SwapLedger json scanRows) : SwapCall × Bool → SwapLedger json scanRows
  | (.insert input now, throws) => (swaps.insert input now throws).2.2
  | (.move id target patch now, throws) => (swaps.move id target patch now throws).2.2
  | (.patch id patch now, throws) => (swaps.patch id patch now throws).2.2
  | (.recordPreimage id preimageHex source now, throws) => (swaps.recordPreimage id preimageHex source now throws).2.2
  | (.forget id, throws) => (swaps.forget id throws).2
  | (.forgetAll ids, throws) => (swaps.forgetAll ids throws).2
  | (.rehydrate, _) => swaps.rehydrate

end Ledger

end Beignet.Swaps
