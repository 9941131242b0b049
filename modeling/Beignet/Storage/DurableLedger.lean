import Beignet.Data.KeyedMap

namespace Beignet.Storage

open Beignet.Data

theorem nodup_eraseDups {α : Type} [DecidableEq α] (ids : List α) : ids.eraseDups.Nodup := by
  induction h : ids.length using Nat.strong_induction_on generalizing ids with
  | _ size ih =>
    cases ids with
    | nil => exact List.nodup_nil
    | cons id rest =>
      rw [List.eraseDups_cons, List.nodup_cons]
      have shorter : (rest.filter fun other => !(other == id)).length < size := by
        have bound := List.length_filter_le (fun other => !(other == id)) rest
        rw [← h, List.length_cons]
        omega
      exact ⟨by simp, ih _ shorter _ rfl⟩

theorem eraseDups_of_nodup {α : Type} [DecidableEq α] {ids : List α} (distinct : ids.Nodup) :
    ids.eraseDups = ids := by
  induction ids with
  | nil => rfl
  | cons id rest ih =>
    obtain ⟨fresh, tail⟩ := List.nodup_cons.mp distinct
    have others : (rest.filter fun other => !(other == id)) = rest := by
      rw [List.filter_eq_self]
      intro other member
      have differ : other ≠ id := fun same => fresh (same ▸ member)
      simpa using differ
    rw [List.eraseDups_cons, others, ih tail]

section Metadata

inductive MetadataKey
  | row (ledger id : String)
  | index (ledger : String)
  | other (key : String)
  deriving DecidableEq, Repr

abbrev Metadata (T : Type) := KeyedMap (Prod.fst : MetadataKey × T → MetadataKey)

namespace Metadata

variable {T : Type} (table : Metadata T) (key other : MetadataKey)

def load (key : MetadataKey) : Option T := (table.get? key).map Prod.snd

def save (key : MetadataKey) (value : T) : Metadata T := table.set (key, value)

def remove (key : MetadataKey) : Metadata T := table.delete key

def rowsOf (ledger : String) : List (String × T) :=
  (table.values.filterMap fun
    | (.row name id, value) => if name = ledger then some (id, value) else none
    | _ => none).insertionSort fun a b => a.1 ≤ b.1

theorem load_save (value : T) :
    (table.save key value).load other = if other = key then some value else table.load other := by
  unfold load save
  rw [KeyedMap.get?_set]
  split <;> rfl

theorem load_remove : (table.remove key).load other = if other = key then none else table.load other := by
  unfold load remove
  rw [KeyedMap.get?_delete]
  split <;> rfl

theorem load_eq_some {key : MetadataKey} {value : T} : table.load key = some value ↔ (key, value) ∈ table.values := by
  unfold load
  simp only [Option.map_eq_some_iff, KeyedMap.get?_eq_some]
  constructor
  · rintro ⟨⟨other, stored⟩, ⟨member, rfl⟩, rfl⟩
    exact member
  · intro member
    exact ⟨(key, value), ⟨member, rfl⟩, rfl⟩

theorem mem_rowsOf {ledger id : String} {value : T} :
    (id, value) ∈ table.rowsOf ledger ↔ table.load (.row ledger id) = some value := by
  rw [load_eq_some, rowsOf, List.mem_insertionSort, List.mem_filterMap]
  constructor
  · rintro ⟨⟨key, stored⟩, member, found⟩
    cases key with
    | row name other =>
      dsimp only at found
      split at found
      · rename_i same
        cases found
        rw [same] at member
        exact member
      · cases found
    | index => cases found
    | other => cases found
  · intro member
    exact ⟨_, member, if_pos rfl⟩

end Metadata

end Metadata

section Store

/-- A ledger's part of the metadata table. The id index is a row of its own, unless the storage can scan. -/
structure LedgerStore (R T : Type) where
  idOf : R → String
  ledger : String
  scanRows : Bool
  blank : T
  isBlank : T → Bool
  encode : R → T
  decode : T → Option R
  encodeIds : List String → T
  decodeIds : T → Option (List String)

variable {R T : Type} (store : LedgerStore R T)

namespace LedgerStore

def rowKey (id : String) : MetadataKey := .row store.ledger id

def indexKey : MetadataKey := .index store.ledger

variable (table : Metadata T)

def readIndex : Option (List String) :=
  match table.load store.indexKey with
  | none => some []
  | some raw => store.decodeIds raw

/-- A row that was overwritten with a blank tombstone, or that no longer decodes, is skipped. -/
def decodeRow (value : Option T) : Option R :=
  value.bind fun raw => if store.isBlank raw then none else store.decode raw

def load (table : Metadata T) (id : String) : Option R := store.decodeRow (table.load (store.rowKey id))

def loadAll : List R :=
  if store.scanRows then (table.rowsOf store.ledger).filterMap fun row => store.decodeRow (some row.2)
  else
    match store.readIndex table with
    | none => []
    | some ids => ids.filterMap (store.load table)

def put (record : R) : Option (Metadata T) :=
  let id := store.idOf record
  let saved := table.save (store.rowKey id) (store.encode record)
  if store.scanRows then some saved
  else (store.readIndex table).map fun ids =>
    if id ∈ ids then saved else saved.save store.indexKey (store.encodeIds (ids ++ [id]))

def delete (id : String) : Option (Metadata T) :=
  if store.scanRows then some (table.remove (store.rowKey id))
  else (store.readIndex table).map fun ids =>
    (table.save (store.rowKey id) store.blank).save store.indexKey (store.encodeIds (ids.filter (· ≠ id)))

def stored (id : String) : Option R :=
  if store.scanRows ∨ id ∈ (store.readIndex table).getD [] then store.load table id else none

def Laid : Prop := ∀ id record, store.stored table id = some record → store.idOf record = id

def readBack (reset : R → R) (readable : R → Bool) (record : R) : Option R :=
  if readable record then some (reset record) else none

structure Lawful (reset : R → R) (readable : R → Bool) : Prop where
  decode_encode : ∀ record, store.decode (store.encode record) = readBack reset readable record
  isBlank_encode : ∀ record, store.isBlank (store.encode record) = false
  idOf_reset : ∀ record, store.idOf (reset record) = store.idOf record
  decodeIds_encodeIds : ∀ ids, store.decodeIds (store.encodeIds ids) = some ids

variable {store} {table next : Metadata T} {reset : R → R} {readable : R → Bool} {record : R} {id : String}
  (value : T)

theorem decoded_of_stored (found : store.stored table id = some record) : ∃ raw, store.decode raw = some record := by
  unfold stored at found
  split at found
  · obtain ⟨raw, -, decoded⟩ := Option.bind_eq_some_iff.mp found
    split at decoded
    · cases decoded
    · exact ⟨raw, decoded⟩
  · cases found

theorem Laid.mem_loadAll (laid : store.Laid table) :
    record ∈ store.loadAll table ↔ store.stored table (store.idOf record) = some record := by
  unfold loadAll
  split
  · rename_i scans
    have stored : ∀ id, store.stored table id = store.load table id := fun id => if_pos (Or.inl scans)
    rw [stored, List.mem_filterMap]
    constructor
    · rintro ⟨⟨id, value⟩, row, decoded⟩
      have found : store.load table id = some record := by
        rw [load, rowKey, (table.mem_rowsOf).mp row]
        exact decoded
      rw [laid id record ((stored id).trans found)]
      exact found
    · intro found
      rw [load, decodeRow] at found
      obtain ⟨value, row, -⟩ := Option.bind_eq_some_iff.mp found
      refine ⟨(store.idOf record, value), (table.mem_rowsOf).mpr row, ?_⟩
      rw [decodeRow, ← row]
      exact found
  · rename_i scans
    have stored : ∀ id, store.stored table id =
        if id ∈ (store.readIndex table).getD [] then store.load table id else none := by
      intro id
      simp [LedgerStore.stored, scans]
    have listing : (match store.readIndex table with
        | none => []
        | some ids => ids.filterMap (store.load table)) =
        ((store.readIndex table).getD []).filterMap (store.load table) := by
      cases store.readIndex table <;> rfl
    rw [listing, List.mem_filterMap]
    constructor
    · rintro ⟨id, listed, found⟩
      have here : store.stored table id = some record := by rw [stored, if_pos listed, found]
      rw [laid id record here]
      exact here
    · intro found
      rw [stored] at found
      split at found
      · rename_i listed
        exact ⟨_, listed, found⟩
      · cases found

theorem load_save_row (other : String) : store.load (table.save (store.rowKey id) value) other =
      if other = id then store.decodeRow (some value) else store.load table other := by
  unfold load rowKey
  rw [Metadata.load_save]
  by_cases same : other = id
  · rw [if_pos (by rw [same]), if_pos same]
  · rw [if_neg (by simpa using same), if_neg same]

theorem load_save_index (other : String) :
    store.load (table.save store.indexKey value) other = store.load table other := by
  unfold load rowKey indexKey
  rw [Metadata.load_save, if_neg (by simp)]

theorem readIndex_save_row : store.readIndex (table.save (store.rowKey id) value) = store.readIndex table := by
  unfold readIndex rowKey indexKey
  rw [Metadata.load_save, if_neg (by simp)]

theorem readIndex_save_index : store.readIndex (table.save store.indexKey value) = store.decodeIds value := by
  unfold readIndex
  rw [Metadata.load_save, if_pos rfl]

theorem Lawful.stored_put (lawful : store.Lawful reset readable) (laid : store.Laid table)
    (written : store.put table record = some next) : store.Laid next ∧ ∀ other, store.stored next other =
      if other = store.idOf record then readBack reset readable record else store.stored table other := by
  have decoded : store.decodeRow (some (store.encode record)) = readBack reset readable record := by
    simp [decodeRow, lawful.isBlank_encode, lawful.decode_encode record]
  refine (and_iff_right_of_imp fun result => ?_).mpr ?_
  · intro other found here
    rw [result] at here
    split at here
    · rename_i same
      unfold readBack at here
      split at here
      · cases here
        rw [lawful.idOf_reset, same]
      · cases here
    · exact laid other found here
  · unfold put at written
    dsimp only at written
    split at written
    · rename_i scans
      cases written
      intro other
      simp only [stored, scans, true_or, if_true, load_save_row, decoded]
    · rename_i scans
      obtain ⟨ids, index, rfl⟩ := Option.map_eq_some_iff.mp written
      have before : ∀ other, store.stored table other = if other ∈ ids then store.load table other else none := by
        intro other
        simp [stored, scans, index]
      by_cases listed : store.idOf record ∈ ids
      · rw [if_pos listed]
        intro other
        rw [before]
        simp only [stored, readIndex_save_row, index, load_save_row, decoded]
        by_cases same : other = store.idOf record
        · subst same
          simp [scans, listed]
        · simp [scans, same]
      · rw [if_neg listed]
        have indexed : store.readIndex ((table.save (store.rowKey (store.idOf record)) (store.encode record)).save
            store.indexKey (store.encodeIds (ids ++ [store.idOf record]))) = some (ids ++ [store.idOf record]) := by
          rw [readIndex_save_index, lawful.decodeIds_encodeIds]
        intro other
        rw [before]
        simp only [stored, indexed, load_save_index, load_save_row, decoded]
        by_cases same : other = store.idOf record
        · subst same
          simp [scans]
        · simp [scans, same]

theorem Lawful.stored_delete (lawful : store.Lawful reset readable) (laid : store.Laid table)
    (written : store.delete table id = some next) :
    store.Laid next ∧ ∀ other, store.stored next other = if other = id then none else store.stored table other := by
  refine (and_iff_right_of_imp fun result => ?_).mpr ?_
  · intro other found here
    rw [result] at here
    split at here
    · cases here
    · exact laid other found here
  · unfold delete at written
    split at written
    · rename_i scans
      cases written
      intro other
      simp only [stored, scans, true_or, if_true, load, rowKey, Metadata.load_remove]
      by_cases same : other = id
      · simp [same, decodeRow]
      · simp [same]
    · rename_i scans
      obtain ⟨ids, index, rfl⟩ := Option.map_eq_some_iff.mp written
      have indexed : store.readIndex ((table.save (store.rowKey id) store.blank).save store.indexKey
          (store.encodeIds (ids.filter (· ≠ id)))) = some (ids.filter (· ≠ id)) := by
        rw [readIndex_save_index, lawful.decodeIds_encodeIds]
      intro other
      simp only [stored, indexed, index, load_save_index, load_save_row]
      by_cases same : other = id
      · simp [same, scans]
      · simp [same, scans]

end LedgerStore

end Store

section Ledger

inductive LedgerOutcome
  | applied
  | stale
  | missing
  | storageFailed
  | notRehydrated
  deriving DecidableEq, Repr

structure DurableLedger {R T : Type} (store : LedgerStore R T) where
  table : Metadata T
  records : KeyedMap store.idOf
  rehydrated : Bool

namespace DurableLedger

variable {R T : Type} {store : LedgerStore R T} (ledger : DurableLedger store) (record : R) (throws : Bool)

def rehydrate : DurableLedger store :=
  { ledger with
    records := (store.loadAll ledger.table).foldl KeyedMap.set .empty
    rehydrated := true }

def get (id : String) : Option R := ledger.records.get? id

def list : List R := ledger.records.values

abbrev Written (store : LedgerStore R T) := LedgerOutcome × Option R × DurableLedger store

variable (written : Written store)

/-- The durable write comes first, and memory follows only when it did not throw. -/
def write : Written store :=
  match if throws then none else store.put ledger.table record with
  | none => (.storageFailed, none, ledger)
  | some table => (.applied, some record, { ledger with table := table, records := ledger.records.set record })

def insert : Written store :=
  if ledger.rehydrated = false then (.notRehydrated, none, ledger)
  else
    match ledger.get (store.idOf record) with
    | some existing => (.stale, some existing, ledger)
    | none => ledger.write record throws

def transition (id : String) (mayStart : R → Bool) (next : R → R) (throws : Bool) : Written store :=
  if ledger.rehydrated = false then (.notRehydrated, none, ledger)
  else
    match ledger.get id with
    | none => (.missing, none, ledger)
    | some current =>
      if mayStart current then ledger.write (next current) throws else (.stale, some current, ledger)

def remove (id : String) (throws : Bool) : Bool × DurableLedger store :=
  if ledger.records.has id = false then (false, ledger)
  else
    match if throws then none else store.delete ledger.table id with
    | none => (false, ledger)
    | some table => (true, { ledger with table := table, records := ledger.records.delete id })

def removeSet (ids : List String) (throws : Bool) : Bool × DurableLedger store :=
  let present := ids.eraseDups.filter ledger.records.has
  match if throws then none else present.foldlM store.delete ledger.table with
  | none => (false, ledger)
  | some table =>
    (true, { ledger with table := table, records := present.foldl KeyedMap.delete ledger.records })

def Wrote : Prop :=
  ∃ table, store.put ledger.table record = some table ∧
    written = (.applied, some record, { ledger with table := table, records := ledger.records.set record })

def Left : Prop := written.1 ≠ .applied ∧ written.2.2 = ledger

variable (record : R) (id : String) (throws : Bool)

theorem write_cases : ledger.Left (ledger.write record throws) ∨ ledger.Wrote record (ledger.write record throws) := by
  unfold write
  split
  · exact .inl ⟨by simp, rfl⟩
  rename_i table stored
  split at stored
  · cases stored
  exact .inr ⟨table, stored, rfl⟩

theorem insert_cases : ledger.Left (ledger.insert record throws) ∨
    (ledger.rehydrated = true ∧ ledger.get (store.idOf record) = none ∧
      ledger.Wrote record (ledger.insert record throws)) := by
  unfold insert
  split
  · exact .inl ⟨by simp, rfl⟩
  rename_i running
  split
  · exact .inl ⟨by simp, rfl⟩
  rename_i absent
  rcases ledger.write_cases record throws with left | wrote
  · exact .inl left
  · exact .inr ⟨by simpa using running, absent, wrote⟩

theorem transition_cases (mayStart : R → Bool) (next : R → R) :
    ledger.Left (ledger.transition id mayStart next throws) ∨
      (∃ current, ledger.rehydrated = true ∧ ledger.get id = some current ∧ mayStart current = true ∧
        ledger.Wrote (next current) (ledger.transition id mayStart next throws)) := by
  unfold transition
  split
  · exact .inl ⟨by simp, rfl⟩
  rename_i running
  split
  · exact .inl ⟨by simp, rfl⟩
  rename_i current found
  split
  · rename_i starts
    rcases ledger.write_cases (next current) throws with left | wrote
    · exact .inl left
    · exact .inr ⟨current, by simpa using running, found, starts, wrote⟩
  · exact .inl ⟨by simp, rfl⟩

theorem remove_cases : (ledger.remove id throws).1 = false ∨ ∃ table, store.delete ledger.table id = some table ∧
      ledger.remove id throws = (true, { ledger with table := table, records := ledger.records.delete id }) := by
  unfold remove
  split
  · exact .inl rfl
  split
  · exact .inl rfl
  rename_i table stored
  split at stored
  · cases stored
  exact .inr ⟨table, stored, rfl⟩

theorem removeSet_cases {ids : List String} (distinct : ids.Nodup)
    (present : ∀ id ∈ ids, ledger.records.has id = true) : (ledger.removeSet ids throws).1 = false ∨
    ∃ table, ids.foldlM store.delete ledger.table = some table ∧ ledger.removeSet ids throws =
        (true, { ledger with table := table, records := ids.foldl KeyedMap.delete ledger.records }) := by
  unfold removeSet
  rw [eraseDups_of_nodup distinct, List.filter_eq_self.mpr present]
  dsimp only
  split
  · exact .inl rfl
  rename_i table stored
  split at stored
  · cases stored
  exact .inr ⟨table, stored, rfl⟩

theorem get?_foldl_set {rows : List R} {records : KeyedMap store.idOf} {id : String}
    (unique : ∀ row ∈ rows, ∀ other ∈ rows, store.idOf row = store.idOf other → row = other) :
    (rows.foldl KeyedMap.set records).get? id = (rows.find? (store.idOf · = id)).or (records.get? id) := by
  induction rows generalizing records with
  | nil => rfl
  | cons row rest ih =>
    rw [List.foldl_cons, ih fun a inside b other => unique a (by simp [inside]) b (by simp [other]),
      KeyedMap.get?_set, List.find?_cons]
    by_cases here : store.idOf row = id
    · simp only [here, decide_true, if_true, Option.some_or]
      cases found : rest.find? (store.idOf · = id) with
      | none => rfl
      | some other =>
        have member := List.mem_of_find?_eq_some found
        have keyed : store.idOf other = id := by simpa using List.find?_some found
        rw [unique row (by simp) other (by simp [member]) (here.trans keyed.symm)]
        rfl
    · simp [here, Ne.symm here]

theorem get?_rehydrate (laid : store.Laid ledger.table) (id : String) :
    ledger.rehydrate.records.get? id = store.stored ledger.table id := by
  have unique : ∀ row ∈ store.loadAll ledger.table, ∀ other ∈ store.loadAll ledger.table,
      store.idOf row = store.idOf other → row = other := by
    intro row inside other member same
    have found := laid.mem_loadAll.mp inside
    rw [same, laid.mem_loadAll.mp member] at found
    cases found
    rfl
  show ((store.loadAll ledger.table).foldl KeyedMap.set .empty).get? id = _
  rw [get?_foldl_set unique, KeyedMap.get?_empty, Option.or_none]
  cases stored : store.stored ledger.table id with
  | none =>
    rw [List.find?_eq_none]
    intro row member keyed
    have found := laid.mem_loadAll.mp member
    rw [decide_eq_true_eq] at keyed
    rw [keyed, stored] at found
    cases found
  | some record =>
    have keyed := laid id record stored
    have member := laid.mem_loadAll.mpr (keyed ▸ stored)
    cases found : (store.loadAll ledger.table).find? (store.idOf · = id) with
    | none => simpa [keyed] using List.find?_eq_none.mp found record member
    | some other =>
      have same : store.idOf other = id := by simpa using List.find?_some found
      rw [unique other (List.mem_of_find?_eq_some found) record member (same.trans keyed.symm)]

end DurableLedger

end Ledger

end Beignet.Storage
