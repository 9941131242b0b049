import Beignet.Data.KeyedMap

namespace Beignet.Data

open Function (update_self update_of_ne)

/-! Indexes of the ids of some rows by a key of the row, kept up to date one row at a time. -/

abbrev IdIndex (K I : Type*) := K → List I

namespace IdIndex

variable {K I : Type*} [DecidableEq K] [DecidableEq I] (index : IdIndex K I)

def add (index : IdIndex K I) (key : K) (id : I) : IdIndex K I :=
  Function.update index key (if id ∈ index key then index key else index key ++ [id])

def drop (key : K) (id : I) : IdIndex K I :=
  Function.update index key ((index key).filter (· ≠ id))

def rekey (id : I) (before after : Option K) : IdIndex K I :=
  let dropped := before.elim index fun key => index.drop key id
  after.elim dropped fun key => dropped.add key id

def refile (id : I) (before after : Option K) : IdIndex K I :=
  if before = after then index else index.rekey id before after

variable {index : IdIndex K I} {id : I} {key : K} {before after : Option K} {other : I} {k : K}

theorem mem_add : other ∈ index.add key id k ↔ other ∈ index k ∨ (k = key ∧ other = id) := by
  unfold add
  by_cases same : k = key
  · subst same
    rw [update_self]
    split <;> simp_all
  · rw [update_of_ne same]
    simp [same]

theorem mem_drop : other ∈ index.drop key id k ↔ other ∈ index k ∧ ¬(k = key ∧ other = id) := by
  unfold drop
  by_cases same : k = key
  · subst same
    simp
  · rw [update_of_ne same]
    simp [same]

variable (distinct : ∀ k, (index k).Nodup)
include distinct

theorem nodup_add (k : K) : (index.add key id k).Nodup := by
  unfold add
  by_cases same : k = key
  · subst same
    rw [update_self]
    split
    · exact distinct k
    · rename_i absent
      exact (distinct k).append (List.nodup_singleton id) (by simpa using absent)
  · rw [update_of_ne same]
    exact distinct k

theorem nodup_drop (k : K) : (index.drop key id k).Nodup := by
  unfold drop
  by_cases same : k = key
  · subst same
    rw [update_self]
    exact (distinct k).filter _
  · rw [update_of_ne same]
    exact distinct k

theorem nodup_rekey (k : K) : (index.rekey id before after k).Nodup := by
  have dropped : ∀ k, (before.elim index (fun key => index.drop key id) k).Nodup := by
    cases before with
    | none => exact distinct
    | some key => exact nodup_drop distinct
  cases after with
  | none => exact dropped k
  | some key => exact nodup_add dropped k

omit distinct in
theorem mem_rekey (filed : ∀ k, id ∈ index k ↔ before = some k) :
    other ∈ index.rekey id before after k ↔ if other = id then after = some k else other ∈ index k := by
  have dropped : other ∈ before.elim index (fun key => index.drop key id) k ↔ other ∈ index k ∧ other ≠ id := by
    cases before with
    | none =>
      have absent : id ∉ index k := by simp [filed]
      exact ⟨fun member => ⟨member, fun same => absent (same ▸ member)⟩, And.left⟩
    | some key =>
      rw [Option.elim_some, mem_drop]
      by_cases same : other = id
      · subst same
        simp [filed, eq_comm]
      · simp [same]
  unfold rekey
  cases after with
  | none =>
    rw [Option.elim_none, dropped]
    by_cases same : other = id <;> simp [same]
  | some key =>
    rw [Option.elim_some, mem_add, dropped]
    by_cases same : other = id <;> simp [same, eq_comm]

omit distinct in
theorem mem_refile (filed : ∀ k, id ∈ index k ↔ before = some k) :
    other ∈ index.refile id before after k ↔ if other = id then after = some k else other ∈ index k := by
  unfold refile
  split
  · rename_i same
    split
    · rename_i here
      rw [here, filed, same]
    · rfl
  · exact mem_rekey filed

theorem nodup_refile (k : K) : (index.refile id before after k).Nodup := by
  unfold refile
  split
  · exact distinct k
  · exact nodup_rekey distinct k

end IdIndex

section Indexes

variable {K I R : Type*} [DecidableEq I] {idOf : R → I} {keyOf : R → Option K}
  {rows rows' : KeyedMap idOf} {index index' : IdIndex K I}

structure Indexes (keyOf : R → Option K) (rows : KeyedMap idOf) (index : IdIndex K I) : Prop where
  distinct : ∀ key, (index key).Nodup
  filed : ∀ key id, id ∈ index key ↔ ∃ row, rows.get? id = some row ∧ keyOf row = some key

variable (indexes : Indexes keyOf rows index)
include indexes

theorem Indexes.change (id : I)
    (others : ∀ other, other ≠ id → rows'.get? other = rows.get? other) (distinct : ∀ key, (index' key).Nodup)
    (refiled : ∀ key other, other ∈ index' key ↔
      if other = id then (rows'.get? id).bind keyOf = some key else other ∈ index key) :
    Indexes keyOf rows' index' := by
  constructor
  · exact distinct
  · intro key other
    rw [refiled]
    split
    · rename_i same
      rw [same, Option.bind_eq_some_iff]
    · rename_i differ
      rw [indexes.filed, others other differ]

def rowsUnder (rows : KeyedMap idOf) (ids : List I) : List R := ids.filterMap rows.get?

theorem Indexes.rowsUnder_perm [DecidableEq K] (key : K) :
    (rowsUnder rows (index key)).Perm (rows.values.filter fun row => keyOf row = some key) := by
  have distinct : (rowsUnder rows (index key)).Nodup := by
    refine List.Nodup.filterMap ?_ (indexes.distinct key)
    intro id other row found here
    rw [← ((rows.get?_eq_some id row).mp found).2, ← ((rows.get?_eq_some other row).mp here).2]
  rw [List.perm_ext_iff_of_nodup distinct (rows.nodup_values.filter _)]
  intro row
  simp only [rowsUnder, List.mem_filterMap, List.mem_filter, decide_eq_true_eq]
  constructor
  · rintro ⟨id, member, found⟩
    obtain ⟨same, here, keyed⟩ := (indexes.filed key id).mp member
    rw [found] at here
    cases here
    exact ⟨((rows.get?_eq_some id row).mp found).1, keyed⟩
  · rintro ⟨member, keyed⟩
    have found := (rows.get?_eq_some (idOf row) row).mpr ⟨member, rfl⟩
    exact ⟨idOf row, (indexes.filed key (idOf row)).mpr ⟨row, found, keyed⟩, found⟩

theorem Indexes.length_rowsUnder (key : K) :
    (rowsUnder rows (index key)).length = (index key).length := by
  have present : ∀ id ∈ index key, (rows.get? id).isSome := by
    intro id member
    obtain ⟨row, found, -⟩ := (indexes.filed key id).mp member
    simp [found]
  unfold rowsUnder
  generalize index key = ids at present
  induction ids with
  | nil => rfl
  | cons id rest ih =>
    obtain ⟨row, found⟩ := Option.isSome_iff_exists.mp (present id (by simp))
    rw [List.filterMap_cons_some found, List.length_cons, List.length_cons,
      ih fun other member => present other (by simp [member])]

end Indexes

section Listed

variable {K I R : Type*} [DecidableEq K] [DecidableEq I] {idOf : R → I} {keyOf : R → K}
  {rows : KeyedMap idOf} {index : IdIndex K I}

def Listed (keyOf : R → K) (rows : KeyedMap idOf) (index : IdIndex K I) : Prop :=
  ∀ key, index key = (rows.values.filter fun row => keyOf row = key).map idOf

section

variable (listed : Listed keyOf rows index)
include listed

theorem Listed.rowsUnder_eq (key : K) :
    rowsUnder rows (index key) = rows.values.filter fun row => keyOf row = key := by
  rw [listed key, rowsUnder, List.filterMap_map]
  have found : ∀ row ∈ rows.values.filter (fun row => keyOf row = key), (rows.get? ∘ idOf) row = some row := by
    intro row member
    exact (rows.get?_eq_some _ _).mpr ⟨(List.mem_filter.mp member).1, rfl⟩
  rw [List.filterMap_congr found]
  exact List.filterMap_some

theorem Listed.append {row : R} (absent : rows.has (idOf row) = false) :
    Listed keyOf (rows.set row) (index.add (keyOf row) (idOf row)) := by
  intro key
  have fresh : idOf row ∉ index (keyOf row) := by
    rw [listed, List.mem_map]
    rintro ⟨other, member, same⟩
    exact (rows.has_eq_false _).mp absent other (List.mem_filter.mp member).1 same
  rw [KeyedMap.values_set_of_absent absent, List.filter_append, List.map_append, ← listed key]
  unfold IdIndex.add
  by_cases same : key = keyOf row
  · subst same
    rw [update_self, if_neg fresh]
    simp
  · rw [update_of_ne same]
    simp [Ne.symm same]

theorem Listed.replace {before after : R} (found : before ∈ rows.values)
    (sameId : idOf after = idOf before) (sameKey : keyOf after = keyOf before) :
    Listed keyOf (rows.set after) index := by
  intro key
  have present : rows.has (idOf after) = true := (rows.has_eq_true _).mpr ⟨before, found, sameId.symm⟩
  have values : (rows.set after).values = rows.values.map fun row => if idOf row = idOf after then after else row := by
    unfold KeyedMap.set
    rw [dif_pos present]
  have kept : ∀ row ∈ rows.values, keyOf (if idOf row = idOf after then after else row) = keyOf row ∧
      idOf (if idOf row = idOf after then after else row) = idOf row := by
    intro row member
    split
    · rename_i same
      have equal := KeyedMap.eq_of_key_eq member found (same.trans sameId)
      rw [equal]
      exact ⟨sameKey, sameId⟩
    · exact ⟨rfl, rfl⟩
  rw [listed key, values, List.filter_map, List.map_map]
  have filtered : rows.values.filter ((fun row => decide (keyOf row = key)) ∘
      fun row => if idOf row = idOf after then after else row) = rows.values.filter fun row => keyOf row = key := by
    apply List.filter_congr
    intro row member
    rw [Function.comp_apply, (kept row member).1]
  rw [filtered]
  apply List.map_congr_left
  intro row member
  exact (kept row (List.mem_filter.mp member).1).2.symm

theorem Listed.delete {row : R} (found : row ∈ rows.values) :
    Listed keyOf (rows.delete (idOf row)) (index.drop (keyOf row) (idOf row)) := by
  intro key
  have values : (rows.delete (idOf row)).values = rows.values.filter fun other => idOf other ≠ idOf row := rfl
  rw [values, List.filter_filter]
  unfold IdIndex.drop
  by_cases same : key = keyOf row
  · subst same
    rw [update_self, listed, List.filter_map, List.filter_filter]
    congr 1
    apply List.filter_congr
    intro other member
    simp [Bool.and_comm]
  · rw [update_of_ne same, listed]
    congr 1
    apply List.filter_congr
    intro other member
    have differs : keyOf other = key → idOf other ≠ idOf row := by
      intro keyed equal
      rw [KeyedMap.eq_of_key_eq member found equal] at keyed
      exact same keyed.symm
    by_cases keyed : keyOf other = key
    · simp [keyed, differs keyed]
    · simp [keyed]

end

end Listed

end Beignet.Data
