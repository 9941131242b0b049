import Mathlib

namespace Beignet.Data

/-- A map that iterates in insertion order and whose values carry their own
    key. Writing an existing key keeps its position. -/
structure KeyedMap {κ : Type*} {α : Type*} (key : α → κ) where
  values : List α
  nodup : (values.map key).Nodup

namespace KeyedMap

variable {κ : Type*} {α : Type*} {key : α → κ}

theorem ext_values {m n : KeyedMap key} (same : m.values = n.values) : m = n := by
  cases m
  cases n
  cases same
  rfl

def empty : KeyedMap key := ⟨[], List.nodup_nil⟩

instance : Inhabited (KeyedMap key) := ⟨empty⟩

instance [DecidableEq α] : DecidableEq (KeyedMap key) := fun m n =>
  decidable_of_iff (m.values = n.values) ⟨ext_values, fun same => same ▸ rfl⟩

def size (m : KeyedMap key) : Nat := m.values.length

def filter (p : α → Bool) (m : KeyedMap key) : KeyedMap key where
  values := m.values.filter p
  nodup := m.nodup.sublist (List.filter_sublist.map key)

def map (f : α → α) (keeps : ∀ a, key (f a) = key a) (m : KeyedMap key) : KeyedMap key where
  values := m.values.map f
  nodup := by
    have same : key ∘ f = key := funext keeps
    rw [List.map_map, same]
    exact m.nodup

theorem nodup_values (m : KeyedMap key) : m.values.Nodup := List.Nodup.of_map _ m.nodup

variable {m : KeyedMap key}

theorem eq_of_key_eq {a b : α} (member : a ∈ m.values) (other : b ∈ m.values)
    (same : key a = key b) : a = b := List.inj_on_of_nodup_map m.nodup member other same

def Restricts (p : κ → Bool) (part whole : KeyedMap key) : Prop :=
  ∀ a, a ∈ part.values ↔ a ∈ whole.values ∧ p (key a) = true

theorem Restricts.empty (p : κ → Bool) : Restricts p (empty : KeyedMap key) .empty := by
  intro a
  simp [KeyedMap.empty]

variable [DecidableEq κ] {k : κ} {a : α}

def get? (m : KeyedMap key) (k : κ) : Option α := m.values.find? fun a => key a = k
def has (m : KeyedMap key) (k : κ) : Bool := (m.get? k).isSome
def delete (m : KeyedMap key) (k : κ) : KeyedMap key := m.filter fun a => key a ≠ k

def modify (m : KeyedMap key) (k : κ) (f : α → α) (keeps : ∀ a, key (f a) = key a) : KeyedMap key :=
  m.map (fun a => if key a = k then f a else a) (by
    intro a
    split
    · exact keeps a
    · rfl)

theorem get?_eq_some (m : KeyedMap key) (k : κ) (a : α) : m.get? k = some a ↔ a ∈ m.values ∧ key a = k := by
  constructor
  · intro found
    exact ⟨List.mem_of_find?_eq_some found, by simpa using List.find?_some found⟩
  · rintro ⟨member, rfl⟩
    cases found : m.get? (key a) with
    | none => simpa using List.find?_eq_none.mp found a member
    | some b =>
      have same : key b = key a := by simpa using List.find?_some found
      rw [eq_of_key_eq (List.mem_of_find?_eq_some found) member same]

theorem get?_eq_none (m : KeyedMap key) (k : κ) : m.get? k = none ↔ ∀ a ∈ m.values, key a ≠ k := by
  simp [get?, List.find?_eq_none]

theorem has_eq_false (m : KeyedMap key) (k : κ) : m.has k = false ↔ ∀ a ∈ m.values, key a ≠ k := by
  rw [has, Option.isSome_eq_false_iff, Option.isNone_iff_eq_none, get?_eq_none]

theorem has_eq_true (m : KeyedMap key) (k : κ) : m.has k = true ↔ ∃ a ∈ m.values, key a = k := by
  rw [has, Option.isSome_iff_exists]
  simp only [get?_eq_some]

def set (m : KeyedMap key) (a : α) : KeyedMap key :=
  if present : m.has (key a) = true then
    { values := m.values.map fun b => if key b = key a then a else b
      nodup := by
        have same : key ∘ (fun b => if key b = key a then a else b) = key := by
          funext b
          simp only [Function.comp_apply]
          split
          · rename_i equal
            exact equal.symm
          · rfl
        rw [List.map_map, same]
        exact m.nodup }
  else
    { values := m.values ++ [a]
      nodup := by
        have absent := (m.has_eq_false (key a)).mp (by simpa using present)
        rw [List.map_append, List.map_singleton]
        exact m.nodup.append (List.nodup_singleton _) (by simpa using absent) }

@[simp] theorem get?_empty (k : κ) : (empty : KeyedMap key).get? k = none := rfl

theorem mem_delete : a ∈ (m.delete k).values ↔ a ∈ m.values ∧ key a ≠ k := by
  simp [delete, filter]

theorem values_perm_cons_delete (found : m.get? k = some a) : m.values.Perm (a :: (m.delete k).values) := by
  obtain ⟨member, rfl⟩ := (m.get?_eq_some k a).mp found
  have fresh : a ∉ (m.delete (key a)).values := fun inside => (mem_delete.mp inside).2 rfl
  rw [List.perm_ext_iff_of_nodup m.nodup_values
    (List.nodup_cons.mpr ⟨fresh, (m.delete (key a)).nodup_values⟩)]
  intro b
  rw [List.mem_cons, mem_delete]
  constructor
  · intro inside
    by_cases same : key b = key a
    · exact .inl (eq_of_key_eq inside member same)
    · exact .inr ⟨inside, same⟩
  · rintro (rfl | ⟨inside, -⟩)
    · exact member
    · exact inside

theorem mem_set {a b : α} : b ∈ (m.set a).values ↔ b = a ∨ b ∈ m.values ∧ key b ≠ key a := by
  unfold set
  split
  · rename_i present
    obtain ⟨old, member, same⟩ := (m.has_eq_true _).mp present
    simp only [List.mem_map]
    constructor
    · rintro ⟨c, inside, rfl⟩
      split
      · exact .inl rfl
      · rename_i differ
        exact .inr ⟨inside, differ⟩
    · rintro (rfl | ⟨inside, differ⟩)
      · exact ⟨old, member, if_pos same⟩
      · exact ⟨b, inside, if_neg differ⟩
  · rename_i absent
    have fresh := (m.has_eq_false _).mp (by simpa using absent)
    simp only [List.mem_append, List.mem_singleton]
    constructor
    · rintro (inside | rfl)
      · exact .inr ⟨inside, fresh b inside⟩
      · exact .inl rfl
    · rintro (rfl | ⟨inside, -⟩)
      · exact .inr rfl
      · exact .inl inside

theorem values_set_of_absent (absent : m.has (key a) = false) : (m.set a).values = m.values ++ [a] := by
  unfold set
  rw [dif_neg (by simp [absent])]

section Lookups

variable (m : KeyedMap key) (k : κ)

@[simp] theorem get?_map (f : α → α) (keeps : ∀ a, key (f a) = key a) :
    (m.map f keeps).get? k = (m.get? k).map f := by
  simp only [get?, map, List.find?_map, Function.comp_def, keeps]

@[simp] theorem get?_filter (p : α → Bool) : (m.filter p).get? k = (m.get? k).filter p := by
  refine Option.ext fun a => ?_
  rw [get?_eq_some, Option.filter_eq_some_iff, get?_eq_some]
  simp only [filter, List.mem_filter]
  tauto

@[simp] theorem get?_delete (j : κ) : (m.delete j).get? k = if k = j then none else m.get? k := by
  rw [delete, get?_filter]
  split
  · rename_i same
    simp only [Option.filter_eq_none_iff, get?_eq_some]
    rintro a ⟨-, found⟩
    simp [found, same]
  · rename_i differ
    cases found : m.get? k with
    | none => rfl
    | some a =>
      obtain ⟨-, rfl⟩ := (m.get?_eq_some k a).mp found
      simp [differ]

@[simp] theorem get?_set (a : α) : (m.set a).get? k = if k = key a then some a else m.get? k := by
  refine Option.ext fun b => ?_
  rw [get?_eq_some, mem_set]
  split
  · rename_i same
    constructor
    · rintro ⟨rfl | ⟨-, differ⟩, found⟩
      · rfl
      · exact absurd (found.trans same) differ
    · rintro ⟨⟩
      exact ⟨.inl rfl, same.symm⟩
  · rename_i differ
    rw [get?_eq_some]
    constructor
    · rintro ⟨rfl | ⟨member, -⟩, found⟩
      · exact absurd found.symm differ
      · exact ⟨member, found⟩
    · rintro ⟨member, rfl⟩
      exact ⟨.inr ⟨member, differ⟩, rfl⟩

@[simp] theorem get?_modify (j : κ) (f : α → α) (keeps : ∀ a, key (f a) = key a) :
    (m.modify j f keeps).get? k = if k = j then (m.get? k).map f else m.get? k := by
  rw [modify, get?_map]
  cases found : m.get? k with
  | none => simp
  | some a =>
    obtain ⟨-, rfl⟩ := (m.get?_eq_some k a).mp found
    simp only [Option.map_some]
    split <;> rfl

end Lookups

theorem values_perm_filterMap (m : KeyedMap key) {keys : List κ} (distinct : keys.Nodup)
    (covers : ∀ a ∈ m.values, key a ∈ keys) : m.values.Perm (keys.filterMap m.get?) := by
  have looked : (keys.filterMap m.get?).Nodup := by
    refine distinct.filterMap fun k j a found found' => ?_
    exact ((m.get?_eq_some k a).mp found).2.symm.trans ((m.get?_eq_some j a).mp found').2
  rw [List.perm_ext_iff_of_nodup m.nodup_values looked]
  intro a
  rw [List.mem_filterMap]
  constructor
  · intro member
    exact ⟨key a, covers a member, (m.get?_eq_some _ a).mpr ⟨member, rfl⟩⟩
  · rintro ⟨k, -, found⟩
    exact ((m.get?_eq_some k a).mp found).1

theorem map_subperm {β : Type*} {f : α → β} {m n : KeyedMap key} {part : List α}
    (inside : part.Sublist m.values) (kept : ∀ a ∈ part, ∃ b, n.get? (key a) = some b ∧ f b = f a) :
    (part.map f).Subperm (n.values.map f) := by
  let later (a : α) : α := (n.get? (key a)).getD a
  have found : ∀ a ∈ part, later a ∈ n.values ∧ key (later a) = key a ∧ f (later a) = f a := by
    intro a member
    obtain ⟨b, get, same⟩ := kept a member
    have here : later a = b := by simp [later, get]
    obtain ⟨present, keyed⟩ := (n.get?_eq_some _ _).mp get
    rw [here]
    exact ⟨present, keyed, same⟩
  have distinct : (part.map later).Nodup := by
    refine List.Nodup.of_map key ?_
    have same : (part.map later).map key = part.map key := by
      rw [List.map_map]
      exact List.map_congr_left fun a member => (found a member).2.1
    rw [same]
    exact m.nodup.sublist (inside.map key)
  have subset : part.map later ⊆ n.values := by
    intro b image
    obtain ⟨a, member, rfl⟩ := List.mem_map.mp image
    exact (found a member).1
  have shown : (part.map later).map f = part.map f := by
    rw [List.map_map]
    exact List.map_congr_left fun a member => (found a member).2.2
  obtain ⟨some, perm, sublist⟩ := List.subperm_of_subset distinct subset
  rw [← shown]
  exact ⟨some.map f, perm.map f, sublist.map f⟩

variable {part whole : KeyedMap key} {p : κ → Bool} {a : α}

variable (restricts : Restricts p part whole)
include restricts

theorem Restricts.set_inside (inside : p (key a) = true) : Restricts p (part.set a) (whole.set a) := by
  intro b
  rw [mem_set, mem_set, restricts b]
  constructor
  · rintro (rfl | ⟨⟨member, holds⟩, differ⟩)
    · exact ⟨.inl rfl, inside⟩
    · exact ⟨.inr ⟨member, differ⟩, holds⟩
  · rintro ⟨rfl | ⟨member, differ⟩, holds⟩
    · exact .inl rfl
    · exact .inr ⟨⟨member, holds⟩, differ⟩

theorem Restricts.set_outside (outside : p (key a) = false) : Restricts p part (whole.set a) := by
  intro b
  rw [mem_set, restricts b]
  constructor
  · rintro ⟨member, holds⟩
    refine ⟨.inr ⟨member, ?_⟩, holds⟩
    intro same
    rw [same, outside] at holds
    cases holds
  · rintro ⟨rfl | ⟨member, -⟩, holds⟩
    · rw [outside] at holds
      cases holds
    · exact ⟨member, holds⟩

theorem Restricts.delete (k : κ) : Restricts p (part.delete k) (whole.delete k) := by
  intro a
  rw [mem_delete, mem_delete, restricts a]
  tauto

theorem Restricts.delete_whole (k : κ) : Restricts p part (whole.delete k) ↔ ¬ (p k = true ∧ whole.has k = true) := by
  constructor
  · rintro after ⟨holds, present⟩
    obtain ⟨a, member, rfl⟩ := (whole.has_eq_true k).mp present
    have kept := ((after a).mp ((restricts a).mpr ⟨member, holds⟩)).1
    exact (mem_delete.mp kept).2 rfl
  · intro spared a
    rw [mem_delete, restricts a]
    constructor
    · rintro ⟨member, holds⟩
      refine ⟨⟨member, ?_⟩, holds⟩
      rintro rfl
      exact spared ⟨holds, (whole.has_eq_true _).mpr ⟨a, member, rfl⟩⟩
    · rintro ⟨⟨member, -⟩, holds⟩
      exact ⟨member, holds⟩

end KeyedMap

end Beignet.Data
