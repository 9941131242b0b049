import Beignet.Data.KeyedMap

namespace Beignet.Data

/-! Candidates are grouped by a key, and each group is dealt out, in an order of its own, to the places
    of a list that show its key. -/

variable {α κ : Type*}

structure Group (α κ : Type*) where
  key : κ
  members : List α

def deal (dealt : KeyedMap (Prod.fst : Nat × α → Nat)) (places : List Nat) (members : List α) :
    KeyedMap (Prod.fst : Nat × α → Nat) :=
  (places.zip members).foldl (fun dealt pair => dealt.set pair) dealt

section Grouping

variable [DecidableEq κ] (key : α → κ) (le : α → α → Prop) [DecidableRel le] (shown : List κ)
  (candidates : List α)

def joinGroup (groups : KeyedMap (Group.key : Group α κ → κ)) (a : α) : KeyedMap (Group.key : Group α κ → κ) :=
  groups.set ⟨key a, (groups.get? (key a)).elim [] Group.members ++ [a]⟩

def groupsOf : KeyedMap (Group.key : Group α κ → κ) :=
  candidates.foldl (joinGroup key) .empty

def dealGroup (dealt : KeyedMap (Prod.fst : Nat × α → Nat)) (group : Group α κ) :
    KeyedMap (Prod.fst : Nat × α → Nat) :=
  deal dealt (shown.findIdxs (· = group.key)) (group.members.insertionSort le)

def dealOut : KeyedMap (Prod.fst : Nat × α → Nat) :=
  (groupsOf key candidates).values.foldl (dealGroup le shown) .empty

end Grouping

section Deal

variable {dealt : KeyedMap (Prod.fst : Nat × α → Nat)} {places : List Nat} {members : List α} {i : Nat}

theorem get?_deal_of_notMem (outside : i ∉ places) : (deal dealt places members).get? i = dealt.get? i := by
  induction places generalizing dealt members with
  | nil => rfl
  | cons place places ih =>
    cases members with
    | nil => rfl
    | cons a members =>
      rw [List.mem_cons, not_or] at outside
      change (deal (dealt.set (place, a)) places members).get? i = _
      rw [ih outside.2, KeyedMap.get?_set, if_neg outside.1]

theorem get?_deal_of_mem (distinct : places.Nodup) (inside : i ∈ places) (enough : places.length ≤ members.length) :
    ∃ a ∈ members, (deal dealt places members).get? i = some (i, a) := by
  induction places generalizing dealt members with
  | nil => cases inside
  | cons place places ih =>
    cases members with
    | nil => exact absurd enough (by simp)
    | cons a members =>
      obtain ⟨new, distinct⟩ := List.nodup_cons.mp distinct
      change ∃ b ∈ a :: members, (deal (dealt.set (place, a)) places members).get? i = some (i, b)
      rcases List.mem_cons.mp inside with rfl | inside
      · refine ⟨a, List.mem_cons_self, ?_⟩
        rw [get?_deal_of_notMem new, KeyedMap.get?_set, if_pos rfl]
      · obtain ⟨b, member, found⟩ := ih distinct inside (by simpa using enough)
        exact ⟨b, List.mem_cons_of_mem a member, found⟩

end Deal

section Groups

variable [DecidableEq κ] {key : α → κ} {candidates : List α}

theorem get?_groupsOf (k : κ) : (groupsOf key candidates).get? k =
      if candidates.filter (key · = k) = [] then none else some ⟨k, candidates.filter (key · = k)⟩ := by
  induction candidates using List.reverseRecOn with
  | nil => rfl
  | append_singleton before a ih =>
    rw [groupsOf, List.foldl_append, List.foldl_cons, List.foldl_nil, joinGroup, KeyedMap.get?_set]
    change (if k = key a then some ⟨key a, ((groupsOf key before).get? (key a)).elim [] Group.members ++ [a]⟩
      else (groupsOf key before).get? k) = _
    split
    · rename_i same
      subst same
      rw [ih, List.filter_append]
      split
      · rename_i empty
        simp [empty]
      · simp
    · rename_i differ
      rw [ih, List.filter_append, List.filter_singleton]
      simp [Ne.symm differ]

end Groups

variable [DecidableEq κ] {key : α → κ} {le : α → α → Prop} [DecidableRel le] {shown : List κ}
  {candidates : List α} {dealt : KeyedMap (Prod.fst : Nat × α → Nat)} {i : Nat} {k : κ}

theorem get?_dealGroup_of_ne {group : Group α κ} (place : shown[i]? = some k) (other : group.key ≠ k) :
    (dealGroup le shown dealt group).get? i = dealt.get? i := by
  refine get?_deal_of_notMem fun inside => other ?_
  obtain ⟨bound, shows⟩ := List.mem_findIdxs_iff_exists_getElem_pos.mp inside
  rw [List.getElem?_eq_getElem bound, Option.some.injEq] at place
  exact (of_decide_eq_true shows).symm.trans place

theorem get?_foldl_dealGroup {groups : List (Group α κ)}
    (place : shown[i]? = some k) (others : ∀ group ∈ groups, group.key ≠ k) :
    (groups.foldl (dealGroup le shown) dealt).get? i = dealt.get? i := by
  induction groups generalizing dealt with
  | nil => rfl
  | cons group groups ih =>
    rw [List.foldl_cons, ih fun g member => others g (List.mem_cons_of_mem _ member)]
    exact get?_dealGroup_of_ne place (others group List.mem_cons_self)

variable (le) in
theorem get?_dealOut {i : Nat} {k : κ} (place : shown[i]? = some k)
    (enough : shown.countP (· = k) ≤ candidates.countP (key · = k)) :
    ∃ a ∈ candidates, key a = k ∧ (dealOut key le shown candidates).get? i = some (i, a) := by
  have shows : 0 < shown.countP (· = k) :=
    List.countP_pos_iff.mpr ⟨k, List.mem_of_getElem? place, decide_eq_true rfl⟩
  have filled : candidates.filter (key · = k) ≠ [] := by
    rw [← List.length_pos_iff, ← List.countP_eq_length_filter]
    exact shows.trans_le enough
  have found : (groupsOf key candidates).get? k = some ⟨k, candidates.filter (key · = k)⟩ := by
    rw [get?_groupsOf, if_neg filled]
  -- The group of the key stands somewhere in the list of groups, and nowhere else.
  obtain ⟨before, after, split⟩ := List.append_of_mem ((KeyedMap.get?_eq_some _ _ _).mp found).1
  have distinct := (groupsOf key candidates).nodup
  rw [split, List.map_append, List.map_cons] at distinct
  have later : ∀ group ∈ after, group.key ≠ k := by
    rintro group member rfl
    have fresh := (List.nodup_cons.mp distinct.of_append_right).1
    exact fresh (List.mem_map.mpr ⟨group, member, rfl⟩)
  rw [dealOut, split, List.foldl_append, List.foldl_cons, get?_foldl_dealGroup place later]
  have inside : i ∈ shown.findIdxs (· = k) := by
    obtain ⟨bound, same⟩ := List.getElem?_eq_some_iff.mp place
    exact List.mem_findIdxs_iff_exists_getElem_pos.mpr ⟨bound, decide_eq_true same⟩
  have reach : (shown.findIdxs (· = k)).length ≤
      ((candidates.filter (key · = k)).insertionSort le).length := by
    rw [List.length_findIdxs, List.length_insertionSort, ← List.countP_eq_length_filter]
    exact enough
  obtain ⟨a, member, got⟩ := get?_deal_of_mem List.nodup_findIdxs inside reach
  rw [List.mem_insertionSort, List.mem_filter, decide_eq_true_eq] at member
  exact ⟨a, member.1, member.2, got⟩

end Beignet.Data
