import Beignet.Data.Submask
import Beignet.Keys.ShaChain

namespace Beignet.Keys

open Beignet.Data

variable {sha256 : Bytes → Bytes} {given : Nat → Bytes} {low : Nat} {entries : List ShaChainEntry}

section Derivation

theorem mem_bitsDown {bit : Nat} : bit ∈ bitsDown ↔ bit < indexBits := by
  simp [bitsDown]

theorem bitsDown_decreasing : bitsDown.Pairwise fun a b => b < a := by
  rw [bitsDown, List.pairwise_reverse]
  exact List.pairwise_lt_range

theorem testBit_of_maxIndex_le {index bit : Nat} (bound : index ≤ maxIndex) (high : indexBits ≤ bit) :
    index.testBit bit = false := by
  refine Nat.testBit_lt_two_pow (lt_of_le_of_lt bound ?_)
  exact lt_of_lt_of_le (by decide) (Nat.pow_le_pow_right (by decide) high)

theorem canDerive_iff {fromIndex toIndex : Nat} (bound : fromIndex ≤ maxIndex) :
    canDerive fromIndex toIndex = true ↔ Submask fromIndex toIndex := by
  rw [canDerive, List.all_eq_true]
  constructor
  · intro derivable bit set
    by_cases low : bit < indexBits
    · simpa [set] using derivable bit (mem_bitsDown.mpr low)
    · rw [testBit_of_maxIndex_le bound (not_lt.mp low)] at set
      exact absurd set (by decide)
  · intro sub bit _
    cases set : fromIndex.testBit bit with
    | false => rfl
    | true => simp [sub bit set]

theorem deriveChild_eq_foldl (parent : Bytes) (fromIndex toIndex : Nat) :
    deriveChild sha256 parent fromIndex toIndex =
      (bitsDown.filter fun bit => !fromIndex.testBit bit && toIndex.testBit bit).foldl
        (fun secret bit => sha256 (flipBit secret bit)) parent := by
  rw [deriveChild, List.foldl_filter]

theorem generateFromSeed_eq_deriveChild (seed : Bytes) (index : Nat) :
    generateFromSeed sha256 seed index = deriveChild sha256 seed 0 index := by
  simp [generateFromSeed, deriveChild]

@[simp] theorem deriveChild_self (secret : Bytes) (index : Nat) : deriveChild sha256 secret index index = secret := by
  simp [deriveChild_eq_foldl]

/-- Derivation may stop at any upper part of the target and go on from there: the bits of the
    upper part all come before the others. -/
theorem deriveChild_trans (secret : Bytes) {start target k : Nat} (sub : Submask start (top k target)) :
    deriveChild sha256 (deriveChild sha256 secret start (top k target)) (top k target) target =
      deriveChild sha256 secret start target := by
  simp only [deriveChild_eq_foldl]
  rw [← List.foldl_append, ← filter_or_of_ordered bitsDown_decreasing]
  · congr 1
    refine List.filter_congr fun bit _ => ?_
    cases set : start.testBit bit with
    | false => by_cases high : k ≤ bit <;> simp [high]
    | true =>
      have upper := sub bit set
      simp [upper]
  · intro a b upper lower descending
    simp only [testBit_top, Bool.and_eq_true, decide_eq_true_eq, Bool.not_eq_true', Bool.and_eq_false_imp]
      at upper lower
    have clear := lower.1 (upper.2.1.trans descending.le)
    rw [lower.2] at clear
    exact absurd clear (by decide)
  · intro bit upper
    simp only [Bool.and_eq_true] at upper
    simp [upper.2]

end Derivation

/-- The accepted indices are those from `low` on, `given` is what was passed for each. An entry is
    the only index still held among those it has every bit of, and each accepted index has an upper
    part that is held. -/
structure Recovers (sha256 : Bytes → Bytes) (given : Nat → Bytes) (low : Nat)
    (entries : List ShaChainEntry) : Prop where
  decreasing : entries.Pairwise fun a b => b.index < a.index
  range : ∀ entry ∈ entries, low ≤ entry.index ∧ entry.index ≤ maxIndex
  greatest : ∀ entry ∈ entries, ∀ index, low ≤ index → Submask index entry.index → index = entry.index
  covers : ∀ index, low ≤ index → index ≤ maxIndex → ∃ entry ∈ entries, ∃ k,
    entry.index = top k index ∧ deriveChild sha256 entry.secret entry.index index = given index

namespace Recovers

theorem nil : Recovers sha256 given (maxIndex + 1) [] where
  decreasing := List.Pairwise.nil
  range := by simp
  greatest := by simp
  covers := fun index above below => by omega

theorem congr (held : Recovers sha256 given low entries) {other : Nat → Bytes}
    (same : ∀ index, low ≤ index → index ≤ maxIndex → other index = given index) :
    Recovers sha256 other low entries where
  decreasing := held.decreasing
  range := held.range
  greatest := held.greatest
  covers := fun index above below => by
    rw [same index above below]
    exact held.covers index above below

variable {entry : ShaChainEntry} {known index : Nat}

theorem bound (held : Recovers sha256 given low entries) (member : entry ∈ entries) : entry.index ≤ maxIndex :=
  (held.range entry member).2

theorem eq_top_of_canDerive (held : Recovers sha256 given (low + 1) entries)
    (member : entry ∈ entries) (derivable : canDerive low entry.index = true) :
    ∃ t, entry.index.testBit t = true ∧ top t entry.index = entry.index ∧ top (t + 1) entry.index = low := by
  obtain ⟨above, below⟩ := held.range entry member
  refine Submask.eq_top_of_greatest ((canDerive_iff (by omega)).mp derivable) (by omega) ?_
  exact fun index higher sub => held.greatest entry member index higher sub

theorem covered_by_next (held : Recovers sha256 given (low + 1) entries)
    (member : entry ∈ entries) {secret : Bytes} (derivable : canDerive low entry.index = true)
    (consistent : deriveChild sha256 secret low entry.index = entry.secret) {index k : Nat}
    (upper : entry.index = top k index) : ∃ k, low = top k index ∧
      deriveChild sha256 secret low index = deriveChild sha256 entry.secret entry.index index := by
  obtain ⟨t, set, -, next⟩ := held.eq_top_of_canDerive member derivable
  have order : k ≤ t := by
    rw [upper, testBit_top, Bool.and_eq_true, decide_eq_true_eq] at set
    exact set.1
  refine ⟨t + 1, ?_, ?_⟩
  · rw [← next, upper, top_top (order.trans (Nat.le_succ t))]
  · have sub : Submask low (top k index) := by
      rw [← upper, ← next]
      exact top_submask (t + 1) entry.index
    rw [← consistent, upper]
    exact (deriveChild_trans secret sub).symm

variable (held : Recovers sha256 given low entries)
include held

theorem secret_eq (member : entry ∈ entries) : entry.secret = given entry.index := by
  obtain ⟨above, below⟩ := held.range entry member
  obtain ⟨holder, holds, k, upper, derived⟩ := held.covers entry.index above below
  have sameIndex : holder.index = entry.index :=
    held.greatest entry member holder.index (held.range holder holds).1 (upper ▸ top_submask k entry.index)
  have distinct : (entries.map ShaChainEntry.index).Nodup := by
    rw [List.Nodup, List.pairwise_map]
    exact held.decreasing.imp fun order => order.ne'
  obtain rfl := List.inj_on_of_nodup_map distinct holds member sameIndex
  rwa [deriveChild_self] at derived

omit held in
theorem addSecret (held : Recovers sha256 given (low + 1) entries) (bounded : low ≤ maxIndex)
    {known : Nat} {store : ShaChainStore}
    (accepted : ShaChainStore.addSecret sha256 ⟨entries, known⟩ low (given low) = some store) :
    Recovers sha256 given low store.entries := by
  rw [ShaChainStore.addSecret] at accepted
  split at accepted
  case isFalse => exact absurd accepted (by simp)
  case isTrue consistent =>
    obtain rfl := Option.some.inj accepted
    simp only [List.all_eq_true, Bool.or_eq_true, Bool.not_eq_true', beq_iff_eq] at consistent
    refine ⟨?_, ?_, ?_, ?_⟩
    · refine List.pairwise_append.mpr ⟨held.decreasing.filter _, List.pairwise_singleton _ _, ?_⟩
      intro entry member last isLast
      obtain rfl := List.mem_singleton.mp isLast
      exact (held.range entry (List.mem_of_mem_filter member)).1
    · intro entry member
      rcases List.mem_append.mp member with kept | last
      · have range := held.range entry (List.mem_of_mem_filter kept)
        exact ⟨by omega, range.2⟩
      · obtain rfl := List.mem_singleton.mp last
        exact ⟨le_rfl, bounded⟩
    · intro entry member index above sub
      rcases List.mem_append.mp member with kept | last
      · obtain ⟨old, stays⟩ := List.mem_filter.mp kept
        rcases Nat.eq_or_lt_of_le above with rfl | higher
        · -- the new index would have taken the place of this entry
          rw [(canDerive_iff bounded).mpr sub] at stays
          exact absurd stays (by decide)
        · exact held.greatest entry old index higher sub
      · obtain rfl := List.mem_singleton.mp last
        exact le_antisymm sub.le above
    · intro index above below
      rcases Nat.eq_or_lt_of_le above with rfl | higher
      · exact ⟨⟨low, given low⟩, by simp, 0, by simp, deriveChild_self _ _⟩
      obtain ⟨entry, member, k, upper, derived⟩ := held.covers index higher below
      cases derivable : canDerive low entry.index with
      | false =>
        refine ⟨entry, List.mem_append_left _ (List.mem_filter.mpr ⟨member, ?_⟩), k, upper, derived⟩
        simp [derivable]
      | true =>
        have agrees : deriveChild sha256 (given low) low entry.index = entry.secret := by
          simpa [derivable] using consistent entry member
        obtain ⟨k, next, same⟩ := held.covered_by_next member derivable agrees upper
        exact ⟨⟨low, given low⟩, by simp, k, next, same.trans derived⟩

theorem getSecret_eq (above : low ≤ index) (below : index ≤ maxIndex) :
    ShaChainStore.getSecret sha256 ⟨entries, known⟩ index = some (given index) := by
  obtain ⟨entry, member, k, upper, derived⟩ := held.covers index above below
  obtain ⟨before, after, split⟩ := List.append_of_mem member
  have found : entries.find? (fun entry => canDerive entry.index index) = some entry := by
    rw [List.find?_eq_some_iff_append]
    refine ⟨(canDerive_iff (held.bound member)).mpr (upper ▸ top_submask k index), before, after, split, ?_⟩
    intro other earlier
    have otherMember : other ∈ entries := by
      rw [split]
      exact List.mem_append_left _ earlier
    have larger : entry.index < other.index := by
      have decreasing := held.decreasing
      rw [split, List.pairwise_append] at decreasing
      exact decreasing.2.2 other earlier entry (List.mem_cons_self ..)
    rw [Bool.not_eq_true', Bool.eq_false_iff]
    intro derivable
    -- a larger candidate would lie between the covering entry and the index
    have sub := (canDerive_iff (held.bound otherMember)).mp derivable
    have between : top k other.index = top k index := top_eq_of_between (upper ▸ larger.le) sub.le
    have inside : Submask entry.index other.index := by
      rw [upper, ← between]
      exact top_submask k other.index
    have same := held.greatest other otherMember entry.index (held.range entry member).1 inside
    omega
  simp only [ShaChainStore.getSecret, found, Option.map_some, derived]

theorem getSecret_none (below : index < low) :
    ShaChainStore.getSecret sha256 ⟨entries, known⟩ index = none := by
  rw [ShaChainStore.getSecret, Option.map_eq_none_iff, List.find?_eq_none]
  intro entry member derivable
  have sub := (canDerive_iff (held.bound member)).mp derivable
  exact absurd ((held.range entry member).1.trans sub.le) (by omega)

end Recovers

section Count

def lowestBit (index : Nat) : Nat := (List.range indexBits).findIdx index.testBit

theorem lowestBit_le (index : Nat) : lowestBit index ≤ indexBits := by
  have inside : lowestBit index ≤ (List.range indexBits).length := List.findIdx_le_length
  rwa [List.length_range] at inside

theorem testBit_lowestBit {index : Nat} (some : lowestBit index < indexBits) :
    index.testBit (lowestBit index) = true := by
  have inside : lowestBit index < (List.range indexBits).length := by simpa using some
  have hit : index.testBit ((List.range indexBits)[lowestBit index]) = true := List.findIdx_getElem
  rwa [List.getElem_range] at hit

theorem testBit_below_lowestBit {index bit : Nat} (below : bit < lowestBit index) : index.testBit bit = false := by
  have missed := List.not_of_lt_findIdx below
  simpa using missed

theorem eq_zero_of_lowestBit {index : Nat} (bound : index ≤ maxIndex) (none : lowestBit index = indexBits) :
    index = 0 := by
  refine Nat.eq_of_testBit_eq fun bit => ?_
  rw [Nat.zero_testBit]
  by_cases low : bit < indexBits
  · exact testBit_below_lowestBit (none ▸ low)
  · exact testBit_of_maxIndex_le bound (not_lt.mp low)

theorem Recovers.lowestBit_ne (held : Recovers sha256 given low entries) {larger smaller : ShaChainEntry}
    (largerMember : larger ∈ entries) (smallerMember : smaller ∈ entries)
    (order : smaller.index < larger.index) : lowestBit larger.index ≠ lowestBit smaller.index := by
  intro same
  rcases Nat.eq_or_lt_of_le (lowestBit_le larger.index) with none | some
  · have zero := eq_zero_of_lowestBit (held.bound largerMember) none
    omega
  have setLarger := testBit_lowestBit some
  have setSmaller := testBit_lowestBit (same ▸ some)
  rw [← same] at setSmaller
  obtain ⟨d, differ, agree⟩ := Submask.exists_top_difference order.ne
  have high : lowestBit larger.index < d := by
    rcases lt_trichotomy d (lowestBit larger.index) with below | rfl | above
    · rw [testBit_below_lowestBit below, testBit_below_lowestBit (same ▸ below)] at differ
      exact absurd rfl differ
    · rw [setLarger, setSmaller] at differ
      exact absurd rfl differ
    · exact above
  have bits : smaller.index.testBit d = false ∧ larger.index.testBit d = true := by
    cases bit : larger.index.testBit d with
    | true => exact ⟨by simpa [bit] using differ, rfl⟩
    | false =>
      have set : smaller.index.testBit d = true := by simpa [bit] using differ
      exact absurd (Nat.lt_of_testBit d bit set fun i above => (agree i above).symm) (by omega)
  have above : smaller.index < top (lowestBit larger.index + 1) larger.index := by
    refine Nat.lt_of_testBit d bits.1 (by simp [bits.2, Nat.succ_le_of_lt high]) fun i higher => ?_
    rw [agree i higher, testBit_top, decide_eq_true (by omega), Bool.true_and]
  have least := (held.range smaller smallerMember).1
  have equal := held.greatest larger largerMember _ (least.trans above.le) (top_submask _ _)
  have clear : (top (lowestBit larger.index + 1) larger.index).testBit (lowestBit larger.index) = false := by
    simp
  rw [equal, setLarger] at clear
  exact absurd clear (by decide)

theorem Recovers.length_le (held : Recovers sha256 given low entries) : entries.length ≤ indexBits + 1 := by
  have distinct : (entries.map fun entry => lowestBit entry.index).Nodup := by
    rw [List.Nodup, List.pairwise_map]
    exact held.decreasing.imp_of_mem fun first second order => held.lowestBit_ne first second order
  have inside : (entries.map fun entry => lowestBit entry.index) ⊆ List.range (indexBits + 1) := by
    intro bit member
    obtain ⟨entry, -, rfl⟩ := List.mem_map.mp member
    exact List.mem_range.mpr (Nat.lt_succ_of_le (lowestBit_le entry.index))
  simpa using (List.subperm_of_subset distinct inside).length_le

end Count

namespace ShaChainStore

variable {store : ShaChainStore}

def addSecrets (sha256 : Bytes → Bytes) (given : Nat → Bytes) : Nat → Option ShaChainStore
  | 0 => some empty
  | count + 1 => do
    let store ← addSecrets sha256 given count
    store.addSecret sha256 (maxIndex - count) (given (maxIndex - count))

theorem addSecrets_recovers {given : Nat → Bytes} (count : Nat) (bounded : count ≤ maxIndex + 1)
    (accepted : addSecrets sha256 given count = some store) :
    Recovers sha256 given (maxIndex + 1 - count) store.entries := by
  induction count generalizing store with
  | zero =>
    obtain rfl := Option.some.inj accepted
    exact Recovers.nil
  | succ count ih =>
    obtain ⟨before, previous, stored⟩ := Option.bind_eq_some_iff.mp accepted
    have held := ih (by omega) previous
    rw [show maxIndex + 1 - count = maxIndex - count + 1 by omega] at held
    rw [Nat.add_sub_add_right]
    exact held.addSecret (Nat.sub_le ..) stored

theorem addSecret_generated {seed : Bytes} {low : Nat}
    (held : Recovers sha256 (generateFromSeed sha256 seed) (low + 1) store.entries) :
    ∃ added, store.addSecret sha256 low (generateFromSeed sha256 seed low) = some added := by
  rw [addSecret, if_pos]
  · exact ⟨_, rfl⟩
  rw [List.all_eq_true]
  intro entry member
  cases derivable : canDerive low entry.index with
  | false => rfl
  | true =>
    obtain ⟨t, -, -, next⟩ := held.eq_top_of_canDerive member derivable
    have path : deriveChild sha256 (generateFromSeed sha256 seed low) low entry.index =
        generateFromSeed sha256 seed entry.index := by
      rw [generateFromSeed_eq_deriveChild, generateFromSeed_eq_deriveChild, ← next]
      exact deriveChild_trans seed fun bit set => by simp at set
    simp [path, held.secret_eq member]

theorem addSecrets_generated (seed : Bytes) (count : Nat) (bounded : count ≤ maxIndex + 1) :
    ∃ store, addSecrets sha256 (generateFromSeed sha256 seed) count = some store := by
  induction count with
  | zero => exact ⟨empty, rfl⟩
  | succ count ih =>
    obtain ⟨before, previous⟩ := ih (by omega)
    have held := addSecrets_recovers count (by omega) previous
    rw [show maxIndex + 1 - count = maxIndex - count + 1 by omega] at held
    obtain ⟨added, stored⟩ := addSecret_generated held
    exact ⟨added, Option.bind_eq_some_iff.mpr ⟨before, previous, stored⟩⟩

theorem accepted_secrets_recovered (sha256 : Bytes → Bytes) (count : Nat) (bounded : count ≤ maxIndex + 1) :
    (∀ given store, addSecrets sha256 given count = some store →
      (∀ index, index ≤ maxIndex → maxIndex < index + count → store.getSecret sha256 index = some (given index)) ∧
      ∀ index, index + count ≤ maxIndex → store.getSecret sha256 index = none) ∧
    ∀ seed, ∃ store, addSecrets sha256 (generateFromSeed sha256 seed) count = some store ∧
      store.entries.length ≤ 49 := by
  refine ⟨fun given store accepted => ?_, fun seed => ?_⟩
  · have held := addSecrets_recovers count bounded accepted
    exact ⟨fun index below above => held.getSecret_eq (by omega) below,
      fun index below => held.getSecret_none (by omega)⟩
  · obtain ⟨store, accepted⟩ := addSecrets_generated seed count bounded
    exact ⟨store, accepted, (addSecrets_recovers count bounded accepted).length_le⟩

theorem accepted_secrets_recovered_two :
    addSecrets id (fun index => if index = maxIndex - 1 then List.replicate 32 7 else
        deriveChild id (List.replicate 32 7) (maxIndex - 1) index) 2 =
      some ⟨[⟨maxIndex - 1, List.replicate 32 7⟩], 2⟩ ∧
    getSecret id ⟨[⟨maxIndex - 1, List.replicate 32 7⟩], 2⟩ maxIndex =
      some (deriveChild id (List.replicate 32 7) (maxIndex - 1) maxIndex) := by
  refine (and_iff_left_of_imp fun accepted => ?_).mpr (by decide)
  exact ((accepted_secrets_recovered id 2 (by decide)).1 _ _ accepted).1 maxIndex le_rfl (by decide)

end ShaChainStore

end Beignet.Keys
