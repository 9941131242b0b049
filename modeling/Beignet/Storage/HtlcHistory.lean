import Beignet.Channel.Snapshots
import Beignet.Swaps.Record

namespace Beignet.Storage

open Beignet.Data Beignet.Channel Beignet.Swaps

/-! The stored form of the HTLC snapshots: a dictionary of their entries, and for each commitment one splice
    against the one before it. -/

structure HistoryEntry where
  paymentHash : String
  amountMsat : String
  cltvExpiry : Nat
  direction : HtlcDirection
  deriving DecidableEq

structure HistorySplice where
  commitmentNumber : String
  prefixLength : Nat
  remove : Nat
  add : List Nat

structure CompactHtlcHistory where
  version : Nat
  entries : List HistoryEntry
  snapshots : List HistorySplice

structure HistoryRow where
  commitmentNumber : String
  entries : List HtlcSnapshotEntry

abbrev HtlcHistory := KeyedMap HistoryRow.commitmentNumber

section Encoding

variable {α : Type} [DecidableEq α]

/-- The place of a value in the dictionary, which takes it in when it is new. -/
def intern (dictionary : List α) (value : α) : List α × Nat :=
  match dictionary.idxOf? value with
  | some index => (dictionary, index)
  | none => (dictionary ++ [value], dictionary.length)

def internAll (dictionary : List α) : List α → List α × List Nat
  | [] => (dictionary, [])
  | value :: rest =>
    let first := intern dictionary value
    let others := internAll first.1 rest
    (others.1, first.2 :: others.2)

def commonLength : List α → List α → Nat
  | a :: as, b :: bs => if a = b then commonLength as bs + 1 else 0
  | _, _ => 0

def spliceOf (commitmentNumber : String) (previous current : List Nat) : HistorySplice :=
  let prefixLength := commonLength previous current
  let suffix := commonLength (previous.drop prefixLength).reverse (current.drop prefixLength).reverse
  ⟨commitmentNumber, prefixLength, previous.length - prefixLength - suffix,
    (current.take (current.length - suffix)).drop prefixLength⟩

-- The source looks an entry up by its JSON text, which says the same as the entry.
def historyEntry (e : HtlcSnapshotEntry) : HistoryEntry :=
  ⟨hex e.paymentHash, toString e.amountMsat, e.cltvExpiry, e.direction⟩

def encodeSnapshots (entries : List HistoryEntry) (previous : List Nat) :
    List HistoryRow → List HistoryEntry × List HistorySplice
  | [] => (entries, [])
  | row :: rest =>
    let interned := internAll entries (row.entries.map historyEntry)
    let others := encodeSnapshots interned.1 interned.2 rest
    (others.1, spliceOf row.commitmentNumber previous interned.2 :: others.2)

def encodeHtlcHistory (history : Option HtlcHistory) : CompactHtlcHistory :=
  let encoded := encodeSnapshots [] [] (history.elim [] (·.values))
  ⟨1, encoded.1, encoded.2⟩

end Encoding

section Decoding

def digitValue (c : Char) : Nat := if c.isDigit then c.toNat - 48 else c.toNat - 87

def unhex : List Char → Bytes
  | high :: low :: rest => Fin.ofNat 256 (digitValue high * 16 + digitValue low) :: unhex rest
  | _ => []

def HistoryEntry.amount (e : HistoryEntry) : Nat := Nat.ofDigitChars 10 e.amountMsat.toList 0

def HistoryEntry.valid (e : HistoryEntry) : Bool :=
  isHex64 e.paymentHash ∧ isDecimal e.amountMsat ∧ e.amount ≤ 0xffffffffffffffff ∧ e.cltvExpiry ≤ 0xffffffff

def HistoryEntry.read (e : HistoryEntry) : HtlcSnapshotEntry :=
  ⟨unhex e.paymentHash.toList, e.amount, e.cltvExpiry, e.direction⟩

def replaySplices (entries : List HistoryEntry) (result : HtlcHistory) (previous : List Nat) :
    List HistorySplice → Except String HtlcHistory
  | [] => .ok result
  | s :: rest =>
    if isDecimal s.commitmentNumber = false ∨ result.has s.commitmentNumber = true ∨
        previous.length < s.prefixLength ∨ previous.length - s.prefixLength < s.remove ∨
        ∃ index ∈ s.add, entries.length ≤ index then
      .error "Invalid compact HTLC history snapshot"
    else
      let current := previous.take s.prefixLength ++ s.add ++ previous.drop (s.prefixLength + s.remove)
      -- No index is past the entries: each was checked in the splice that added it.
      let row := ⟨s.commitmentNumber, current.filterMap fun index => entries[index]?.map (·.read)⟩
      replaySplices entries (result.set row) current rest

def decodeHtlcHistory (history : CompactHtlcHistory) : Except String (Option HtlcHistory) :=
  if history.version ≠ 1 then .error "Unsupported compact HTLC history"
  else if ∃ e ∈ history.entries, e.valid = false then .error "Invalid compact HTLC history entry"
  else do
    let result ← replaySplices history.entries .empty [] history.snapshots
    return if 0 < result.size then some result else none

end Decoding

section Dictionary

variable {α : Type}

theorem getElem?_of_grown {dictionary grown : List α} {index : Nat} {value : α} (grows : dictionary <+: grown)
    (found : dictionary[index]? = some value) : grown[index]? = some value := by
  obtain ⟨new, rfl⟩ := grows
  rw [List.getElem?_append_left (List.getElem?_eq_some_iff.mp found).1, found]

variable [DecidableEq α]

theorem intern_spec (dictionary : List α) (value : α) :
    let interned := intern dictionary value
    dictionary <+: interned.1 ∧ interned.1[interned.2]? = some value ∧ interned.1 ⊆ dictionary ++ [value] := by
  unfold intern
  split
  · rename_i index found
    obtain ⟨inside, same, -⟩ := List.idxOf?_eq_some_iff.mp found
    exact ⟨List.prefix_rfl, List.getElem?_eq_some_iff.mpr ⟨inside, same⟩, List.subset_append_left _ _⟩
  · simp

theorem internAll_spec (dictionary values : List α) :
    let interned := internAll dictionary values
    dictionary <+: interned.1 ∧ List.Forall₂ (fun index value => interned.1[index]? = some value) interned.2 values ∧
      interned.1 ⊆ dictionary ++ values := by
  induction values generalizing dictionary with
  | nil => simp [internAll]
  | cons value rest ih =>
    obtain ⟨grows, found, new⟩ := intern_spec dictionary value
    obtain ⟨grows', others, new'⟩ := ih (intern dictionary value).1
    refine ⟨grows.trans grows', .cons (getElem?_of_grown grows' found) others, fun e member => ?_⟩
    rw [List.append_cons, List.mem_append]
    exact (List.mem_append.mp (new' member)).imp_left fun known => new known

theorem commonLength_spec (as bs : List α) : as.take (commonLength as bs) = bs.take (commonLength as bs) ∧
    commonLength as bs ≤ as.length ∧ commonLength as bs ≤ bs.length := by
  fun_induction commonLength as bs with
  | case1 a as bs ih => simp [ih]
  | case2 => simp
  | case3 => simp

end Dictionary

section RoundTrip

theorem spliceOf_restores (commitmentNumber : String) (previous current : List Nat) :
    let s := spliceOf commitmentNumber previous current
    s.prefixLength ≤ previous.length ∧ s.remove ≤ previous.length - s.prefixLength ∧ s.add ⊆ current ∧
      previous.take s.prefixLength ++ s.add ++ previous.drop (s.prefixLength + s.remove) = current := by
  intro s
  obtain ⟨start, inside, inside'⟩ := commonLength_spec previous current
  simp only [s, spliceOf]
  generalize commonLength previous current = kept at *
  obtain ⟨tail, room, room'⟩ := commonLength_spec (previous.drop kept).reverse (current.drop kept).reverse
  generalize commonLength (previous.drop kept).reverse (current.drop kept).reverse = suffix at *
  rw [List.take_reverse, List.take_reverse, List.reverse_inj, List.length_drop, List.length_drop] at tail
  rw [List.length_reverse, List.length_drop] at room room'
  refine ⟨inside, by omega, fun index member => List.mem_of_mem_take (List.mem_of_mem_drop member), ?_⟩
  rw [start, List.drop_take, List.append_assoc, ← List.drop_drop, tail, Nat.sub_right_comm,
    List.take_append_drop, List.take_append_drop]

variable {rows : List HistoryRow} (entries : List HistoryEntry) (previous : List Nat)

theorem encodeSnapshots_entries : let encoded := encodeSnapshots entries previous rows
    entries <+: encoded.1 ∧ encoded.1 ⊆ entries ++ rows.flatMap fun row => row.entries.map historyEntry := by
  induction rows generalizing entries previous with
  | nil => simp [encodeSnapshots]
  | cons row rest ih =>
    obtain ⟨grows, -, new⟩ := internAll_spec entries (row.entries.map historyEntry)
    obtain ⟨grows', new'⟩ := ih (internAll entries (row.entries.map historyEntry)).1 _
    refine ⟨grows.trans grows', fun e member => ?_⟩
    rw [List.flatMap_cons, ← List.append_assoc, List.mem_append]
    exact (List.mem_append.mp (new' member)).imp_left fun known => new known

theorem byte_hex : ∀ byte : Fin 256, isHexDigit (Nat.digitChar (byte.val / 16)) = true ∧
    isHexDigit (Nat.digitChar (byte.val % 16)) = true ∧
    Fin.ofNat 256 (digitValue (Nat.digitChar (byte.val / 16)) * 16 + digitValue (Nat.digitChar (byte.val % 16))) =
      byte := by
  decide +kernel

theorem hex_spec (bytes : Bytes) : (hex bytes).toList.length = 2 * bytes.length ∧
    (hex bytes).toList.all isHexDigit = true ∧ unhex (hex bytes).toList = bytes := by
  rw [hex, String.toList_join]
  induction bytes with
  | nil => exact ⟨rfl, rfl, rfl⟩
  | cons byte rest ih =>
    obtain ⟨high, low, same⟩ := byte_hex byte
    obtain ⟨length, digits, read⟩ := ih
    rw [List.map_cons, List.flatMap_cons, String.toList_ofList]
    refine ⟨?_, ?_, ?_⟩
    · rw [List.length_append, length, List.length_cons]
      exact Nat.add_comm ..
    · rw [List.all_append, digits]
      simp [high, low]
    · exact congrArg₂ List.cons same read

theorem read_historyEntry (e : HtlcSnapshotEntry) : (historyEntry e).read = e := by
  simp [historyEntry, HistoryEntry.read, HistoryEntry.amount, hex_spec, Nat.ofDigitChars_ten_toDigits]

theorem valid_historyEntry {e : HtlcSnapshotEntry} (hash : e.paymentHash.length = 32) (amount : e.amountMsat < 2 ^ 64)
    (expiry : e.cltvExpiry < 2 ^ 32) : (historyEntry e).valid = true := by
  obtain ⟨length, digits, -⟩ := hex_spec e.paymentHash
  simp only [HistoryEntry.valid, isHex64, isDecimal, HistoryEntry.amount, historyEntry, Nat.toString_eq_repr,
    Nat.toList_repr, Nat.ofDigitChars_ten_toDigits, decide_eq_true_eq, List.all_eq_true]
  refine ⟨⟨by omega, List.all_eq_true.mp digits⟩, ⟨fun empty => ?_, fun c member => ?_⟩, by omega, by omega⟩
  · have none := congrArg String.toList empty
    rw [Nat.toList_repr] at none
    exact Nat.toDigits_ne_nil none
  · have digit := Nat.isDigit_of_mem_toDigits (by decide) (by decide) member
    simp only [Char.isDigit, Bool.and_eq_true, decide_eq_true_eq] at digit
    exact digit

theorem read_all {entries : List HistoryEntry} {indices : List Nat} {listed : List HtlcSnapshotEntry}
    (found : List.Forall₂ (fun index e => entries[index]? = some (historyEntry e)) indices listed) :
    (∀ index ∈ indices, index < entries.length) ∧
      indices.filterMap (fun index => entries[index]?.map (·.read)) = listed := by
  induction found with
  | nil => simp
  | cons head _ ih =>
    have inside := (List.getElem?_eq_some_iff.mp head).1
    refine ⟨List.forall_mem_cons.mpr ⟨inside, ih.1⟩, ?_⟩
    rw [List.filterMap_cons, head, ih.2, Option.map_some, read_historyEntry]

theorem replaySplices_encodeSnapshots (result : HtlcHistory)
    (decimal : ∀ row ∈ rows, isDecimal row.commitmentNumber = true)
    (distinct : ((result.values ++ rows).map HistoryRow.commitmentNumber).Nodup) :
    let encoded := encodeSnapshots entries previous rows
    ∃ final, replaySplices encoded.1 result previous encoded.2 = .ok final ∧ final.values = result.values ++ rows := by
  induction rows generalizing entries previous result with
  | nil => exact ⟨result, rfl, (List.append_nil _).symm⟩
  | cons row rest ih =>
    obtain ⟨-, found, -⟩ := internAll_spec entries (row.entries.map historyEntry)
    obtain ⟨grows, -⟩ : _ ∧ (encodeSnapshots _ _ rest).1 ⊆ _ := encodeSnapshots_entries
      (internAll entries (row.entries.map historyEntry)).1 (internAll entries (row.entries.map historyEntry)).2
    simp only [encodeSnapshots]
    generalize internAll entries (row.entries.map historyEntry) = interned at *
    obtain ⟨inside, fits, among, restored⟩ := spliceOf_restores row.commitmentNumber previous interned.2
    obtain ⟨bounded, read⟩ := read_all ((List.forall₂_map_right_iff.mp found).imp fun _ _ => getElem?_of_grown grows)
    have absent : result.has row.commitmentNumber = false := by
      rw [KeyedMap.has_eq_false]
      rw [List.map_append, List.nodup_append] at distinct
      exact fun other member => distinct.2.2 _ (List.mem_map_of_mem member) _ (by simp)
    have values : (result.set row).values = result.values ++ [row] := KeyedMap.values_set_of_absent absent
    obtain ⟨final, replayed, same⟩ := ih interned.1 interned.2 (result.set row)
      (fun other member => decimal other (.tail _ member)) (by rw [values, List.append_assoc]; exact distinct)
    refine ⟨final, ?_, by rw [same, values, List.append_assoc]; rfl⟩
    rw [replaySplices, if_neg]
    · dsimp only
      rw [restored, read]
      exact replayed
    · rintro (other | taken | past | past | ⟨index, added, past⟩)
      · cases (decimal row List.mem_cons_self).symm.trans other
      · cases absent.symm.trans taken
      · omega
      · omega
      · have := bounded index (among added)
        omega

def Storable (history : HtlcHistory) : Prop :=
  ∀ row ∈ history.values, isDecimal row.commitmentNumber = true ∧ ∀ e ∈ row.entries,
    e.paymentHash.length = 32 ∧ e.amountMsat < 2 ^ 64 ∧ e.cltvExpiry < 2 ^ 32

theorem decodeHtlcHistory_encodeHtlcHistory {history : HtlcHistory} (storable : Storable history) :
    decodeHtlcHistory (encodeHtlcHistory (some history)) = .ok (if 0 < history.size then some history else none) := by
  obtain ⟨final, replayed, values⟩ := replaySplices_encodeSnapshots [] [] .empty
    (fun row member => (storable row member).1) history.nodup
  have whole : final = history := KeyedMap.ext_values values
  rw [decodeHtlcHistory, if_neg (by simp [encodeHtlcHistory]), if_neg]
  · rw [encodeHtlcHistory]
    dsimp only [Option.elim_some]
    rw [replayed, whole]
    rfl
  · rintro ⟨e, member, invalid⟩
    obtain ⟨row, inside, there⟩ := List.mem_flatMap.mp ((encodeSnapshots_entries [] []).2 member)
    obtain ⟨snapshot, listed, rfl⟩ := List.mem_map.mp there
    obtain ⟨hash, amount, expiry⟩ := (storable row inside).2 snapshot listed
    rw [valid_historyEntry hash amount expiry] at invalid
    cases invalid

def sampleHistory : HtlcHistory :=
  let first : HtlcSnapshotEntry := ⟨List.replicate 32 7, 5000, 600, .offered⟩
  let second : HtlcSnapshotEntry := ⟨List.replicate 32 8, 9000, 700, .received⟩
  (KeyedMap.empty.set ⟨"12", [first, second, first]⟩).set ⟨"3", [first, first]⟩

theorem repeated_entries_read_back :
    decodeHtlcHistory (encodeHtlcHistory (some sampleHistory)) = .ok (some sampleHistory) := by
  apply decodeHtlcHistory_encodeHtlcHistory
  unfold Storable
  decide

end RoundTrip

end Beignet.Storage
