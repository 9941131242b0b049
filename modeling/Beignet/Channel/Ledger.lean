import Beignet.Data.TwoLogs
import Beignet.Channel.Holdings

namespace Beignet.Channel

open Beignet.Data Beignet.TwoLogs
open Function (update_self update)
open Side (other_other)

/-! What the two sides of a channel have agreed on, kept as one ledger: every update either side has
    ever sent, and for every HTLC where in the two logs it was added and removed. A commitment is
    known by its holder and by how much of either log it takes in. -/

inductive LedgerUpdate where
  | add (id : Nat)
  | remove (id : Nat) (disposition : HtlcState)
  | fee (feeratePerKw : Nat)
  deriving DecidableEq, Repr

structure HtlcRecord where
  amountMsat : Nat
  paymentHash : Bytes
  cltvExpiry : Nat
  addedAt : Nat
  removal : Option (Nat × HtlcState)
  deriving DecidableEq, Repr

inductive Place where
  | returned
  | inFlight
  | paid
  deriving DecidableEq, Repr

def debit : HtlcDirection → Nat → Holdings
  | .offered, amount => ours (-amount)
  | .received, amount => theirs (-amount)

def credit : HtlcDirection → Nat → Holdings
  | .offered, amount => theirs amount
  | .received, amount => ours amount

namespace HtlcRecord

variable (r : HtlcRecord) (d : HtlcDirection)

def terms : HtlcTerms := ⟨r.amountMsat, r.paymentHash, r.cltvExpiry, d⟩

def place (offerers others : Nat) : Place :=
  if r.addedAt < offerers then
    match r.removal with
    | some (k, d) => if k < others then (if d = .fulfilled then .paid else .returned) else .inFlight
    | none => .inFlight
  else .returned

def balance : Place → Holdings
  | .returned => 0
  | .inFlight => debit d r.amountMsat
  | .paid => debit d r.amountMsat + credit d r.amountMsat

def share (p : Place) : Holdings :=
  r.balance d p + if p = .inFlight then locked (r.terms d) else 0

end HtlcRecord

def commitmentHoldings (base : Side → Holdings) (offers : Side → List HtlcRecord) (holder : Side)
    (own others : Nat) : Holdings :=
  base holder + ((offers holder).map fun r => r.share .offered (r.place own others)).sum +
    ((offers holder.other).map fun r => r.share .received (r.place others own)).sum

def LedgerUpdate.rate (before : Nat) : LedgerUpdate → Nat
  | .fee rate => rate
  | _ => before

def rateAt (first : Nat) (log : List LedgerUpdate) (count : Nat) : Nat :=
  (log.take count).foldl LedgerUpdate.rate first

variable {first : Nat} {log : List LedgerUpdate} {count : Nat} (offers : Side → List HtlcRecord) {α : Type*}
  {a b : α} {i : Nat}

theorem rateAt_append (inside : count ≤ log.length)
    (u : LedgerUpdate) : rateAt first (log ++ [u]) count = rateAt first log count := by
  rw [rateAt, rateAt, List.take_append_of_le_length inside]

theorem rateAt_succ {u : LedgerUpdate}
    (next : log[count]? = some u) : rateAt first log (count + 1) = u.rate (rateAt first log count) := by
  rw [rateAt, List.take_add_one, next, List.foldl_append]
  rfl

structure Recorded (log : Side → List LedgerUpdate) (offers : Side → List HtlcRecord) : Prop where
  added : ∀ (x : Side) (id : Nat) (r : HtlcRecord), (offers x)[id]? = some r → (log x)[r.addedAt]? = some (.add id)
  removed : ∀ (x : Side) (id : Nat) (r : HtlcRecord) (k : Nat) (d : HtlcState),
    (offers x)[id]? = some r → r.removal = some (k, d) → (log x.other)[k]? = some (.remove id d) ∧ d.live = false
  adds : ∀ (x : Side) (p id : Nat), (log x)[p]? = some (.add id) → ∃ r, (offers x)[id]? = some r ∧ r.addedAt = p
  removes : ∀ (x : Side) (p id : Nat) (d : HtlcState), (log x.other)[p]? = some (.remove id d) →
    ∃ r, (offers x)[id]? = some r ∧ r.removal = some (p, d)

def addOffer (x : Side) (r : HtlcRecord) : Side → List HtlcRecord :=
  Function.update offers x (offers x ++ [r])

def markRemoved (records : List HtlcRecord) (id : Nat) (removal : Nat × HtlcState) : List HtlcRecord :=
  records.modify id fun r => { r with removal := some removal }

def removeOffer (x : Side) (id : Nat) (removal : Nat × HtlcState) : Side → List HtlcRecord :=
  Function.update offers x.other (markRemoved (offers x.other) id removal)

theorem getElem?_concat_eq_some {l : List α} : (l ++ [a])[i]? = some b ↔ l[i]? = some b ∨ i = l.length ∧ a = b := by
  rcases Nat.lt_trichotomy i l.length with inside | rfl | outside
  · rw [List.getElem?_append_left inside]
    simp [inside.ne]
  · simp
  · rw [List.getElem?_eq_none (by simp; omega), List.getElem?_eq_none outside.le]
    simp [outside.ne']

theorem getElem?_update_concat {logs : Side → List α} {x y : Side} : (update logs x (logs x ++ [a]) y)[i]? = some b ↔
      (logs y)[i]? = some b ∨ y = x ∧ i = (logs x).length ∧ a = b := by
  rcases x.eq_or_other y with rfl | rfl
  · simp [getElem?_concat_eq_some]
  · simp

section MarkRemoved

variable {records : List HtlcRecord} {id i : Nat} {removal : Nat × HtlcState}

theorem getElem?_markRemoved : (markRemoved records id removal)[i]? =
    records[i]?.map fun r => if i = id then { r with removal := some removal } else r := by
  rw [markRemoved, List.getElem?_modify]
  by_cases same : id = i
  · simp [same]
  · simp [same, Ne.symm same]

theorem map_markRemoved {α : Type*} {r : HtlcRecord} (g : HtlcRecord → α) (found : records[id]? = some r)
    (same : g { r with removal := some removal } = g r) :
    (markRemoved records id removal).map g = records.map g := by
  refine List.ext_getElem? fun i => ?_
  rw [List.getElem?_map, List.getElem?_map, getElem?_markRemoved, Option.map_map]
  by_cases own : i = id
  · subst own
    simp [found, same]
  · simp only [own, ↓reduceIte]
    rfl

end MarkRemoved

section RemoveOffer

variable {offers : Side → List HtlcRecord} {x : Side} {id i : Nat} {removal : Nat × HtlcState}
  {r : HtlcRecord}

theorem removeOffer_self : removeOffer offers x id removal x = offers x := by
  simp [removeOffer]

theorem getElem?_removeOffer {y : Side} : (removeOffer offers x id removal y)[i]? =
    (offers y)[i]?.map fun r => if y = x.other ∧ i = id then { r with removal := some removal } else r := by
  rcases x.eq_or_other y with rfl | rfl
  · simp [removeOffer_self]
  · rw [removeOffer, update_self, getElem?_markRemoved]
    simp

theorem map_removeOffer {α : Type*} (g : HtlcRecord → α)
    (found : (offers x.other)[id]? = some r) (same : g { r with removal := some removal } = g r) :
    (removeOffer offers x id removal x.other).map g = (offers x.other).map g := by
  rw [removeOffer, update_self, map_markRemoved g found same]

end RemoveOffer

namespace Recorded

variable {log : Side → List LedgerUpdate} {offers : Side → List HtlcRecord}
  (recorded : Recorded log offers)
include recorded

theorem add {x : Side} {r : HtlcRecord} (addedAt : r.addedAt = (log x).length) (fresh : r.removal = none) :
    Recorded (update log x (log x ++ [.add (offers x).length])) (addOffer offers x r) where
  added y id r' found := by
    rw [getElem?_update_concat]
    rcases getElem?_update_concat.mp found with found | ⟨rfl, rfl, rfl⟩
    · exact .inl (recorded.added y id r' found)
    · exact .inr ⟨rfl, addedAt, rfl⟩
  removed y id r' k d found removal := by
    rcases getElem?_update_concat.mp found with found | ⟨rfl, rfl, rfl⟩
    · exact (recorded.removed y id r' k d found removal).imp_left fun there => getElem?_update_concat.mpr (.inl there)
    · rw [fresh] at removal
      cases removal
  adds y p id found := by
    rcases getElem?_update_concat.mp found with found | ⟨rfl, rfl, same⟩
    · obtain ⟨r', there, at'⟩ := recorded.adds y p id found
      exact ⟨r', getElem?_update_concat.mpr (.inl there), at'⟩
    · cases same
      exact ⟨r, getElem?_update_concat.mpr (.inr ⟨rfl, rfl, rfl⟩), addedAt⟩
  removes y p id d found := by
    rcases getElem?_update_concat.mp found with found | ⟨-, -, same⟩
    · obtain ⟨r', there, removal⟩ := recorded.removes y p id d found
      exact ⟨r', getElem?_update_concat.mpr (.inl there), removal⟩
    · cases same

theorem remove {x : Side} {id : Nat} {r : HtlcRecord} {d : HtlcState}
    (found : (offers x.other)[id]? = some r) (unremoved : r.removal = none) (dead : d.live = false) :
    Recorded (update log x (log x ++ [.remove id d])) (removeOffer offers x id ((log x).length, d)) where
  added y id' r' found' := by
    rw [getElem?_removeOffer, Option.map_eq_some_iff] at found'
    obtain ⟨before, there, rfl⟩ := found'
    have at' := recorded.added y id' before there
    split <;> exact getElem?_update_concat.mpr (.inl at')
  removed y id' r' k d' found' removal := by
    rw [getElem?_removeOffer, Option.map_eq_some_iff] at found'
    obtain ⟨before, there, rfl⟩ := found'
    rw [getElem?_update_concat]
    split at removal
    · rename_i same
      obtain ⟨rfl, rfl⟩ := same
      cases removal
      exact ⟨.inr ⟨other_other x, rfl, rfl⟩, dead⟩
    · exact (recorded.removed y id' before k d' there removal).imp_left .inl
  adds y p id' found' := by
    rcases getElem?_update_concat.mp found' with found' | ⟨-, -, same⟩
    · obtain ⟨before, there, rfl⟩ := recorded.adds y p id' found'
      rw [getElem?_removeOffer, there]
      refine ⟨_, rfl, ?_⟩
      split <;> rfl
    · cases same
  removes y p id' d' found' := by
    rw [getElem?_removeOffer]
    rcases getElem?_update_concat.mp found' with found' | ⟨rfl, rfl, same⟩
    · obtain ⟨before, there, removal⟩ := recorded.removes y p id' d' found'
      rw [there]
      refine ⟨_, rfl, ?_⟩
      beta_reduce
      rw [if_neg]
      · exact removal
      · rintro ⟨rfl, rfl⟩
        cases there.symm.trans found
        rw [unremoved] at removal
        cases removal
    · cases same
      rw [other_other] at found
      rw [found]
      exact ⟨_, rfl, by simp⟩

theorem fee (x : Side) (rate : Nat) : Recorded (update log x (log x ++ [.fee rate])) offers where
  added y id r found := getElem?_update_concat.mpr (.inl (recorded.added y id r found))
  removed y id r k d found removal :=
    (recorded.removed y id r k d found removal).imp_left fun there => getElem?_update_concat.mpr (.inl there)
  adds y p id found := by
    rcases getElem?_update_concat.mp found with found | ⟨-, -, same⟩
    · exact recorded.adds y p id found
    · cases same
  removes y p id d found := by
    rcases getElem?_update_concat.mp found with found | ⟨-, -, same⟩
    · exact recorded.removes y p id d found
    · cases same

end Recorded

namespace HtlcRecord

variable {r : HtlcRecord} {offerers others k : Nat} {d : HtlcState}

theorem place_of_unadded (late : offerers ≤ r.addedAt) : r.place offerers others = .returned := by
  rw [place, if_neg (Nat.not_lt.mpr late)]

theorem place_of_unremoved (added : r.addedAt < offerers)
    (late : ∀ k d, r.removal = some (k, d) → others ≤ k) : r.place offerers others = .inFlight := by
  rw [place, if_pos added]
  split
  · rename_i k d removal
    rw [if_neg (Nat.not_lt.mpr (late k d removal))]
  · rfl

theorem place_of_removed (added : r.addedAt < offerers) (removal : r.removal = some (k, d))
    (early : k < others) : r.place offerers others = if d = .fulfilled then .paid else .returned := by
  rw [place, if_pos added, removal]
  simp [early]

theorem place_of_late (added : r.addedAt < offerers) (removal : r.removal = some (k, d)) (late : others ≤ k) :
    r.place offerers others = .inFlight := by
  rw [place, if_pos added, removal]
  simp [late]

theorem place_remove (unremoved : r.removal = none) (late : others ≤ k) :
    { r with removal := some (k, d) }.place offerers others = r.place offerers others := by
  simp only [place, unremoved, Nat.not_lt.mpr late, ↓reduceIte]

theorem place_congr {offerers' : Nat} (same : r.addedAt < offerers ↔ r.addedAt < offerers') :
    r.place offerers others = r.place offerers' others := by
  by_cases added : r.addedAt < offerers
  · rw [place, if_pos added, place, if_pos (same.mp added)]
  · rw [place, if_neg added, place, if_neg (mt same.mpr added)]

theorem share_returned (r : HtlcRecord) (d : HtlcDirection) : r.share d .returned = 0 := rfl

end HtlcRecord

section Stable

variable {base : Side → Holdings} {log : Side → List LedgerUpdate} {offers : Side → List HtlcRecord}
  {x holder : Side} {own others : Nat} (inside : own ≤ (log holder).length)
  (inside' : others ≤ (log holder.other).length)
include inside inside'

theorem commitmentHoldings_addOffer {r : HtlcRecord} (addedAt : r.addedAt = (log x).length) :
    commitmentHoldings base (addOffer offers x r) holder own others =
      commitmentHoldings base offers holder own others := by
  rcases x.eq_or_other holder with rfl | rfl
  · have late : r.place own others = .returned := HtlcRecord.place_of_unadded (inside.trans addedAt.ge)
    simp [commitmentHoldings, addOffer, late, HtlcRecord.share_returned]
  · rw [other_other] at inside'
    have late : r.place others own = .returned := HtlcRecord.place_of_unadded (inside'.trans addedAt.ge)
    simp [commitmentHoldings, addOffer, late, HtlcRecord.share_returned]

theorem commitmentHoldings_removeOffer {id : Nat} {r : HtlcRecord} {d : HtlcState}
    (found : (offers x.other)[id]? = some r) (unremoved : r.removal = none) :
    commitmentHoldings base (removeOffer offers x id ((log x).length, d)) holder own others =
      commitmentHoldings base offers holder own others := by
  rcases x.eq_or_other holder with rfl | rfl
  · have same : (removeOffer offers holder id ((log holder).length, d) holder.other).map _ = _ :=
      map_removeOffer (fun r => r.share .received (r.place others own)) found (by
        rw [HtlcRecord.place_remove unremoved inside]; rfl)
    rw [commitmentHoldings, same, removeOffer_self]
    rfl
  · rw [other_other] at inside'
    have same : (removeOffer offers x id ((log x).length, d) x.other).map _ = _ :=
      map_removeOffer (fun r => r.share .offered (r.place own others)) found (by
        rw [HtlcRecord.place_remove unremoved inside']; rfl)
    rw [commitmentHoldings, same, other_other, removeOffer_self, commitmentHoldings, other_other]

end Stable

end Beignet.Channel
