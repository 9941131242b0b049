import Beignet.Channel.Tracking

namespace Beignet.Channel

open Beignet.Data Beignet.TwoLogs
open ChannelState (commitmentSent promoteFee commitmentAccepted queueUpdate_htlcs get?_offer get?_receive get?_removeOffered)

section Sums

variable {M : Type*} [AddCommMonoid M]

theorem sum_elim_range {α : Type*} (l : List α) (f : α → M) :
    ((List.range l.length).map fun i => l[i]?.elim 0 f).sum = (l.map f).sum := by
  congr 1
  refine List.ext_getElem (by simp) fun i inside inside' => ?_
  simp only [List.length_map] at inside'
  simp [inside']

theorem sum_map_change {α : Type*} {l : List α} {id : Nat} {a : α} (found : l[id]? = some a) {f g : α → M}
    {change : M} (changed : g a = f a + change)
    (same : ∀ i b, i ≠ id → l[i]? = some b → g b = f b) : (l.map g).sum = (l.map f).sum + change := by
  induction l generalizing id with
  | nil => simp at found
  | cons head rest ih =>
    cases id with
    | zero =>
      cases Option.some.inj found
      have tail : rest.map g = rest.map f := by
        refine List.map_congr_left fun b member => ?_
        obtain ⟨i, there⟩ := List.mem_iff_getElem?.mp member
        exact same (i + 1) b (Nat.succ_ne_zero i) there
      rw [List.map_cons, List.sum_cons, tail, changed, List.map_cons, List.sum_cons]
      abel
    | succ id =>
      have tail := ih found fun i b other there => same (i + 1) b (by omega) there
      have front := same 0 head (Nat.succ_ne_zero id).symm rfl
      rw [List.map_cons, List.sum_cons, tail, front, List.map_cons, List.sum_cons, add_assoc]

theorem sum_entries (m : HtlcMap) (f : HtlcEntry → M) {offered received : Nat}
    (offers : ∀ id e, m.get? (.offered, id) = some e → id < offered)
    (receipts : ∀ id e, m.get? (.received, id) = some e → id < received) : (m.values.map f).sum =
      ((List.range offered).map fun id => (m.get? (.offered, id)).elim 0 f).sum +
        ((List.range received).map fun id => (m.get? (.received, id)).elim 0 f).sum := by
  let keys := (List.range offered).map (HtlcDirection.offered, ·) ++
    (List.range received).map (HtlcDirection.received, ·)
  have distinct : keys.Nodup := by
    refine List.Nodup.append ?_ ?_ ?_
    · exact List.nodup_range.map fun a b same => (Prod.mk.inj same).2
    · exact List.nodup_range.map fun a b same => (Prod.mk.inj same).2
    · intro k left right
      obtain ⟨a, -, rfl⟩ := List.mem_map.mp left
      obtain ⟨b, -, same⟩ := List.mem_map.mp right
      cases (Prod.mk.inj same).1
  have covers : ∀ e ∈ m.values, e.key ∈ keys := by
    intro e member
    have found := (m.get?_eq_some e.key e).mpr ⟨member, rfl⟩
    rw [HtlcEntry.key] at found ⊢
    cases direction : e.direction with
    | offered =>
      rw [direction] at found
      exact List.mem_append_left _ (List.mem_map_of_mem (List.mem_range.mpr (offers _ _ found)))
    | received =>
      rw [direction] at found
      exact List.mem_append_right _ (List.mem_map_of_mem (List.mem_range.mpr (receipts _ _ found)))
  have summed : ∀ ks : List (HtlcDirection × Nat),
      ((ks.filterMap m.get?).map f).sum = (ks.map fun k => (m.get? k).elim 0 f).sum := by
    intro ks
    induction ks with
    | nil => rfl
    | cons k rest ih => cases found : m.get? k <;> simp [found, ih]
  rw [((m.values_perm_filterMap distinct covers).map f).sum_eq, summed, List.map_append, List.sum_append,
    List.map_map, List.map_map]
  rfl

end Sums

structure OpenerFee (rate : Nat → Nat) (own : Nat) (v : View) (s : ChannelState) : Prop where
  acked : s.localConfig.feeratePerKw = rate v.acked
  unstaged : s.pendingFeeratePerKw = none → ∀ c, v.acked ≤ c → c ≤ own → rate c = rate v.acked
  staged : ∀ x, s.pendingFeeratePerKw = some x → rate own = x
  committed : ∀ x, s.pendingFeeratePerKw = some x → s.pendingFeerateCommitted = true →
    ∀ c, v.signedOwn ≤ c → c ≤ own → rate c = x
  uncommitted : ∀ x, s.pendingFeeratePerKw = some x → s.pendingFeerateCommitted = false →
    rate v.signedOwn = rate v.acked

structure AcceptorFee (rate : Nat → Nat) (v : View) (s : ChannelState) : Prop where
  unstaged : s.pendingFeeratePerKw = none →
    s.remoteConfig.feeratePerKw = rate v.received ∧ rate v.revoked = rate v.received
  staged : ∀ x, s.pendingFeeratePerKw = some x → rate v.received = x
  signable : ∀ x, s.pendingFeeratePerKw = some x → s.pendingFeerateSignable = true → rate v.revoked = x
  unsignable : ∀ x, s.pendingFeeratePerKw = some x → s.pendingFeerateSignable = false →
    s.remoteConfig.feeratePerKw = rate v.revoked
  committed : ∀ x, s.pendingFeeratePerKw = some x → s.pendingFeerateCommitted = true → s.pendingFeerateSignable = true

def FeeTracked (first : Nat) (own others : List LedgerUpdate) (v : View) (s : ChannelState) : Prop :=
  match s.role with
  | .opener => OpenerFee (rateAt first own) own.length v s
  | .acceptor => AcceptorFee (rateAt first others) v s

structure Tracks (base : Holdings) (first : Nat) (own others : List LedgerUpdate) (v : View)
    (mine theirs : List HtlcRecord) (s : ChannelState) : Prop where
  phase : s.phase = .normal
  offers : ∀ id, TracksOffer v mine[id]? (s.htlcs.get? (.offered, id))
  receipts : ∀ id, TracksReceipt v theirs[id]? (s.htlcs.get? (.received, id))
  counter : s.localHtlcCounter = mine.length
  balances : ((s.localBalanceMsat, s.remoteBalanceMsat, 0) : Holdings) =
    base + (mine.map (ownBalance v)).sum + (theirs.map (peerBalance v)).sum
  fee : FeeTracked first own others v s
  revocations : ∃ count, s.remoteRevocationNumber = some count ∧ s.remoteCommitmentNumber = count + v.awaiting.toNat
  nonce : isTaprootChannel s.channelType = true → s.localNextNonce.isSome = true

structure Logged (own others : List LedgerUpdate) (mine theirs : List HtlcRecord) : Prop where
  added : ∀ (id : Nat) (r : HtlcRecord), mine[id]? = some r → own[r.addedAt]? = some (.add id)
  removed : ∀ (id : Nat) (r : HtlcRecord) (k : Nat) (d : HtlcState), mine[id]? = some r →
    r.removal = some (k, d) → others[k]? = some (.remove id d)
  peerAdded : ∀ (id : Nat) (r : HtlcRecord), theirs[id]? = some r → others[r.addedAt]? = some (.add id)
  peerRemoved : ∀ (id : Nat) (r : HtlcRecord) (k : Nat) (d : HtlcState), theirs[id]? = some r →
    r.removal = some (k, d) → own[k]? = some (.remove id d)

theorem Recorded.logged {log : Side → List LedgerUpdate} {offers : Side → List HtlcRecord}
    (recorded : Recorded log offers) (x : Side) : Logged (log x) (log x.other) (offers x) (offers x.other) where
  added := recorded.added x
  removed id r k d found removal := (recorded.removed x id r k d found removal).1
  peerAdded := recorded.added x.other
  peerRemoved id r k d found removal := by
    simpa using (recorded.removed x.other id r k d found removal).1

variable {base : Holdings} {first : Nat} {own others : List LedgerUpdate} {v : View}
  {mine theirs : List HtlcRecord} {s : ChannelState}
  (tracks : Tracks base first own others v mine theirs s) (logged : Logged own others mine theirs)
  (bounded : v.Bounded own.length others.length) {id k : Nat} {r : HtlcRecord} {d : HtlcState}
  {u : LedgerUpdate}

section Logged

include logged

theorem Logged.added_lt (found : mine[id]? = some r) : r.addedAt < own.length :=
  (List.getElem?_eq_some_iff.mp (logged.added id r found)).1

theorem Logged.peerRemoved_lt (found : theirs[id]? = some r) (removal : r.removal = some (k, d)) : k < own.length :=
  (List.getElem?_eq_some_iff.mp (logged.peerRemoved id r k d found removal)).1

theorem Logged.peerBalance_advance (next : others[v.received]? = some u)
    (found : theirs[id]? = some r) (elsewhere : u ≠ .add id) : peerBalance v.advance r = peerBalance v r := by
  have apart : r.addedAt ≠ v.received := fun at' => by
    rw [← at', logged.peerAdded id r found] at next
    exact elsewhere (Option.some.inj next).symm
  have same : r.addedAt < v.received + 1 ↔ r.addedAt < v.received := by omega
  exact congrArg (r.balance .received) (HtlcRecord.place_congr same)

end Logged

theorem TracksOffer.isSome_of_entry {r : Option HtlcRecord} {e : HtlcEntry}
    (tracks : TracksOffer v r (some e)) : r.isSome = true := by
  cases tracks <;> rfl

theorem TracksReceipt.isSome_of_entry {r : Option HtlcRecord} {e : HtlcEntry}
    (tracks : TracksReceipt v r (some e)) : r.isSome = true := by
  cases tracks <;> rfl

theorem mirror_add (a b : Holdings) : mirror (a + b) = mirror a + mirror b := rfl

theorem mirror_sum (l : List Holdings) : mirror l.sum = (l.map mirror).sum := by
  induction l with
  | nil => rfl
  | cons a rest ih => rw [List.sum_cons, mirror_add, ih, List.map_cons, List.sum_cons]

section Holdings

include tracks

theorem Tracks.sum_eq (g : HtlcEntry → Holdings) {f h f' h' : HtlcRecord → Holdings}
    (offers : ∀ id, mine[id]?.elim 0 f + (s.htlcs.get? (.offered, id)).elim 0 g = mine[id]?.elim 0 h)
    (receipts : ∀ id, theirs[id]?.elim 0 f' + (s.htlcs.get? (.received, id)).elim 0 g = theirs[id]?.elim 0 h') :
    (mine.map f).sum + (theirs.map f').sum + (s.htlcs.values.map g).sum = (mine.map h).sum + (theirs.map h').sum := by
  have numbered : ∀ id e, s.htlcs.get? (.offered, id) = some e → id < mine.length := by
    intro id e found
    have known := tracks.offers id
    rw [found] at known
    obtain ⟨r, there⟩ := Option.isSome_iff_exists.mp known.isSome_of_entry
    exact (List.getElem?_eq_some_iff.mp there).1
  have numbered' : ∀ id e, s.htlcs.get? (.received, id) = some e → id < theirs.length := by
    intro id e found
    have known := tracks.receipts id
    rw [found] at known
    obtain ⟨r, there⟩ := Option.isSome_iff_exists.mp known.isSome_of_entry
    exact (List.getElem?_eq_some_iff.mp there).1
  rw [sum_entries s.htlcs g numbered numbered', ← sum_elim_range mine f, ← sum_elim_range theirs f',
    add_add_add_comm, ← List.sum_map_add, ← List.sum_map_add]
  simp only [offers, receipts]
  rw [sum_elim_range, sum_elim_range]

include bounded

theorem Tracks.localSpec_held : (localSpec s false).held =
      base + (mine.map fun r => r.share .offered (r.place v.acked v.received)).sum +
        (theirs.map fun r => r.share .received (r.place v.received v.acked)).sum := by
  have shares := tracks.sum_eq (localShare false) (fun id => (tracks.offers id).localShare_eq bounded)
    fun id => (tracks.receipts id).localShare_eq bounded
  rw [Channel.localSpec_held, tracks.balances]
  simp only [signedLocalRetainedRemovals, Bool.false_eq_true, ↓reduceIte, List.map_nil, List.sum_nil, add_zero]
  rw [add_assoc base, add_assoc base, shares, ← add_assoc]

theorem Tracks.remoteSpec_signed (logged : Logged own others mine theirs) : (remoteSpec s).signed =
      mirror base + (theirs.map fun r => r.share .offered (r.place v.revoked own.length)).sum +
        (mine.map fun r => r.share .received (r.place own.length v.revoked)).sum := by
  have mirrored : ((s.remoteBalanceMsat, s.localBalanceMsat, 0) : Holdings) = mirror base +
      ((mine.map fun r => mirror (ownBalance v r)).sum + (theirs.map fun r => mirror (peerBalance v r)).sum) := by
    have flipped := congrArg mirror tracks.balances
    rw [mirror_add, mirror_add, mirror_sum, mirror_sum, List.map_map, List.map_map, add_assoc] at flipped
    exact flipped
  have pushed : ∀ (r : Option HtlcRecord) (f : HtlcRecord → Holdings),
      mirror (r.elim 0 f) = r.elim 0 fun r => mirror (f r) := by
    intro r f
    cases r <;> rfl
  have offers := fun id => (tracks.offers id).remoteShare_eq bounded fun _ found => logged.added_lt found
  have receipts := fun id => (tracks.receipts id).remoteShare_eq bounded
    fun _ _ _ found removal => logged.peerRemoved_lt found removal
  simp only [pushed] at offers receipts
  have shares := tracks.sum_eq remoteShare offers receipts
  rw [Channel.remoteSpec_signed, mirrored, add_assoc, shares, add_assoc]
  congr 1
  exact add_comm _ _

omit bounded in
theorem Tracks.localSpec_rate : (localSpec s false).feeratePerKw =
      match s.role with
      | .opener => rateAt first own v.acked
      | .acceptor => rateAt first others v.received := by
  have fee := tracks.fee
  cases role : s.role with
  | opener =>
    simp only [FeeTracked, role] at fee
    cases pending : s.pendingFeeratePerKw <;>
      simp [localSpec, getLocalCommitmentFeeRate, committedFeeRate, role, pending, fee.acked]
  | acceptor =>
    simp only [FeeTracked, role] at fee
    cases pending : s.pendingFeeratePerKw with
    | none => simp [localSpec, getLocalCommitmentFeeRate, committedFeeRate, role, pending, fee.unstaged]
    | some x => simp [localSpec, getLocalCommitmentFeeRate, role, pending, fee.staged x pending]

theorem Tracks.remoteSpec_rate : (remoteSpec s).feeratePerKw =
      match s.role with
      | .opener => rateAt first own own.length
      | .acceptor => rateAt first others v.revoked := by
  have fee := tracks.fee
  cases role : s.role with
  | opener =>
    simp only [FeeTracked, role] at fee
    cases pending : s.pendingFeeratePerKw with
    | none =>
      simp [remoteSpec, getRemoteCommitmentFeeRate, committedFeeRate, role, pending, fee.acked,
        fee.unstaged pending own.length bounded.acked_le (Nat.le_refl _)]
    | some x => simp [remoteSpec, getRemoteCommitmentFeeRate, role, pending, fee.staged x pending]
  | acceptor =>
    simp only [FeeTracked, role] at fee
    cases pending : s.pendingFeeratePerKw with
    | none => simp [remoteSpec, getRemoteCommitmentFeeRate, committedFeeRate, role, pending, fee.unstaged]
    | some x =>
      cases signable : s.pendingFeerateSignable with
      | true => simp [remoteSpec, getRemoteCommitmentFeeRate, pending, signable, fee.signable x pending signable]
      | false =>
        simp [remoteSpec, getRemoteCommitmentFeeRate, committedFeeRate, role, pending, signable,
          fee.unsignable x pending signable]

end Holdings

theorem ChannelState.promoteFee_cases (s : ChannelState) :
    (∃ x, s.pendingFeerateCommitted = true ∧ s.pendingFeeratePerKw = some x ∧
        s.promoteFee.pendingFeeratePerKw = none) ∨
      (s.pendingFeerateCommitted = true → s.pendingFeeratePerKw = none) ∧ s.promoteFee = s := by
  by_cases promoted : ∃ x, s.pendingFeerateCommitted = true ∧ s.pendingFeeratePerKw = some x
  · obtain ⟨x, committed, pending⟩ := promoted
    exact .inl ⟨x, committed, pending, by simp [promoteFee, pending, committed]⟩
  · have none : s.pendingFeerateCommitted = true → s.pendingFeeratePerKw = none := by
      simpa [Option.eq_none_iff_forall_ne_some] using promoted
    have nothing : (if s.pendingFeerateCommitted then s.pendingFeeratePerKw else .none) = .none := by
      cases committed : s.pendingFeerateCommitted with
      | true => simpa using none committed
      | false => rfl
    refine .inr ⟨none, ?_⟩
    simp only [promoteFee, nothing, Option.isSome_none, Bool.false_eq_true, ↓reduceIte]

namespace OpenerFee

variable {rate : Nat → Nat} {own : Nat} (fee : OpenerFee rate own v s)
include fee

section Append

variable {rate' : Nat → Nat} (agree : ∀ c, c ≤ own → rate' c = rate c) {other : Nat}
  (within : v.Bounded own other)
include agree within

theorem quiet (last : rate' (own + 1) = rate own) : OpenerFee rate' (own + 1) v s := by
  have reach : ∀ c, c ≤ own + 1 → c ≤ own ∨ c = own + 1 := fun c inside => by omega
  have start := agree v.acked within.acked_le
  refine ⟨fee.acked.trans start.symm, fun unstaged c low high => ?_, fun x staged => ?_,
    fun x staged committed c low high => ?_, fun x staged uncommitted => ?_⟩
  · rw [start]
    rcases reach c high with inside | rfl
    · rw [agree c inside, fee.unstaged unstaged c low inside]
    · rw [last, fee.unstaged unstaged own within.acked_le (Nat.le_refl _)]
  · rw [last, fee.staged x staged]
  · rcases reach c high with inside | rfl
    · rw [agree c inside, fee.committed x staged committed c low inside]
    · rw [last, fee.staged x staged]
  · rw [agree _ within.signedOwn, start, fee.uncommitted x staged uncommitted]

theorem stage {x : Nat} (last : rate' (own + 1) = x)
    (free : ¬ (s.pendingFeeratePerKw.isSome = true ∧ s.pendingFeerateCommitted = true)) :
    OpenerFee rate' (own + 1) v (s.stageFee x) := by
  have start := agree v.acked within.acked_le
  refine ⟨fee.acked.trans start.symm, nofun, fun y staged => ?_, nofun, fun y staged uncommitted => ?_⟩
  · cases staged
    exact last
  · rw [agree _ within.signedOwn, start]
    cases pending : s.pendingFeeratePerKw with
    | none => exact fee.unstaged pending _ within.acked within.signedOwn
    | some y =>
      refine fee.uncommitted y pending (Bool.eq_false_of_not_eq_true fun committed => ?_)
      exact free ⟨by rw [pending]; rfl, committed⟩

end Append

theorem sign (role : s.role = .opener) : OpenerFee rate own (v.sign own) s.commitmentSent := by
  refine ⟨fee.acked, fee.unstaged, fee.staged, fun x staged _ c low high => ?_, fun x staged uncommitted => ?_⟩
  · cases Nat.le_antisymm low high
    exact fee.staged x staged
  · have staged : s.pendingFeeratePerKw = some x := staged
    simp [commitmentSent, staged, role] at uncommitted

theorem settle (role : s.role = .opener) {other : Nat} (bounded : v.Bounded own other) :
    OpenerFee rate own v.settle s.promoteFee := by
  rcases s.promoteFee_cases with ⟨x, committed, pending, unstaged⟩ | ⟨nothing, same⟩
  · have covered := fee.committed x pending committed
    have now : rate v.signedOwn = x := covered _ (Nat.le_refl _) bounded.signedOwn
    refine ⟨?_, fun _ c low high => (covered c low high).trans now.symm, ?_, ?_, ?_⟩
    · simp [promoteFee, pending, committed, role, View.settle, now]
    all_goals simp [unstaged]
  · have kept : rate v.signedOwn = rate v.acked := by
      cases pending : s.pendingFeeratePerKw with
      | none => exact fee.unstaged pending _ bounded.acked bounded.signedOwn
      | some x =>
        refine fee.uncommitted x pending (Bool.eq_false_of_not_eq_true fun committed => ?_)
        rw [nothing committed] at pending
        cases pending
    rw [same]
    exact { fee with
      acked := fee.acked.trans kept.symm
      unstaged := fun unstaged c low high =>
        (fee.unstaged unstaged c (bounded.acked.trans low) high).trans kept.symm
      uncommitted := fun _ _ _ => rfl }

end OpenerFee

namespace AcceptorFee

variable {rate : Nat → Nat} (fee : AcceptorFee rate v s)
include fee

theorem append {rate' : Nat → Nat} (agree : ∀ c, c ≤ v.received → rate' c = rate c)
    (bounded : v.revoked ≤ v.received) : AcceptorFee rate' v s := by
  have now := agree _ (Nat.le_refl v.received)
  have before := agree _ bounded
  refine ⟨fun unstaged => ?_, fun x staged => ?_, fun x staged signable => ?_,
    fun x staged unsignable => ?_, fee.committed⟩
  · rw [now, before]
    exact fee.unstaged unstaged
  · rw [now]
    exact fee.staged x staged
  · rw [before]
    exact fee.signable x staged signable
  · rw [before]
    exact fee.unsignable x staged unsignable

theorem advance (next : rate (v.received + 1) = rate v.received) : AcceptorFee rate v.advance s :=
  { fee with
    unstaged := fun unstaged => by
      change s.remoteConfig.feeratePerKw = rate (v.received + 1) ∧ rate v.revoked = rate (v.received + 1)
      rw [next]
      exact fee.unstaged unstaged
    staged := fun x staged => next.trans (fee.staged x staged) }

theorem stage {x : Nat} (next : rate (v.received + 1) = x) : AcceptorFee rate v.advance (s.stagePeerFee x) := by
  refine ⟨nofun, fun y staged => ?_, nofun, fun y _ _ => ?_, nofun⟩
  · cases staged
    exact next
  · change (s.stagePeerFee x).remoteConfig.feeratePerKw = rate v.revoked
    unfold ChannelState.stagePeerFee
    cases pending : s.pendingFeeratePerKw with
    | none => exact (fee.unstaged pending).1.trans (fee.unstaged pending).2.symm
    | some z =>
      cases signable : s.pendingFeerateSignable with
      | true => exact (fee.signable z pending signable).symm
      | false => exact fee.unsignable z pending signable

variable (role : s.role = .acceptor)
include role

theorem accept (ver : Verifier) (msg : CommitmentSigned) :
    AcceptorFee rate v.revoke (s.commitmentAccepted ver msg) := by
  have signable : ∀ x, s.pendingFeeratePerKw = some x →
      (s.commitmentAccepted ver msg).pendingFeerateSignable = true := by
    intro x staged
    simp only [commitmentAccepted, becomesSignable, staged, role]
    cases s.pendingFeerateSignable <;> rfl
  refine ⟨fun unstaged => ⟨(fee.unstaged unstaged).1, rfl⟩, fee.staged, fun x staged _ => ?_,
    fun x staged unsignable => ?_, fun x staged _ => signable x staged⟩
  · exact fee.staged x staged
  · rw [signable x staged] at unsignable
    cases unsignable

theorem sign (own : Nat) : AcceptorFee rate (v.sign own) s.commitmentSent :=
  { fee with
    committed := fun x staged committed => by
      by_cases signable : s.pendingFeerateSignable = true
      · exact signable
      · have before : s.pendingFeerateCommitted = true := by
          simpa [commitmentSent, signable, role] using committed
        exact fee.committed x staged before }

theorem settle : AcceptorFee rate v.settle s.promoteFee := by
  rcases s.promoteFee_cases with ⟨x, committed, pending, unstaged⟩ | ⟨-, same⟩
  · have now := fee.staged x pending
    have before := fee.signable x pending (fee.committed x pending committed)
    refine ⟨fun _ => ⟨?_, before.trans now.symm⟩, ?_, ?_, ?_, ?_⟩
    · simp [promoteFee, pending, committed, role, View.settle, now]
    all_goals simp [unstaged]
  · rw [same]
    exact { fee with }

end AcceptorFee

def LedgerUpdate.quiet : LedgerUpdate → Bool
  | .fee _ => false
  | _ => true

theorem LedgerUpdate.rate_of_quiet (quiet : u.quiet = true) (before : Nat) : u.rate before = before := by
  cases u with
  | fee => cases quiet
  | add | remove => rfl

namespace FeeTracked

theorem of_opener (role : s.role = .opener) :
    FeeTracked first own others v s ↔ OpenerFee (rateAt first own) own.length v s := by
  rw [FeeTracked, role]

theorem of_acceptor (role : s.role = .acceptor) :
    FeeTracked first own others v s ↔ AcceptorFee (rateAt first others) v s := by
  rw [FeeTracked, role]

variable (fee : FeeTracked first own others v s)
include fee

/-- Each role follows the fee in the log of the opener, its own or the other. -/
theorem byRole {own' others' : List LedgerUpdate} {v' : View} {t : ChannelState} (role : t.role = s.role)
    (opener : s.role = .opener → OpenerFee (rateAt first own) own.length v s →
      OpenerFee (rateAt first own') own'.length v' t)
    (acceptor : s.role = .acceptor → AcceptorFee (rateAt first others) v s →
      AcceptorFee (rateAt first others') v' t) : FeeTracked first own' others' v' t := by
  cases at' : s.role with
  | opener => exact (of_opener (role.trans at')).mpr (opener at' ((of_opener at').mp fee))
  | acceptor => exact (of_acceptor (role.trans at')).mpr (acceptor at' ((of_acceptor at').mp fee))

theorem congr {t : ChannelState} (role : t.role = s.role) (mine : t.localConfig = s.localConfig)
    (theirs : t.remoteConfig = s.remoteConfig) (staged : t.pendingFeeratePerKw = s.pendingFeeratePerKw)
    (signable : t.pendingFeerateSignable = s.pendingFeerateSignable)
    (committed : t.pendingFeerateCommitted = s.pendingFeerateCommitted) : FeeTracked first own others v t := by
  refine fee.byRole role (fun _ fee => ?_) fun _ fee => ?_
  · obtain ⟨acked, unstaged, last, covered, uncovered⟩ := fee
    exact ⟨by rwa [mine], by rwa [staged], by rwa [staged], by rwa [staged, committed],
      by rwa [staged, committed]⟩
  · obtain ⟨unstaged, last, agreed, before, covered⟩ := fee
    exact ⟨by rwa [staged, theirs], by rwa [staged], by rwa [staged, signable],
      by rwa [staged, signable, theirs], by rwa [staged, signable, committed]⟩

section Bounded

include bounded

theorem appendOwn (quiet : u.quiet = true) : FeeTracked first (own ++ [u]) others v s := by
  refine fee.byRole rfl (fun _ fee => ?_) fun _ fee => fee
  rw [List.length_append, List.length_singleton]
  refine fee.quiet (fun c inside => rateAt_append inside u) bounded ?_
  rw [rateAt_succ (u := u) (by simp), LedgerUpdate.rate_of_quiet quiet, rateAt_append (Nat.le_refl _)]

theorem stage {x : Nat} (role : s.role = .opener)
    (free : ¬ (s.pendingFeeratePerKw.isSome = true ∧ s.pendingFeerateCommitted = true)) :
    FeeTracked first (own ++ [.fee x]) others v (s.stageFee x) := by
  rw [of_opener role] at fee
  rw [of_opener (s := s.stageFee x) role, List.length_append, List.length_singleton]
  refine fee.stage (fun c inside => rateAt_append inside _) bounded ?_ free
  rw [rateAt_succ (u := .fee x) (by simp)]
  rfl

theorem appendOthers (u : LedgerUpdate) : FeeTracked first own (others ++ [u]) v s := by
  refine fee.byRole rfl (fun _ fee => fee) fun _ fee => ?_
  exact fee.append (fun c inside => rateAt_append (inside.trans bounded.received) u) bounded.revoked

theorem settle : FeeTracked first own others v.settle s.promoteFee :=
  fee.byRole rfl (fun role fee => fee.settle role bounded) fun role fee => fee.settle role

end Bounded

theorem sign : FeeTracked first own others (v.sign own.length) s.commitmentSent :=
  fee.byRole rfl (fun role fee => fee.sign role) fun role fee => fee.sign role _

theorem advance (next : others[v.received]? = some u) (quiet : u.quiet = true) :
    FeeTracked first own others v.advance s :=
  fee.byRole rfl (fun _ fee => { fee with }) fun _ fee =>
    fee.advance (by rw [rateAt_succ next, LedgerUpdate.rate_of_quiet quiet])

theorem stagePeer {x : Nat} (role : s.role = .acceptor) (next : others[v.received]? = some (.fee x)) :
    FeeTracked first own others v.advance (s.stagePeerFee x) := by
  rw [of_acceptor role] at fee
  rw [of_acceptor (s := s.stagePeerFee x) role]
  exact fee.stage (rateAt_succ next)

theorem accept (ver : Verifier) (msg : CommitmentSigned) :
    FeeTracked first own others v.revoke (s.commitmentAccepted ver msg) :=
  fee.byRole rfl (fun _ fee => { fee with }) fun role fee => fee.accept role ver msg

end FeeTracked

theorem getElem?_concat_of_ne {α : Type*} {l : List α} {a : α} {i : Nat} (other : i ≠ l.length) :
    (l ++ [a])[i]? = l[i]? := by
  rcases Nat.lt_or_gt_of_ne other with inside | outside
  · rw [List.getElem?_append_left inside]
  · rw [List.getElem?_eq_none (by simp; omega), List.getElem?_eq_none outside.le]

theorem sum_payout (l : List HtlcEntry) : (l.map HtlcEntry.payout).sum =
      ((((l.map HtlcEntry.acknowledge).filter HtlcEntry.settled).map HtlcEntry.localCredit).sum,
        (((l.map HtlcEntry.acknowledge).filter HtlcEntry.settled).map HtlcEntry.remoteCredit).sum, 0) := by
  rw [← sum_creditShare]
  induction l with
  | nil => rfl
  | cons e rest ih =>
    have same : e.acknowledge.creditShare = e.creditShare := rfl
    cases settled : e.acknowledge.settled <;> simp [HtlcEntry.payout, settled, ih, same]

theorem revocationAccepted_balances (rotated : ChannelState) :
    ((rotated.revocationAccepted.localBalanceMsat, rotated.revocationAccepted.remoteBalanceMsat, 0) : Holdings) =
      (rotated.localBalanceMsat, rotated.remoteBalanceMsat, 0) + (rotated.htlcs.values.map HtlcEntry.payout).sum := by
  rw [sum_payout]
  simp only [Prod.mk_add_mk, add_zero]
  rfl

namespace Tracks

include tracks

section Own

include bounded

theorem offer (amount : Nat) (hash : Bytes) (cltv : Nat) (onion : Bytes) (blinding : Option Bytes)
    (update : PendingUpdate) : Tracks base first (own ++ [.add mine.length]) others v
      (mine ++ [⟨amount, hash, cltv, own.length, none⟩]) theirs
      ((s.offer (offeredEntry s amount hash cltv onion blinding)).queueUpdate update) where
  phase := tracks.phase
  offers id := by
    have key : (offeredEntry s amount hash cltv onion blinding).key = (.offered, mine.length) :=
      congrArg (HtlcDirection.offered, ·) tracks.counter
    rw [queueUpdate_htlcs, get?_offer, key]
    by_cases same : id = mine.length
    · subst same
      rw [List.getElem?_concat_length, if_pos rfl]
      exact .unremoved (offeredEntry_open bounded s onion blinding)
    · rw [getElem?_concat_of_ne same, if_neg fun k => same (Prod.mk.inj k).2]
      exact tracks.offers id
  receipts id := by
    rw [queueUpdate_htlcs, get?_offer, if_neg (by simp [offeredEntry, HtlcEntry.key])]
    exact tracks.receipts id
  counter := by
    rw [List.length_append, List.length_singleton, ← tracks.counter]
    rfl
  balances := by
    have spent : ownBalance v ⟨amount, hash, cltv, own.length, none⟩ = ours (-amount) := by
      rw [ownBalance, HtlcRecord.place_of_unremoved (Nat.lt_succ_self _) (by simp)]
      rfl
    have before := tracks.balances
    rw [List.map_append, List.sum_append, List.map_singleton, List.sum_singleton, spent]
    calc ((s.localBalanceMsat - amount, s.remoteBalanceMsat, 0) : Holdings)
        = (s.localBalanceMsat, s.remoteBalanceMsat, 0) + ours (-amount) := by simp [ours, sub_eq_add_neg]
      _ = _ := by rw [before]; abel
  fee := (tracks.fee.appendOwn bounded rfl).congr rfl rfl rfl rfl rfl rfl
  revocations := tracks.revocations
  nonce := tracks.nonce

theorem settleReceived {entry : HtlcEntry}
    (found : s.htlcs.get? (.received, id) = some entry) (live : entry.state.live = true)
    (irrevocable : receivedAddIrrevocablyCommitted entry = true) (dead : d.live = false) (update : PendingUpdate) :
    (∃ r, theirs[id]? = some r ∧ r.removal = none) ∧
      Tracks base first (own ++ [.remove id d]) others v mine (markRemoved theirs id (own.length, d))
        ((s.settleReceived id d).queueUpdate update) := by
  obtain ⟨r, there, receipt⟩ : ∃ r, theirs[id]? = some r ∧ OpenReceipt v r entry := by
    have known := tracks.receipts id
    rw [found] at known
    cases record : theirs[id]? with
    | none => rw [record] at known; cases known
    | some r =>
      rw [record] at known
      cases known with
      | unremoved receipt => exact ⟨r, rfl, receipt⟩
      | removed receipt => rw [receipt.state, receipt.dead] at live; cases live
  refine ⟨⟨r, there, receipt.unremoved⟩, { tracks with
    offers := fun id' => ?_
    receipts := fun id' => ?_
    balances := ?_
    fee := (tracks.fee.appendOwn bounded rfl).congr rfl rfl rfl rfl rfl rfl }⟩
  · rw [queueUpdate_htlcs, ChannelState.get?_settleReceived, if_neg (by simp)]
    exact tracks.offers id'
  · rw [queueUpdate_htlcs, ChannelState.get?_settleReceived, getElem?_markRemoved]
    by_cases same : id' = id
    · subst same
      rw [if_pos rfl, found, there]
      simp only [Option.map_some, ↓reduceIte]
      exact .removed (receipt.remove bounded dead irrevocable)
    · rw [if_neg fun k => same (Prod.mk.inj k).2]
      simpa [same] using tracks.receipts id'
  · rw [map_markRemoved (peerBalance v) there (by
      rw [peerBalance, HtlcRecord.place_remove receipt.unremoved bounded.acked_le]; rfl)]
    exact tracks.balances

theorem stageFee {x : Nat} (role : s.role = .opener)
    (free : ¬ (s.pendingFeeratePerKw.isSome = true ∧ s.pendingFeerateCommitted = true)) (update : PendingUpdate) :
    Tracks base first (own ++ [.fee x]) others v mine theirs ((s.stageFee x).queueUpdate update) :=
  { tracks with fee := (tracks.fee.stage bounded role free).congr rfl rfl rfl rfl rfl rfl }

end Own

section Peer

include bounded

theorem peerOffers (addedAt : r.addedAt = others.length) (fresh : r.removal = none) :
    Tracks base first own (others ++ [.add theirs.length]) v mine (theirs ++ [r]) s :=
  { tracks with
    receipts := fun id => by
      by_cases same : id = theirs.length
      · subst same
        have unknown := tracks.receipts theirs.length
        rw [List.getElem?_eq_none (Nat.le_refl _)] at unknown
        rw [List.getElem?_concat_length]
        generalize s.htlcs.get? (.received, theirs.length) = e at unknown
        cases unknown
        exact .unseen (bounded.received.trans addedAt.ge) fresh
      · rw [getElem?_concat_of_ne same]
        exact tracks.receipts id
    balances := by
      have unmoved : peerBalance v r = 0 := by
        rw [peerBalance, HtlcRecord.place_of_unadded (bounded.received.trans addedAt.ge)]
        rfl
      rw [List.map_append, List.sum_append, List.map_singleton, List.sum_singleton, unmoved, add_zero]
      exact tracks.balances
    fee := tracks.fee.appendOthers bounded _ }

theorem peerRemoves (found : mine[id]? = some r) (unremoved : r.removal = none) :
    Tracks base first own (others ++ [.remove id d]) v (markRemoved mine id (others.length, d)) theirs s :=
  { tracks with
    offers := fun id' => by
      rw [getElem?_markRemoved]
      by_cases same : id' = id
      · subst same
        have open' := tracks.offers id'
        rw [found] at open' ⊢
        simpa using open'.later unremoved bounded.received
      · simpa [same] using tracks.offers id'
    counter := by
      rw [markRemoved, List.length_modify]
      exact tracks.counter
    balances := by
      rw [map_markRemoved (ownBalance v) found (by
        rw [ownBalance, HtlcRecord.place_remove unremoved
          (bounded.settled_le_received.trans bounded.received)]; rfl)]
      exact tracks.balances
    fee := tracks.fee.appendOthers bounded _ }

theorem peerFee (x : Nat) : Tracks base first own (others ++ [.fee x]) v mine theirs s :=
  { tracks with fee := tracks.fee.appendOthers bounded _ }

end Peer

section Arrivals

include logged

section

variable (next : others[v.received]? = some u)
include next

theorem offers_advance (elsewhere : ∀ d, u ≠ .remove id d) :
    TracksOffer v.advance mine[id]? (s.htlcs.get? (.offered, id)) := by
  refine (tracks.offers id).advance fun r k d found removal at' => elsewhere d ?_
  rw [← at', logged.removed id r k d found removal] at next
  exact (Option.some.inj next).symm

theorem receipts_advance (elsewhere : u ≠ .add id) : TracksReceipt v.advance theirs[id]? (s.htlcs.get? (.received, id)) := by
  refine (tracks.receipts id).advance fun r found at' => elsewhere ?_
  rw [← at', logged.peerAdded id r found] at next
  exact (Option.some.inj next).symm

theorem balances_advance (elsewhere : ∀ id, u ≠ .add id) :
    ((s.localBalanceMsat, s.remoteBalanceMsat, 0) : Holdings) =
      base + (mine.map (ownBalance v.advance)).sum + (theirs.map (peerBalance v.advance)).sum := by
  have same : theirs.map (peerBalance v.advance) = theirs.map (peerBalance v) := by
    refine List.map_congr_left fun r member => ?_
    obtain ⟨id, found⟩ := List.mem_iff_getElem?.mp member
    exact logged.peerBalance_advance next found (elsewhere id)
  rw [same]
  exact tracks.balances

end

theorem stagePeerFee {x : Nat} (role : s.role = .acceptor) (next : others[v.received]? = some (.fee x)) :
    Tracks base first own others v.advance mine theirs (s.stagePeerFee x) :=
  { tracks with
    offers := fun _ => tracks.offers_advance logged next nofun
    receipts := fun _ => tracks.receipts_advance logged next nofun
    balances := tracks.balances_advance logged next nofun
    fee := tracks.fee.stagePeer role next }

include bounded

omit logged in
theorem of_arrival (found : theirs[id]? = some r) (addedAt : r.addedAt = v.received) :
    s.htlcs.get? (.received, id) = none ∧ r.removal = none := by
  have late := Nat.not_lt.mpr bounded.settled_le_received
  have known := tracks.receipts id
  rw [found] at known
  generalize s.htlcs.get? (.received, id) = e at known ⊢
  cases known with
  | unseen later unremoved => exact ⟨rfl, unremoved⟩
  | gone removal through settled => rw [addedAt] at settled; exact absurd settled late
  | unremoved receipt =>
    have seen := receipt.seen
    omega
  | removed receipt =>
    have settled := receipt.settled
    rw [addedAt] at settled
    exact absurd settled late

theorem receive {msg : UpdateAddHtlc} (next : others[v.received]? = some (.add msg.id))
    (found : theirs[msg.id]? = some r) (addedAt : r.addedAt = v.received)
    (terms : r.terms .received = ⟨msg.amountMsat, msg.paymentHash, msg.cltvExpiry, .received⟩) :
    Tracks base first own others v.advance mine theirs (s.receive (incomingEntry s msg)) := by
  have fresh := (tracks.of_arrival bounded found addedAt).2
  refine { tracks with
    offers := fun id => ?_
    receipts := fun id => ?_
    balances := ?_
    fee := (tracks.fee.advance next rfl).congr rfl rfl rfl rfl rfl rfl }
  · rw [get?_receive, if_neg (by simp [incomingEntry, receivedEntry, HtlcEntry.key])]
    exact tracks.offers_advance logged next (by rintro _ ⟨⟩)
  · have key : (incomingEntry s msg).key = (.received, msg.id) := rfl
    rw [get?_receive, key]
    by_cases same : id = msg.id
    · subst same
      rw [if_pos rfl, found]
      exact .unremoved (arrived bounded s msg addedAt fresh terms)
    · rw [if_neg fun k => same (Prod.mk.inj k).2]
      exact tracks.receipts_advance logged next fun u => same (LedgerUpdate.add.inj u).symm
  · have amount : r.amountMsat = msg.amountMsat := congrArg HtlcTerms.amountMsat terms
    have moved : peerBalance v.advance r = peerBalance v r + Channel.theirs (-msg.amountMsat) := by
      rw [peerBalance, peerBalance, HtlcRecord.place_of_unadded addedAt.ge, ← amount,
        HtlcRecord.place_of_unremoved (by rw [addedAt]; exact Nat.lt_succ_self _) (by simp [fresh])]
      exact (zero_add _).symm
    have total := sum_map_change found moved fun id r' other there =>
      logged.peerBalance_advance next there fun u => other (LedgerUpdate.add.inj u).symm
    rw [total]
    calc ((s.localBalanceMsat, s.remoteBalanceMsat - msg.amountMsat, 0) : Holdings)
        = (s.localBalanceMsat, s.remoteBalanceMsat, 0) + Channel.theirs (-msg.amountMsat) := by
          simp [Channel.theirs, sub_eq_add_neg]
      _ = _ := by rw [tracks.balances, add_assoc]; rfl

theorem removeOffered {entry : HtlcEntry}
    (next : others[v.received]? = some (.remove id d)) (found : mine[id]? = some r)
    (removal : r.removal = some (v.received, d)) (there : s.htlcs.get? (.offered, id) = some entry)
    (committed : addNotYetCommitted entry = false) (dead : d.live = false) :
    Tracks base first own others v.advance mine theirs (s.removeOffered id d) :=
  { tracks with
    offers := fun id' => by
      rw [get?_removeOffered]
      by_cases same : id' = id
      · subst same
        have known := tracks.offers id'
        rw [found, there] at known
        rw [if_pos rfl, found, there]
        cases known with
        | unremoved offer => exact .removed (offer.remove bounded removal dead committed)
        | removed offer =>
          cases offer.removal.symm.trans removal
          exact absurd offer.seen (Nat.lt_irrefl _)
      · rw [if_neg fun k => same (Prod.mk.inj k).2]
        exact tracks.offers_advance logged next fun d' u => same (LedgerUpdate.remove.inj u).1.symm
    receipts := fun id' => by
      rw [get?_removeOffered, if_neg (by simp)]
      exact tracks.receipts_advance logged next nofun
    balances := tracks.balances_advance logged next nofun
    fee := (tracks.fee.advance next rfl).congr rfl rfl rfl rfl rfl rfl }

omit logged in
theorem of_removal (found : mine[id]? = some r) (removal : r.removal = some (v.received, d)) :
    ∃ e, s.htlcs.get? (.offered, id) = some e ∧ e.state.live = true := by
  have known := tracks.offers id
  rw [found] at known
  generalize s.htlcs.get? (.offered, id) = e at known ⊢
  cases known with
  | gone removal' through =>
    cases removal.symm.trans removal'
    exact absurd through (Nat.not_lt.mpr bounded.settled_le_received)
  | unremoved offer => exact ⟨_, rfl, offer.live⟩
  | removed offer =>
    cases offer.removal.symm.trans removal
    exact absurd offer.seen (Nat.lt_irrefl _)

end Arrivals

section Rounds

theorem sign (bounded : v.Bounded own.length others.length) (logged : Logged own others mine theirs)
    (idle : v.awaiting = false) : Tracks base first own others (v.sign own.length) mine theirs s.commitmentSent :=
  { tracks with
    offers := fun id => by
      rw [ChannelState.get?_commitmentSent]
      exact (tracks.offers id).sign bounded idle fun _ found => logged.added_lt found
    receipts := fun id => by
      rw [ChannelState.get?_commitmentSent]
      exact (tracks.receipts id).sign bounded idle fun _ _ _ found removal =>
        logged.peerRemoved_lt found removal
    fee := tracks.fee.sign
    revocations := by
      obtain ⟨count, number, commitments⟩ := tracks.revocations
      rw [idle, Bool.toNat_false] at commitments
      refine ⟨count, ?_, congrArg (· + 1) commitments⟩
      change some (s.remoteRevocationNumber.getD s.remoteCommitmentNumber) = some count
      rw [number]
      rfl }

theorem accept (ver : Verifier) (msg : CommitmentSigned) :
    Tracks base first own others v.revoke mine theirs (s.commitmentAccepted ver msg) :=
  { tracks with
    offers := fun id => by
      rw [ChannelState.get?_commitmentAccepted]
      exact (tracks.offers id).accept
    receipts := fun id => by
      rw [ChannelState.get?_commitmentAccepted]
      exact (tracks.receipts id).accept
    fee := tracks.fee.accept ver msg
    nonce := fun taproot => by
      have same : isTaprootChannel s.channelType = true := taproot
      simp [commitmentAccepted, same] }

theorem settle (bounded : v.Bounded own.length others.length) (awaiting : v.awaiting = true)
    {rotated : ChannelState} {store : Keys.ShaChainStore} {next : Option Bytes}
    (rotates : rotated = s.pointsRotated store next) :
    Tracks base first own others v.settle mine theirs rotated.revocationAccepted := by
  have htlcs : rotated.htlcs = s.htlcs := by rw [rotates]; rfl
  refine
    { phase := ?_
      offers := fun id => ?_
      receipts := fun id => ?_
      counter := ?_
      balances := ?_
      fee := ?_
      revocations := ?_
      nonce := ?_ }
  · change rotated.phase = .normal
    rw [rotates]
    exact tracks.phase
  · rw [ChannelState.get?_revocationAccepted, htlcs]
    exact ((tracks.offers id).settle bounded).1
  · rw [ChannelState.get?_revocationAccepted, htlcs]
    exact ((tracks.receipts id).settle bounded).1
  · rw [ChannelState.revocationAccepted_localHtlcCounter, rotates]
    exact tracks.counter
  · have shares := tracks.sum_eq HtlcEntry.payout (fun id => ((tracks.offers id).settle bounded).2)
      fun id => ((tracks.receipts id).settle bounded).2
    have before : ((rotated.localBalanceMsat, rotated.remoteBalanceMsat, 0) : Holdings) =
        base + (mine.map (ownBalance v)).sum + (theirs.map (peerBalance v)).sum := by
      rw [rotates]
      exact tracks.balances
    rw [revocationAccepted_balances, before, htlcs, add_assoc base, add_assoc base, shares, ← add_assoc]
  · have fee : FeeTracked first own others v rotated := by
      rw [rotates]
      exact tracks.fee.congr rfl rfl rfl rfl rfl rfl
    exact (fee.settle bounded).congr rfl rfl rfl rfl rfl rfl
  · obtain ⟨count, number, commitments⟩ := tracks.revocations
    rw [awaiting, Bool.toNat_true] at commitments
    refine ⟨count + 1, ?_, ?_⟩
    · change rotated.remoteRevocationNumber = some (count + 1)
      rw [rotates]
      change some (s.remoteRevocationNumber.getD (s.remoteCommitmentNumber - 1) + 1) = some (count + 1)
      rw [number]
      rfl
    · change rotated.remoteCommitmentNumber = count + 1
      rw [rotates]
      exact commitments
  · change isTaprootChannel rotated.channelType = true → rotated.localNextNonce.isSome = true
    rw [rotates]
    exact tracks.nonce

end Rounds

end Tracks

end Beignet.Channel
