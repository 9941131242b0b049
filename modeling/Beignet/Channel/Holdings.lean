import Beignet.Channel.TrimAgreement

namespace Beignet.Channel

open HtlcState (live)

/-- What a commitment distributes before fee and trimming: the balance of its holder, the balance of
    the other side and the HTLCs in between. -/
abbrev Holdings := Int × Int × Multiset HtlcTerms

def carried (carries : Bool) (terms : HtlcTerms) : Multiset HtlcTerms := if carries then {terms} else 0

def localShare (signedLocal : Bool) (e : HtlcEntry) : Holdings :=
  ((localAdjustment signedLocal e).1, (localAdjustment signedLocal e).2,
    carried (localCarries signedLocal e) e.heldTerms)

variable (e : HtlcEntry) (amount : Int)

def retainedShare : Holdings :=
  ((retainedAdjustment e).1, (retainedAdjustment e).2, carried true e.heldTerms)

def remoteShare : Holdings :=
  ((remoteAdjustment e).1, (remoteAdjustment e).2, carried (remoteCarries e) e.signedTerms)

def ours : Holdings := (amount, 0, 0)

def theirs : Holdings := (0, amount, 0)

def locked (terms : HtlcTerms) : Holdings := (0, 0, {terms})

theorem dead_cases {state : HtlcState} (dead : state.live = false) : state = .fulfilled ∨ state = .failed := by
  cases state <;> simp_all [HtlcState.live]

section Shares

variable {e : HtlcEntry} {signedLocal : Bool}

theorem localShare_offered_live (offered : e.direction = .offered) (live : e.state.live = true) :
    localShare signedLocal e =
      if localCommitmentCarriesAdd e signedLocal then locked e.heldTerms else ours e.amountMsat := by
  rcases live_cases live with state | state <;>
    cases carries : localCommitmentCarriesAdd e signedLocal <;>
    simp [localShare, localAdjustment, localCarries, signedLocalCarriesRemoval,
      signedLocalLacksReceivedAdd, carried, locked, ours, HtlcState.live, offered, state, carries]

theorem localShare_offered_dead (offered : e.direction = .offered) (dead : e.state.live = false) :
    localShare signedLocal e =
      if signedLocalCarriesRemoval e signedLocal then locked e.heldTerms
      else if e.state = .fulfilled ∧ localCommitmentCarriesAdd e signedLocal then theirs e.amountMsat
      else ours e.amountMsat := by
  rcases dead_cases dead with state | state <;>
    cases removal : signedLocalCarriesRemoval e signedLocal <;>
    cases carries : localCommitmentCarriesAdd e signedLocal <;>
    simp [localShare, localAdjustment, localCarries, signedLocalLacksReceivedAdd, carried, locked, ours,
      theirs, live, offered, state, carries, removal]

variable (received : e.direction = .received)
include received

theorem localShare_received_live (live : e.state.live = true) :
    localShare signedLocal e =
      if signedLocalLacksReceivedAdd e signedLocal then theirs e.amountMsat else locked e.heldTerms := by
  rcases live_cases live with state | state <;>
    cases lacks : signedLocalLacksReceivedAdd e signedLocal <;>
    simp [localShare, localAdjustment, localCarries, signedLocalCarriesRemoval, carried, locked, theirs,
      HtlcState.live, received, state, lacks]

theorem localShare_received_dead (dead : e.state.live = false) :
    localShare signedLocal e =
      if signedLocalLacksReceivedAdd e signedLocal then theirs e.amountMsat
      else if e.removalRemoteCommitted = some false then locked e.heldTerms
      else if e.state = .fulfilled then ours e.amountMsat else theirs e.amountMsat := by
  rcases dead_cases dead with state | state <;>
    cases lacks : signedLocalLacksReceivedAdd e signedLocal <;>
    by_cases uncommitted : e.removalRemoteCommitted = some false <;>
    simp [localShare, localAdjustment, localCarries, signedLocalCarriesRemoval, carried, locked, ours,
      theirs, live, received, state, lacks, uncommitted]

omit received in
theorem remoteShare_offered_live (offered : e.direction = .offered) (live : e.state.live = true) :
    remoteShare e = locked e.signedTerms := by
  rcases live_cases live with state | state <;>
    simp [remoteShare, remoteAdjustment, remoteCarries, carried, locked, HtlcState.live, offered, state]

omit received in
theorem remoteShare_offered_dead (offered : e.direction = .offered) (dead : e.state.live = false) : remoteShare e =
      if e.removalLocallyRevoked = some false then locked e.signedTerms
      else if e.state = .fulfilled then ours e.amountMsat else theirs e.amountMsat := by
  rcases dead_cases dead with state | state <;>
    by_cases unrevoked : e.removalLocallyRevoked = some false <;>
    simp [remoteShare, remoteAdjustment, remoteCarries, carried, locked, ours, theirs, live, offered, state, unrevoked]

theorem remoteShare_received_live (live : e.state.live = true) :
    remoteShare e = if e.addLocallyRevoked = some false then ours e.amountMsat else locked e.signedTerms := by
  rcases live_cases live with state | state <;>
    by_cases unrevoked : e.addLocallyRevoked = some false <;>
    simp [remoteShare, remoteAdjustment, remoteCarries, carried, locked, ours, HtlcState.live, received,
      state, unrevoked]

theorem remoteShare_received_dead (dead : e.state.live = false) :
    remoteShare e = if e.state = .fulfilled then theirs e.amountMsat else ours e.amountMsat := by
  rcases dead_cases dead with state | state <;>
    simp [remoteShare, remoteAdjustment, remoteCarries, carried, ours, theirs, live, received, state]

end Shares

namespace CommitmentSpec

def held (spec : CommitmentSpec) : Holdings :=
  (spec.toLocalMsat, spec.toRemoteMsat, (spec.htlcs.map HtlcEntry.heldTerms : Multiset HtlcTerms))

def signed (spec : CommitmentSpec) : Holdings :=
  (spec.toLocalMsat, spec.toRemoteMsat, (spec.htlcs.map HtlcEntry.signedTerms : Multiset HtlcTerms))

theorem agrees_iff {signed held : CommitmentSpec} :
    signed.Agrees held ↔ signed.feeratePerKw = held.feeratePerKw ∧ signed.signed = held.held := by
  simp only [CommitmentSpec.signed, CommitmentSpec.held, Prod.mk.injEq, Multiset.coe_eq_coe]
  exact ⟨fun ⟨rate, mine, theirs, htlcs⟩ => ⟨rate, mine, theirs, htlcs⟩,
    fun ⟨rate, mine, theirs, htlcs⟩ => ⟨rate, mine, theirs, htlcs⟩⟩

structure Same (a b : CommitmentSpec) : Prop where
  feeratePerKw : a.feeratePerKw = b.feeratePerKw
  toLocalMsat : a.toLocalMsat = b.toLocalMsat
  toRemoteMsat : a.toRemoteMsat = b.toRemoteMsat
  htlcs : (a.htlcs.map HtlcEntry.heldTerms).Perm (b.htlcs.map HtlcEntry.heldTerms)

theorem same_iff {a b : CommitmentSpec} : a.Same b ↔ a.feeratePerKw = b.feeratePerKw ∧ a.held = b.held := by
  simp only [held, Prod.mk.injEq, Multiset.coe_eq_coe]
  exact ⟨fun ⟨rate, mine, theirs, htlcs⟩ => ⟨rate, mine, theirs, htlcs⟩,
    fun ⟨rate, mine, theirs, htlcs⟩ => ⟨rate, mine, theirs, htlcs⟩⟩

theorem Same.trans {a b c : CommitmentSpec} (first : a.Same b) (second : b.Same c) : a.Same c :=
  ⟨first.1.trans second.1, first.2.trans second.2, first.3.trans second.3, first.4.trans second.4⟩

end CommitmentSpec

theorem coe_map_filter {α : Type*} (carries : α → Bool) (terms : α → HtlcTerms) (l : List α) :
    (((l.filter carries).map terms : List HtlcTerms) : Multiset HtlcTerms) =
      (l.map fun a => carried (carries a) (terms a)).sum := by
  induction l with
  | nil => rfl
  | cons a rest ih =>
    rw [List.map_cons, List.sum_cons, ← ih, List.filter_cons]
    cases carries a with
    | true => rfl
    | false => exact (zero_add _).symm

theorem sum_map_holdings {α : Type*} (f : α → Int) (g : α → Int) (h : α → Multiset HtlcTerms) (l : List α) :
    (l.map fun a => ((f a, g a, h a) : Holdings)).sum = ((l.map f).sum, (l.map g).sum, (l.map h).sum) := by
  induction l with
  | nil => rfl
  | cons a rest ih =>
    simp only [List.map_cons, List.sum_cons, ih]
    rfl

theorem localSpec_held (s : ChannelState) (signedLocal : Bool) : (localSpec s signedLocal).held =
      (s.localBalanceMsat, s.remoteBalanceMsat, 0) + (s.htlcs.values.map (localShare signedLocal)).sum +
        ((signedLocalRetainedRemovals s signedLocal).map retainedShare).sum := by
  have entries : (s.htlcs.values.map (localShare signedLocal)).sum = _ := sum_map_holdings ..
  have removals : ((signedLocalRetainedRemovals s signedLocal).map retainedShare).sum = _ :=
    sum_map_holdings ..
  have retained := coe_map_filter (fun _ => true) HtlcEntry.heldTerms
    (signedLocalRetainedRemovals s signedLocal)
  rw [List.filter_true] at retained
  rw [entries, removals, ← retained, ← coe_map_filter]
  simp only [Prod.mk_add_mk, zero_add, Multiset.coe_add, ← List.map_append]
  rfl

theorem remoteSpec_signed (s : ChannelState) : (remoteSpec s).signed =
      (s.remoteBalanceMsat, s.localBalanceMsat, 0) + (s.htlcs.values.map remoteShare).sum := by
  have entries : (s.htlcs.values.map remoteShare).sum = _ := sum_map_holdings ..
  rw [entries, ← coe_map_filter]
  simp only [Prod.mk_add_mk, zero_add]
  rfl

end Beignet.Channel
