import Beignet.Channel.Conservation

namespace Beignet.Channel

open Beignet.Data
open OutputEntry (value)
open HtlcOutput (amount)

/-! What a commitment pays out: each amount in one place, and together no more than the channel holds. -/

section Placement

def PlacedOnce (share : Holdings) (amount : Int) (terms : HtlcTerms) : Prop :=
  share = locked terms ∨ share = ours amount ∨ share = theirs amount

theorem localShare_placed (signedLocal : Bool) (e : HtlcEntry) :
    PlacedOnce (localShare signedLocal e) e.amountMsat e.heldTerms := by
  unfold PlacedOnce
  cases direction : e.direction with
  | offered =>
    cases live : e.state.live with
    | true =>
      rw [localShare_offered_live direction live]
      split <;> simp
    | false =>
      rw [localShare_offered_dead direction live]
      split_ifs <;> simp
  | received =>
    cases live : e.state.live with
    | true =>
      rw [localShare_received_live direction live]
      split <;> simp
    | false =>
      rw [localShare_received_dead direction live]
      split_ifs <;> simp

theorem remoteShare_placed (e : HtlcEntry) : PlacedOnce (remoteShare e) e.amountMsat e.signedTerms := by
  unfold PlacedOnce
  cases direction : e.direction with
  | offered =>
    cases live : e.state.live with
    | true => exact .inl (remoteShare_offered_live direction live)
    | false =>
      rw [remoteShare_offered_dead direction live]
      split_ifs <;> simp
  | received =>
    cases live : e.state.live with
    | true =>
      rw [remoteShare_received_live direction live]
      split <;> simp
    | false =>
      rw [remoteShare_received_dead direction live]
      split <;> simp

theorem retainedShare_placed (e : HtlcEntry) : retainedShare e + ours e.amountMsat = locked e.heldTerms ∨
      retainedShare e + theirs e.amountMsat = locked e.heldTerms := by
  by_cases fulfilled : e.state = .fulfilled
  · left
    simp [retainedShare, retainedAdjustment, fulfilled, ours, locked, carried]
  · right
    simp [retainedShare, retainedAdjustment, fulfilled, theirs, locked, carried]

theorem PlacedOnce.parts {x y : Int} {carries : Bool} {amount : Nat} {terms : HtlcTerms}
    (placed : PlacedOnce (x, y, carried carries terms) amount terms) :
    x + y + (if carries then (amount : Int) else 0) = amount ∧ 0 ≤ x ∧ 0 ≤ y := by
  rcases placed with here | here | here <;> cases carries <;>
    simp_all [locked, ours, theirs, carried]

end Placement

section Specs

def CommitmentSpec.totalMsat (spec : CommitmentSpec) : Int :=
  spec.toLocalMsat + spec.toRemoteMsat + (spec.htlcs.map fun e => (e.amountMsat : Int)).sum

theorem sum_placed {adjust : HtlcEntry → Int × Int} {carries : HtlcEntry → Bool}
    (parts : ∀ e, (adjust e).1 + (adjust e).2 + (if carries e then (e.amountMsat : Int) else 0) = e.amountMsat)
    (l : List HtlcEntry) : (l.map fun e => (adjust e).1).sum + (l.map fun e => (adjust e).2).sum +
      ((l.filter carries).map fun e => (e.amountMsat : Int)).sum = (l.map fun e => (e.amountMsat : Int)).sum := by
  induction l with
  | nil => rfl
  | cons e rest ih =>
    have here := parts e
    cases carried : carries e <;>
      simp only [carried, Bool.false_eq_true, ↓reduceIte, List.map_cons, List.filter_cons, List.sum_cons] at here ⊢ <;>
      omega

theorem sum_retained (l : List HtlcEntry) :
    (l.map fun e => (retainedAdjustment e).1).sum + (l.map fun e => (retainedAdjustment e).2).sum +
      (l.map fun e => (e.amountMsat : Int)).sum = 0 := by
  induction l with
  | nil => rfl
  | cons e rest ih =>
    simp only [List.map_cons, List.sum_cons]
    have here : (retainedAdjustment e).1 + (retainedAdjustment e).2 + (e.amountMsat : Int) = 0 := by
      unfold retainedAdjustment
      split <;> omega
    omega

theorem localSpec_total (s : ChannelState) (signedLocal : Bool) :
    (localSpec s signedLocal).totalMsat = s.totalMsat := by
  have entries := sum_placed (fun e => (localShare_placed signedLocal e).parts.1) s.htlcs.values
  have retained := sum_retained (signedLocalRetainedRemovals s signedLocal)
  simp only [CommitmentSpec.totalMsat, localSpec, List.map_append, List.sum_append, ChannelState.totalMsat,
    ChannelState.htlcTotalMsat]
  omega

theorem remoteSpec_total (s : ChannelState) : (remoteSpec s).totalMsat = s.totalMsat := by
  have entries := sum_placed (fun e => (remoteShare_placed e).parts.1) s.htlcs.values
  simp only [CommitmentSpec.totalMsat, remoteSpec, ChannelState.totalMsat, ChannelState.htlcTotalMsat]
  omega

end Specs

section Signed

variable {prim : Primitives} {ver : Verifier} {s t : ChannelState} {input : ChannelInput}
  {sent : List Message}

structure SignedSolvent (s : ChannelState) : Prop where
  accountable : ∀ e ∈ s.htlcs.values, e.Accountable
  own : funderFloorMsat s .opener ≤ ownAccount.value s
  peer : funderFloorMsat s .acceptor ≤ peerAccount.value s

theorem ownAccount_entry_nonneg (e : HtlcEntry) : 0 ≤ ownAccount.entry e := by
  unfold ownAccount
  dsimp only
  split <;> omega

theorem peerAccount_entry_nonneg (e : HtlcEntry) : 0 ≤ peerAccount.entry e := by
  unfold peerAccount
  dsimp only
  split <;> omega

theorem SignedSolvent.of_none_retained (accountable : ∀ e ∈ s.htlcs.values, e.Accountable)
    (none : s.signedLocalRemovals = []) (solvent : Solvent s) : SignedSolvent s := by
  have own := sum_credits_nonneg ownAccount_entry_nonneg s.htlcs.values
  have peer := sum_credits_nonneg peerAccount_entry_nonneg s.htlcs.values
  refine ⟨accountable, solvent.own.trans ?_, solvent.peer.trans ?_⟩
  · simp only [Account.value, none, List.map_nil, List.sum_nil]
    change _ ≤ 1 * _ + 0 * _ + _ + _
    omega
  · simp only [Account.value, none, List.map_nil, List.sum_nil]
    change _ ≤ 0 * _ + 1 * _ + _ + _
    omega

theorem StepEffect.signedSolvent (effect : StepEffect prim ver s input t sent) (current : Current s)
    (fulfils : fulfilsSigned s input = true) (solvent : Solvent s) (signed : SignedSolvent s) : SignedSolvent t := by
  have accountable : ∀ e ∈ t.htlcs.values, e.Accountable := by
    refine effect.forall_entries accountable_invariant current ?_ (fun _ _ _ _ _ _ _ _ _ _ => trivial)
      signed.accountable
    rintro id intent e settles found rfl
    cases input <;> cases settles
    simpa [fulfilsSigned, found] using fulfils
  have floors := effect.floors current
  rcases effect.value_le ownAccount_grows current signed.accountable with own | ⟨msg, rfl⟩
  · rcases effect.value_le peerAccount_grows current signed.accountable with peer | ⟨msg, rfl⟩
    · refine ⟨accountable, ?_, ?_⟩
      · rw [floors]
        exact signed.own.trans own
      · rw [floors]
        exact signed.peer.trans peer
    · exact .of_none_retained accountable rfl (effect.solvent current solvent)
  · exact .of_none_retained accountable rfl (effect.solvent current solvent)

end Signed

section Views

structure CommitmentSpec.Covers (spec : CommitmentSpec) (capacity : Nat) (holderFloor otherFloor : Int) :
    Prop where
  total : spec.totalMsat = 1000 * capacity
  holder : holderFloor ≤ spec.toLocalMsat
  other : otherFloor ≤ spec.toRemoteMsat

variable {s : ChannelState}

theorem localSpec_covers (solvent : Solvent s) :
    (localSpec s false).Covers s.fundingSatoshis (funderFloorMsat s .opener) (funderFloorMsat s .acceptor) := by
  have own := sum_credits_nonneg (fun e => (localShare_placed false e).parts.2.1) s.htlcs.values
  have peer := sum_credits_nonneg (fun e => (localShare_placed false e).parts.2.2) s.htlcs.values
  refine ⟨(localSpec_total s false).trans solvent.total, solvent.own.trans ?_, solvent.peer.trans ?_⟩
  · simp only [localSpec, signedLocalRetainedRemovals, Bool.false_eq_true, ↓reduceIte, List.map_nil, List.sum_nil]
    omega
  · simp only [localSpec, signedLocalRetainedRemovals, Bool.false_eq_true, ↓reduceIte, List.map_nil, List.sum_nil]
    omega

theorem ownAccount_le_localAdjustment (e : HtlcEntry) : ownAccount.entry e ≤ (localAdjustment true e).1 := by
  have nonneg := (localShare_placed true e).parts.2.1
  unfold ownAccount
  dsimp only
  split
  · rename_i unsigned
    simp only [HtlcEntry.unsignedOffer, Bool.and_eq_true, decide_eq_true_eq] at unsigned
    obtain ⟨⟨offered, added⟩, -⟩ := unsigned
    have uncarried : localCommitmentCarriesAdd e true = false := by simp [localCommitmentCarriesAdd, added]
    have unremoved : signedLocalCarriesRemoval e true = false := by simp [signedLocalCarriesRemoval, added]
    cases state : e.state <;>
      simp [localAdjustment, signedLocalLacksReceivedAdd, uncarried, unremoved, offered, state]
  · exact nonneg

theorem peerAccount_le_localAdjustment (e : HtlcEntry) : peerAccount.entry e ≤ (localAdjustment true e).2 := by
  have nonneg := (localShare_placed true e).parts.2.2
  unfold peerAccount
  dsimp only
  split
  · rename_i uncovered
    simp only [HtlcEntry.uncoveredAdd, Bool.and_eq_true, decide_eq_true_eq] at uncovered
    simp [localAdjustment, signedLocalCarriesRemoval, signedLocalLacksReceivedAdd, uncovered]
  · exact nonneg

theorem signedLocalSpec_covers (solvent : Solvent s) (signed : SignedSolvent s) :
    (localSpec s true).Covers s.fundingSatoshis (funderFloorMsat s .opener) (funderFloorMsat s .acceptor) := by
  have own : (s.htlcs.values.map ownAccount.entry).sum ≤
      (s.htlcs.values.map fun e => (localAdjustment true e).1).sum :=
    List.sum_le_sum fun e _ => ownAccount_le_localAdjustment e
  have peer : (s.htlcs.values.map peerAccount.entry).sum ≤
      (s.htlcs.values.map fun e => (localAdjustment true e).2).sum :=
    List.sum_le_sum fun e _ => peerAccount_le_localAdjustment e
  refine ⟨(localSpec_total s true).trans solvent.total, signed.own.trans ?_, signed.peer.trans ?_⟩
  · change 1 * _ + 0 * _ + _ + (s.signedLocalRemovals.map fun e => (retainedAdjustment e).1).sum ≤ _
    simp only [localSpec, signedLocalRetainedRemovals, ↓reduceIte]
    omega
  · change 0 * _ + 1 * _ + _ + (s.signedLocalRemovals.map fun e => (retainedAdjustment e).2).sum ≤ _
    simp only [localSpec, signedLocalRetainedRemovals, ↓reduceIte]
    omega

theorem remoteSpec_covers (solvent : Solvent s) :
    (remoteSpec s).Covers s.fundingSatoshis (funderFloorMsat s .acceptor) (funderFloorMsat s .opener) := by
  have peer := sum_credits_nonneg (fun e => (remoteShare_placed e).parts.2.1) s.htlcs.values
  have own := sum_credits_nonneg (fun e => (remoteShare_placed e).parts.2.2) s.htlcs.values
  refine ⟨(remoteSpec_total s).trans solvent.total, solvent.peer.trans ?_, solvent.own.trans ?_⟩
  · simp only [remoteSpec]
    omega
  · simp only [remoteSpec]
    omega

end Views

section Outputs

def CommitmentTx.outputSats (tx : CommitmentTx) : Nat := (tx.outs.map Prod.fst).sum

def anchorSats (useAnchors : Bool) : Nat := if useAnchors then anchorTotalCost else 0

theorem funderFloorMsat_eq (s : ChannelState) (role : ChannelRole) : funderFloorMsat s role =
      if decide (s.role = role) then (anchorSats (isAnchorChannel s.channelType) : Int) * 1000 else 0 := by
  unfold funderFloorMsat anchorSats
  by_cases funder : s.role = role <;> cases isAnchorChannel s.channelType <;> simp [funder]

theorem outputSats_le (fee : Nat) {balance : Int} {isFunder useAnchors : Bool}
    (covered : (if isFunder then (anchorSats useAnchors : Int) * 1000 else 0) ≤ balance) :
    1000 * ((outputSats balance isFunder fee useAnchors : Int) +
      if isFunder then (anchorSats useAnchors : Int) else 0) ≤ balance := by
  have nonneg : 0 ≤ balance := by
    refine le_trans ?_ covered
    split <;> omega
  unfold outputSats
  dsimp only
  rw [Int.tdiv_eq_ediv_of_nonneg nonneg]
  cases isFunder with
  | false =>
    simp only [Bool.false_eq_true, ↓reduceIte] at covered ⊢
    omega
  | true =>
    cases useAnchors <;> simp only [anchorSats, Bool.false_eq_true, ↓reduceIte] at covered ⊢ <;> omega

variable (prim : Primitives) (params : CommitmentTxParams)

theorem anchorOutputs_sum_le (toLocal toRemote htlcs : List OutputEntry) :
    ((anchorOutputs prim params toLocal toRemote htlcs).map value).sum ≤ anchorSats params.useAnchors := by
  unfold anchorOutputs
  dsimp only
  split_ifs with anchors <;> simp [anchorSats, anchors, anchorTotalCost, anchorOutputValue]

theorem toLocalOutputs_sum_le : ((toLocalOutputs prim params).map value).sum ≤ params.localAmount := by
  unfold toLocalOutputs
  dsimp only
  split_ifs <;> simp

theorem toRemoteOutputs_sum_le : ((toRemoteOutputs prim params).map value).sum ≤ params.remoteAmount := by
  unfold toRemoteOutputs
  dsimp only
  split_ifs <;> simp

theorem htlcOutputEntries_sum_le : ((htlcOutputEntries prim params).map value).sum ≤
      (params.htlcOutputs.map amount).sum := by
  have values : (htlcOutputEntries prim params).map value =
      (params.htlcOutputs.zipIdx.filter fun h => params.dustLimitSatoshis ≤ h.1.amount).map
        fun h => h.1.amount := by
    simp [htlcOutputEntries]
  have all : params.htlcOutputs.map amount = params.htlcOutputs.zipIdx.map fun h => h.1.amount := by
    conv_lhs => rw [← List.zipIdx_map_fst 0 params.htlcOutputs, List.map_map]
    rfl
  rw [values, all]
  exact (List.filter_sublist.map _).sum_le_sum fun _ _ => Nat.zero_le _

theorem buildCommitmentTx_outputSats {tx : CommitmentTx} (built : buildCommitmentTx prim params = some tx) :
    tx.outputSats ≤ params.localAmount + params.remoteAmount +
      (params.htlcOutputs.map amount).sum + anchorSats params.useAnchors := by
  unfold buildCommitmentTx at built
  split at built
  · cases built
  · cases built
    have sorted := (List.perm_insertionSort (fun a b : OutputEntry => a.before b)
      (unsortedOutputs prim params)).map value
    have values : ∀ l : List OutputEntry, (l.map fun o => (o.value, o.script)).map Prod.fst =
        l.map value := fun l => by simp
    simp only [CommitmentTx.outputSats, CommitmentTx.outs, values]
    rw [sorted.sum_eq]
    simp only [unsortedOutputs, List.map_append, List.sum_append]
    have mine := toLocalOutputs_sum_le prim params
    have theirs := toRemoteOutputs_sum_le prim params
    have htlcs := htlcOutputEntries_sum_le prim params
    have anchors := anchorOutputs_sum_le prim params (toLocalOutputs prim params)
      (toRemoteOutputs prim params) (htlcOutputEntries prim params)
    omega

theorem htlcOutputs_sum_le {l : List HtlcEntry} {outputs : List HtlcOutput}
    (amounts : outputs.map amount = l.map fun e => e.amountMsat / 1000) :
    1000 * ((outputs.map amount).sum : Int) ≤ (l.map fun e => (e.amountMsat : Int)).sum := by
  rw [amounts]
  clear amounts
  induction l with
  | nil => simp
  | cons e rest ih =>
    simp only [List.map_cons, List.sum_cons]
    omega

variable {prim}

theorem assembleCommitment_outputSats {s : ChannelState} {fundingTxid : Bytes} {view : HolderView}
    {spec : CommitmentSpec} {outputs : List HtlcOutput} {holder other : ChannelRole}
    (unleased : view.toRemoteLeaseCsv = none) (funds : view.holderIsFunder = decide (s.role = holder))
    (opposite : (!view.holderIsFunder) = decide (s.role = other))
    (amounts : outputs.map amount = spec.htlcs.map fun e => e.amountMsat / 1000)
    (covers : spec.Covers s.fundingSatoshis (funderFloorMsat s holder) (funderFloorMsat s other)) :
    ∃ built, assembleCommitment prim s fundingTxid view spec outputs = some built ∧
      built.tx.outputSats ≤ s.fundingSatoshis := by
  obtain ⟨built, builds⟩ : ∃ built, assembleCommitment prim s fundingTxid view spec outputs = some built := by
    rw [← Option.isSome_iff_exists, assembleCommitment_isSome, unleased]
    rfl
  refine ⟨built, builds, ?_⟩
  simp only [assembleCommitment, Option.bind_eq_bind, Option.bind_eq_some_iff, Option.some.injEq] at builds
  obtain ⟨tx, builds, rfl⟩ := builds
  change tx.outputSats ≤ s.fundingSatoshis
  have paid := buildCommitmentTx_outputSats prim _ builds
  have kept : ((filterUntrimmedHtlcs amount HtlcOutput.direction outputs view.dustLimitSatoshis
      spec.feeratePerKw (isAnchorChannel s.channelType)).map amount).sum ≤
      (outputs.map amount).sum :=
    (List.filter_sublist.map _).sum_le_sum fun _ _ => Nat.zero_le _
  have htlcs := htlcOutputs_sum_le amounts
  have total := covers.total
  rw [CommitmentSpec.totalMsat] at total
  have mine := covers.holder
  have theirs := covers.other
  rw [funderFloorMsat_eq, ← funds] at mine
  rw [funderFloorMsat_eq, ← opposite] at theirs
  generalize calculateCommitmentFee _ _ _ _ = fee at paid
  have mine := outputSats_le fee mine
  have theirs := outputSats_le fee theirs
  cases funder : view.holderIsFunder <;>
    simp only [funder, Bool.not_false, Bool.not_true, Bool.false_eq_true, ↓reduceIte] at mine theirs paid <;>
    omega

end Outputs

section Conservation

/-- Balances in which each entry's amount is put in exactly one place. A retained removal has been
    credited to a balance and is taken back from it into its HTLC. -/
def PlacesEach (own peer : Int) (entries retained : List HtlcEntry) (terms : HtlcEntry → HtlcTerms)
    (holdings : Holdings) : Prop :=
  ∃ share removal : HtlcEntry → Holdings, (∀ e ∈ entries, PlacedOnce (share e) e.amountMsat (terms e)) ∧
    (∀ e ∈ retained, removal e + ours e.amountMsat = locked (terms e) ∨
      removal e + theirs e.amountMsat = locked (terms e)) ∧
    holdings = (own, peer, 0) + (entries.map share).sum + (retained.map removal).sum

structure LocalConserved (prim : Primitives) (capacity : Nat) (s : ChannelState) (signedLocal : Bool) :
    Prop where
  placed : PlacesEach s.localBalanceMsat s.remoteBalanceMsat s.htlcs.values
    (signedLocalRetainedRemovals s signedLocal) HtlcEntry.heldTerms (localSpec s signedLocal).held
  total : (localSpec s signedLocal).totalMsat = 1000 * capacity
  outputs : ∀ point number, ∃ built, buildLocalCommitment prim s point number signedLocal = some built ∧
    built.tx.outputSats ≤ capacity

structure RemoteConserved (prim : Primitives) (capacity : Nat) (s : ChannelState) : Prop where
  placed : PlacesEach s.remoteBalanceMsat s.localBalanceMsat s.htlcs.values [] HtlcEntry.signedTerms
    (remoteSpec s).signed
  total : (remoteSpec s).totalMsat = 1000 * capacity
  outputs : ∀ point number, ∃ built, buildRemoteCommitment prim s point number = some built ∧
    built.tx.outputSats ≤ capacity

structure Opened (s : ChannelState) : Prop where
  basepoints : s.remoteBasepoints.isSome = true
  funded : s.fundingTxid.isSome = true
  unleased : s.leaseExpiry = none

variable {prim : Primitives} {s : ChannelState} {signedLocal : Bool}

theorem localConserved (opened : Opened s)
    (covers : (localSpec s signedLocal).Covers s.fundingSatoshis (funderFloorMsat s .opener)
      (funderFloorMsat s .acceptor)) : LocalConserved prim s.fundingSatoshis s signedLocal where
  placed := ⟨localShare signedLocal, retainedShare, fun e _ => localShare_placed signedLocal e,
    fun e _ => retainedShare_placed e, localSpec_held s signedLocal⟩
  total := covers.total
  outputs := fun point number => by
    obtain ⟨basepoints, known⟩ := Option.isSome_iff_exists.mp opened.basepoints
    obtain ⟨txid, funded⟩ := Option.isSome_iff_exists.mp opened.funded
    simp only [buildLocalCommitment, known, funded, Option.bind_eq_bind, Option.bind_some]
    refine assembleCommitment_outputSats (by simp [localView, leaseCsvBlocks, opened.unleased]) rfl ?_ ?_ covers
    · cases role : s.role <;> simp [localView, role]
    · rw [List.map_map]
      rfl

theorem remoteConserved (opened : Opened s) (solvent : Solvent s) : RemoteConserved prim s.fundingSatoshis s where
  placed := ⟨remoteShare, retainedShare, fun e _ => remoteShare_placed e, fun e member => absurd member List.not_mem_nil,
    by simpa using remoteSpec_signed s⟩
  total := (remoteSpec_covers solvent).total
  outputs := fun point number => by
    obtain ⟨basepoints, known⟩ := Option.isSome_iff_exists.mp opened.basepoints
    obtain ⟨txid, funded⟩ := Option.isSome_iff_exists.mp opened.funded
    simp only [buildRemoteCommitment, known, funded, Option.bind_eq_bind, Option.bind_some]
    refine assembleCommitment_outputSats (by simp [remoteView, leaseCsvBlocks, opened.unleased]) rfl ?_ ?_
      (remoteSpec_covers solvent)
    · cases role : s.role <;> simp [remoteView, role]
    · rw [List.map_map]
      rfl

end Conservation

/-- The opener's balance after the push covers the first commitment's fee and anchors, as both sides
    check before the channel is funded. -/
def Opening.FunderAffords (o : Opening) : Prop :=
  o.pushMsat + funderCommitmentCostSats o.openerConfig.feeratePerKw 0 o.channelType * 1000 ≤ o.fundingSatoshis * 1000

instance (o : Opening) : Decidable o.FunderAffords := by
  unfold Opening.FunderAffords
  infer_instance

section Runs

variable (prim : Primitives) (ver : Verifier) {o : Opening} {s : ChannelState}

theorem Opening.party_solvent (affords : o.FunderAffords) (role : ChannelRole) : Solvent (o.party prim role) := by
  have anchors : anchorSats (isAnchorChannel o.channelType) ≤ _ :=
    anchorCost_le_funderCost o.openerConfig.feeratePerKw 0 o.channelType
  have funder : (anchorSats (isAnchorChannel o.channelType) : Int) * 1000 ≤
      (o.fundingSatoshis : Int) * 1000 - o.pushMsat := by
    unfold FunderAffords at affords
    omega
  cases role with
  | opener =>
    refine ⟨?_, ?_, ?_⟩
    · change ((o.fundingSatoshis : Int) * 1000 - o.pushMsat) + o.pushMsat + 0 = 1000 * (o.fundingSatoshis : Int)
      omega
    · rw [funderFloorMsat_eq]
      exact funder
    · rw [funderFloorMsat_eq]
      exact Int.natCast_nonneg o.pushMsat
  | acceptor =>
    refine ⟨?_, ?_, ?_⟩
    · change o.pushMsat + ((o.fundingSatoshis : Int) * 1000 - o.pushMsat) + 0 = 1000 * (o.fundingSatoshis : Int)
      omega
    · rw [funderFloorMsat_eq]
      exact Int.natCast_nonneg o.pushMsat
    · rw [funderFloorMsat_eq]
      exact funder

theorem Opening.party_opened (role : ChannelRole) : Opened (o.party prim role) := by
  cases role <;> exact ⟨rfl, rfl, rfl⟩

theorem Opened.of_constants {s t : ChannelState} (opened : Opened s) (constants : t.constants = s.constants) :
    Opened t := by
  have basepoints := congrArg ChannelConstants.remoteBasepoints constants
  have funded := congrArg ChannelConstants.fundingTxid constants
  have unleased := congrArg ChannelConstants.leaseExpiry constants
  simp only [ChannelState.constants] at basepoints funded unleased
  exact ⟨by rw [basepoints, opened.basepoints], by rw [funded, opened.funded], by rw [unleased, opened.unleased]⟩

theorem Current.run_constants (current : Current s) (inputs : List ChannelInput) :
    (s.run prim ver inputs).constants = s.constants := by
  induction inputs generalizing s with
  | nil => rfl
  | cons input rest ih =>
    have effect := step_effect prim ver s input
    exact (ih (effect.current current)).trans (effect.constants current.recent)

theorem Solvent.run (current : Current s) (solvent : Solvent s)
    (inputs : List ChannelInput) : Solvent (s.run prim ver inputs) := by
  induction inputs generalizing s with
  | nil => exact solvent
  | cons input rest ih =>
    have effect := step_effect prim ver s input
    exact ih (effect.current current) (effect.solvent current solvent)

theorem SignedSolvent.run (current : Current s) (solvent : Solvent s)
    (signed : SignedSolvent s) {inputs : List ChannelInput}
    (fulfils : s.Along prim ver (fun s input => fulfilsSigned s input = true) inputs) :
    SignedSolvent (s.run prim ver inputs) := by
  induction inputs generalizing s with
  | nil => exact signed
  | cons input rest ih =>
    have effect := step_effect prim ver s input
    exact ih (effect.current current) (effect.solvent current solvent)
      (effect.signedSolvent current fulfils.1 solvent signed) fulfils.2

/-- In every run from a funded channel the channel holds its capacity, and the commitments of both
    sides distribute it. The signed local commitment does so as long as we fulfil only what it carries. -/
theorem value_conserved (o : Opening) (role : ChannelRole) (affords : o.FunderAffords)
    (inputs : List ChannelInput) :
    let s := (o.party prim role).run prim ver inputs
    s.totalMsat = 1000 * o.fundingSatoshis ∧ 0 ≤ s.localBalanceMsat ∧ 0 ≤ s.remoteBalanceMsat ∧
      RemoteConserved prim o.fundingSatoshis s ∧ LocalConserved prim o.fundingSatoshis s false ∧
      ((o.party prim role).Along prim ver (fun s input => fulfilsSigned s input = true) inputs →
        LocalConserved prim o.fundingSatoshis s true) := by
  intro s
  have current := o.party_current prim role
  have constants := current.run_constants prim ver inputs
  have opened := (Opening.party_opened prim role).of_constants constants
  have solvent := Opening.party_solvent prim affords role
  have kept := solvent.run prim ver current inputs
  have capacity : s.fundingSatoshis = o.fundingSatoshis := by
    refine (congrArg ChannelConstants.fundingSatoshis constants).trans ?_
    cases role <;> rfl
  rw [← capacity]
  refine ⟨kept.total, (funderFloorMsat_nonneg _ _).trans kept.own,
    (funderFloorMsat_nonneg _ _).trans kept.peer, remoteConserved opened kept,
    localConserved opened (localSpec_covers kept), fun fulfils => ?_⟩
  have signed : SignedSolvent (o.party prim role) := by
    refine .of_none_retained ?_ ?_ solvent
    · rw [o.party_htlcs]
      exact fun e member => absurd member List.not_mem_nil
    · cases role <;> rfl
  exact localConserved opened (signedLocalSpec_covers kept (signed.run prim ver current solvent fulfils))

end Runs

def signedFulfilment : List ChannelInput :=
  [.receive (.updateAddHtlc ⟨0, 300000000, [6], 500, [], none, none⟩),
    .receive (.commitmentSigned ⟨[8], [[1]], none⟩), .fulfillHtlc 0 [6]]

theorem value_conserved_signed_fulfilment :
    (localSpec (openerAfter signedFulfilment) true).htlcs.map HtlcEntry.heldTerms =
        [⟨300000000, [6], 500, .received⟩] ∧
      LocalConserved plainPrimitives 1000000 (openerAfter signedFulfilment) true :=
  ⟨by decide,
    (value_conserved plainPrimitives plainVerifier plainOpening .opener (by decide) signedFulfilment).2.2.2.2.2
      ⟨by decide, by decide, by decide, trivial⟩⟩

def earlyFulfilment : List ChannelInput :=
  [.receive (.updateAddHtlc ⟨0, 300000000, [6], 500, [], none, none⟩),
    .receive (.commitmentSigned ⟨[8], [[1]], none⟩), .signCommitment [8] [] none, peerRevocation 0,
    .failHtlc 0 [], .signCommitment [8] [] none, peerRevocation 1,
    .receive (.updateAddHtlc ⟨1, 380000000, [7], 500, [], none, none⟩),
    .fulfillHtlc 1 [7], .signCommitment [8] [] none, peerRevocation 2]

/-- The commitment we hold a signature for pays out more than the channel has: it still carries the
    failed payment, whose amount the peer has meanwhile spent on the second one. -/
theorem early_fulfilment_overpays :
    let s := openerAfter earlyFulfilment
    s.phase = .normal ∧ (localSpec s true).toRemoteMsat = -280000000 ∧
      (buildLocalCommitment plainPrimitives s [] 1 true).map (fun built => built.tx.outputSats) = some 1279104 ∧
      ¬ LocalConserved plainPrimitives 1000000 s true := by
  intro s
  have overpays : (buildLocalCommitment plainPrimitives s [] 1 true).map (fun built => built.tx.outputSats) =
      some 1279104 := by decide +kernel
  refine ⟨by decide +kernel, by decide +kernel, overpays, fun conserved => ?_⟩
  obtain ⟨built, builds, within⟩ := conserved.outputs [] 1
  rw [builds] at overpays
  have exceeds : built.tx.outputSats = 1279104 := Option.some.inj overpays
  omega

end Beignet.Channel
