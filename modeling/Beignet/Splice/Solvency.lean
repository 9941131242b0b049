import Beignet.Splice.Split

namespace Beignet.Splice

open Beignet.Data Beignet.Channel Beignet.InteractiveTx

/-! Every handler keeps the invariant of `Splice.Split`, so every run in which the peer can pay for what is
    signed does. -/

namespace SplicingChannel

variable {env : SpliceEnv} {c : SplicingChannel}

section Handlers

theorem Sound.storeSpliceSignature (sound : Sound env c) (msg : CommitmentSigned) (rate : Nat) :
    Sound env (c.storeSpliceSignature env msg rate) := by
  have held := sound.congr (d := { c with
    spliceRemoteCommitmentSig := some msg.signature
    spliceRemoteHtlcSigs := some msg.htlcSignatures }) rfl rfl rfl rfl
  unfold SplicingChannel.storeSpliceSignature
  dsimp only
  split
  · exact held
  · exact held.sync _ fun _ => ⟨rfl, rfl, rfl, rfl⟩

theorem markOfferedAddRemoteSigned_amountMsat (e : HtlcEntry) :
    (markOfferedAddRemoteSigned e).amountMsat = e.amountMsat := by
  unfold markOfferedAddRemoteSigned
  split <;> rfl

theorem Sound.acceptSpliceCommitment (sound : Sound env c) (spliced : ChannelState)
    (msg : CommitmentSigned) : Sound env (c.acceptSpliceCommitment env spliced msg) := by
  apply Sound.storeSpliceSignature
  exact (sound.withEntries markOfferedAddRemoteSigned markOfferedAddRemoteSigned_key
    markOfferedAddRemoteSigned_amountMsat).congr rfl rfl rfl rfl

theorem acceptSpliceCommitment_spliceTx (spliced : ChannelState) (msg : CommitmentSigned) :
    (c.acceptSpliceCommitment env spliced msg).spliceTx = c.spliceTx := by
  unfold SplicingChannel.acceptSpliceCommitment SplicingChannel.storeSpliceSignature
  dsimp only
  split
  · rfl
  · exact (syncSpliceInFlight_fields _ _ _).1

theorem Sound.failChannel (sound : Sound env c) (message : String) : Sound env (c.failChannel message).1 :=
  sound.withFunds { sound.current with } rfl rfl le_rfl le_rfl fun _ => .inr rfl

theorem Sound.abortSplice (sound : Sound env c) (reason : String) : Sound env (c.abortSplice reason).1 := by
  unfold SplicingChannel.abortSplice
  split
  · rename_i absent
    split
    · split
      · exact sound
      dsimp only
      split
      · exact .of_idle { sound.current with } sound.balanced absent rfl rfl
      exact .of_idle sound.current sound.balanced absent rfl rfl
    · exact sound
  · split
    · exact sound
    split
    · exact sound
    exact .of_idle { sound.current with } sound.balanced rfl rfl rfl

theorem Sound.applyPeerSpliceSignature (sound : Sound env c) (signature : Bytes) (witnesses : List (List Bytes)) :
    Sound env (c.applyPeerSpliceSignature env signature witnesses).1 := by
  unfold SplicingChannel.applyPeerSpliceSignature
  split
  · rename_i session built running signed
    split
    · exact sound
    have synced := sound.sync
      (fun record => { record with remoteSharedInputSig := some signature })
      fun _ => ⟨rfl, rfl, rfl, rfl⟩
    have fields := syncSpliceInFlight_fields env c
      fun record => { record with remoteSharedInputSig := some signature }
    dsimp only
    split
    · exact synced
    refine synced.withSession (fields.2.trans running) (fields.1.trans signed) rfl ?_
    exact ⟨nofun, nofun⟩
  · exact sound

theorem peerAffords_of_signed (signed : c.spliceTx ≠ none) : PeerAffords env c :=
  fun unsigned => absurd unsigned signed

theorem peerAffords_withSignedTx (affords : PeerAffords env c) :
    PeerAffords env { c with spliceTx := c.signedTx env } := by
  intro unsigned
  exact affords (spliceTx_of_unsigned unsigned)

section

variable (sound : Sound env c)
include sound

section

variable (affords : PeerAffords env c)
include affords

theorem Sound.withSignedTx : Sound env { c with spliceTx := c.signedTx env } := by
  cases signed : c.signedTx env with
  | some built => exact sound.withTx affords signed
  | none => exact sound.congr rfl rfl (spliceTx_of_unsigned signed).symm rfl

theorem Sound.completeTxSignatures (signature : Bytes)
    (witnesses : List (List Bytes)) : Sound env (c.completeTxSignatures env signature witnesses).1 := by
  have released := sound.maybeSendSpliceTxSigs affords
  have applied := released.applyPeerSpliceSignature signature witnesses
  unfold SplicingChannel.completeTxSignatures
  dsimp only
  split
  · rename_i next outcome
    rw [outcome] at applied
    exact applied
  · rename_i next built outcome
    rw [outcome] at applied
    split
    · refine Sound.maybeSignalSpliceTxSigsNeeded (Sound.sync ?_ _ fun _ => ⟨rfl, rfl, rfl, rfl⟩)
      exact applied.congr rfl rfl rfl rfl
    · exact applied.spliceCompletionTail _ _

theorem Sound.handleTxSignatures (msg : TxSignatures) :
    Sound env (c.handleTxSignatures env msg).1 := by
  have signing := sound.withSignedTx affords
  have affording := peerAffords_withSignedTx affords
  unfold SplicingChannel.handleTxSignatures
  split
  · exact sound
  split
  · exact sound
  split
  · exact sound.failChannel _
  dsimp only
  split
  · split
    · exact signing
    exact signing.abortSplice _
  · split
    · exact signing
    split
    · exact signing.failChannel _
    exact signing.completeTxSignatures affording _ _

theorem Sound.handleSpliceCommitmentSigned (msg : FundedCommitmentSigned) : Sound env (c.handleSpliceCommitmentSigned env msg).1 := by
  have held := sound.maybeSendSpliceCommitment affords
  unfold SplicingChannel.handleSpliceCommitmentSigned
  dsimp only
  split
  · rename_i spliced built view signed
    split
    · split
      · exact held
      · exact held
    · split
      · exact held
      split
      · exact held
      refine (held.acceptSpliceCommitment spliced msg.signed).maybeSendSpliceTxSigsOrdered ?_
      apply peerAffords_of_signed
      rw [acceptSpliceCommitment_spliceTx, signed]
      exact Option.some_ne_none _
  · exact held

end

theorem Sound.withWitnesses (witnesses : List (List Bytes)) : Sound env { c with
      spliceTx := c.spliceTx.map fun built => { built with ourWalletWitnesses := witnesses } } where
  current := sound.current
  balanced := sound.balanced
  phase := sound.phase
  built := by
    intro filled given
    obtain ⟨built, signed, rfl⟩ := Option.map_eq_some_iff.mp given
    obtain ⟨session, output, running, funded⟩ := sound.built built signed
    exact ⟨session, output, running, funded.funds, funded.negotiated, funded.solvent⟩
  locked := by
    intro session running awaiting
    obtain ⟨built, signed⟩ := Option.ne_none_iff_exists'.mp (sound.locked session running awaiting)
    simp [signed]
  recorded := by
    intro record written
    obtain ⟨built, session, signed, running, records⟩ := sound.recorded record written
    exact ⟨{ built with ourWalletWitnesses := witnesses }, session, by simp [signed], running, records.terms,
      records.txid, records.index, records.capacity⟩

theorem Sound.fillWitnesses (record : SpliceInFlight)
    (witnesses : List (List Bytes)) : Sound env (c.fillWitnesses env record witnesses) :=
  (sound.withWitnesses witnesses).sync _ fun _ => ⟨rfl, rfl, rfl, rfl⟩

theorem Sound.releaseLate (record : SpliceInFlight) (tx : Transaction)
    (witnesses : List (List Bytes)) : Sound env (c.releaseLate env record tx witnesses).1 := by
  unfold SplicingChannel.releaseLate
  apply Sound.spliceCompletionTail
  refine Sound.sync ?_ _ fun _ => ⟨rfl, rfl, rfl, rfl⟩
  exact sound.congr rfl rfl rfl rfl

end

theorem fillWitnesses_spliceTx (record : SpliceInFlight) (witnesses : List (List Bytes)) :
    (c.fillWitnesses env record witnesses).spliceTx =
      c.spliceTx.map fun built => { built with ourWalletWitnesses := witnesses } :=
  (syncSpliceInFlight_fields _ _ _).1

theorem Sound.provideSpliceExternalWitness (sound : Sound env c) (txid : Bytes) (index : Nat)
    (witness : List Bytes) : Sound env (c.provideSpliceExternalWitness env txid index witness).1 := by
  unfold SplicingChannel.provideSpliceExternalWitness
  split
  · exact sound
  rename_i record recorded
  obtain ⟨built, session, signed, -, -⟩ := sound.recorded record recorded
  dsimp only
  split
  · exact sound
  split
  · exact sound
  · split
    · rename_i slot pos prevouts _ _
      split
      · exact sound
      have filled := sound.fillWitnesses record (record.ourWalletWitnesses.set pos witness)
      split
      · exact filled
      split
      · refine filled.maybeSendSpliceTxSigsOrdered (peerAffords_of_signed ?_)
        rw [fillWitnesses_spliceTx, signed, Option.map_some]
        exact Option.some_ne_none _
      · exact filled.releaseLate _ _ _
    · exact sound

end Handlers

section Live

variable {prim : Primitives} {ver : Verifier} {s t : ChannelState} {input : ChannelInput}
  {sent : List Message} {p q : Phase}

theorem phase_of_effect (effect : StepEffect prim ver s input t sent) (connected : input ≠ .disconnect)
    (steady : input ≠ .resume) : t.phase = s.phase ∨ t.phase = .errored := by
  cases effect with
  | failed | misrevoked => exact .inr rfl
  | disconnected => exact absurd rfl connected
  | resumed => exact absurd rfl steady
  | revoked rotated msg store next rotates =>
    left
    rw [ChannelState.revocationAccepted_phase, rotates]
    rfl
  | refused | offered | received | settled | removed | feeStaged | feeReceived | signed | accepted
  | heightSet => exact .inl rfl

variable (sound : Sound env c)
include sound

theorem Sound.withEffect (effect : StepEffect prim ver { c.live with phase := p } input t sent)
    (phase : c.spliceSession ≠ none → q = .splicing ∨ q = .errored)
    (solvent : ∀ built session output, c.spliceTx = some built → c.spliceSession = some session →
      Built c.live session built output → session.terms.Solvent t output.value) :
    Sound env { c with live := { t with phase := q } } := by
  have current : Current { c.live with phase := p } := { sound.current with }
  have after := effect.current current
  have capacity := congrArg ChannelConstants.fundingSatoshis (effect.constants current.recent)
  refine sound.withLive { after with } capacity (effect.total current) phase ?_
  intro built session output signed running funded
  have kept := solvent built session output signed running funded
  exact { kept with }

theorem Sound.withSteadyEffect (effect : StepEffect prim ver { c.live with phase := p } input t sent)
    (phase : c.spliceSession ≠ none → q = .splicing ∨ q = .errored)
    (ours : c.live.localBalanceMsat ≤ t.localBalanceMsat)
    (theirs : c.live.remoteBalanceMsat ≤ t.remoteBalanceMsat) :
    Sound env { c with live := { t with phase := q } } := by
  have current : Current { c.live with phase := p } := { sound.current with }
  have capacity := congrArg ChannelConstants.fundingSatoshis (effect.constants current.recent)
  refine sound.withEffect effect phase ?_
  intro built session output _ _ funded
  exact funded.solvent.mono sound.balanced capacity (effect.total current) ours theirs

omit sound in
theorem balances_of_signature (effect : StepEffect prim ver s input t sent) (current : Current s)
    (signature : (∃ msg, input = .receive (.commitmentSigned msg)) ∨
      ∃ sig sigs partialSig, input = .signCommitment sig sigs partialSig) :
    s.localBalanceMsat ≤ t.localBalanceMsat ∧ s.remoteBalanceMsat ≤ t.remoteBalanceMsat := by
  obtain ⟨ours, theirs⟩ := effect.balances current
  rcases signature with ⟨msg, rfl⟩ | ⟨sig, sigs, partialSig, rfl⟩
  all_goals
    constructor
    · rcases ours with kept | ⟨_, _, _, _, _, _, other, _⟩
      · exact kept
      · cases other
    · rcases theirs with kept | ⟨_, other, _⟩
      · exact kept
      · cases other

theorem Sound.acceptBatch (spliced : ChannelState) (current splice : CommitmentSigned) :
    Sound env (c.acceptBatch env spliced current splice).1 := by
  have effect := step_effect env.prim env.ver { c.live with phase := .normal }
    (.receive (.commitmentSigned current))
  obtain ⟨ours, theirs⟩ := balances_of_signature effect { sound.current with }
    (.inl ⟨current, rfl⟩)
  have handled := sound.withSteadyEffect (q := .splicing) effect (fun _ => .inl rfl) ours theirs
  unfold SplicingChannel.acceptBatch
  dsimp only
  split
  · exact handled
  · exact handled.storeSpliceSignature _ _

theorem Sound.handleLive (msg : CommitmentSigned) :
    Sound env { c with live := (Channel.handleCommitmentSigned env.prim env.ver c.live msg).state } := by
  have effect := step_effect env.prim env.ver c.live (.receive (.commitmentSigned msg))
  obtain ⟨ours, theirs⟩ := balances_of_signature effect sound.current (.inl ⟨msg, rfl⟩)
  refine sound.withSteadyEffect (p := c.live.phase) effect ?_ ours theirs
  intro running
  rcases phase_of_effect effect nofun nofun with same | errored
  · exact (sound.phase running).imp same.trans same.trans
  · exact .inr errored

theorem Sound.handleCommitmentSignedBatch (msgs : List FundedCommitmentSigned) :
    Sound env (c.handleCommitmentSignedBatch env msgs).1 := by
  unfold SplicingChannel.handleCommitmentSignedBatch
  split
  · split
    · exact sound
    · exact sound.handleLive _
  · split
    · exact sound
    · exact sound
    · exact sound
    · split
      · exact sound
      split
      · exact sound
      dsimp only
      split
      · exact sound.failChannel _
      split
      · exact sound
      exact sound.acceptBatch _ _ _

theorem Sound.handleCommitmentSigned (affords : PeerAffords env c)
    (msg : FundedCommitmentSigned) : Sound env (c.handleCommitmentSigned env msg).1 := by
  unfold SplicingChannel.handleCommitmentSigned
  split
  · exact sound.congr rfl rfl rfl rfl
  · exact (sound.congr (d := { c with pendingBatch := none }) rfl rfl rfl rfl).handleCommitmentSignedBatch _
  · split
    · split
      · exact sound
      · exact sound.handleSpliceCommitmentSigned affords msg
    · exact sound.handleLive _

theorem Sound.handleStartBatch (size : Nat) (type : Option Nat) : Sound env (c.handleStartBatch size type).1 := by
  unfold SplicingChannel.handleStartBatch
  dsimp only
  split
  · exact sound
  split
  · exact sound
  split
  · exact sound
  exact sound.congr rfl rfl rfl rfl

omit sound in
theorem hidden_of_effect (effect : StepEffect prim ver (shown s) input t sent) (connected : input ≠ .disconnect)
    (steady : input ≠ .resume) (splicing : s.phase = .splicing) :
    ∃ q, hidden t = { t with phase := q } ∧ (q = .splicing ∨ q = .errored) := by
  refine ⟨_, rfl, ?_⟩
  rcases phase_of_effect effect connected steady with kept | errored
  · simp [kept, shown, splicing]
  · simp [errored]

theorem Sound.signCommitmentBatch (signature : Bytes) (sigs : List Bytes) :
    Sound env (c.signCommitmentBatch env signature sigs).1 := by
  have effect := step_effect env.prim env.ver (shown c.live) (.signCommitment signature sigs none)
  obtain ⟨ours, theirs⟩ := balances_of_signature effect { sound.current with }
    (.inr ⟨signature, sigs, none, rfl⟩)
  unfold SplicingChannel.signCommitmentBatch
  dsimp only
  split
  · split
    · exact sound
    rename_i locked
    have splicing : c.live.phase = .splicing := by
      simp only [isSplicePendingLock, Bool.and_eq_false_iff, not_or, Bool.not_eq_false, decide_eq_true_eq] at locked
      exact locked.1
    have signed : Sound env { c with
        live := hidden ((shown c.live).step env.prim env.ver (.signCommitment signature sigs none)).state } := by
      obtain ⟨q, same, phase⟩ := hidden_of_effect effect nofun nofun splicing
      rw [same]
      exact sound.withSteadyEffect effect (fun _ => phase) ours theirs
    split
    · exact sound.failChannel _
    · exact sound
    · split
      · exact signed
      exact signed
  · exact sound

end Live

section Window

variable {record : SpliceInFlight} {prim : Primitives} {s : ChannelState} {session : SpliceSession}
  {built : SpliceTx} {output : TxOut} {input : ChannelInput}

theorem pendingRemoteFunderCeilingMsat_le {spendable : Int} (nonneg : 0 ≤ spendable) :
    c.pendingRemoteFunderCeilingMsat env record spendable ≤ spendable := by
  unfold pendingRemoteFunderCeilingMsat
  dsimp only
  split_ifs
  · exact le_rfl
  · exact le_rfl
  · exact nonneg
  · exact min_le_right _ _

theorem spendableFor_nonneg (s : ChannelState) (balance : Int) (reserve : Nat) :
    0 ≤ spendableFor s balance reserve := le_max_right _ _

theorem le_of_pendingSpendable {spliced : ChannelState} (view : c.splicedState env c.live = some spliced)
    (solvent : 0 ≤ spliced.localBalanceMsat) {amount : Nat}
    (affordable : (amount : Int) ≤ c.pendingSpendableOutboundMsat env record) :
    (amount : Int) ≤ spliced.localBalanceMsat := by
  have least : (amount : Int) ≤ spendableFor c.live (c.getPendingSpliceLocalBalanceMsat env record)
      (c.pendingSpliceKeptReserveSats env record) :=
    affordable.trans ((pendingRemoteFunderCeilingMsat_le
      (le_min (spendableFor_nonneg ..) (spendableFor_nonneg ..))).trans (min_le_right _ _))
  have pending : c.getPendingSpliceLocalBalanceMsat env record = spliced.localBalanceMsat := by
    simp only [getPendingSpliceLocalBalanceMsat, view]
  rw [pending] at least
  refine least.trans (max_le ?_ solvent)
  cases c.live.role <;> dsimp only <;> omega

theorem addHtlc_refused {amount cltv : Nat} {hash onion : Bytes} {blinding : Option Bytes} {skimmed : Option Nat}
    (refused : firstRefusal (validateOutgoingHtlc prim s amount cltv) ≠ none) :
    (addHtlc prim s amount hash cltv onion blinding skimmed).state.localBalanceMsat = s.localBalanceMsat := by
  rcases Verdict.orAccept_cases s _ _ with unchanged | failed | ⟨silent, -⟩
  · exact congrArg ChannelState.localBalanceMsat unchanged.1
  · exact (congrArg ChannelState.localBalanceMsat failed.1).trans rfl
  · refine absurd (firstRefusal_eq_none.mpr fun check member => ?_) refused
    exact silent check (List.mem_cons_of_mem _ member)

theorem handleUpdateAddHtlc_refused {msg : UpdateAddHtlc}
    (refused : firstRefusal (validateIncomingHtlc prim s msg) ≠ none) :
    (handleUpdateAddHtlc prim s msg).state.remoteBalanceMsat = s.remoteBalanceMsat := by
  rcases Verdict.orAccept_cases s _ _ with unchanged | failed | ⟨silent, -⟩
  · exact congrArg ChannelState.remoteBalanceMsat unchanged.1
  · exact (congrArg ChannelState.remoteBalanceMsat failed.1).trans rfl
  · exact absurd (firstRefusal_eq_none.mpr silent) refused

variable (sound : Sound env c)
include sound

theorem solvent_of_pending
    (signed : c.spliceTx = some built) (running : c.spliceSession = some session)
    (funded : Built c.live session built output) (passed : c.pendingRefusal env record input = none) :
    session.terms.Solvent ((shown c.live).step env.prim env.ver input).state output.value := by
  have current : Current (shown c.live) := { sound.current with }
  have effect := step_effect env.prim env.ver (shown c.live) input
  have capacity : ((shown c.live).step env.prim env.ver input).state.fundingSatoshis = c.live.fundingSatoshis :=
    congrArg ChannelConstants.fundingSatoshis (effect.constants current.recent)
  have total : _ = c.live.totalMsat := effect.total current
  have balanced := total.trans (capacity ▸ sound.balanced)
  have view := splicedState_of_signed env running signed funded.funds
  obtain ⟨ours, theirs⟩ := effect.balances current
  rcases ours with ours | ⟨amount, hash, cltv, onion, blinding, skimmed, rfl, -, -, paid⟩
  · rcases theirs with theirs | ⟨msg, rfl, -, fresh, -, received⟩
    · exact funded.solvent.mono sound.balanced capacity total ours theirs
    · by_cases refused : firstRefusal (validateIncomingHtlc env.prim (shown c.live) msg) = none
      · -- The candidate that was checked holds the same HTLCs as the state that is reached.
        have absent : c.live.htlcs.has (.received, msg.id) = false := by
          rw [KeyedMap.has, Option.isSome_eq_false_iff, Option.isNone_iff_eq_none]
          exact fresh
        simp only [pendingRefusal, liveChecks, refused, ne_eq, not_true_eq_false, ↓reduceIte,
          firstRefusal_eq_none, pendingChecks, List.forall_mem_singleton, List.forall_mem_cons,
          Option.map_eq_none_iff] at passed
        have checked := passed.2
        simp only [pendingEmptyRefusal, view, firstRefusal_eq_none, List.mem_cons, forall_eq_or_imp,
          refuseIf_eq_none, not_or, not_lt] at checked
        obtain ⟨⟨own, peer⟩, -⟩ := checked
        rw [received]
        constructor
        · exact own
        · have same : ((c.live.htlcs.set (incomingEntry (shown c.live) msg)).values.map
              fun e => (e.amountMsat : Int)).sum =
              ((c.live.htlcs.set (receivedEntry c.live msg)).values.map fun e => (e.amountMsat : Int)).sum := by
            rw [KeyedMap.values_set_of_absent absent, KeyedMap.values_set_of_absent absent]
            simp [incomingEntry, receivedEntry]
          change 0 ≤ (output.value : Int) * 1000 - session.terms.myNewLocalMsat c.live output.value -
            ((c.live.htlcs.set (incomingEntry (shown c.live) msg)).values.map
              fun e => (e.amountMsat : Int)).sum
          rw [same]
          exact peer
      · refine funded.solvent.mono sound.balanced capacity total ours ?_
        exact (handleUpdateAddHtlc_refused refused).ge
  · have theirs : c.live.remoteBalanceMsat ≤ _ := theirs.resolve_right (by rintro ⟨_, ⟨⟩, _⟩)
    by_cases refused : firstRefusal (validateOutgoingHtlc env.prim (shown c.live) amount cltv) = none
    · simp only [pendingRefusal, liveChecks, refused, ne_eq, not_true_eq_false, ↓reduceIte,
        firstRefusal_eq_none, pendingChecks, List.mem_cons, forall_eq_or_imp, refuseIf_eq_none,
        not_lt] at passed
      have bounded := le_of_pendingSpendable (view c.live) funded.solvent.ours passed.1
      have peer := funded.solvent.theirs
      rw [SpliceTerms.theirNewMsat_eq sound.balanced] at peer
      constructor
      · rw [SpliceTerms.myNewLocalMsat_congr capacity, paid]
        change 0 ≤ session.terms.myNewLocalMsat c.live output.value +
          (c.live.localBalanceMsat - amount - c.live.localBalanceMsat)
        have bounded : (amount : Int) ≤ session.terms.myNewLocalMsat c.live output.value := bounded
        omega
      · rw [SpliceTerms.theirNewMsat_eq balanced, SpliceTerms.peerShareMsat_congr capacity]
        omega
    · exact funded.solvent.mono sound.balanced capacity total (addHtlc_refused refused).ge theirs

theorem Sound.markFailback {before : SplicingChannel} (input : ChannelInput) :
    Sound env { c with live := before.markFailback env record c.live input } := by
  unfold SplicingChannel.markFailback
  split
  · split
    · exact sound
    · refine sound.withEntries _ _ ?_
      intro e
      split <;> rfl
  · exact sound

theorem solvent_of_live (running : c.spliceSession = some session) (funded : Built c.live session built output) (input : ChannelInput) :
    session.terms.Solvent (c.live.step env.prim env.ver input).state output.value := by
  have effect := step_effect env.prim env.ver c.live input
  have capacity := congrArg ChannelConstants.fundingSatoshis (effect.constants sound.current.recent)
  obtain ⟨ours, theirs⟩ := effect.balances sound.current
  have phase := sound.phase (by simp [running])
  refine funded.solvent.mono sound.balanced capacity (effect.total sound.current) ?_ ?_
  · refine ours.resolve_right ?_
    rintro ⟨amount, hash, cltv, onion, blinding, skimmed, -, normal, -⟩
    simp [normal] at phase
  · refine theirs.resolve_right ?_
    rintro ⟨msg, -, operational, -⟩
    rcases phase with splicing | errored
    · simp [ChannelState.operational, splicing] at operational
    · simp [ChannelState.operational, errored] at operational

theorem Sound.updateInWindow (pending : c.isSplicePendingLock = true)
    (connected : input ≠ .disconnect) (steady : input ≠ .resume) (passed : c.pendingRefusal env record input = none) :
    Sound env { c with live := hidden ((shown c.live).step env.prim env.ver input).state } := by
  have effect := step_effect env.prim env.ver (shown c.live) input
  have splicing : c.live.phase = .splicing := by
    simp only [isSplicePendingLock, Bool.and_eq_true, decide_eq_true_eq] at pending
    exact pending.1
  obtain ⟨q, same, phase⟩ := hidden_of_effect effect connected steady splicing
  rw [same]
  exact sound.withEffect effect (fun _ => phase) fun built session output signed running funded =>
    solvent_of_pending sound signed running funded passed

theorem Sound.updateChannel (input : ChannelInput) :
    Sound env (c.updateChannel env input).1 := by
  unfold SplicingChannel.updateChannel
  split
  · exact sound
  rename_i update
  have connected : input ≠ .disconnect := by
    rintro rfl
    exact update rfl
  have steady : input ≠ .resume := by
    rintro rfl
    exact update rfl
  split
  · rename_i record pending recorded
    split
    · exact sound
    split
    · rename_i verdict _
      cases verdict with
      | answer notices => exact sound
      | failChannel message localMessage => exact sound.failChannel message
    · rename_i passed
      exact (sound.updateInWindow pending connected steady passed).markFailback input
  · have effect := step_effect env.prim env.ver c.live input
    refine sound.withEffect (p := c.live.phase) effect ?_ fun _ _ _ _ running funded =>
      solvent_of_live sound running funded input
    intro running
    rcases phase_of_effect effect connected steady with kept | errored
    · exact (sound.phase running).imp kept.trans kept.trans
    · exact .inr errored

end Window

section Negotiation

def StaysUnlocked (call : NegotiationSession → NegotiationSession × Option String) : Prop :=
  ∀ s : NegotiationSession, s.state = .txNegotiation → (call s).1.state ≠ .awaitingLock

theorem staysUnlocked_onBuilder (what : String) (call : InteractiveTxBuilder → InteractiveTxBuilder × Option String) :
    StaysUnlocked fun s => s.onBuilder what call := by
  intro s collecting
  have kept : (s.onBuilder what call).1.state = s.state := by
    rcases s.onBuilder_cases what call with ⟨reason, refused⟩ | ⟨b, -, -, accepted⟩
    · rw [refused]
    · rw [accepted]
  dsimp only
  rw [kept, collecting]
  exact nofun

variable {call : NegotiationSession → NegotiationSession × Option String}

theorem StaysUnlocked.settle
    (unlocked : StaysUnlocked call) : StaysUnlocked fun s => NegotiationSession.settle (call s) := by
  intro s collecting
  dsimp only [NegotiationSession.settle]
  split
  · exact nofun
  · exact unlocked s collecting

theorem staysUnlocked_run (call : OwnCall) : StaysUnlocked call.run := by
  cases call with
  | addInput | addOutput | removeInput | removeOutput => exact staysUnlocked_onBuilder _ _
  | markComplete => exact (staysUnlocked_onBuilder _ _).settle

theorem negotiating_iff : c.negotiating = true ↔
    ∃ session, c.spliceSession = some session ∧ session.state = .txNegotiation := by
  simp only [negotiating, Option.any_eq_true_iff_get, decide_eq_true_eq]
  constructor
  · rintro ⟨some, collecting⟩
    exact ⟨_, (Option.some_get some).symm, collecting⟩
  · rintro ⟨session, running, collecting⟩
    simp [running, collecting]

section

variable (sound : Sound env c)
include sound

theorem Sound.onNegotiation (negotiating : c.negotiating = true) (unlocked : StaysUnlocked call) :
    Sound env (c.onNegotiation call).1 := by
  obtain ⟨session, running, collecting⟩ := negotiating_iff.mp negotiating
  obtain ⟨tx, record⟩ := sound.unsigned (by simp [running, collecting])
  simp only [SplicingChannel.onNegotiation, running]
  exact .of_unsigned sound.current sound.balanced (sound.phase (by simp [running])) rfl
    (unlocked _ collecting) tx record

variable (turn : Option OwnCall)

theorem Sound.driveSplice : Sound env (c.driveSplice turn).1 := by
  unfold SplicingChannel.driveSplice
  split
  · exact sound
  · rename_i call
    split
    · rename_i negotiating
      have driven := sound.onNegotiation negotiating (staysUnlocked_run call)
      split
      all_goals
        rename_i outcome
        rw [outcome] at driven
        exact driven
    · exact sound

theorem Sound.failNegotiation (reason : String) : Sound env (c.failNegotiation reason).1 := sound.abortSplice reason

theorem Sound.handleItem (what : String) (unlocked : StaysUnlocked call)
    (turn : Option OwnCall) : Sound env (c.handleItem what call turn).1 := by
  unfold SplicingChannel.handleItem
  split
  · exact sound
  rename_i negotiating
  rw [Bool.not_eq_false] at negotiating
  split
  · exact sound.failNegotiation _
  have taken := sound.onNegotiation negotiating unlocked
  split
  · rename_i outcome
    rw [outcome] at taken
    exact taken
  · rename_i outcome
    rw [outcome] at taken
    exact taken.driveSplice turn

theorem Sound.handleTxAddInput (msg : TxAddInputMsg) (free : Option Int)
    (turn : Option OwnCall) : Sound env (c.handleTxAddInput env msg free turn).1 := by
  unfold SplicingChannel.handleTxAddInput
  dsimp only
  split
  · exact sound
  rename_i negotiating
  rw [Bool.not_eq_false] at negotiating
  split
  · exact sound.failNegotiation _
  split
  · exact sound.abortSplice _
  · have taken := sound.onNegotiation negotiating (staysUnlocked_onBuilder "add peer input" fun b =>
      b.addPeerInput (fun bytes => (env.fromBuffer bytes).map (List.map TxOut.script))
        (NegotiatingChannel.peerInput (fun bytes => some (env.extractTxidFromPrevTx bytes)) .splice msg)
        free)
    split
    · rename_i outcome
      have taken := (congrArg Prod.fst outcome) ▸ taken
      exact taken.failNegotiation _
    · rename_i outcome
      have taken := (congrArg Prod.fst outcome) ▸ taken
      exact taken.driveSplice turn

theorem Sound.handleTxAddOutput (output : TxOutput) (turn : Option OwnCall) :
    Sound env (c.handleTxAddOutput output turn).1 := by
  refine sound.handleItem _ ?_ turn
  intro s collecting
  exact staysUnlocked_onBuilder _ _ (s.setDustLimit _) collecting

theorem Sound.takeTxComplete : Sound env (c.takeTxComplete turn).1 := by
  unfold SplicingChannel.takeTxComplete
  split
  · exact sound
  · rename_i negotiating
    rw [Bool.not_eq_false] at negotiating
    have unlocked : StaysUnlocked NegotiationSession.handlePeerComplete := fun s =>
      (staysUnlocked_onBuilder _ _).settle s
    have taken := sound.onNegotiation negotiating unlocked
    split
    · rename_i outcome
      rw [outcome] at taken
      exact taken
    · rename_i outcome
      rw [outcome] at taken
      exact taken.driveSplice turn

theorem Sound.concludeNegotiation (affords : PeerAffords env c) : Sound env (c.concludeNegotiation env).1 := by
  unfold SplicingChannel.concludeNegotiation
  split
  · exact sound
  split
  · exact sound
  split
  · exact sound.failNegotiation _
  split
  · split
    · exact sound.failNegotiation _
    rename_i built signed
    exact sound.withTx affords (signedTx_of_built signed)
  · exact sound.maybeSendSpliceCommitment affords

theorem Sound.handleTxComplete
    (affords : PeerAffords env (c.takeTxComplete turn).1) : Sound env (c.handleTxComplete env turn).1 := by
  have taken := sound.takeTxComplete turn
  unfold SplicingChannel.handleTxComplete
  split
  · rename_i outcome
    rw [outcome] at taken
    exact taken
  · rename_i outcome
    rw [outcome] at taken affords
    exact taken.concludeNegotiation affords

theorem Sound.releaseCompositeSpliceCommitment (affords : PeerAffords env c) :
    Sound env (c.releaseCompositeSpliceCommitment env).1 := by
  unfold SplicingChannel.releaseCompositeSpliceCommitment
  split
  · exact Sound.maybeSendSpliceCommitment (c := { c with compositeSplice := some true })
      (sound.congr rfl rfl rfl rfl) affords
  · exact sound

theorem Sound.enterSplicing (normal : c.live.phase = .normal) {session : SpliceSession}
    (unlocked : session.state ≠ .awaitingLock) : Sound env (c.enterSplicing session) := by
  obtain ⟨-, tx, record⟩ := sound.idle normal
  exact .of_unsigned { sound.current with } sound.balanced (.inl rfl) rfl unlocked
    tx record

theorem Sound.startSplice (relativeSatoshis : Int) (feerate locktime : Nat) :
    Sound env (c.startSplice relativeSatoshis feerate locktime).1 := by
  unfold SplicingChannel.startSplice
  split
  · exact sound
  rename_i normal
  rw [not_not] at normal
  split
  · exact sound
  exact sound.enterSplicing normal nofun

theorem Sound.handleSplice (msg : SpliceMessage) (relativeSatoshis : Int) :
    Sound env (c.handleSplice env msg relativeSatoshis).1 := by
  unfold SplicingChannel.handleSplice
  dsimp only
  split
  · exact sound
  rename_i normal
  rw [not_not] at normal
  split
  · exact sound
  split
  · exact sound
  split
  · exact sound
  exact sound.enterSplicing normal nofun

theorem Sound.handleSpliceAck (pubkey : Bytes) (relativeSatoshis : Int)
    (turn : Option OwnCall) : Sound env (c.handleSpliceAck env pubkey relativeSatoshis turn).1 := by
  unfold SplicingChannel.handleSpliceAck
  split
  · exact sound
  split
  · exact sound
  split
  · exact sound
  rename_i session running
  split
  · exact sound
  rename_i waiting
  rw [not_not] at waiting
  obtain ⟨tx, record⟩ := sound.unsigned (by simp [running, waiting])
  have answered : Sound env { c with
      spliceSession := some { session with
        terms := { session.terms with remoteRelativeSatoshis := relativeSatoshis }
        remoteFundingPubkey := some pubkey
        negotiation := ⟨.splice, .txNegotiation,
          some (.create session.terms.isInitiator session.locktime)⟩ } } :=
    .of_unsigned sound.current sound.balanced (sound.phase (by simp [running])) rfl nofun tx record
  dsimp only
  split
  · exact answered.failNegotiation _
  split
  · exact answered.failNegotiation _
  exact answered.driveSplice turn

theorem Sound.setWalletInputs (inputs : Option (List WalletInput)) (composite : Bool) :
    Sound env (c.setWalletInputs inputs composite) := by
  unfold SplicingChannel.setWalletInputs
  split
  · exact sound
  · exact sound.congr rfl rfl rfl rfl

end

end Negotiation

section Runs

theorem Sound.markSpliceConfirmed (sound : Sound env c) : Sound env c.markSpliceConfirmed := by
  refine { sound with recorded := ?_ }
  intro record given
  obtain ⟨before, written, rfl⟩ := Option.map_eq_some_iff.mp given
  obtain ⟨built, session, signed, running, records⟩ := sound.recorded before written
  exact ⟨built, session, signed, running, records.terms, records.txid, records.index, records.capacity⟩

theorem Sound.next (sound : Sound env c) (input : SpliceInput)
    (affords : PeerAffords env (c.signingState input)) : Sound env (c.next env input) := by
  cases input with
  | setWalletInputs inputs composite => exact sound.setWalletInputs inputs composite
  | start relativeSatoshis feerate locktime => exact sound.startSplice relativeSatoshis feerate locktime
  | splice msg localRelativeSatoshis => exact sound.handleSplice msg localRelativeSatoshis
  | spliceAck pubkey relativeSatoshis turn => exact sound.handleSpliceAck pubkey relativeSatoshis turn
  | txAddInput msg free turn => exact sound.handleTxAddInput msg free turn
  | txAddOutput output turn => exact sound.handleTxAddOutput output turn
  | txRemoveInput serialId => exact sound.handleItem _ (staysUnlocked_onBuilder _ _) none
  | txRemoveOutput serialId => exact sound.handleItem _ (staysUnlocked_onBuilder _ _) none
  | txComplete turn => exact sound.handleTxComplete turn affords
  | releaseComposite => exact sound.releaseCompositeSpliceCommitment affords
  | startBatch size type => exact sound.handleStartBatch size type
  | commitmentSigned msg => exact sound.handleCommitmentSigned affords msg
  | txSignatures msg => exact sound.handleTxSignatures affords msg
  | externalWitness txid index witness => exact sound.provideSpliceExternalWitness txid index witness
  | abort reason => exact sound.abortSplice reason
  | markConfirmed => exact sound.markSpliceConfirmed
  | sendSpliceLocked => exact sound.sendSpliceLocked
  | spliceLocked txid => exact sound.handleSpliceLocked txid
  | update input => exact sound.updateChannel input
  | signBatch signature htlcSignatures => exact sound.signCommitmentBatch signature htlcSignatures

def Affording (env : SpliceEnv) (c : SplicingChannel) (inputs : List SpliceInput) : Prop :=
  Along (fun c input => c.next env input) (fun c input => PeerAffords env (c.signingState input)) c inputs

theorem Sound.run (sound : Sound env c) {inputs : List SpliceInput} (affording : Affording env c inputs) :
    Sound env (inputs.foldl (fun c input => c.next env input) c) :=
  affording.invariant (fun _ input affords sound => sound.next input affords) sound

end Runs

end SplicingChannel

end Beignet.Splice
