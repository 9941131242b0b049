import Beignet.Splice.Solvency

namespace Beignet.Splice

open Beignet.Data Beignet.Channel Beignet.InteractiveTx

/-! What leaves the channel with our signature, what the lock adopts, and what the other side computes. -/

def SignsView (env : SpliceEnv) (d : SplicingChannel) (signed : CommitmentSigned) : Prop :=
  ∃ spliced point number commitment, d.signedView env = some spliced ∧
    buildRemoteCommitment env.prim spliced point number = some commitment ∧
    signed = env.signBuiltCommitment commitment

namespace SplicingChannel

variable {env : SpliceEnv} {c : SplicingChannel}

section Adoption

structure SameFunds (before after : SplicingChannel) : Prop where
  capacity : after.live.fundingSatoshis = before.live.fundingSatoshis
  ours : after.live.localBalanceMsat = before.live.localBalanceMsat
  terms : after.spliceSession.map SpliceSession.terms = before.spliceSession.map SpliceSession.terms

theorem SameFunds.refl (c : SplicingChannel) : SameFunds c c := ⟨rfl, rfl, rfl⟩

theorem SameFunds.trans {a b c : SplicingChannel} (first : SameFunds a b) (second : SameFunds b c) : SameFunds a c :=
  ⟨second.capacity.trans first.capacity, second.ours.trans first.ours, second.terms.trans first.terms⟩

theorem sameFunds_sync (env : SpliceEnv) (c : SplicingChannel) (changes : SpliceInFlight → SpliceInFlight) :
    SameFunds c (syncSpliceInFlight env c changes) := by
  unfold syncSpliceInFlight Splice.leaveQuiescence
  split <;> exact ⟨rfl, rfl, rfl⟩

theorem sameFunds_maybeSignal : SameFunds c c.maybeSignalSpliceTxSigsNeeded.1 := by
  unfold maybeSignalSpliceTxSigsNeeded
  dsimp only
  split <;> exact ⟨rfl, rfl, rfl⟩

theorem sameFunds_maybeSendSpliceTxSigs : SameFunds c (c.maybeSendSpliceTxSigs env).1 := by
  unfold maybeSendSpliceTxSigs
  split
  · exact .refl c
  split
  · exact .refl c
  split
  · exact .refl c
  dsimp only
  split
  · refine SameFunds.trans ?_ sameFunds_maybeSignal
    exact ⟨rfl, rfl, rfl⟩
  · refine SameFunds.trans ?_ (sameFunds_sync _ _ _)
    exact ⟨rfl, rfl, rfl⟩

theorem sameFunds_applyPeerSpliceSignature (signature : Bytes) (witnesses : List (List Bytes)) :
    SameFunds c (c.applyPeerSpliceSignature env signature witnesses).1 := by
  unfold applyPeerSpliceSignature
  split
  · rename_i session built running signed
    split
    · exact .refl c
    have synced := sameFunds_sync env c fun record => { record with remoteSharedInputSig := some signature }
    dsimp only
    split
    · exact synced
    exact ⟨synced.capacity, synced.ours, by simp [running, SpliceSession.recordTx, SpliceSession.setState]⟩
  · exact .refl c

def Adopted (c : SplicingChannel) (adopted : ChannelState) : Prop :=
  ∃ session, c.spliceSession = some session ∧ SplitOf session.terms c.live adopted ∧
    0 ≤ adopted.localBalanceMsat ∧ 0 ≤ adopted.remoteBalanceMsat

theorem Adopted.of_sameFunds {before : SplicingChannel} {adopted : ChannelState} (split : Adopted c adopted)
    (same : SameFunds before c) : Adopted before adopted := by
  obtain ⟨session, running, split, ours, theirs⟩ := split
  have terms := same.terms
  rw [running, Option.map_some] at terms
  obtain ⟨earlier, known, agree⟩ := Option.map_eq_some_iff.mp terms.symm
  refine ⟨earlier, known, ⟨split.total, ?_⟩, ours, theirs⟩
  rw [split.ours, agree, SpliceTerms.feeFromChannelSats, SpliceTerms.feeFromChannelSats, same.ours, same.capacity]

theorem adopted_completeSplice (sound : Sound env c) {built : SpliceTx} (signed : c.spliceTx = some built) :
    Adopted c (c.completeSplice env).live := by
  obtain ⟨session, output, running, funded, adopts, -⟩ := sound.completeSplice signed
  refine ⟨session, running, .of_split ?_ ?_ adopts.htlcs, ?_, ?_⟩
  · rw [adopts.ours, adopts.capacity]
    rfl
  · rw [adopts.theirs, adopts.capacity]
    rfl
  · rw [adopts.ours]
    exact funded.solvent.ours
  · rw [adopts.theirs]
    exact funded.solvent.theirs

theorem adopted_lock (sound : Sound env c) {session locked : SpliceSession}
    (running : c.spliceSession = some session) (locks : Locks session locked)
    (changes : SpliceInFlight → SpliceInFlight) (keeps : KeepsRecord changes) : Adopted c
      ((syncSpliceInFlight env { c with spliceSession := some locked } changes).completeSplice env).live := by
  obtain ⟨⟨built, signed⟩, synced, -⟩ := sound.lock running locks changes keeps
  refine (adopted_completeSplice synced signed).of_sameFunds (SameFunds.trans ?_ (sameFunds_sync _ _ _))
  exact ⟨rfl, rfl, by simp [running, locks.terms]⟩

end Adoption

end SplicingChannel

/-- A message with a signature of ours for the new output or the shared input is made from the transaction
    and the view of the state, and the report that the splice is complete comes with `adopted`. -/
def SpliceAction.Signs (env : SpliceEnv) (d : SplicingChannel) (adopted : Prop) : SpliceAction → Prop
  | .sendCommitmentSigned msg => SignsView env d msg.signed
  | .sendBatch _ splice => SignsView env d splice.signed
  | .sendTxSignatures _ => d.signedTx env ≠ none
  | .spliceComplete => adopted
  | _ => True

open SpliceAction (Signs)

namespace SplicingChannel

variable {env : SpliceEnv} {c d : SplicingChannel}

section Messages

variable {adopted : Prop} {spliced : ChannelState} {built : SpliceTx} (reason : String)
  (turn : Option OwnCall) (msg : FundedCommitmentSigned)

def SignedIn (env : SpliceEnv) (d : SplicingChannel) (adopted : Prop) (actions : List SpliceAction) : Prop :=
  ∀ action ∈ actions, action.Signs env d adopted

@[simp]
theorem signedIn_nil : SignedIn env d adopted [] := by simp [SignedIn]

@[simp]
theorem signedIn_cons {action : SpliceAction} {rest : List SpliceAction} :
    SignedIn env d adopted (action :: rest) ↔ action.Signs env d adopted ∧ SignedIn env d adopted rest := by
  simp [SignedIn]

@[simp]
theorem signedIn_append {first rest : List SpliceAction} :
    SignedIn env d adopted (first ++ rest) ↔ SignedIn env d adopted first ∧ SignedIn env d adopted rest := by
  simp [SignedIn, or_imp, forall_and]

@[simp]
theorem signedIn_channel {actions : List ChannelAction} : SignedIn env d adopted (actions.map .channel) := by
  intro action member
  obtain ⟨inner, -, rfl⟩ := List.mem_map.mp member
  trivial

theorem signedView_of_splicedState
    (view : c.splicedState env c.live = some spliced) : c.signedView env = some spliced := by
  cases signed : c.spliceTx with
  | none => simp [splicedState, signed] at view
  | some built =>
    rw [← view]
    simp [signedView, signedTx, splicedState, signed]

theorem signedTx_of_withSignedTx
    (signed : buildAndSignSpliceTx env { c with spliceTx := c.signedTx env } = some built) :
    c.signedTx env ≠ none := by
  intro unsigned
  have absent := Option.or_eq_none_iff.mp (signedTx_eq.symm.trans unsigned)
  have same : { c with spliceTx := c.signedTx env } = c := by
    rw [unsigned, ← absent.1]
  rw [same, absent.2] at signed
  cases signed

theorem signedIn_maybeSendSpliceCommitment (same : d.signedView env = c.signedView env) :
    SignedIn env d adopted (Splice.maybeSendSpliceCommitment env c).2 := by
  unfold Splice.maybeSendSpliceCommitment
  split
  · split
    · simp
    split
    · simp [Signs]
    rename_i built signed
    dsimp only
    split
    · simp
    rename_i spliced view
    split
    · simp [Signs]
    rename_i commitment built'
    have seen : c.signedView env = some spliced := by
      rw [signedView, signedTx, signed]
      exact view
    simp only [signedIn_cons, signedIn_nil, and_true]
    exact ⟨trivial, spliced, _, _, commitment, same.trans seen, built', rfl⟩
  · simp

theorem maybeSendSpliceCommitment_spliceTx (held : (Splice.maybeSendSpliceCommitment env c).1.spliceTx = some built) :
    c.signedTx env = some built := by
  have kept : c.spliceTx = some built → c.signedTx env = some built := by
    intro signed
    simp [signedTx, signed]
  unfold Splice.maybeSendSpliceCommitment at held
  split at held
  · split at held
    · exact kept held
    split at held
    · exact kept held
    rename_i known signed
    dsimp only at held
    split at held
    · exact signed.trans held
    split at held
    · exact signed.trans held
    rw [(syncSpliceInFlight_fields _ _ _).1] at held
    exact signed.trans held
  · exact kept held

theorem signedIn_maybeSignal : SignedIn env d adopted (c.maybeSignalSpliceTxSigsNeeded).2 := by
  unfold maybeSignalSpliceTxSigsNeeded
  dsimp only
  split
  · simp
  · simp [Signs]

theorem signedIn_maybeSendSpliceTxSigs
    (signed : ∀ built, buildAndSignSpliceTx env c = some built → d.signedTx env ≠ none) :
    SignedIn env d adopted (c.maybeSendSpliceTxSigs env).2 := by
  unfold maybeSendSpliceTxSigs
  split
  · simp
  split
  · simp
  split
  · simp [Signs]
  rename_i built ready
  dsimp only
  split
  · exact signedIn_maybeSignal
  simpa [releaseTxSigs, Signs] using signed built ready

theorem signedIn_maybeSendSpliceTxSigsOrdered
    (signed : ∀ built, buildAndSignSpliceTx env c = some built → d.signedTx env ≠ none) :
    SignedIn env d adopted (c.maybeSendSpliceTxSigsOrdered env).2 := by
  unfold maybeSendSpliceTxSigsOrdered
  split
  · simp
  split
  · simp
  exact signedIn_maybeSendSpliceTxSigs signed

theorem SignedIn.mono {weaker : Prop} {actions : List SpliceAction} (signed : SignedIn env d adopted actions)
    (implies : adopted → weaker) : SignedIn env d weaker actions := by
  intro action member
  have made := signed action member
  cases action with
  | spliceComplete => exact implies made
  | channel | persistState | error | throws | sendCommitmentSigned | sendTxSignatures | sendSpliceLocked
  | txAbort | spliceAborted | sendBatch | txSignaturesNeeded | spliceTxNegotiated | broadcastTx
  | watchFunding => exact made

theorem signedIn_sendSpliceLocked (sound : Sound env c) :
    SignedIn env d (Adopted c (c.sendSpliceLocked env).1.live) (c.sendSpliceLocked env).2 := by
  unfold SplicingChannel.sendSpliceLocked
  split
  · simp [Signs]
  split
  · simp [Signs]
  rename_i session running
  split
  · simp
  split
  · simp [Signs]
  rename_i locked ok
  have locks := sendSpliceLocked_ok ok
  dsimp only
  split
  · simp only [signedIn_cons, signedIn_nil, and_true]
    exact ⟨trivial, trivial, adopted_lock sound running locks _ fun _ => ⟨rfl, rfl, rfl, rfl⟩⟩
  · simp [Signs]

theorem signedIn_spliceCompletionTail (sound : Sound env c) (tx : Transaction) (index : Nat) :
    SignedIn env d (Adopted c (c.spliceCompletionTail env tx index).1.live)
      (c.spliceCompletionTail env tx index).2 := by
  unfold SplicingChannel.spliceCompletionTail
  dsimp only
  split
  · rw [signedIn_append]
    refine ⟨by simp [Signs], SignedIn.mono (signedIn_sendSpliceLocked ?_) fun split =>
      split.of_sameFunds (SameFunds.trans ?_ (sameFunds_sync _ _ _))⟩
    · refine Sound.sync ?_ _ fun _ => ⟨rfl, rfl, rfl, rfl⟩
      exact sound.congr rfl rfl rfl rfl
    · exact ⟨rfl, rfl, rfl⟩
  · simp [Signs]

theorem signedIn_abortSplice : SignedIn env d adopted (c.abortSplice reason).2 := by
  unfold abortSplice
  split
  · split
    · split
      · simp [Signs]
      · dsimp only
        split <;> simp [Signs]
    · simp [Signs]
  · split
    · simp [Signs]
    · split <;> simp [Signs]

theorem signedIn_failNegotiation : SignedIn env d adopted (c.failNegotiation reason).2 := by
  simp [failNegotiation, Signs, signedIn_abortSplice]

theorem signedIn_driveSplice : SignedIn env d adopted (c.driveSplice turn).2 := by
  unfold driveSplice
  split
  · simp
  split
  · split <;> simp [Signs]
  simp

theorem signedIn_refuseTxSigs (message : String) : SignedIn env d adopted (c.refuseTxSigs message) := by
  unfold refuseTxSigs
  split
  · split <;> simp [Signs]
  · simp [Signs]

theorem signedIn_handleItem (what : String)
    (call : NegotiationSession → NegotiationSession × Option String) (turn : Option OwnCall) :
    SignedIn env d adopted (c.handleItem what call turn).2 := by
  unfold handleItem
  split
  · simp [Signs]
  split
  · exact signedIn_failNegotiation _
  split
  · simp [Signs]
  exact signedIn_driveSplice turn

theorem signedIn_handleTxAddInput (msg : TxAddInputMsg) (free : Option Int) (turn : Option OwnCall) :
    SignedIn env d adopted (c.handleTxAddInput env msg free turn).2 := by
  unfold handleTxAddInput
  dsimp only
  split
  · simp [Signs]
  split
  · exact signedIn_failNegotiation _
  split
  · simp [Signs, signedIn_abortSplice]
  split
  · exact signedIn_failNegotiation _
  exact signedIn_driveSplice turn

theorem signedIn_handleTxComplete :
    SignedIn env (c.takeTxComplete turn).1 adopted (c.handleTxComplete env turn).2 := by
  unfold handleTxComplete
  split
  · simp [Signs]
  rename_i taken outcome
  rw [outcome]
  unfold concludeNegotiation
  split
  · simp
  split
  · simp
  split
  · exact signedIn_failNegotiation _
  split
  · split
    · exact signedIn_failNegotiation _
    simp [Signs]
  · exact signedIn_maybeSendSpliceCommitment rfl

theorem signedIn_handleSpliceAck (pubkey : Bytes) (relativeSatoshis : Int) (turn : Option OwnCall) :
    SignedIn env d adopted (c.handleSpliceAck env pubkey relativeSatoshis turn).2 := by
  unfold handleSpliceAck
  split
  · simp
  split
  · simp [Signs]
  split
  · simp [Signs]
  split
  · simp [Signs]
  dsimp only
  split
  · exact signedIn_failNegotiation _
  split
  · exact signedIn_failNegotiation _
  exact signedIn_driveSplice turn

theorem verifySpliced_signs {number : Nat} {msg : CommitmentSigned}
    {invalidSignature invalidHtlc : String} {refusal : SpliceAction}
    (refused : verifySpliced env spliced number msg invalidSignature invalidHtlc = some refusal) :
    refusal.Signs env d adopted := by
  unfold verifySpliced at refused
  split at refused
  · cases refused
    trivial
  · simp only [firstRefusal, refuseIf, List.findSome?_cons, List.findSome?_nil, id_eq] at refused
    split_ifs at refused
    all_goals
      cases refused
      trivial

theorem signedIn_handleSpliceCommitmentSigned :
    SignedIn env c adopted (c.handleSpliceCommitmentSigned env msg).2 := by
  have sending : SignedIn env c adopted (Splice.maybeSendSpliceCommitment env c).2 :=
    signedIn_maybeSendSpliceCommitment rfl
  unfold handleSpliceCommitmentSigned
  dsimp only
  split
  · rename_i spliced built view held
    have signed := maybeSendSpliceCommitment_spliceTx held
    split
    · split
      · exact sending
      · simp [Signs]
    · split
      · simp [Signs]
      · split
        · rename_i refusal refused
          simp [verifySpliced_signs refused]
        · rw [signedIn_append]
          refine ⟨sending, signedIn_maybeSendSpliceTxSigsOrdered ?_⟩
          simp [signed]
  · simp [Signs]

theorem signedIn_handleCommitmentSignedBatch (msgs : List FundedCommitmentSigned) :
    SignedIn env d adopted (c.handleCommitmentSignedBatch env msgs).2 := by
  unfold handleCommitmentSignedBatch
  split
  · split
    · simp [Signs]
    · simp
  · split
    · simp [Signs]
    · simp [Signs]
    · simp [Signs]
    · split
      · simp [Signs]
      split
      · simp [Signs]
      dsimp only
      split
      · simp [failChannel, Signs]
      split
      · rename_i refusal refused
        simp [verifySpliced_signs refused]
      · unfold acceptBatch
        dsimp only
        split <;> simp

theorem signedIn_handleCommitmentSigned : SignedIn env c adopted (c.handleCommitmentSigned env msg).2 := by
  unfold handleCommitmentSigned
  split
  · simp
  · exact signedIn_handleCommitmentSignedBatch _
  · split
    · split
      · simp [Signs]
      · exact signedIn_handleSpliceCommitmentSigned msg
    · simp

section

variable (sound : Sound env c)
include sound

theorem signedIn_completeTxSignatures (affords : PeerAffords env c)
    (signed : ∀ built, buildAndSignSpliceTx env c = some built → d.signedTx env ≠ none)
    (signature : Bytes) (witnesses : List (List Bytes)) :
    SignedIn env d (Adopted c (c.completeTxSignatures env signature witnesses).1.live)
      (c.completeTxSignatures env signature witnesses).2 := by
  have released (adopted : Prop) : SignedIn env d adopted (c.maybeSendSpliceTxSigs env).2 :=
    signedIn_maybeSendSpliceTxSigs signed
  have applied := (sound.maybeSendSpliceTxSigs affords).applyPeerSpliceSignature signature witnesses
  have same : SameFunds c
      ((c.maybeSendSpliceTxSigs env).1.applyPeerSpliceSignature env signature witnesses).1 :=
    sameFunds_maybeSendSpliceTxSigs.trans (sameFunds_applyPeerSpliceSignature signature witnesses)
  unfold SplicingChannel.completeTxSignatures
  dsimp only
  split
  · simp [released, signedIn_refuseTxSigs]
  rename_i next built outcome
  rw [outcome] at applied same
  split
  · simp [released, Signs, signedIn_maybeSignal]
  rw [signedIn_append]
  exact ⟨released _, (signedIn_spliceCompletionTail applied built.tx built.newFundingOutputIndex).mono
    fun split => split.of_sameFunds same⟩

theorem signedIn_handleTxSignatures (affords : PeerAffords env c) (msg : TxSignatures) :
    SignedIn env c (Adopted c (c.handleTxSignatures env msg).1.live) (c.handleTxSignatures env msg).2 := by
  unfold SplicingChannel.handleTxSignatures
  split
  · simp [Signs]
  split
  · simp
  split
  · simp [SplicingChannel.failChannel, Signs]
  dsimp only
  split
  · split
    · exact signedIn_refuseTxSigs _
    simp [abortForTxid, Signs, signedIn_abortSplice]
  · split
    · exact signedIn_refuseTxSigs _
    split
    · simp [SplicingChannel.failChannel, Signs]
    refine (signedIn_completeTxSignatures (sound.withSignedTx affords)
      (peerAffords_withSignedTx affords) (fun _ => signedTx_of_withSignedTx) _ _).mono fun split =>
      split.of_sameFunds ?_
    exact ⟨rfl, rfl, rfl⟩

theorem signedIn_releaseLate (signing : d.signedTx env ≠ none) (record : SpliceInFlight)
    (tx : Transaction) (witnesses : List (List Bytes)) :
    SignedIn env d (Adopted c (c.releaseLate env record tx witnesses).1.live)
      (c.releaseLate env record tx witnesses).2 := by
  unfold SplicingChannel.releaseLate
  dsimp only
  rw [signedIn_append]
  refine ⟨by simp [Signs, signing], SignedIn.mono (signedIn_spliceCompletionTail ?_ _ _) fun split =>
    split.of_sameFunds (SameFunds.trans ?_ (sameFunds_sync _ _ _))⟩
  · refine Sound.sync ?_ _ fun _ => ⟨rfl, rfl, rfl, rfl⟩
    exact sound.congr rfl rfl rfl rfl
  · exact ⟨rfl, rfl, rfl⟩

omit sound in
theorem sameFunds_fillWitnesses (record : SpliceInFlight) (witnesses : List (List Bytes)) :
    SameFunds c (c.fillWitnesses env record witnesses) := by
  refine SameFunds.trans ?_ (sameFunds_sync _ _ _)
  exact ⟨rfl, rfl, rfl⟩

theorem signedIn_provideSpliceExternalWitness (txid : Bytes) (index : Nat)
    (witness : List Bytes) : SignedIn env c (Adopted c (c.provideSpliceExternalWitness env txid index witness).1.live)
      (c.provideSpliceExternalWitness env txid index witness).2 := by
  unfold SplicingChannel.provideSpliceExternalWitness
  split
  · simp [Signs]
  rename_i record recorded
  obtain ⟨built, session, signed, -, -⟩ := sound.recorded record recorded
  have signing : c.signedTx env ≠ none := by simp [signedTx, signed]
  dsimp only
  split
  · simp [Signs]
  split
  · simp
  · split
    · rename_i slot pos prevouts _ _
      split
      · simp [Signs]
      have filled := sound.fillWitnesses record (record.ourWalletWitnesses.set pos witness)
      split
      · simp [Signs]
      split
      · simp only [signedIn_cons]
        exact ⟨trivial, signedIn_maybeSendSpliceTxSigsOrdered fun _ _ => signing⟩
      · exact (signedIn_releaseLate filled signing _ _ _).mono fun split =>
          split.of_sameFunds (sameFunds_fillWitnesses _ _)
    · simp [Signs]

omit sound in
theorem signedIn_handleStartBatch (size : Nat) (type : Option Nat) :
    SignedIn env d adopted (c.handleStartBatch size type).2 := by
  unfold handleStartBatch
  dsimp only
  split
  · simp [Signs]
  split
  · simp [Signs]
  split <;> simp [Signs]

theorem signedIn_handleSpliceLocked (txid : Bytes) :
    SignedIn env d (Adopted c (c.handleSpliceLocked env txid).1.live) (c.handleSpliceLocked env txid).2 := by
  unfold SplicingChannel.handleSpliceLocked
  split
  · simp [Signs]
  split
  · simp [Signs]
  · rename_i session running
    split
    · simp [Signs]
    rename_i locked ok
    have locks := handleSpliceLocked_ok ok
    dsimp only
    split
    · simp only [signedIn_cons, signedIn_nil, and_true]
      exact ⟨adopted_lock sound running locks _ fun _ => ⟨rfl, rfl, rfl, rfl⟩, trivial⟩
    · simp [Signs]

end

theorem signedIn_updateChannel (input : ChannelInput) : SignedIn env d adopted (c.updateChannel env input).2 := by
  unfold updateChannel
  split
  · simp
  split
  · split
    · simp
    split <;> simp [liveReply]
  · simp [liveReply]

theorem signedIn_signCommitmentBatch (signature : Bytes) (sigs : List Bytes) :
    SignedIn env c adopted (c.signCommitmentBatch env signature sigs).2 := by
  unfold signCommitmentBatch
  dsimp only
  split
  · rename_i record spliced point recorded view next
    split
    · simp [Signs]
    split
    · simp [failChannel, Signs]
    · simp [Signs]
    · rename_i commitment _ built
      split
      · simp
      simp only [signedIn_cons, signedIn_nil, and_true]
      exact ⟨trivial, spliced, _, _, commitment, signedView_of_splicedState view, built, rfl⟩
  · simp [Signs]

theorem signedIn_step (sound : Sound env c) (input : SpliceInput) (affords : PeerAffords env (c.signingState input)) :
    SignedIn env (c.signingState input) (Adopted c (c.next env input).live) (c.step env input).2 := by
  cases input with
  | setWalletInputs inputs composite => exact signedIn_nil
  | start relativeSatoshis feerate locktime =>
    simp only [step, startSplice]
    split
    · simp [Signs]
    · split <;> simp [Signs]
  | splice msg localRelativeSatoshis =>
    simp only [step, handleSplice]
    split
    · simp [Signs]
    split
    · simp [Signs]
    split
    · simp
    split <;> simp [Signs]
  | spliceAck pubkey relativeSatoshis turn => exact signedIn_handleSpliceAck pubkey relativeSatoshis turn
  | txAddInput msg free turn => exact signedIn_handleTxAddInput msg free turn
  | txAddOutput output turn => exact signedIn_handleItem _ _ turn
  | txRemoveInput serialId => exact signedIn_handleItem _ _ none
  | txRemoveOutput serialId => exact signedIn_handleItem _ _ none
  | txComplete turn => exact signedIn_handleTxComplete turn
  | releaseComposite =>
    simp only [step, releaseCompositeSpliceCommitment]
    split
    · exact signedIn_maybeSendSpliceCommitment rfl
    · simp
  | startBatch size type => exact signedIn_handleStartBatch size type
  | commitmentSigned msg => exact signedIn_handleCommitmentSigned msg
  | txSignatures msg => exact signedIn_handleTxSignatures sound affords msg
  | externalWitness txid index witness => exact signedIn_provideSpliceExternalWitness sound txid index witness
  | abort reason => exact signedIn_abortSplice reason
  | markConfirmed => exact signedIn_nil
  | sendSpliceLocked => exact signedIn_sendSpliceLocked sound
  | spliceLocked txid => exact signedIn_handleSpliceLocked sound txid
  | update input => exact signedIn_updateChannel input
  | signBatch signature htlcSignatures => exact signedIn_signCommitmentBatch signature htlcSignatures

end Messages

section Mirror

structure Mirrors (a b : SplicingChannel) : Prop where
  terms : b.spliceSession.map SpliceSession.terms = a.spliceSession.map fun session => session.terms.mirror
  capacity : b.live.fundingSatoshis = a.live.fundingSatoshis
  ours : b.live.localBalanceMsat = a.live.remoteBalanceMsat
  theirs : b.live.remoteBalanceMsat = a.live.localBalanceMsat
  htlcs : b.live.htlcTotalMsat = a.live.htlcTotalMsat

theorem Mirrors.balanced {a b : SplicingChannel} (mirrors : Mirrors a b)
    (balanced : a.live.totalMsat = 1000 * a.live.fundingSatoshis) :
    b.live.totalMsat = 1000 * b.live.fundingSatoshis := by
  rw [mirrors.capacity, ← balanced, ChannelState.totalMsat, ChannelState.totalMsat, mirrors.ours,
    mirrors.theirs, mirrors.htlcs, add_comm a.live.remoteBalanceMsat]

theorem of_signedView {spliced : ChannelState} (view : c.signedView env = some spliced) :
    ∃ session, c.spliceSession = some session ∧
      spliced.localBalanceMsat = session.terms.myNewLocalMsat c.live spliced.fundingSatoshis ∧
      spliced.remoteBalanceMsat = session.terms.theirNewMsat c.live spliced.fundingSatoshis := by
  unfold signedView splicedState at view
  split at view
  · rename_i built session _ running
    obtain ⟨output, -, rfl⟩ := Option.map_eq_some_iff.mp view
    exact ⟨session, running, rfl, rfl⟩
  · cases view

theorem Mirrors.split {env' : SpliceEnv} {a b : SplicingChannel} (mirrors : Mirrors a b)
    (balanced : a.live.totalMsat = 1000 * a.live.fundingSatoshis) {left right : ChannelState}
    (own : a.signedView env = some left) (others : b.signedView env' = some right)
    (capacity : right.fundingSatoshis = left.fundingSatoshis) :
    right.localBalanceMsat = left.remoteBalanceMsat ∧ right.remoteBalanceMsat = left.localBalanceMsat := by
  obtain ⟨session, running, ours, theirs⟩ := of_signedView own
  obtain ⟨mirrored, running', ours', theirs'⟩ := of_signedView others
  have terms := mirrors.terms
  rw [running, running', Option.map_some, Option.map_some, Option.some_inj] at terms
  rw [SpliceTerms.theirNewMsat_eq balanced] at theirs
  rw [SpliceTerms.theirNewMsat_eq (mirrors.balanced balanced)] at theirs'
  rw [ours, theirs, ours', theirs', terms, capacity]
  exact ⟨SpliceTerms.myNewLocalMsat_mirror mirrors.capacity mirrors.ours,
    SpliceTerms.peerShareMsat_mirror mirrors.capacity mirrors.theirs⟩

end Mirror

section Claim

theorem Sound.signingState (sound : Sound env c) (input : SpliceInput) : Sound env (c.signingState input) := by
  cases input with
  | txComplete turn => exact sound.takeTxComplete turn
  | setWalletInputs | start | splice | spliceAck | txAddInput | txAddOutput | txRemoveInput | txRemoveOutput
  | releaseComposite | startBatch | commitmentSigned | txSignatures | externalWitness | abort
  | markConfirmed | sendSpliceLocked | spliceLocked | update | signBatch => exact sound

theorem Sound.adoptionOfRecord (sound : Sound env c) {record : SpliceInFlight}
    (recorded : c.spliceInFlight = some record) : Adopted c (c.adoptionOfRecord record).funded := by
  obtain ⟨built, session, signed, running, records⟩ := sound.recorded record recorded
  obtain ⟨other, output, running', funded⟩ := sound.built built signed
  cases running.symm.trans running'
  have capacity : output.value = record.newFundingSatoshis := by
    have pays := records.capacity
    rw [funded.funds] at pays
    exact Option.some.inj pays
  have solvent := funded.solvent
  rw [capacity, ← records.terms] at solvent
  refine ⟨session, running, ?_, solvent.ours, solvent.theirs⟩
  rw [← records.terms]
  exact .of_split rfl rfl rfl

/-- In every run in which the peer can pay for what it takes out when the transaction is signed for, whatever
    is signed next splits the whole of the new output, our side of it is our balance with our contribution
    and, for the initiator, the fee taken off, and neither side is overdrawn unless the peer cannot pay in
    this very step; the mirrored side computes the mirrored split; and what a lock adopts, from the view or
    from the record, is the split of the funds at the lock. -/
theorem splice_conserves_value (current : Current c.live)
    (balanced : c.live.totalMsat = 1000 * c.live.fundingSatoshis)
    (idle : c.spliceSession = none ∧ c.spliceTx = none ∧ c.spliceInFlight = none)
    {inputs : List SpliceInput} (affording : Affording env c inputs) (input : SpliceInput) :
    let reached := inputs.foldl (fun c input => c.next env input) c
    let d := reached.signingState input
    (∀ built, d.signedTx env = some built → ∃ session spliced,
      d.spliceSession = some session ∧ d.signedView env = some spliced ∧
      spliced.fundingTxid = some (env.getHash built.tx) ∧
      built.tx.outs[spliced.fundingOutputIndex]?.map TxOut.value = some spliced.fundingSatoshis ∧
      SplitOf session.terms d.live spliced ∧ 0 ≤ spliced.localBalanceMsat ∧
      (0 ≤ spliced.remoteBalanceMsat ↔ PeerAffords env d) ∧
      ∀ env' peer view, Mirrors d peer → peer.signedView env' = some view →
        view.fundingSatoshis = spliced.fundingSatoshis →
        view.localBalanceMsat = spliced.remoteBalanceMsat ∧ view.remoteBalanceMsat = spliced.localBalanceMsat) ∧
    (PeerAffords env d → ∀ action ∈ (reached.step env input).2,
      action.Signs env d (Adopted reached (reached.next env input).live)) ∧
    ∀ record, reached.spliceInFlight = some record → Adopted reached (reached.adoptionOfRecord record).funded := by
  intro reached d
  have sound : Sound env reached :=
    (Sound.of_idle current balanced idle.1 idle.2.1 idle.2.2).run affording
  have signing : Sound env d := sound.signingState input
  refine ⟨?_, fun affords => signedIn_step sound input affords,
    fun record recorded => sound.adoptionOfRecord recorded⟩
  intro built signed
  obtain ⟨session, output, running, pays, -, ours, theirs⟩ := signing.signed signed
  have view : d.signedView env =
      some (splicedView env session built.tx built.newFundingOutputIndex output.value d.live) := by
    rw [signedView, signed]
    exact splicedState_of_signed (c := { d with spliceTx := some built }) env running rfl pays d.live
  refine ⟨session, _, running, view, rfl, by simp [splicedView, pays], .of_split rfl rfl rfl, ours, theirs,
    fun env' peer other mirrors others capacity => mirrors.split signing.balanced view others capacity⟩

end Claim

section Overdrawn

def plainEnv : SpliceEnv where
  prim := plainPrimitives
  ver := plainVerifier
  fromBuffer _ := none
  extractTxidFromPrevTx bytes := bytes
  createFundingScript a b := some (30 :: a ++ b)
  getHash tx := tx.outs.flatMap TxOut.script
  signSpliceSharedInput _ _ _ := [40]
  verifySpliceSharedInput _ _ _ _ _ := true
  signWitness _ _ _ _ := []
  validateWitnessForInput _ _ _ _ := none
  signBuiltCommitment _ := ⟨[41], [], none⟩
  maxFundingSatoshis := 16777215

def heldUp : SplicingChannel where
  live :=
    { plainOpening.opener plainPrimitives with
      fundingTxid := some (List.replicate 32 7)
      remoteBalanceMsat := 50000000
      htlcs := KeyedMap.empty.set
        { id := 0
          amountMsat := 350000000
          paymentHash := [50]
          cltvExpiry := 500
          onionRoutingPacket := []
          direction := .received
          state := .committed } }
  preSpliceState := none
  spliceFundingTxid := none
  spliceFundingOutputIndex := 0
  spliceInFlight := none
  spliceSession := none
  spliceTx := none
  spliceInInputs := none
  compositeSplice := none
  localNodeIdLower := none
  spliceSentCommitment := false
  spliceReceivedCommitment := false
  spliceSentTxSigs := false
  spliceRemoteCommitmentSig := none
  spliceRemoteHtlcSigs := none
  spliceCallerTxSigsSignaled := false
  spliceAbortPending := false
  pendingBatch := none

def spliceOut (amount : Nat) : List SpliceInput :=
  [.splice ⟨[201], -amount, 1000, 0⟩ 0,
    .txAddInput ⟨0, [], 0, 4294967293, some (List.replicate 32 7)⟩ none (some .markComplete),
    .txAddOutput ⟨2, 1000000 - amount, 30 :: [101] ++ [201]⟩ (some .markComplete)]

theorem heldUp_current : Current heldUp.live where
  numbered := by
    intro id e found
    simp [heldUp, HtlcEntry.key] at found
  recent := rfl

theorem peerAffords_of_early
    (early : c.spliceSession.all (fun session => session.state ≠ .awaitingTxSignatures) = true) :
    PeerAffords env c := by
  intro _ session running ready
  simp [running, ready] at early

theorem spliceOut_affording : Affording plainEnv heldUp (spliceOut 50000) :=
  ⟨peerAffords_of_early (by decide), peerAffords_of_early (by decide),
    peerAffords_of_early (by decide), trivial⟩

theorem splice_conserves_value_affordable :
    Affording plainEnv heldUp (spliceOut 50000) ∧
      ∃ spliced, (((spliceOut 50000).foldl (fun c input => c.next plainEnv input) heldUp).signingState
          (.txComplete none)).signedView plainEnv = some spliced ∧
        0 ≤ spliced.localBalanceMsat ∧ spliced.totalMsat = 1000 * spliced.fundingSatoshis := by
  refine ⟨spliceOut_affording, ?_⟩
  obtain ⟨conserves, -⟩ := splice_conserves_value heldUp_current (by decide) ⟨rfl, rfl, rfl⟩
    spliceOut_affording (.txComplete none)
  have signs : ((((spliceOut 50000).foldl (fun c input => c.next plainEnv input) heldUp).signingState
      (.txComplete none)).signedTx plainEnv).isSome = true := by
    decide
  obtain ⟨built, signed⟩ := Option.isSome_iff_exists.mp signs
  obtain ⟨session, spliced, -, view, -, -, split, ours, -⟩ := conserves built signed
  exact ⟨spliced, view, ours, split.total⟩

/-- The peer takes 200,000 sat out of a balance of 50,000; as no output but the new one is there, no reserve
    is checked, and our signature leaves for a split in which the peer owes 150,000 sat. -/
theorem peer_overdraws_new_output :
    Current heldUp.live ∧ heldUp.live.totalMsat = 1000 * heldUp.live.fundingSatoshis ∧
      heldUp.spliceSession = none ∧ heldUp.spliceTx = none ∧ heldUp.spliceInFlight = none ∧
      let reached := (spliceOut 200000).foldl (fun c input => c.next plainEnv input) heldUp
      ((reached.signingState (.txComplete none)).signedView plainEnv).map (fun spliced =>
          (spliced.fundingSatoshis, spliced.localBalanceMsat, spliced.remoteBalanceMsat)) =
        some (800000, 600000000, -150000000) ∧
      (reached.step plainEnv (.txComplete none)).2 =
        [.persistState, .sendCommitmentSigned ⟨⟨[41], [], none⟩, some [30, 101, 201]⟩] :=
  ⟨heldUp_current, by decide, rfl, rfl, rfl, by decide, by decide⟩

end Overdrawn

end SplicingChannel

end Beignet.Splice
