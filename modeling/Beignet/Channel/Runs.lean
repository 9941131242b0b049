import Beignet.Channel.Reestablish

namespace Beignet.Channel

open Beignet.Data

/-- Everything that can happen to one channel: operations of our own, a message of the peer's, a lost
    connection and the end of the exchange that restores it, a new block. -/
inductive ChannelInput where
  | addHtlc (amountMsat : Nat) (paymentHash : Bytes) (cltvExpiry : Nat) (onionRoutingPacket : Bytes)
      (blindingPoint : Option Bytes) (skimmedFeeMsat : Option Nat)
  | fulfillHtlc (htlcId : Nat) (paymentPreimage : Bytes)
  | failHtlc (htlcId : Nat) (reason : Bytes)
  | failMalformedHtlc (htlcId : Nat) (sha256OfOnion : Bytes) (failureCode : Nat)
  | updateFee (feeratePerKw : Nat)
  | signCommitment (signature : Bytes) (htlcSignatures : List Bytes)
      (partialSignatureWithNonce : Option Bytes)
  | receive (msg : Message)
  | setBlockHeight (height : Nat)
  | disconnect
  | resume
  deriving DecidableEq, Repr

variable (prim : Primitives) (ver : Verifier) (s : ChannelState)

def handleMessage (s : ChannelState) : Message → Reply
  | .updateAddHtlc msg => handleUpdateAddHtlc prim s msg
  | .updateFulfillHtlc id preimage => handleUpdateFulfillHtlc prim s id preimage
  | .updateFailHtlc id reason => handleUpdateFailHtlc s id reason
  | .updateFailMalformedHtlc id _ code => handleUpdateFailMalformedHtlc s id code
  | .updateFee rate => handleUpdateFee prim s rate
  | .commitmentSigned msg => handleCommitmentSigned prim ver s msg
  | .revokeAndAck msg => handleRevokeAndAck prim s msg

def ChannelState.step (s : ChannelState) : ChannelInput → Reply
  | .addHtlc amount hash cltv onion blinding skimmed =>
    Channel.addHtlc prim s amount hash cltv onion blinding skimmed
  | .fulfillHtlc id preimage => Channel.fulfillHtlc prim s id preimage
  | .failHtlc id reason => Channel.failHtlc s id reason .received
  | .failMalformedHtlc id sha code => Channel.failMalformedHtlc s id sha code
  | .updateFee rate => Channel.updateFee prim s rate
  | .signCommitment signature htlcSigs partialSig =>
    Channel.signCommitment prim s signature htlcSigs partialSig
  | .receive msg => handleMessage prim ver s msg
  | .setBlockHeight height => ⟨{ s with currentBlockHeight := height }, []⟩
  | .disconnect => ⟨(markForReestablish s).1, []⟩
  | .resume => ⟨resumeReestablished s, []⟩

def ChannelState.run (s : ChannelState) (inputs : List ChannelInput) : ChannelState :=
  inputs.foldl (fun s input => (s.step prim ver input).state) s

@[simp] theorem ChannelState.run_nil : s.run prim ver [] = s := rfl

@[simp] theorem ChannelState.run_cons (input : ChannelInput) (rest : List ChannelInput) :
    s.run prim ver (input :: rest) = (s.step prim ver input).state.run prim ver rest := rfl

theorem ChannelState.run_append (first second : List ChannelInput) :
    s.run prim ver (first ++ second) = (s.run prim ver first).run prim ver second :=
  List.foldl_append

def ChannelState.Along (ok : ChannelState → ChannelInput → Prop) (s : ChannelState) : List ChannelInput → Prop
  | [] => True
  | input :: rest => ok s input ∧ (s.step prim ver input).state.Along ok rest

theorem ChannelState.run_invariant {P : ChannelState → Prop}
    (step : ∀ s input, P s → P (s.step prim ver input).state) {s : ChannelState} (start : P s)
    (inputs : List ChannelInput) : P (s.run prim ver inputs) := by
  induction inputs generalizing s with
  | nil => exact start
  | cons input rest ih => exact ih (step s input start)

structure ChannelConstants where
  channelId : Bytes
  role : ChannelRole
  channelType : ChannelType
  localBasepoints : Basepoints
  remoteBasepoints : Option Basepoints
  hasSigner : Bool
  fundingTxid : Option Bytes
  fundingOutputIndex : Nat
  fundingSatoshis : Nat
  localPerCommitmentSeed : Bytes
  localTerms : ChannelConfig
  remoteTerms : ChannelConfig
  isLessor : Bool
  leaseExpiry : Option Nat
  restoreRecencyUnproven : Bool

def ChannelConfig.terms (c : ChannelConfig) : ChannelConfig := { c with feeratePerKw := 0 }

namespace ChannelState

def constants (s : ChannelState) : ChannelConstants where
  channelId := s.channelId
  role := s.role
  channelType := s.channelType
  localBasepoints := s.localBasepoints
  remoteBasepoints := s.remoteBasepoints
  hasSigner := s.hasSigner
  fundingTxid := s.fundingTxid
  fundingOutputIndex := s.fundingOutputIndex
  fundingSatoshis := s.fundingSatoshis
  localPerCommitmentSeed := s.localPerCommitmentSeed
  localTerms := s.localConfig.terms
  remoteTerms := s.remoteConfig.terms
  isLessor := s.isLessor
  leaseExpiry := s.leaseExpiry
  restoreRecencyUnproven := s.restoreRecencyUnproven

variable (s : ChannelState)

theorem stagePeerFee_terms (rate : Nat) : (s.stagePeerFee rate).remoteConfig.terms = s.remoteConfig.terms := by
  unfold stagePeerFee
  dsimp only
  split <;> rfl

theorem promoteFee_terms : s.promoteFee.localConfig.terms = s.localConfig.terms ∧
      s.promoteFee.remoteConfig.terms = s.remoteConfig.terms := by
  unfold promoteFee
  dsimp only
  constructor <;> split <;> rfl

theorem stagePeerFee_constants (rate : Nat) : (s.stagePeerFee rate).constants = s.constants := by
  have terms := s.stagePeerFee_terms rate
  simp only [constants, terms]
  rfl

theorem promoteFee_constants : s.promoteFee.constants = s.constants := by
  have terms := s.promoteFee_terms
  simp only [constants, terms]
  rfl

theorem revocationAccepted_constants : s.revocationAccepted.constants = s.constants :=
  s.acknowledgeUpdates.settleRemovals.promoteFee_constants

theorem pointsRotated_constants (store : Keys.ShaChainStore) (next : Option Bytes) :
    (s.pointsRotated store next).constants = s.constants := rfl

end ChannelState

def Message.removes : Message → Option (Nat × HtlcState)
  | .updateFulfillHtlc id _ => some (id, .fulfilled)
  | .updateFailHtlc id _ => some (id, .failed)
  | .updateFailMalformedHtlc id _ _ => some (id, .failed)
  | _ => none

def ChannelInput.settles : ChannelInput → Option (Nat × HtlcState)
  | .fulfillHtlc id _ => some (id, .fulfilled)
  | .failHtlc id _ => some (id, .failed)
  | .failMalformedHtlc id _ _ => some (id, .failed)
  | _ => none

variable {intent : HtlcState}

theorem Message.removes_dead {msg : Message} {id : Nat}
    (removes : msg.removes = some (id, intent)) : intent.live = false := by
  cases msg <;> cases removes <;> rfl

variable {input : ChannelInput}

theorem ChannelInput.settles_dead {id : Nat} (settles : input.settles = some (id, intent)) : intent.live = false := by
  cases input <;> cases settles <;> rfl

/-- The proof that comes with a removal: the preimage, or the BADONION bit of the code. -/
def Message.provesRemoval (entry : HtlcEntry) : Message → Bool
  | .updateFulfillHtlc _ preimage => prim.sha256 preimage = entry.paymentHash
  | .updateFailMalformedHtlc _ _ code => !lacksBadOnion code
  | _ => true

section Effects

variable (s : ChannelState)

/-- An input may be turned down without a trace. What the peer sends is only when it is out of place:
    after the channel has failed, or naming an HTLC in the wrong way. -/
def Ignorable : ChannelInput → Prop
  | .receive (.updateAddHtlc msg) => s.phase ≠ .normal ∨ ∃ e, s.htlcs.get? (.received, msg.id) = some e
  | .receive (.updateFee _) => s.operational = false
  | .receive (.commitmentSigned _) => s.operational = false ∨ Unverifiable prim s
  | .receive (.revokeAndAck _) =>
    s.operational = false ∨ s.remoteCommitmentNumber ≤ s.remoteRevocationCountForRaa
  | .receive msg => s.operational = false ∨ ∀ id intent, msg.removes = some (id, intent) →
      s.htlcs.get? (.offered, id) = none ∨ ∃ e, s.htlcs.get? (.offered, id) = some e ∧ e.state = intent
  | _ => True

/-- What a step can do: all the handlers at once, without their checks. -/
inductive StepEffect : ChannelInput → ChannelState → List Message → Prop
  | refused {input : ChannelInput} (ignorable : Ignorable prim s input) : StepEffect input s []
  | failed (input : ChannelInput) : StepEffect input { s with phase := .errored } []
  | offered (amount : Nat) (hash : Bytes) (cltv : Nat) (onion : Bytes) (blinding : Option Bytes)
      (skimmed : Option Nat) (phase : s.phase = .normal)
      (affordable : (amount : Int) ≤ getSpendableOutboundMsat s) :
      StepEffect (.addHtlc amount hash cltv onion blinding skimmed)
        ((s.offer (offeredEntry s amount hash cltv onion blinding)).queueUpdate
          (.addHtlc s.localHtlcCounter amount hash))
        [.updateAddHtlc ⟨s.localHtlcCounter, amount, hash, cltv, onion, blinding, skimmed⟩]
  | received (msg : UpdateAddHtlc) (operational : s.operational = true)
      (fresh : s.htlcs.get? (.received, msg.id) = none)
      (affordable : (remoteRequiredMsat s msg : Int) ≤ s.remoteBalanceMsat - msg.amountMsat) :
      StepEffect (.receive (.updateAddHtlc msg)) (s.receive (incomingEntry s msg)) []
  | settled {input : ChannelInput} {id : Nat} {intent : HtlcState} {entry : HtlcEntry} {msg : Message}
      (update : PendingUpdate) (settles : input.settles = some (id, intent))
      (operational : s.operational = true) (found : s.htlcs.get? (.received, id) = some entry)
      (live : entry.state.live = true) (removes : msg.removes = some (id, intent)) :
      StepEffect input ((s.settleReceived id intent).queueUpdate update) [msg]
  | removed {msg : Message} {id : Nat} {intent : HtlcState} {entry : HtlcEntry}
      (removes : msg.removes = some (id, intent)) (operational : s.operational = true)
      (found : s.htlcs.get? (.offered, id) = some entry) (proved : msg.provesRemoval prim entry = true)
      (other : entry.state ≠ intent) (committed : addNotYetCommitted entry = false) :
      StepEffect (.receive msg) (s.removeOffered id intent) []
  | feeStaged (rate : Nat) (phase : s.phase = .normal) (role : s.role = .opener)
      (uncommitted : ¬ (s.pendingFeeratePerKw.isSome = true ∧ s.pendingFeerateCommitted = true)) :
      StepEffect (.updateFee rate) ((s.stageFee rate).queueUpdate (.fee rate)) [.updateFee rate]
  | feeReceived (rate : Nat) (operational : s.operational = true) (role : s.role = .acceptor) :
      StepEffect (.receive (.updateFee rate)) (s.stagePeerFee rate) []
  | signed (signature : Bytes) (htlcSigs : List Bytes) (partialSig : Option Bytes)
      (msg : CommitmentSigned) (operational : s.operational = true) :
      StepEffect (.signCommitment signature htlcSigs partialSig) s.commitmentSent [.commitmentSigned msg]
  | accepted (msg : CommitmentSigned) (operational : s.operational = true)
      (built : (nextLocalCommitment prim s).isSome = true) :
      StepEffect (.receive (.commitmentSigned msg)) (s.commitmentAccepted ver msg)
        [.revokeAndAck (revocationFor prim ver s)]
  | misrevoked (msg : RevokeAndAck) (store : Keys.ShaChainStore) (next : Option Bytes)
      (operational : s.operational = true) (reveals : Reveals prim s msg store next) :
      StepEffect (.receive (.revokeAndAck msg)) { s.pointsRotated store next with phase := .errored } []
  -- The rotated state has a name of its own so that its fields are looked up one layer at a time.
  | revoked (rotated : ChannelState) (msg : RevokeAndAck) (store : Keys.ShaChainStore)
      (next : Option Bytes) (rotates : rotated = s.pointsRotated store next)
      (operational : s.operational = true)
      (reveals : Reveals prim s msg store next) :
      StepEffect (.receive (.revokeAndAck msg)) rotated.revocationAccepted []
  | heightSet (height : Nat) :
      StepEffect (.setBlockHeight height) { s with currentBlockHeight := height } []
  | disconnected : StepEffect .disconnect (markForReestablish s).1 []
  | resumed : StepEffect .resume (resumeReestablished s) []

namespace StepEffect

variable {prim ver s} {r : Reply} {early : Option Verdict} {id : Nat} {check : HtlcEntry → Option Verdict}
  {msg : Message}

theorem of_unchanged (unchanged : r.Unchanged s)
    (ignorable : Ignorable prim s input) : StepEffect prim ver s input r.state r.sent := by
  rw [unchanged.1, unchanged.2]
  exact .refused ignorable

theorem of_failed (failed : r.Failed s) : StepEffect prim ver s input r.state r.sent := by
  rw [failed.1, failed.2]
  exact .failed input

theorem of_cases {quiet acts : Prop} (cases : quiet ∨ r.Failed s ∨ acts)
    (ignored : quiet → r.Unchanged s ∧ Ignorable prim s input)
    (taken : acts → StepEffect prim ver s input r.state r.sent) : StepEffect prim ver s input r.state r.sent :=
  cases.elim (fun known => of_unchanged (ignored known).1 (ignored known).2) (Or.elim · of_failed taken)

theorem of_settleHtlc {verb : String} {update : PendingUpdate}
    (settles : input.settles = some (id, intent)) (removes : msg.removes = some (id, intent)) :
    let r := settleHtlc s verb early id intent check update msg
    StepEffect prim ver s input r.state r.sent := by
  have ignorable : Ignorable prim s input := by cases input <;> trivial
  refine of_cases (settleHtlc_cases s verb early id intent check update msg) (⟨·, ignorable⟩)
    fun ⟨entry, operational, found, live, state, sent⟩ => ?_
  simp only [state, sent]
  exact .settled update settles operational found live removes

theorem of_handleRemoval {name : String} {notice : Notice}
    (removes : msg.removes = some (id, intent)) (strict : Verdict.FailsOnly early)
    (strict' : ∀ e, Verdict.FailsOnly (check e))
    (proved : ∀ e, early = none → check e = none → msg.provesRemoval prim e = true) :
    let r := handleRemoval s name early id intent check notice
    StepEffect prim ver s (.receive msg) r.state r.sent := by
  rcases handleRemoval_cases s name id intent notice strict strict' with
    ⟨unchanged, ignored⟩ | failed |
    ⟨entry, operational, found, early, checked, other, committed, state, sent⟩
  · refine of_unchanged unchanged ?_
    cases msg <;> first
      | (cases removes; done)
      | exact ignored.imp_right fun missing _ _ same => by cases removes.symm.trans same; exact missing
  · exact of_failed failed
  · simp only [state, sent]
    exact .removed removes operational found (proved entry early checked) other committed

end StepEffect

theorem handleMessage_effect (msg : Message) :
    let r := handleMessage prim ver s msg
    StepEffect prim ver s (.receive msg) r.state r.sent := by
  cases msg with
  | updateAddHtlc msg =>
    refine .of_cases (handleUpdateAddHtlc_cases prim s msg) id
      fun ⟨operational, fresh, affordable, state, sent⟩ => ?_
    simp only [handleMessage, state, sent]
    exact .received msg operational fresh affordable
  | updateFulfillHtlc id preimage =>
    refine .of_handleRemoval rfl (by simp) (fun e => Verdict.failsOnly_refuseIf_fail _ _ _) ?_
    intro e _ checked
    rw [refuseIf_eq_none, not_not] at checked
    exact decide_eq_true checked
  | updateFailHtlc id reason =>
    exact .of_handleRemoval rfl (by simp) (fun e => by simp) fun e _ _ => rfl
  | updateFailMalformedHtlc id sha code =>
    refine .of_handleRemoval rfl (Verdict.failsOnly_refuseIf_fail _ _ _) (fun e => by simp) ?_
    intro e coded _
    rw [refuseIf_eq_none, Bool.not_eq_true] at coded
    simp [Message.provesRemoval, coded]
  | updateFee rate =>
    refine .of_cases (handleUpdateFee_cases prim s rate) id fun ⟨operational, role, state, sent⟩ => ?_
    simp only [handleMessage, state, sent]
    exact .feeReceived rate operational role
  | commitmentSigned msg =>
    refine .of_cases (handleCommitmentSigned_cases prim ver s msg) id fun ⟨operational, built, state, sent⟩ => ?_
    simp only [handleMessage, state, sent]
    exact .accepted msg operational built
  | revokeAndAck msg =>
    rcases handleRevokeAndAck_cases prim s msg with
      ⟨unchanged, ignored⟩ | failed | ⟨operational, store, next, reveals, sent, state | state⟩
    · exact .of_unchanged unchanged ignored
    · exact .of_failed failed
    · simp only [handleMessage, state, sent]
      exact .misrevoked msg store next operational reveals
    · simp only [handleMessage, state, sent]
      exact .revoked _ msg store next rfl operational reveals

theorem step_effect (input : ChannelInput) :
    let r := s.step prim ver input
    StepEffect prim ver s input r.state r.sent := by
  cases input with
  | addHtlc amount hash cltv onion blinding skimmed =>
    refine .of_cases (addHtlc_cases prim s amount hash cltv onion blinding skimmed) (⟨·, trivial⟩)
      fun ⟨phase, affordable, state, sent⟩ => ?_
    simp only [ChannelState.step, state, sent]
    exact .offered amount hash cltv onion blinding skimmed phase affordable
  | fulfillHtlc id preimage => exact .of_settleHtlc rfl rfl
  | failHtlc id reason => exact .of_settleHtlc rfl rfl
  | failMalformedHtlc id sha code => exact .of_settleHtlc rfl rfl
  | updateFee rate =>
    refine .of_cases (updateFee_cases prim s rate) (⟨·, trivial⟩) fun ⟨phase, role, uncommitted, state, sent⟩ => ?_
    simp only [ChannelState.step, state, sent]
    exact .feeStaged rate phase role uncommitted
  | signCommitment signature htlcSigs partialSig =>
    refine .of_cases (signCommitment_cases prim s signature htlcSigs partialSig) (⟨·, trivial⟩)
      fun ⟨operational, state, msg, sent⟩ => ?_
    simp only [ChannelState.step, state, sent]
    exact .signed signature htlcSigs partialSig msg operational
  | receive msg => exact handleMessage_effect prim ver s msg
  | setBlockHeight height => exact .heightSet height
  | disconnect => exact .disconnected
  | resume => exact .resumed

theorem StepEffect.of_errored {prim : Primitives} {ver : Verifier} {s t : ChannelState} {sent : List Message}
    (effect : StepEffect prim ver s input t sent) (errored : s.phase = .errored) :
    sent = [] ∧ (t.phase = .errored ∧ t.preReestablishState = s.preReestablishState ∨
      input = .disconnect ∧ t = (markForReestablish s).1 ∨ input = .resume ∧ t = resumeReestablished s) := by
  have idle : s.operational ≠ true := by simp [ChannelState.operational, errored]
  cases effect with
  | refused | heightSet => exact ⟨rfl, .inl ⟨errored, rfl⟩⟩
  | failed => exact ⟨rfl, .inl ⟨rfl, rfl⟩⟩
  | offered amount hash cltv onion blinding skimmed phase => cases errored.symm.trans phase
  | feeStaged rate phase => cases errored.symm.trans phase
  | received msg operational => exact absurd operational idle
  | settled update settles operational => exact absurd operational idle
  | removed removes operational => exact absurd operational idle
  | feeReceived rate operational => exact absurd operational idle
  | signed signature htlcSigs partialSig msg operational => exact absurd operational idle
  | accepted msg operational => exact absurd operational idle
  | misrevoked msg store next operational => exact absurd operational idle
  | revoked rotated msg store next rotates operational => exact absurd operational idle
  | disconnected => exact ⟨rfl, .inr (.inl ⟨rfl, rfl⟩)⟩
  | resumed => exact ⟨rfl, .inr (.inr ⟨rfl, rfl⟩)⟩

end Effects

def plainVerifier : Verifier where
  commitmentSig _ _ := true
  htlcSigs _ _ := true
  partialSig _ _ _ _ := true
  taprootHtlcSigs _ _ := true
  verificationNonce seed number := seed ++ [Fin.ofNat 256 number]

end Beignet.Channel
