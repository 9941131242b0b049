import Beignet.Channel.Runs

namespace Beignet.Channel

open Beignet.Data

def Reply.forwarded (r : Reply) : List Nat :=
  r.actions.filterMap fun
    | .notify (.htlcForwarded id _ _) => some id
    | _ => none

section Silence

def Notice.forwards : Notice → Bool
  | .htlcForwarded _ _ _ => true
  | _ => false

def Verdict.quiet : Verdict → Bool
  | .answer notices => notices.all fun notice => !notice.forwards
  | .failChannel _ _ => true

theorem Verdict.quiet_reply {v : Verdict} (quiet : v.quiet = true) (s : ChannelState) :
    (v.reply s).forwarded = [] := by
  cases v with
  | failChannel message localMessage => rfl
  | answer notices =>
    simp only [Verdict.quiet, List.all_eq_true, Bool.not_eq_true'] at quiet
    simp only [Verdict.reply, Reply.forwarded, List.filterMap_eq_nil_iff, List.mem_map]
    rintro _ ⟨notice, member, rfl⟩
    cases notice with
    | htlcForwarded => exact absurd (quiet _ member) (by simp [Notice.forwards])
    | _ => rfl

def Verdict.Quiet (check : Option Verdict) : Prop := ∀ v, check = some v → v.quiet = true

namespace Verdict

@[simp] theorem quiet_none : Quiet none := nofun

@[simp] theorem quiet_some {v : Verdict} : Quiet (some v) ↔ v.quiet = true := by
  simp [Quiet]

variable (message : String)

@[simp] theorem quiet_error : (error message).quiet = true := rfl

@[simp] theorem quiet_coded (code : ChannelErrorCode) : (coded message code).quiet = true :=
  rfl

@[simp] theorem quiet_fail : (fail message).quiet = true := rfl

@[simp] theorem quiet_failChannel (localMessage : Option String) :
    (failChannel message localMessage).quiet = true := rfl

@[simp] theorem quiet_answer (notices : List Notice) :
    (answer notices).quiet = notices.all fun notice => !notice.forwards := rfl

@[simp] theorem quiet_refuseIf {v : Verdict} {p : Prop} [Decidable p] :
    Quiet (refuseIf p v) ↔ (p → v.quiet = true) := by
  by_cases spoken : p <;> simp [refuseIf, spoken]

@[simp] theorem quiet_map {α : Type} {f : α → Verdict} {o : Option α} :
    Quiet (o.map f) ↔ ∀ a, o = some a → (f a).quiet = true := by
  cases o <;> simp

variable {checks : List (Option Verdict)} {s : ChannelState} {accept : Reply}

variable (quiet : ∀ check ∈ checks, Quiet check)
include quiet

theorem quiet_firstRefusal : Quiet (firstRefusal checks) :=
  fun v spoken => quiet _ (firstRefusal_eq_some spoken) v rfl

theorem orAccept_quiet : (∃ v, orAccept s checks accept = reply s v ∧ (orAccept s checks accept).forwarded = []) ∨
      (∀ check ∈ checks, check = none) ∧ orAccept s checks accept = accept := by
  unfold orAccept
  cases found : firstRefusal checks with
  | none => exact .inr ⟨firstRefusal_eq_none.mp found, rfl⟩
  | some v => exact .inl ⟨v, rfl, quiet_reply (quiet_firstRefusal quiet v found) s⟩

theorem orAccept_forwarded (silent : accept.forwarded = []) : (orAccept s checks accept).forwarded = [] := by
  rcases orAccept_quiet quiet with ⟨v, -, refused⟩ | ⟨-, accepted⟩
  · exact refused
  · rw [accepted, silent]

end Verdict

variable (prim : Primitives) (ver : Verifier) (s : ChannelState) {early : Option Verdict} {id : Nat}
  {intent : HtlcState} {check : HtlcEntry → Option Verdict}

theorem addHtlc_forwarded (amount : Nat) (hash : Bytes) (cltv : Nat) (onion : Bytes)
    (blinding : Option Bytes) (skimmed : Option Nat) :
    (addHtlc prim s amount hash cltv onion blinding skimmed).forwarded = [] := by
  refine Verdict.orAccept_forwarded ?_ rfl
  simp only [validateOutgoingHtlc, List.forall_mem_cons, Verdict.quiet_refuseIf, Verdict.quiet_map,
    Verdict.quiet_coded, Verdict.quiet_answer, List.all_cons, List.all_nil, Notice.forwards, Bool.not_false,
    Bool.and_self, implies_true, List.not_mem_nil, false_implies, and_true, true_and]
  split <;> simp

theorem settleHtlc_forwarded {verb : String} (update : PendingUpdate) (msg : Message)
    (quiet : Verdict.Quiet early) (quiet' : ∀ e, Verdict.Quiet (check e)) :
    (settleHtlc s verb early id intent check update msg).forwarded = [] := by
  unfold settleHtlc
  split
  · exact Verdict.orAccept_forwarded (by simp [quiet]) rfl
  refine Verdict.orAccept_forwarded ?_ rfl
  simp only [List.forall_mem_cons, List.not_mem_nil, false_implies, implies_true, guardRepeatSettle]
  refine ⟨by simp, by simp, quiet, quiet' _, ?_, trivial⟩
  split
  · simp
  split <;> simp

theorem handleRemoval_forwarded {name : String} {notice : Notice} (silent : notice.forwards = false)
    (quiet : Verdict.Quiet early) (quiet' : ∀ e, Verdict.Quiet (check e)) :
    (handleRemoval s name early id intent check notice).forwarded = [] := by
  unfold handleRemoval
  split
  · exact Verdict.orAccept_forwarded (by simp [quiet]) rfl
  · refine Verdict.orAccept_forwarded (by simp [quiet, quiet', silent]) ?_
    cases notice <;> simp_all [Reply.forwarded, Notice.forwards]

theorem updateFee_forwarded (rate : Nat) : (updateFee prim s rate).forwarded = [] :=
  Verdict.orAccept_forwarded (by simp [validateOwnFee]) rfl

theorem signCommitment_forwarded (signature : Bytes) (htlcSigs : List Bytes) (partialSig : Option Bytes) :
    (signCommitment prim s signature htlcSigs partialSig).forwarded = [] :=
  Verdict.orAccept_forwarded (by simp [-Option.map_bind]) rfl

theorem handleUpdateAddHtlc_forwarded (msg : UpdateAddHtlc) : (handleUpdateAddHtlc prim s msg).forwarded = [] := by
  refine Verdict.orAccept_forwarded ?_ rfl
  have repeated : Verdict.Quiet (repeatedAdd s msg) := by
    simp only [repeatedAdd, Verdict.quiet_map]
    intro existing _
    split <;> simp
  simp [validateIncomingHtlc, funderFeeRefusal, repeated]

theorem handleUpdateFee_forwarded (rate : Nat) : (handleUpdateFee prim s rate).forwarded = [] :=
  Verdict.orAccept_forwarded (by simp [validatePeerFee]) rfl

theorem handleCommitmentSigned_forwarded (msg : CommitmentSigned) :
    (handleCommitmentSigned prim ver s msg).forwarded = [] := by
  refine Verdict.orAccept_forwarded ?_ rfl
  have ecdsa : ∀ check ∈ ecdsaChecks prim ver s msg, Verdict.Quiet check := by
    simp only [ecdsaChecks, List.forall_mem_cons]
    refine ⟨by simp, ?_, by simp⟩
    split
    · simp [Notice.forwards]
    · exact Verdict.quiet_firstRefusal (by simp)
  have taproot : ∀ check ∈ taprootChecks prim ver s msg, Verdict.Quiet check := by
    unfold taprootChecks
    split
    · simp only [List.forall_mem_cons]
      refine ⟨?_, by simp⟩
      split
      · simp [Notice.forwards]
      refine Verdict.quiet_firstRefusal ?_
      simp only [List.forall_mem_cons]
      refine ⟨by simp, ?_, by simp⟩
      split
      · split <;> simp
      simp
    · simp
  simp only [List.forall_mem_cons]
  refine ⟨by simp, by simp, ?_⟩
  split
  · exact taproot
  · exact ecdsa

theorem forwarded_forwardedHtlcs (t accepted : ChannelState) :
    Reply.forwarded ⟨t, .persistState :: (forwardedHtlcs accepted).map .notify⟩ =
      (accepted.htlcs.values.filter HtlcEntry.forwards).map HtlcEntry.id := by
  simp only [Reply.forwarded, forwardedHtlcs, List.map_map, List.filterMap_cons, List.filterMap_map]
  exact congrFun List.filterMap_eq_map' _

theorem handleRevokeAndAck_dispatch (msg : RevokeAndAck) :
    let r := handleRevokeAndAck prim s msg
    r.forwarded = [] ∧ (r.Unchanged s ∨ r.Failed s ∨
        ∃ store next, r.state = { s.pointsRotated store next with phase := .errored }) ∨
      s.operational = true ∧ s.remoteRevocationCountForRaa < s.remoteCommitmentNumber ∧
        ∃ store next, r.state = (s.pointsRotated store next).revocationAccepted ∧ r.forwarded =
            ((s.pointsRotated store next).settleRemovals.htlcs.values.filter HtlcEntry.forwards).map
              HtlcEntry.id := by
  intro r
  have quiet : ∀ check ∈ revocationChecks prim s msg, Verdict.Quiet check := by simp [revocationChecks]
  rcases Verdict.orAccept_quiet quiet with ⟨v, refused, silent⟩ | ⟨passed, accepted⟩
  · refine .inl ⟨silent, ?_⟩
    have same : r = v.reply s := refused
    rw [same]
    exact (v.reply_cases s).imp_right .inl
  · simp only [revocationChecks, List.forall_mem_singleton, List.forall_mem_cons,
      refuseIf_eq_none, Bool.not_eq_false, not_le] at passed
    obtain ⟨operational, -, outstanding⟩ := passed
    have reply : r = _ := accepted
    split at reply
    · rw [reply]
      exact .inl ⟨rfl, .inr (.inl ⟨rfl, rfl⟩)⟩
    · rename_i store stored
      split at reply
      · rw [reply]
        exact .inl ⟨rfl, .inr (.inr ⟨store, s.remoteNextPerCommitmentPoint, rfl⟩)⟩
      · split at reply
        · rw [reply]
          exact .inl ⟨rfl, .inr (.inr ⟨store, some msg.nextPerCommitmentPoint, rfl⟩)⟩
        · refine .inr ⟨operational, outstanding, store, some msg.nextPerCommitmentPoint, ?_, ?_⟩
          · rw [reply]
            rfl
          · rw [reply]
            exact forwarded_forwardedHtlcs ..

theorem step_forwarded {input : ChannelInput} (other : ∀ msg, input ≠ .receive (.revokeAndAck msg)) :
    (s.step prim ver input).forwarded = [] := by
  cases input with
  | addHtlc => exact addHtlc_forwarded ..
  | fulfillHtlc => exact settleHtlc_forwarded s _ _ (by simp) (by simp)
  | failHtlc => exact settleHtlc_forwarded s _ _ (by simp) (by simp)
  | failMalformedHtlc => exact settleHtlc_forwarded s _ _ (by simp) (by simp)
  | updateFee => exact updateFee_forwarded ..
  | signCommitment => exact signCommitment_forwarded ..
  | setBlockHeight => rfl
  | disconnect => rfl
  | resume => rfl
  | receive msg =>
    cases msg with
    | updateAddHtlc => exact handleUpdateAddHtlc_forwarded ..
    | updateFulfillHtlc => exact handleRemoval_forwarded s rfl (by simp) (by simp)
    | updateFailHtlc => exact handleRemoval_forwarded s rfl (by simp) (by simp)
    | updateFailMalformedHtlc => exact handleRemoval_forwarded s rfl (by simp) (by simp)
    | updateFee => exact handleUpdateFee_forwarded ..
    | commitmentSigned => exact handleCommitmentSigned_forwarded ..
    | revokeAndAck msg => exact absurd rfl (other msg)

end Silence

end Beignet.Channel
