import Beignet.Channel.HtlcPolicy

namespace Beignet.Channel

open Beignet.Data

structure UpdateAddHtlc where
  id : Nat
  amountMsat : Nat
  paymentHash : Bytes
  cltvExpiry : Nat
  onionRoutingPacket : Bytes
  blindingPoint : Option Bytes := none
  skimmedFeeMsat : Option Nat := none
  deriving DecidableEq, Repr

structure CommitmentSigned where
  signature : Bytes
  htlcSignatures : List Bytes
  partialSignatureWithNonce : Option Bytes := none
  deriving DecidableEq, Repr

structure RevokeAndAck where
  perCommitmentSecret : Bytes
  nextPerCommitmentPoint : Bytes
  nextLocalNonce : Option Bytes := none
  deriving DecidableEq, Repr

inductive Message where
  | updateAddHtlc (msg : UpdateAddHtlc)
  | updateFulfillHtlc (id : Nat) (paymentPreimage : Bytes)
  | updateFailHtlc (id : Nat) (reason : Bytes)
  | updateFailMalformedHtlc (id : Nat) (sha256OfOnion : Bytes) (failureCode : Nat)
  | updateFee (feeratePerKw : Nat)
  | commitmentSigned (msg : CommitmentSigned)
  | revokeAndAck (msg : RevokeAndAck)
  deriving DecidableEq, Repr

inductive ChannelErrorCode where
  | held
  | wrongState
  | invalidParams
  | limitExceeded
  | insufficientBalance
  | notPermitted
  deriving DecidableEq, Repr

/-- What a handler tells its own node. An exception of the source is a notice too: it is raised
    before anything is written. -/
inductive Notice where
  | error (message : String) (code : Option ChannelErrorCode)
  | throws (message : String)
  | htlcFulfilled (htlcId : Nat) (paymentPreimage : Bytes)
  | htlcFailed (htlcId : Nat) (reason : Bytes) (malformedCode : Option Nat)
  | htlcForwarded (htlcId : Nat) (amountMsat : Nat) (paymentHash : Bytes)
  deriving DecidableEq, Repr

inductive ChannelAction where
  | persistState
  | sendMessage (msg : Message)
  | wireError (text : String)
  | notify (notice : Notice)
  deriving DecidableEq, Repr

structure Reply where
  state : ChannelState
  actions : List ChannelAction

namespace Reply

def sent (r : Reply) : List Message :=
  r.actions.filterMap fun
    | .sendMessage msg => some msg
    | _ => none

def Unchanged (s : ChannelState) (r : Reply) : Prop := r.state = s ∧ r.sent = []

def Failed (s : ChannelState) (r : Reply) : Prop :=
  r.state = { s with phase := .errored } ∧ r.sent = []

end Reply

inductive Verdict where
  | answer (notices : List Notice)
  | failChannel (message : String) (localMessage : Option String)
  deriving DecidableEq, Repr

namespace Verdict

def error (message : String) : Verdict := answer [.error message none]

variable (message : String) (s : ChannelState)

def coded (code : ChannelErrorCode) : Verdict := answer [.error message (some code)]

def fail : Verdict := failChannel message none

/-- `_failChannelWithWireError` on the state it is called in. -/
def reply : Verdict → Reply
  | answer notices => ⟨s, notices.map .notify⟩
  | failChannel message localMessage =>
    ⟨{ s with phase := .errored },
      [.persistState, .wireError message, .notify (.error (localMessage.getD message) none)]⟩

def orAccept (checks : List (Option Verdict)) (accept : Reply) : Reply :=
  match firstRefusal checks with
  | some verdict => verdict.reply s
  | none => accept

variable (s : ChannelState) (checks : List (Option Verdict))

theorem reply_cases (v : Verdict) : (v.reply s).Unchanged s ∨ (v.reply s).Failed s := by
  cases v with
  | answer notices =>
    refine .inl ⟨rfl, ?_⟩
    simp [reply, Reply.sent]
  | failChannel message localMessage => exact .inr ⟨rfl, rfl⟩

def FailsOnly (check : Option Verdict) : Prop :=
  ∀ verdict, check = some verdict → ∃ message localMessage, verdict = failChannel message localMessage

@[simp] theorem failsOnly_none : FailsOnly none := nofun

@[simp] theorem failsOnly_refuseIf_fail (p : Prop) [Decidable p] (message : String)
    (localMessage : Option String) : FailsOnly (refuseIf p (failChannel message localMessage)) := by
  intro verdict spoken
  exact ⟨message, localMessage, (refuseIf_eq_some.mp spoken).2.symm⟩

@[simp] theorem failsOnly_map_fail (reason : Option String) : FailsOnly (reason.map fail) := by
  intro verdict spoken
  obtain ⟨message, -, rfl⟩ := Option.map_eq_some_iff.mp spoken
  exact ⟨message, none, rfl⟩

theorem orAccept_because {P : Prop} (accept : Reply) (why : ∀ check ∈ checks, FailsOnly check ∨ (check ≠ none → P)) :
    ((orAccept s checks accept).Unchanged s ∧ P) ∨ (orAccept s checks accept).Failed s ∨
      (∀ check ∈ checks, check = none) ∧ orAccept s checks accept = accept := by
  unfold orAccept
  cases found : firstRefusal checks with
  | none => exact .inr (.inr ⟨firstRefusal_eq_none.mp found, rfl⟩)
  | some verdict =>
    rcases why _ (firstRefusal_eq_some found) with fails | because
    · obtain ⟨message, localMessage, rfl⟩ := fails verdict rfl
      exact .inr (.inl ⟨rfl, rfl⟩)
    · rcases verdict.reply_cases s with unchanged | failed
      · exact .inl ⟨unchanged, because (by simp)⟩
      · exact .inr (.inl failed)

theorem orAccept_cases (accept : Reply) :
    (orAccept s checks accept).Unchanged s ∨ (orAccept s checks accept).Failed s ∨
      (∀ check ∈ checks, check = none) ∧ orAccept s checks accept = accept := by
  simpa using orAccept_because (P := True) s checks accept fun _ _ => .inr fun _ => trivial

end Verdict

def Phase.name : Phase → String
  | .none => "NONE"
  | .sentOpen => "SENT_OPEN"
  | .sentAccept => "SENT_ACCEPT"
  | .sentFundingCreated => "SENT_FUNDING_CREATED"
  | .sentFundingSigned => "SENT_FUNDING_SIGNED"
  | .awaitingFundingConfirmed => "AWAITING_FUNDING_CONFIRMED"
  | .awaitingChannelReady => "AWAITING_CHANNEL_READY"
  | .normal => "NORMAL"
  | .shuttingDown => "SHUTTING_DOWN"
  | .negotiatingClosing => "NEGOTIATING_CLOSING"
  | .awaitingReestablish => "AWAITING_REESTABLISH"
  | .dualFundingV2 => "DUAL_FUNDING_V2"
  | .awaitingTxSignatures => "AWAITING_TX_SIGNATURES"
  | .splicing => "SPLICING"
  | .closed => "CLOSED"
  | .forceClosed => "FORCE_CLOSED"
  | .errored => "ERRORED"

end Beignet.Channel
