import Beignet.Splice.Resume

/-! What an acceptor is told it may send: an amount within the ceiling passes the guard for the funder's
    fee, with a splice in flight or without. -/

namespace Beignet.Channel

section Ceiling

variable {s : ChannelState} {amountMsat : Nat}

theorem funderCostMsat_mono {feeratePerKw few many : Nat} (fewer : few ≤ many) :
    funderCostMsat s feeratePerKw few ≤ funderCostMsat s feeratePerKw many := by
  unfold funderCostMsat funderCommitmentCostSats calculateCommitmentFee
  apply Nat.mul_le_mul_right
  apply Nat.add_le_add_right
  apply Nat.div_le_div_right
  apply Nat.mul_le_mul_right
  exact Nat.add_le_add_left (Nat.mul_le_mul_left _ fewer) _

theorem remoteFunderSenderView_untrimmed_le (candidate : Candidate) :
    (remoteFunderSenderView s [candidate] 1).untrimmed ≤ (remoteFunderSenderView s [] 0).untrimmed + 2 := by
  have single : countUntrimmedRows s [candidate.row.onFunder] s.remoteConfig.dustLimitSatoshis
      (getRemoteCommitmentFeeRate s) ≤ 1 := List.length_filter_le ..
  simp only [remoteFunderSenderView, List.map_cons, List.map_nil]
  split <;> omega

def untrimmedFromMsat (s : ChannelState) : Nat :=
  (s.remoteConfig.dustLimitSatoshis +
    secondLevelFeeSats (isAnchorChannel s.channelType) (getRemoteCommitmentFeeRate s) .received) * 1000

theorem remoteFunderSenderView_trimmed (trimmed : amountMsat < untrimmedFromMsat s) :
    remoteFunderSenderView s [⟨amountMsat, .offered⟩] 1 = remoteFunderSenderView s [] 0 := by
  have uncounted : countUntrimmedRows s [HtlcRow.onFunder (amountMsat / 1000, .offered)]
      s.remoteConfig.dustLimitSatoshis (getRemoteCommitmentFeeRate s) = 0 := by
    unfold untrimmedFromMsat at trimmed
    refine List.length_eq_zero_iff.mpr (List.filter_eq_nil_iff.mpr ?_)
    rw [List.forall_mem_singleton, isUntrimmed, decide_eq_true_eq, not_le]
    exact Nat.div_lt_of_lt_mul (Nat.mul_comm _ 1000 ▸ trimmed)
  simp only [remoteFunderSenderView, List.map_cons, List.map_nil, Candidate.row, uncounted]
  rfl

def ceilingUnder (s : ChannelState) (headroomMsat spendableMsat : Int) : Int :=
  let current := remoteFunderSenderView s [] 0
  if funderCostMsat s current.feeratePerKw (current.untrimmed + 2) ≤ headroomMsat then spendableMsat
  else if headroomMsat < current.costMsat then 0
  else min (untrimmedFromMsat s - 1) spendableMsat

theorem costMsat_le_of_le_ceilingUnder {headroomMsat spendableMsat : Int} (positive : 0 < amountMsat)
    (within : amountMsat ≤ ceilingUnder s headroomMsat spendableMsat) :
    (remoteFunderSenderView s [⟨amountMsat, .offered⟩] 1).costMsat ≤ headroomMsat := by
  unfold ceilingUnder at within
  dsimp only at within
  split at within
  · rename_i roomy
    have costs : (remoteFunderSenderView s [⟨amountMsat, .offered⟩] 1).costMsat ≤ _ :=
      funderCostMsat_mono (remoteFunderSenderView_untrimmed_le _)
    exact (Int.ofNat_le.mpr costs).trans roomy
  · split at within
    · omega
    · -- Below the threshold the HTLC adds no weight: the funder pays for what it has already.
      rename_i carries
      have trimmed := within.trans (min_le_left _ _)
      rw [remoteFunderSenderView_trimmed (by omega)]
      exact not_lt.mp carries

end Ceiling

end Beignet.Channel

namespace Beignet.Splice.SplicingChannel

open Beignet.Data Beignet.Channel

section Receivable

variable (env : SpliceEnv) (c : SplicingChannel)

def outboundCeilingMsat (spendableMsat : Int) : Int :=
  match c.spliceInFlight with
  | none => remoteFunderCeilingMsat c.live spendableMsat
  | some record => c.pendingRemoteFunderCeilingMsat env record spendableMsat

def outboundFeeRefusal (amounts : List Nat) : Option String :=
  match c.spliceInFlight with
  | none => remoteFunderFeeRefusal c.live amounts
  | some record => c.pendingRemoteFunderFeeRefusal env record amounts

theorem outboundFeeRefusal_of_le_ceiling (peerFunds : c.live.role = .acceptor) (spendableMsat : Int)
    (amountMsat : Nat) (positive : 0 < amountMsat)
    (within : amountMsat ≤ c.outboundCeilingMsat env spendableMsat) :
    c.outboundFeeRefusal env [amountMsat] = none := by
  unfold outboundCeilingMsat at within
  unfold outboundFeeRefusal
  split at within
  · rw [remoteFunderCeilingMsat, if_neg (not_not.mpr peerFunds)] at within
    exact refuseIf_eq_none.mpr fun short =>
      not_le.mpr short.2 (costMsat_le_of_le_ceilingUnder positive within)
  · rw [pendingRemoteFunderCeilingMsat, if_neg (not_not.mpr peerFunds)] at within
    exact refuseIf_eq_none.mpr fun short =>
      not_le.mpr short.2 (costMsat_le_of_le_ceilingUnder positive within)

end Receivable

def peerFunded : SplicingChannel := { heldUp with live := plainOpening.acceptor plainPrimitives }

theorem peerFunded_within_ceiling : (5000000 : Int) ≤ peerFunded.outboundCeilingMsat plainEnv 9000000 ∧
    peerFunded.outboundFeeRefusal plainEnv [5000000] = none := by
  have within : (5000000 : Int) ≤ peerFunded.outboundCeilingMsat plainEnv 9000000 := by decide
  exact ⟨within, peerFunded.outboundFeeRefusal_of_le_ceiling plainEnv rfl 9000000 5000000 (by decide) within⟩

end Beignet.Splice.SplicingChannel
