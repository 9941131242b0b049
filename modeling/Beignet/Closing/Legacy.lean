import Beignet.Data.Bargain
import Beignet.Closing.Types

namespace Beignet.Closing

open Beignet.Data Beignet.Channel

/-! The `closing_signed` negotiation of a channel with an ECDSA funding output. -/

namespace ClosingState

variable (s : ClosingState) (feeSatoshis : Nat) (idealFee : Nat) (sign : Nat → Bytes)

def getClosingFeeratePerKw : Nat :=
  let commitmentRate := if s.localConfig.feeratePerKw = 0 then 253 else s.localConfig.feeratePerKw
  max (s.closingFeeratePerKw.getD 0) commitmentRate

def localScriptLen : Nat := (s.localShutdownScript.map List.length).getD 22

def remoteScriptLen : Nat := (s.remoteShutdownScript.map List.length).getD 22

def minRelayClosingFee : Nat :=
  minRelayFeeForWeight (closingTxWeight s.localScriptLen s.remoteScriptLen (isTaprootChannel s.channelType))

def calculateIdealClosingFee : Nat :=
  let fee := calculateClosingFee s.getClosingFeeratePerKw s.localScriptLen s.remoteScriptLen
    (isTaprootChannel s.channelType)
  if fee > s.minRelayClosingFee then fee else s.minRelayClosingFee

def closingFeePayerBalanceSat : Nat :=
  match s.role with
  | .opener => s.localSat
  | .acceptor => s.remoteSat

def localAmountAfter : Int :=
  match s.role with
  | .opener => s.localSat - feeSatoshis
  | .acceptor => s.localSat

def remoteAmountAfter : Int :=
  match s.role with
  | .opener => s.remoteSat
  | .acceptor => s.remoteSat - feeSatoshis

def closingFeeRelays : Bool :=
  if s.externalClose = true ∧ s.localAmountAfter feeSatoshis < s.ownClosingOutputDustLimit then false
  else
    let profile := closingTxRelayProfile
      { fundingAmount := s.fundingSatoshis
        localScriptPubkey := s.localScript
        remoteScriptPubkey := s.remoteScript
        localAmount := s.localAmountAfter feeSatoshis
        remoteAmount := s.remoteAmountAfter feeSatoshis
        localDustLimit := some s.localConfig.dustLimitSatoshis
        remoteDustLimit := some s.remoteConfig.dustLimitSatoshis
        isTaproot := isTaprootChannel s.channelType }
    minRelayFeeForWeight profile.weight ≤ profile.feePaid

def closingFeeRange : Range :=
  let halfIdeal := idealFee / 2
  let relayFloor := s.minRelayClosingFee
  let dust := s.ownClosingOutputDustLimit
  let openerBalance := match s.role with
    | .opener => if s.localSat > dust then s.localSat - dust else 0
    | .acceptor => s.remoteSat
  { lo := if halfIdeal > relayFloor then halfIdeal else relayFloor
    hi := if idealFee * 2 < openerBalance then idealFee * 2 else openerBalance }

def initClosingFeeRange : ClosingState :=
  { s with
    closingFeeMin := some (s.closingFeeRange idealFee).lo
    closingFeeMax := some (s.closingFeeRange idealFee).hi }

def unrelayableMessage (what : String) : String :=
  let balance := s.closingFeePayerBalanceSat
  s!"{what}: the fee payer's {balance} sat balance cannot pay the minimum relay fee"

def proposeClosingFee : ClosingReply :=
  if s.phase ≠ .negotiatingClosing ∧ s.phase ≠ .shuttingDown then
    s.refuse "Cannot propose closing fee: wrong state"
  else if s.isMutualCloseHeld then s.refuseHeldMutualClose
  else
    match s.closingBlockedBy with
    | some reason => s.refuse ("Cannot propose closing fee: " ++ reason)
    | none =>
      let s := { s with phase := .negotiatingClosing }
      let idealFee := s.calculateIdealClosingFee
      if s.closingFeeRelays idealFee = false then s.refuse (s.unrelayableMessage "Cannot propose closing fee")
      else
        ⟨{ s.initClosingFeeRange idealFee with lastProposedClosingFeeSat := some idealFee },
          [.sendClosingSigned ⟨idealFee, sign idealFee⟩]⟩

def prepared : ClosingState :=
  let s := { s with phase := .negotiatingClosing, theirLastClosingFeeSat := some feeSatoshis }
  let s := if s.closingFeeMin = none then s.initClosingFeeRange s.calculateIdealClosingFee else s
  if s.closingFeeMin.getD 0 < s.minRelayClosingFee then
    { s with closingFeeMin := some s.minRelayClosingFee }
  else s

def acceptedRange : Range := ⟨s.closingFeeMin.getD 0, s.closingFeeMax.getD 0⟩

/-- The midpoint, pulled into the range. Where the payer's balance keeps the range under the floor, the whole
    balance is offered. -/
def counterFee (feeSatoshis : Nat) : Nat :=
  let ourLast := s.lastProposedClosingFeeSat.getD s.calculateIdealClosingFee
  let counterFee := s.acceptedRange.counter ourLast feeSatoshis
  if counterFee < s.minRelayClosingFee then s.closingFeePayerBalanceSat else counterFee

def closed : ClosingState := { s with phase := .closed }

def answerClosingFee (feeSatoshis : Nat) : ClosingReply :=
  if s.lastProposedClosingFeeSat = some feeSatoshis ∧ s.closingFeeRelays feeSatoshis = true then
    ⟨s.closed, [.channelClosed]⟩
  else if feeSatoshis ∈ s.acceptedRange ∧ s.closingFeeRelays feeSatoshis = true then
    ⟨closed { s with lastProposedClosingFeeSat := some feeSatoshis },
      [.sendClosingSigned ⟨feeSatoshis, sign feeSatoshis⟩, .channelClosed]⟩
  else if s.closingFeeRelays (s.counterFee feeSatoshis) = false then
    s.refuse (s.unrelayableMessage "Cannot counter-propose a closing fee")
  else
    ⟨{ s with lastProposedClosingFeeSat := some (s.counterFee feeSatoshis) },
      [.sendClosingSigned ⟨s.counterFee feeSatoshis, sign (s.counterFee feeSatoshis)⟩]⟩

def handleClosingSigned (verify : Nat → Bytes → Bool) (msg : ClosingSigned) : ClosingReply :=
  if s.phase ≠ .negotiatingClosing ∧ s.phase ≠ .shuttingDown then s.refuse "Unexpected closing_signed"
  else if s.isMutualCloseHeld then s.refuseHeldMutualClose
  else
    match s.closingBlockedBy with
    | some reason => s.refuse ("Unexpected closing_signed: " ++ reason)
    | none =>
      let s := s.prepared msg.feeSatoshis
      if verify msg.feeSatoshis msg.signature = false then
        s.failChannelWithWireError "Coop-close: peer closing signature failed to verify"
      else s.answerClosingFee sign msg.feeSatoshis

end ClosingState

section Relay

variable {s : ClosingState} {fee : Nat}

theorem minRelayClosingFee_eq (s : ClosingState) :
    s.minRelayClosingFee = minRelayFeeForWeight (closingTxWeight s.localScript.length s.remoteScript.length
      (isTaprootChannel s.channelType)) := by
  have lengths : s.localScriptLen = s.localScript.length ∧ s.remoteScriptLen = s.remoteScript.length := by
    constructor
    · cases script : s.localShutdownScript <;> simp [ClosingState.localScriptLen, ClosingState.localScript, script,
        ClosingState.placeholderShutdownScript]
    · cases script : s.remoteShutdownScript <;> simp [ClosingState.remoteScriptLen, ClosingState.remoteScript, script,
        ClosingState.placeholderShutdownScript]
  rw [ClosingState.minRelayClosingFee, lengths.1, lengths.2]

theorem minRelayClosingFee_pos (s : ClosingState) : 0 < s.minRelayClosingFee := minRelayFeeForWeight_pos _ _

theorem keptOutput_sum_le (script : Bytes) {amount : Int} (limit : Option Nat) (nonneg : 0 ≤ amount) :
    ((keptOutput script amount limit).map Prod.snd).sum ≤ amount := by
  unfold keptOutput
  split <;> simp [nonneg]

theorem keptOutput_sublist (script : Bytes) (amount : Int) (limit : Option Nat) :
    ((keptOutput script amount limit).map Prod.fst).Sublist [script.length] := by
  unfold keptOutput
  split <;> simp

theorem relays_of_afforded (params : ClosingRelayParams) {floor paid : Nat}
    (enough : minRelayFeeForWeight (closingTxWeight params.localScriptPubkey.length params.remoteScriptPubkey.length
      params.isTaproot) ≤ floor) (covers : floor ≤ paid)
    (left : ((keptOutput params.localScriptPubkey params.localAmount params.localDustLimit).map Prod.snd).sum +
      ((keptOutput params.remoteScriptPubkey params.remoteAmount params.remoteDustLimit).map Prod.snd).sum ≤
        params.fundingAmount - paid) :
    minRelayFeeForWeight (closingTxRelayProfile params).weight ≤ (closingTxRelayProfile params).feePaid := by
  have lighter := minRelayFeeForWeight_mono (closingWeightForOutputs_le
    ((keptOutput_sublist params.localScriptPubkey params.localAmount params.localDustLimit).append
      (keptOutput_sublist params.remoteScriptPubkey params.remoteAmount params.remoteDustLimit)) params.isTaproot)
  simp only [closingTxRelayProfile, List.map_append, List.sum_append]
  simp only [closingTxWeight] at enough
  rw [List.singleton_append] at lighter
  omega

def ClosingState.payoutBlocked (s : ClosingState) (fee : Nat) : Prop :=
  s.externalClose = true ∧ s.localAmountAfter fee < s.ownClosingOutputDustLimit

theorem closingFeeRelays_of_blocked (blocked : s.payoutBlocked fee) : s.closingFeeRelays fee = false :=
  if_pos blocked

theorem closingFeeRelays_of_afforded (solvent : s.localSat + s.remoteSat ≤ s.fundingSatoshis)
    (floor : s.minRelayClosingFee ≤ fee) (afforded : fee ≤ s.closingFeePayerBalanceSat)
    (unblocked : ¬ s.payoutBlocked fee) : s.closingFeeRelays fee = true := by
  have nonneg : 0 ≤ s.localAmountAfter fee ∧ 0 ≤ s.remoteAmountAfter fee ∧
      s.localAmountAfter fee + s.remoteAmountAfter fee = s.localSat + s.remoteSat - fee := by
    unfold ClosingState.closingFeePayerBalanceSat at afforded
    unfold ClosingState.localAmountAfter ClosingState.remoteAmountAfter
    cases role : s.role <;> simp only [role] at afforded ⊢ <;> omega
  have ours := keptOutput_sum_le s.localScript (some s.localConfig.dustLimitSatoshis) nonneg.1
  have theirs := keptOutput_sum_le s.remoteScript (some s.remoteConfig.dustLimitSatoshis) nonneg.2.1
  have relays := relays_of_afforded
    { fundingAmount := s.fundingSatoshis
      localScriptPubkey := s.localScript
      remoteScriptPubkey := s.remoteScript
      localAmount := s.localAmountAfter fee
      remoteAmount := s.remoteAmountAfter fee
      localDustLimit := some s.localConfig.dustLimitSatoshis
      remoteDustLimit := some s.remoteConfig.dustLimitSatoshis
      isTaproot := isTaprootChannel s.channelType }
    (minRelayClosingFee_eq s).symm.le floor (by dsimp only; omega)
  exact (if_neg unblocked).trans (decide_eq_true relays)

end Relay

namespace ClosingState

variable (s : ClosingState) {fee : Nat} (theirs last : Option Nat)

def ownRange : Range := s.closingFeeRange s.calculateIdealClosingFee

theorem floor_le_lo : s.minRelayClosingFee ≤ s.ownRange.lo := by
  simp only [ownRange, closingFeeRange]
  split <;> omega

theorem hi_le_balance : s.ownRange.hi ≤ s.closingFeePayerBalanceSat := by
  simp only [ownRange, closingFeeRange, closingFeePayerBalanceSat]
  cases s.role <;> dsimp only <;> split_ifs <;> omega

theorem unblocked_of_mem (opener : s.role = .opener) (mem : fee ∈ s.ownRange) : ¬ s.payoutBlocked fee := by
  have floor := s.floor_le_lo
  have positive := minRelayClosingFee_pos s
  rw [Range.mem_iff] at mem
  simp only [ownRange, closingFeeRange, opener] at mem floor
  simp only [payoutBlocked, localAmountAfter, opener, not_and, not_lt]
  split_ifs at mem floor <;> omega

structure Fresh (s : ClosingState) : Prop where
  phase : s.phase = .negotiatingClosing ∨ s.phase = .shuttingDown
  unheld : s.isMutualCloseHeld = false
  unblocked : s.closingBlockedBy = none
  ecdsa : isTaprootChannel s.channelType = false
  rangeless : s.closingFeeMin = none
  unproposed : s.lastProposedClosingFeeSat = none
  solvent : s.localSat + s.remoteSat ≤ s.fundingSatoshis

def haggling (theirs last : Option Nat) : ClosingState :=
  { s with
    phase := .negotiatingClosing
    closingFeeMin := some s.ownRange.lo
    closingFeeMax := some s.ownRange.hi
    lastProposedClosingFeeSat := last
    theirLastClosingFeeSat := theirs }

@[simp] theorem closingFeeRelays_haggling :
    (s.haggling theirs last).closingFeeRelays fee = s.closingFeeRelays fee := rfl

theorem prepared_haggling : (s.haggling theirs last).prepared fee = s.haggling (some fee) last := by
  simp only [prepared, haggling, reduceCtorEq, ↓reduceIte, Option.getD_some]
  exact if_neg (Nat.not_lt.mpr s.floor_le_lo)

variable {s}

theorem Fresh.prepared_eq (fresh : s.Fresh) : s.prepared fee = s.haggling (some fee) none := by
  simp only [prepared, fresh.rangeless, ↓reduceIte, initClosingFeeRange, Option.getD_some]
  refine (if_neg (Nat.not_lt.mpr s.floor_le_lo)).trans ?_
  rw [haggling, ← fresh.unproposed]
  rfl

theorem counterFee_haggling {k : Nat} (inhabited : k ∈ s.ownRange) (theirs last : Option Nat) :
    (s.haggling theirs last).counterFee fee = s.ownRange.counter (last.getD s.calculateIdealClosingFee) fee := by
  have mem := Range.counter_mem inhabited (last.getD s.calculateIdealClosingFee) fee
  have floor := s.floor_le_lo
  rw [Range.mem_iff] at mem
  exact if_neg (Nat.not_lt.mpr (floor.trans mem.1))

section Answers

variable (sign : Nat → Bytes) (verify : Nat → Bytes → Bool) {theirs last : Option Nat} {msg : ClosingSigned}

theorem answer_agree (relays : s.closingFeeRelays fee = true) :
    (s.haggling theirs (some fee)).answerClosingFee sign fee =
      ⟨(s.haggling theirs (some fee)).closed, [.channelClosed]⟩ :=
  if_pos ⟨rfl, relays⟩

theorem answer_take (other : last ≠ some fee) (mem : fee ∈ s.ownRange) (relays : s.closingFeeRelays fee = true) :
    (s.haggling theirs last).answerClosingFee sign fee = ⟨(s.haggling theirs (some fee)).closed,
        [.sendClosingSigned ⟨fee, sign fee⟩, .channelClosed]⟩ :=
  (if_neg fun agreed => other agreed.1).trans (if_pos ⟨mem, relays⟩)

theorem answer_counter {counter : Nat} (other : last ≠ some fee) (outside : fee ∉ s.ownRange)
    (counters : (s.haggling theirs last).counterFee fee = counter) (relays : s.closingFeeRelays counter = true) :
    (s.haggling theirs last).answerClosingFee sign fee =
      ⟨s.haggling theirs (some counter), [.sendClosingSigned ⟨counter, sign counter⟩]⟩ := by
  unfold answerClosingFee
  rw [if_neg fun agreed => other agreed.1, if_neg fun taken => outside taken.1, counters, closingFeeRelays_haggling,
    relays]
  rfl

theorem handleClosingSigned_eq (phase : s.phase = .negotiatingClosing ∨ s.phase = .shuttingDown)
    (unheld : s.isMutualCloseHeld = false) (unblocked : s.closingBlockedBy = none)
    (verified : verify msg.feeSatoshis msg.signature = true) :
    s.handleClosingSigned sign verify msg = (s.prepared msg.feeSatoshis).answerClosingFee sign msg.feeSatoshis := by
  have negotiating : ¬ (s.phase ≠ .negotiatingClosing ∧ s.phase ≠ .shuttingDown) := by tauto
  unfold handleClosingSigned
  rw [if_neg negotiating, unheld, unblocked, verified]
  rfl

theorem Fresh.handleClosingSigned (fresh : s.Fresh) (verified : verify msg.feeSatoshis msg.signature = true) :
    s.handleClosingSigned sign verify msg =
      (s.haggling (some msg.feeSatoshis) none).answerClosingFee sign msg.feeSatoshis := by
  rw [handleClosingSigned_eq sign verify fresh.phase fresh.unheld fresh.unblocked verified, fresh.prepared_eq]

theorem Fresh.handleClosingSigned_haggling (fresh : s.Fresh)
    (verified : verify msg.feeSatoshis msg.signature = true) :
    (s.haggling theirs last).handleClosingSigned sign verify msg =
      (s.haggling (some msg.feeSatoshis) last).answerClosingFee sign msg.feeSatoshis := by
  rw [handleClosingSigned_eq (s := s.haggling theirs last) sign verify (.inl rfl) fresh.unheld fresh.unblocked verified,
    prepared_haggling]

theorem Fresh.proposeClosingFee (fresh : s.Fresh) : s.proposeClosingFee sign =
      if s.closingFeeRelays s.calculateIdealClosingFee = true then
        ⟨s.haggling s.theirLastClosingFeeSat (some s.calculateIdealClosingFee),
          [.sendClosingSigned ⟨s.calculateIdealClosingFee, sign s.calculateIdealClosingFee⟩]⟩
      else ClosingState.refuse { s with phase := .negotiatingClosing }
          (s.unrelayableMessage "Cannot propose closing fee") := by
  have negotiating : ¬ (s.phase ≠ .negotiatingClosing ∧ s.phase ≠ .shuttingDown) := by
    have phase := fresh.phase
    tauto
  unfold ClosingState.proposeClosingFee
  rw [if_neg negotiating, fresh.unheld, fresh.unblocked]
  by_cases relays : s.closingFeeRelays s.calculateIdealClosingFee = true
  · rw [if_pos relays]
    refine (if_neg ?_).trans ?_
    · exact Bool.false_ne_true
    · refine (if_neg ?_).trans rfl
      rw [Bool.not_eq_false]
      exact relays
  · rw [if_neg relays]
    refine (if_neg ?_).trans ?_
    · exact Bool.false_ne_true
    · exact if_pos (Bool.eq_false_of_not_eq_true relays)

end Answers

def frozen (s : ClosingState) : ClosingState :=
  { s with
    phase := .none
    closingFeeMin := none
    closingFeeMax := none
    lastProposedClosingFeeSat := none
    theirLastClosingFeeSat := none }

theorem frozen_prepared (s : ClosingState) (fee : Nat) : (s.prepared fee).frozen = s.frozen := by
  simp only [prepared]
  split_ifs <;> rfl

theorem phase_prepared (s : ClosingState) (fee : Nat) : (s.prepared fee).phase = .negotiatingClosing := by
  simp only [prepared]
  split_ifs <;> rfl

theorem closingFeeRelays_frozen {t : ClosingState} (same : t.frozen = s.frozen) (fee : Nat) :
    t.closingFeeRelays fee = s.closingFeeRelays fee := by
  change t.frozen.closingFeeRelays fee = s.frozen.closingFeeRelays fee
  rw [same]

theorem Fresh.answer_sound (fresh : s.Fresh) {t : ClosingState} (same : t.frozen = s.frozen) (sign : Nat → Bytes)
    (verify : Nat → Bytes → Bool) (msg : ClosingSigned) (verified : verify msg.feeSatoshis msg.signature = true) :
    let r := t.handleClosingSigned sign verify msg
    r.state.frozen = s.frozen ∧ (r.state.phase = t.phase ∨ r.state.phase = .negotiatingClosing ∨
        r.state.phase = .closed ∧ s.closingFeeRelays msg.feeSatoshis = true) ∧
      (∀ action ∈ r.actions, (∃ fee, action = .sendClosingSigned ⟨fee, sign fee⟩) ∨ action = .channelClosed ∨
        ∃ message, action = .error message) := by
  have unheld : t.isMutualCloseHeld = false := by
    change t.frozen.isMutualCloseHeld = false
    rw [same]
    exact fresh.unheld
  have unblocked : t.closingBlockedBy = none := by
    change t.frozen.closingBlockedBy = none
    rw [same]
    exact fresh.unblocked
  by_cases negotiating : t.phase = .negotiatingClosing ∨ t.phase = .shuttingDown
  · rw [handleClosingSigned_eq sign verify negotiating unheld unblocked verified]
    have prepared := (t.frozen_prepared msg.feeSatoshis).trans same
    have relays := closingFeeRelays_frozen prepared
    unfold answerClosingFee
    split_ifs with agreed taken unrelayable
    · exact ⟨prepared, .inr (.inr ⟨rfl, (relays _).symm.trans agreed.2⟩), by simp⟩
    · exact ⟨prepared, .inr (.inr ⟨rfl, (relays _).symm.trans taken.2⟩), by simp⟩
    · exact ⟨prepared, .inr (.inl (t.phase_prepared _)), by simp [refuse]⟩
    · exact ⟨prepared, .inr (.inl (t.phase_prepared _)), by simp⟩
  · rw [not_or] at negotiating
    have refused : t.handleClosingSigned sign verify msg = t.refuse "Unexpected closing_signed" := if_pos negotiating
    rw [refused]
    exact ⟨same, .inl rfl, by simp [refuse]⟩

end ClosingState

end Beignet.Closing
