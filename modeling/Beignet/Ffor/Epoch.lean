import Beignet.Channel.CommitmentBuilder
import Beignet.Ffor.Amounts

namespace Beignet.Ffor

open Beignet.Channel (calculateCommitmentFee)

def maxK : Nat := 483
def reconcileMarginBlocks : Nat := 1008
def anchorTotalSat : Nat := 660
def u64Max : Nat := 2 ^ 64 - 1
def maxHtlcCltvExpiryDelta : Nat := 5040

inductive Variant where
  | a | b | c | d
  deriving DecidableEq

def Variant.code : Variant → Nat
  | .a => 1
  | .b => 2
  | .c => 3
  | .d => 4

inductive EpochState where
  | negotiating | vouchersCommitted | activating | active | draining | closed | aborted
  deriving DecidableEq

def EpochState.name : EpochState → String
  | .negotiating => "NEGOTIATING"
  | .vouchersCommitted => "VOUCHERS_COMMITTED"
  | .activating => "ACTIVATING"
  | .active => "ACTIVE"
  | .draining => "DRAINING"
  | .closed => "CLOSED"
  | .aborted => "ABORTED"

inductive SlotState where
  | unused | settling | settled
  deriving DecidableEq

inductive VoucherOutcome where
  | fulfilled | cancelled
  deriving DecidableEq

inductive AbortReason where
  | termsRefused | voucherRoundFailed | protocolError
  deriving DecidableEq

structure EpochParams where
  variant : Variant
  budgetMsat : Nat
  maxPayments : Nat
  minPaymentMsat : Nat
  settlementDeadline : Nat
  voucherExpiry : Nat
  feeBaseMsat : Nat
  feeProportionalMillionths : Nat
  escapeGranularityMsat : Nat
  rPerCommitmentPoints : List (List UInt8)
  voucherAmountsMsat : List Nat
  witnessPeers : List String
  hashChain : Bool
  concurrentVersion : Option Nat

def isFforConcurrentVersion (version : Option Nat) : Bool :=
  version = some 1 || version = some 2

section Book

structure BookCheckContext where
  rMaxAcceptedHtlcs : Nat
  rMaxHtlcValueInFlightMsat : Nat
  htlcMinimumMsat : Nat
  dustLimitSatoshis : Nat
  feeratePerKw : Nat
  sLocalBalanceMsat : Nat
  rLocalBalanceMsat : Nat
  sChannelReserveSat : Nat
  rChannelReserveSat : Nat
  sIsFunder : Bool
  anchors : Bool

variable (params : EpochParams) (ctx : BookCheckContext)

def voucherError (k d : Nat) : Option String :=
  let least := params.minPaymentMsat
  let minimum := ctx.htlcMinimumMsat
  let dust := ctx.dustLimitSatoshis
  if d < least then some s!"d_{k} = {d} below min_payment_msat {least}"
  else if d < minimum then some s!"d_{k} = {d} below htlc_minimum_msat {minimum}"
  else if d / 1000 < dust then some s!"d_{k} = {d} would trim (dust limit {dust} sat)"
  else if u64Max < d * params.feeProportionalMillionths then
    some s!"d_{k} * fee_proportional_millionths overflows u64"
  else if u64Max < d + feeS d params.feeBaseMsat params.feeProportionalMillionths then
    some s!"gross_into_S(d_{k}) overflows u64"
  else none

def balanceError (sum : Nat) : Option String :=
  let anchors : Int := if ctx.anchors then anchorTotalSat else 0
  let feeFrozen : Int := calculateCommitmentFee ctx.feeratePerKw params.maxPayments ctx.anchors false
  let feeSpike : Int := calculateCommitmentFee (2 * ctx.feeratePerKw) params.maxPayments ctx.anchors false
  let sAfterMsat := ctx.sLocalBalanceMsat - sum
  let funderAfterSat : Int := ((if ctx.sIsFunder then sAfterMsat else ctx.rLocalBalanceMsat) / 1000 : Nat)
  let funderReserve : Int := if ctx.sIsFunder then ctx.sChannelReserveSat else ctx.rChannelReserveSat
  let sPostSat : Int := (sAfterMsat / 1000 : Nat) - if ctx.sIsFunder then feeFrozen + anchors else 0
  let rPostSat : Int := (ctx.rLocalBalanceMsat / 1000 : Nat) - if ctx.sIsFunder then 0 else feeFrozen + anchors
  if ctx.sLocalBalanceMsat < sum + ctx.sChannelReserveSat * 1000 then
    some "S cannot cover budget_msat plus its channel reserve"
  else if funderAfterSat - funderReserve < feeFrozen + anchors then
    some "funder cannot cover the commitment fee for K vouchers plus anchors"
  else if funderAfterSat - funderReserve < feeSpike + anchors then
    some "funder cannot cover the fee-spike buffer (twice the frozen feerate)"
  else if sPostSat < ctx.sChannelReserveSat then some "S post-round balance below its channel reserve"
  else if !ctx.sIsFunder && rPostSat < ctx.rChannelReserveSat then
    some "R post-round balance below its channel reserve"
  else none

def checkVoucherBook : Option String :=
  let amounts := params.voucherAmountsMsat
  let count := amounts.length
  let K := params.maxPayments
  let accepted := ctx.rMaxAcceptedHtlcs
  let budget := params.budgetMsat
  let expiry := params.voucherExpiry
  let deadline := params.settlementDeadline
  let sum := amounts.sum
  let variant := params.variant.code
  if params.variant ≠ .d then some s!"variant {variant} is not Variant D"
  else if params.escapeGranularityMsat ≠ 0 then some "escape_granularity_msat must be 0 in Variant D"
  else if params.rPerCommitmentPoints ≠ [] then some "r_per_commitment_points must be empty in Variant D"
  else if K = 0 then some "max_payments must be at least 1"
  else if count ≠ K then some s!"TLV 9 carries {count} amounts, max_payments is {K}"
  else if maxK < K then some s!"K = {K} exceeds 483"
  else if accepted < K then some s!"K = {K} exceeds R's max_accepted_htlcs {accepted}"
  else
    (amounts.zipIdx.findSome? fun (d, i) => voucherError params ctx (i + 1) d) <|>
    (if sum ≠ budget then some s!"sum of d_k {sum} != budget_msat {budget}"
    else if ctx.rMaxHtlcValueInFlightMsat < sum then
      some s!"sum of d_k {sum} exceeds R's max_htlc_value_in_flight_msat"
    else if expiry < deadline + reconcileMarginBlocks then
      some s!"voucher_expiry {expiry} < settlement_deadline {deadline} + 1008"
    else balanceError params ctx sum)

end Book

section Setup

structure SettlePolicy where
  enabled : Bool
  maxBudgetMsat : Option Nat
  maxEpochBlocks : Option Nat
  minFeeBaseMsat : Option Nat
  minFeeProportionalMillionths : Option Nat
  allowConcurrent : Bool

structure SetupContext where
  epochIdUsed : Bool
  signatureValid : Bool
  preconditionError : Option String
  /-- One of TLVs 1, 3 and 5 is in the message. -/
  foreignTlvs : Bool
  settlePolicy : Option SettlePolicy
  concurrentNegotiated : Bool
  book : BookCheckContext
  currentBlockHeight : Nat
  canSign : Bool
  addRefused : Option String

structure SetupRefusal where
  reason : Option AbortReason
  text : String

variable (ctx : SetupContext) (params : EpochParams)

def policyRefusal (policy : SettlePolicy) : Option String :=
  let budget := params.budgetMsat
  let blocks : Int := (params.voucherExpiry : Int) - ctx.currentBlockHeight
  if !policy.enabled then some "settlement service not offered by this peer"
  else if policy.maxBudgetMsat.any (· < params.budgetMsat) then
    let most := policy.maxBudgetMsat.getD 0
    some s!"budget {budget} msat exceeds this peer's maximum {most}"
  else if policy.maxEpochBlocks.any fun (most : Nat) => (most : Int) < blocks then
    let most := policy.maxEpochBlocks.getD 0
    some s!"epoch of {blocks} blocks exceeds this peer's maximum {most}"
  else if policy.minFeeBaseMsat.any (params.feeBaseMsat < ·) ||
      policy.minFeeProportionalMillionths.any (params.feeProportionalMillionths < ·) then
    some "fee terms are below this peer's floor"
  else none

def concurrentRefusal : Option String :=
  match params.concurrentVersion with
  | none => none
  | some version =>
    if !ctx.concurrentNegotiated then
      some "concurrent_version requested without option_ff_receive and option_ff_concurrent negotiated"
    else if params.hashChain then
      some "the concurrent profile takes no hash chain (ff_init TLV 15 must be absent)"
    else if !isFforConcurrentVersion (some version) then some s!"concurrent_version {version} not supported"
    else if ctx.settlePolicy.any (!·.allowConcurrent) then some "concurrent receive not offered by this peer"
    else none

def termsRefusal : Option String :=
  let epochBlocks : Int := (params.voucherExpiry : Int) - ctx.currentBlockHeight
  let variant := params.variant.code
  ctx.preconditionError <|>
  (if params.variant ≠ .d then some s!"variant {variant} not supported"
  else if ctx.foreignTlvs then some "ff_init TLVs 1, 3 and 5 must be absent in Variant D"
  else if params.voucherAmountsMsat = [] then some "ff_init TLV 9 is required in Variant D"
  else none) <|>
  ctx.settlePolicy.bind (policyRefusal ctx params) <|>
  concurrentRefusal ctx params <|>
  checkVoucherBook params ctx.book <|>
  (if params.settlementDeadline ≤ ctx.currentBlockHeight then some "settlement_deadline is not in the future"
  else if (maxHtlcCltvExpiryDelta : Int) < epochBlocks then
    some s!"epoch of {epochBlocks} blocks exceeds the 5040-block voucher horizon"
  else if params.hashChain && params.voucherAmountsMsat.any (some · ≠ params.voucherAmountsMsat.head?) then
    some "ff_init TLV 15 asks for a hash chain over non-uniform amounts"
  else none)

def setupRefusal : Option SetupRefusal :=
  if ctx.epochIdUsed then some ⟨none, "epoch_id already used on this channel"⟩
  else if !ctx.signatureValid then some ⟨some .protocolError, "ff_init signature invalid"⟩
  else
    match termsRefusal ctx params with
    | some text => some ⟨some .termsRefused, text⟩
    | none => if ctx.canSign then none else some ⟨some .protocolError, "signing ff_accept failed"⟩

end Setup

/-- The durable epoch record on S. Slots are counted from 0. -/
structure EpochRecord (α Upstream : Type) where
  state : EpochState
  params : EpochParams
  paymentHashes : List α
  preimages : List α
  slotStates : Nat → SlotState
  slotUpstream : Nat → Option Upstream
  slotRedeemed : Nat → Bool
  voucherFulfilled : Nat → Bool
  voucherOutcomes : Nat → Option VoucherOutcome
  activated : Bool
  activationMismatch : Bool
  capabilityHold : Bool
  closeProcessed : Bool
  /-- The slots and preimages of the signed `ff_close_ack`; its bitmap has exactly their bits. -/
  closeAck : Option (List (Nat × α))
  syncSnapshot : Option (Nat × List (Nat × α))

structure DelegatedHtlc (α : Type) where
  paymentHash : α
  amountMsat : Nat
  cltvExpiry : Nat
  amtToForwardMsat : Option Int
  hopKind : HopKind
  /-- S's own policy, where a verified announcement lets a payer price the hop from gossip. -/
  advertisedFee : Option FeePolicy
  upstreamPeer : Option String

def AmountReason.text : AmountReason → String
  | .underpay => "underpay"
  | .overpay => "overpay"
  | .missingAmount => "missing_amount"
  | .feeInsufficient => "fee_insufficient"

variable {α Upstream : Type} [DecidableEq α] [DecidableEq Upstream]

section Secrets

variable (hash : α → α) (randomBytes : Nat → α)

def chainedPreimages : Nat → α → List α → List α
  | 0, _, preimages => preimages
  | j + 1, x, preimages => chainedPreimages j (hash x) (x :: preimages)

def voucherPreimages (params : EpochParams) : List α :=
  if params.hashChain then chainedPreimages hash params.maxPayments (randomBytes 0) []
  else (List.range params.maxPayments).map randomBytes

def isHashChain : List α → Bool
  | below :: above :: rest => hash above == below && isHashChain (above :: rest)
  | _ => true

/-- S: `ff_init`. The record is on disk before `ff_accept` leaves; a refused add aborts it. -/
def handleFforInit (ctx : SetupContext) (params : EpochParams) : Except SetupRefusal (EpochRecord α Upstream) :=
  match setupRefusal ctx params with
  | some refusal => .error refusal
  | none =>
    let preimages := voucherPreimages hash randomBytes params
    .ok {
      state := if ctx.addRefused.isSome then .aborted else .negotiating
      params := params
      paymentHashes := preimages.map hash
      preimages := preimages
      slotStates := fun _ => .unused
      slotUpstream := fun _ => none
      slotRedeemed := fun _ => false
      voucherFulfilled := fun _ => false
      voucherOutcomes := fun _ => none
      activated := false
      activationMismatch := false
      capabilityHold := false
      closeProcessed := false
      closeAck := none
      syncSnapshot := none }

end Secrets

namespace EpochRecord

variable (f : EpochRecord α Upstream) (slot : Nat) (hash : α → α)

def isConcurrent : Bool := isFforConcurrentVersion f.params.concurrentVersion

def fforSetSlot (state : SlotState) (upstream : Option Upstream) : Except String (EpochRecord α Upstream) :=
  if f.params.maxPayments ≤ slot then .error "FFOR: no such slot"
  else if f.isConcurrent && f.slotStates slot ≠ .unused &&
      (state = .unused || upstream ≠ f.slotUpstream slot || (f.slotStates slot = .settled && state ≠ .settled)) then
    .error "FFOR: delegated settlement identity cannot regress"
  else
    .ok { f with
      slotStates := Function.update f.slotStates slot state
      slotUpstream := Function.update f.slotUpstream slot upstream }

def fforSettlementRefusal (slot tipHeight : Nat) : Option String :=
  let state := f.state.name
  if f.state ≠ .active then some s!"epoch is {state}"
  else if f.activationMismatch then some "activation hash mismatch at reestablish"
  else if f.isConcurrent && f.capabilityHold then
    some ("capability hold: the peer did not advertise option_ff_receive and option_ff_concurrent " ++
      "on its last connection")
  else if f.closeProcessed then some "ff_close processed"
  else if tipHeight = 0 then some "tip height unknown"
  else if f.params.settlementDeadline ≤ tipHeight then some "settlement_deadline reached"
  else if f.params.maxPayments ≤ slot then some "no such slot"
  else if f.slotRedeemed slot then some "voucher already redeemed"
  else none

def fforFindDelegatedSlot (paymentHash : α) : Option Nat :=
  f.paymentHashes.findIdx? (· = paymentHash)

/-- The checks of `fforTrySettleDelegated`. A slot that is SETTLING or SETTLED answers exactly the
    HTLC it recorded, whatever the stopping conditions say by then. -/
def delegatedRefusal (u : Upstream) (htlc : DelegatedHtlc α)
    (slot currentBlockHeight forwardingCltvDelta : Nat) (committed : Bool) : Option String :=
  let amountCheck := AmountCheckInput.checkDelegatedAmounts {
    payeeAmountMsat := f.params.voucherAmountsMsat.getD slot 0
    amountMsat := htlc.amountMsat
    amtToForwardMsat := htlc.amtToForwardMsat
    hopKind := htlc.hopKind
    feeBaseMsat := f.params.feeBaseMsat
    feeProportionalMillionths := f.params.feeProportionalMillionths
    advertisedFee := htlc.advertisedFee }
  let below := if f.params.hashChain then (List.range slot).find? (f.slotStates · = .unused) else none
  if f.slotStates slot ≠ .unused then
    if f.slotUpstream slot = some u then none else some "duplicate delegated payment for consumed hash"
  else if !committed then some "upstream HTLC is not irrevocably committed"
  else if f.params.witnessPeers ≠ [] ∧ !htlc.upstreamPeer.any (f.params.witnessPeers.contains ·) then
    some "delegated HTLC did not arrive from a witness peer"
  else
    f.fforSettlementRefusal slot currentBlockHeight <|>
    below.map (fun j =>
      let unsettled := j + 1
      let k := slot + 1
      s!"hash chain: slot {unsettled} is unsettled below slot {k}") <|>
    (if 0 < currentBlockHeight ∧ htlc.cltvExpiry ≤ currentBlockHeight + forwardingCltvDelta then
      some "upstream cltv_expiry inside the safety delta"
    else none) <|>
    amountCheck.map fun refusal =>
      let reason := refusal.reason.text
      if refusal.check = 2 then "fee_insufficient" else s!"amount check failed: {reason}"

def proofs (shown : Nat → Bool) : List (Nat × α) :=
  (List.range f.params.maxPayments).filterMap fun slot =>
    if shown slot then (f.preimages[slot]?).map fun preimage => (slot, preimage) else none

/-- The admission stop. A slot still SETTLING committed to its settlement before the close. -/
def closed : EpochRecord α Upstream :=
  { f with
    closeProcessed := true
    slotStates := fun slot =>
      if slot < f.params.maxPayments ∧ f.slotStates slot = .settling then .settled else f.slotStates slot }

def settledAtClose : Bool :=
  f.slotStates slot = .settled || f.slotRedeemed slot

def settledAtSync : Bool :=
  f.slotStates slot = .settled || f.voucherOutcomes slot = some .fulfilled

inductive Answer (α Upstream : Type) where
  | refused (f : EpochRecord α Upstream)
  | replayed (proofs : List (Nat × α))
  | signed (f : EpochRecord α Upstream) (proofs : List (Nat × α))

/-- S: `ff_close`. `same` says that the message is the one processed, `valid` that its signature and
    activation hash hold. -/
def handleFforClose (same valid canSign : Bool) : Answer α Upstream :=
  if f.closeProcessed then
    match f.closeAck with
    | some proofs => if same then .replayed proofs else .refused f
    | none => .refused f
  else if f.state ≠ .active ∨ !f.activated then .refused f
  else if !valid then .refused f
  else
    let proofs := f.closed.proofs f.closed.settledAtClose
    if !canSign then .refused f.closed
    else .signed { f.closed with closeAck := some proofs, state := .draining } proofs

def snapshotSeq (proofs : List (Nat × α)) : Nat :=
  match f.syncSnapshot with
  | some (sequence, previous) => if proofs = previous then sequence else sequence + 1
  | none => if proofs = [] then 0 else 1

/-- S: `ff_sync`. `valid` says that the message names the epoch, is within the rate and verifies. -/
def handleFforSync (valid activateAckUnsent canSign : Bool) : Answer α Upstream :=
  let stored := if f.state = .draining ∨ f.state = .closed then f.closeAck else none
  if !f.isConcurrent || !f.activated || !valid then .refused f
  else
    match stored with
    | some proofs => .replayed proofs
    | none =>
      let lacking := (List.range f.params.maxPayments).any fun slot =>
        f.settledAtSync slot && (f.preimages[slot]?).map hash ≠ f.paymentHashes[slot]?
      let proofs := f.proofs f.settledAtSync
      let previous := (f.syncSnapshot.map Prod.snd).getD []
      if f.state ≠ .active || f.activationMismatch || activateAckUnsent then .refused f
      else if lacking || previous.any (fun proof => !f.settledAtSync proof.1) then .refused f
      else if u64Max < f.snapshotSeq proofs || !canSign then .refused f
      else .signed { f with syncSnapshot := some (f.snapshotSeq proofs, proofs) } proofs

/-- S: R's `update_fulfill_htlc` for the voucher of a slot; a preimage that does not fit fails the channel. -/
def redeemVoucher (slot : Nat) (preimage : α) : EpochRecord α Upstream :=
  if f.paymentHashes[slot]? = some (hash preimage) then
    { f with
      voucherFulfilled := Function.update f.voucherFulfilled slot true
      slotRedeemed := if f.isConcurrent then Function.update f.slotRedeemed slot true else f.slotRedeemed }
  else f

def recordOutcome : EpochRecord α Upstream :=
  if f.isConcurrent && (f.voucherOutcomes slot).isNone then
    let outcome := if f.voucherFulfilled slot then .fulfilled else .cancelled
    { f with voucherOutcomes := Function.update f.voucherOutcomes slot (some outcome) }
  else f

end EpochRecord

end Beignet.Ffor
