import Beignet.Swaps.Ledger

namespace Beignet.Swaps

open Beignet.Storage

section Exposure

inductive SwapRefusalReason
  | none
  | disabled
  | unsupportedDirection
  | amountBelowMin
  | amountAboveMax
  | exposureExceeded
  | feeCeiling
  | refundDeltaOutOfPolicy
  | invalidKey
  | duplicateHash
  | rateLimited
  | insufficientFunds
  | chainUnavailable
  | malformed
  | internal
  | invoiceMismatch
  | cltvUnfittable
  | selfPayment
  | noOutboundLiquidity
  deriving DecidableEq, Repr

structure SwapExposurePolicy where
  minSwapSat : Int
  maxSwapSat : Int
  maxTotalExposureSat : Int
  maxConcurrentSwaps : Nat
  fundingFeeRateCeilingSatPerVbyte : ℚ

def decimalValue (text : String) : Int :=
  text.toList.foldl (fun value digit => 10 * value + (digit.toNat - '0'.toNat : Nat)) 0

/-- The caps, with the candidate counted in. The engines pass no balance. -/
def evaluateSwapExposure (policy : SwapExposurePolicy) (amountSat : Int) (feeRateSatPerVbyte : ℚ)
    (live : List SwapRecord) (resolutionConfirmations : Nat) : Option (SwapRefusalReason × String) :=
  let exposed := live.filter (·.isSwapExposure resolutionConfirmations)
  let exposedCount := exposed.length
  let exposedSat := (exposed.map fun row => decimalValue row.onchainSat).sum
  let minSwapSat := policy.minSwapSat
  let maxSwapSat := policy.maxSwapSat
  let ceiling := policy.fundingFeeRateCeilingSatPerVbyte
  let limit := policy.maxConcurrentSwaps
  let total := policy.maxTotalExposureSat
  if amountSat < minSwapSat then
    some (.amountBelowMin, s!"{amountSat} sat is below the {minSwapSat} sat minimum")
  else if amountSat > maxSwapSat then
    some (.amountAboveMax, s!"{amountSat} sat is above the {maxSwapSat} sat maximum")
  else if feeRateSatPerVbyte > ceiling then
    some (.chainUnavailable, s!"{feeRateSatPerVbyte} sat/vB exceeds the {ceiling} sat/vB ceiling")
  else if exposedCount + 1 > limit then
    some (.exposureExceeded, s!"{exposedCount} swaps at risk already, limit {limit}")
  else if exposedSat + amountSat > total then
    some (.exposureExceeded, s!"{exposedSat} sat already at risk plus {amountSat} exceeds {total}")
  else none

end Exposure

section Fees

structure SwapFee where
  feeRate : ℚ
  minerFeeSat : Int
  totalFeeSat : Int

structure ProviderConfig where
  flatFeeSat : Int
  feePpm : Nat
  exposure : SwapExposurePolicy
  refundDeltaBlocks : Int
  minRefundDeltaBlocks : Int
  maxRefundDeltaBlocks : Int
  fundingConfirmations : Int
  resolutionConfirmations : Nat
  resolutionSafetyBlocks : Int
  maxFeeRateSatPerVbyte : ℚ
  vbytesEstimate : Nat
  maxCreatedPerPeer : Nat
  maxUnpaidSwaps : Nat

namespace ProviderConfig

variable (config : ProviderConfig) (estimate : Option ℚ) (amountSat minerFeeSat : Int)

def refundDelta (preferred : Option Int) : Int :=
  match preferred with
  | none => config.refundDeltaBlocks
  | some preferred => min config.maxRefundDeltaBlocks (max config.minRefundDeltaBlocks preferred)

def safeEstimate : Option ℚ :=
  (estimate.filter (0 < ·)).map fun rate => min rate config.maxFeeRateSatPerVbyte

def reverseSwapFee : Int :=
  config.flatFeeSat + (amountSat * config.feePpm + 999999) / 1000000 + minerFeeSat

def submarineSwapFee (routingFeePpm : Nat) : Int :=
  let base := config.reverseSwapFee amountSat minerFeeSat
  if routingFeePpm = 0 ∨ amountSat ≤ base then base
  else base + ((amountSat - base) * routingFeePpm + 999999) / 1000000

def quoteFee (total : Int → Int) : Option SwapFee :=
  (config.safeEstimate estimate).map fun feeRate =>
    let minerFeeSat := (feeRate * config.vbytesEstimate : ℚ).ceil
    { feeRate := feeRate, minerFeeSat := minerFeeSat, totalFeeSat := total minerFeeSat }

end ProviderConfig

end Fees

section Host

structure SwapHtlc where
  paymentHash : String
  claimPublicKey : String
  refundPublicKey : String
  refundHeight : Int

structure ClientInvoice where
  network : SwapNetwork
  paymentHash : String
  amountMsat : Option Int
  hasPaymentSecret : Bool
  timestamp : Int
  expiry : Option Int
  payeeNodeKey : Option String
  recoveredPubkey : Option String
  hopPubkeys : List String
  introductionNodeIds : List String
  minFinalCltvExpiry : Option Int

structure SwapHost where
  networkName : SwapNetwork
  ownNodeId : String
  deriveSwapId : String → String → String
  refundPubkey : String → String
  claimPubkey : String → String
  buildSwapHtlc : SwapHtlc → Except String (String × String)
  decodeInvoice : String → Except String ClientInvoice

structure NodeView where
  stopped : Bool
  currentHeight : Int
  now : Int
  heldSnapshot : Bool
  hashInUse : Bool
  destinationProblem : Option String
  spendableOutboundMsat : Int
  hasUsableChannelWith : String → Bool

inductive CreateReply
  | refused (reason : SwapRefusalReason) (text : String)
  | accepted (record : SwapRecord)
  | unanswered

end Host

section Reverse

structure ReverseCreate where
  direction : SwapDirection
  paymentHash : String
  claimPubkey : String
  onchainAmountSat : Int
  maxTotalFeeSat : Int
  preferredRefundDelta : Option Int

structure ReverseConfig extends ProviderConfig where
  answerSubmarineRequests : Bool

structure ReversePending where
  peer : String
  req : ReverseCreate
  height : Int

variable {json : Json} {scanRows : Bool} (pending : ReversePending) (config : ReverseConfig) (host : SwapHost)
  (swaps : SwapLedger json scanRows)

/-- `handleCreate` up to the fee estimate: an answer, or the create that awaits it. -/
def ReverseConfig.beginCreate
    (view : NodeView) (peer : String) (req : ReverseCreate) : CreateReply ⊕ ReversePending :=
  if req.direction ≠ .reverse then
    if config.answerSubmarineRequests then .inl (.refused .unsupportedDirection "only reverse swaps")
    else .inl .unanswered
  else if view.stopped then .inl (.refused .disabled "provider stopped")
  else if view.currentHeight ≤ 0 then .inl (.refused .chainUnavailable "height unknown")
  else
    match swaps.get (host.deriveSwapId peer req.paymentHash) with
    | some existing =>
      if existing.direction = .reverse ∧ existing.claimPubkeyHex = req.claimPubkey ∧
          existing.onchainSat = toString req.onchainAmountSat ∧ existing.bolt11.any (· ≠ "") ∧
          isTerminalSwapState existing.state = false then .inl (.accepted existing)
      else .inl (.refused .duplicateHash "a swap already exists for this hash")
    | none =>
      if swaps.byPaymentHash req.paymentHash ≠ [] ∨ view.heldSnapshot ∨ view.hashInUse then
        .inl (.refused .duplicateHash "this hash is already in use")
      else
        match view.destinationProblem with
        | some problem => .inl (.refused .internal problem)
        | none =>
          if swaps.createdCount peer none ≥ config.maxCreatedPerPeer then
            .inl (.refused .rateLimited "too many unpaid swaps")
          else if swaps.countInStates .reverse [.created] ≥ config.maxUnpaidSwaps then
            .inl (.refused .rateLimited "too many unpaid swaps on this provider")
          else .inr ⟨peer, req, view.currentHeight⟩

def ReversePending.row (config : ReverseConfig) (fee : SwapFee)
    (contract : String × String) (now : Int) : SwapRecord :=
  let id := host.deriveSwapId pending.peer pending.req.paymentHash
  { id := id
    state := .created
    direction := .reverse
    peerNodeIdHex := pending.peer
    paymentHashHex := pending.req.paymentHash
    claimPubkeyHex := pending.req.claimPubkey
    refundPubkeyHex := host.refundPubkey id
    refundHeight := pending.height + config.refundDelta pending.req.preferredRefundDelta
    outputScriptHex := contract.1
    address := contract.2
    network := host.networkName
    onchainSat := toString pending.req.onchainAmountSat
    invoiceMsat := toString ((pending.req.onchainAmountSat + fee.totalFeeSat) * 1000)
    totalFeeSat := toString fee.totalFeeSat
    minerFeeSat := toString fee.minerFeeSat
    createdAt := now
    createdHeight := pending.height
    updatedAt := now
    fundingAttempts := 0
    refundBumps := 0 }

def recordInvoice (bolt11 : String) (invoiceExpiresAt : Int) : SwapPatch where
  apply record := { record with bolt11 := some bolt11, invoiceExpiresAt := some invoiceExpiresAt }
  id _ := rfl
  direction _ := rfl
  peerNodeIdHex _ := rfl
  paymentHashHex _ := rfl

def recordFailure (failureReason : String) : SwapPatch where
  apply record := { record with failureReason := some failureReason }
  id _ := rfl
  direction _ := rfl
  peerNodeIdHex _ := rfl
  paymentHashHex _ := rfl

def LedgerOutcome.text : LedgerOutcome → String
  | .applied => "applied"
  | .stale => "stale"
  | .missing => "missing"
  | .storageFailed => "storage_failed"
  | .notRehydrated => "not_rehydrated"

structure ReverseResume where
  estimate : Option ℚ
  now : Int
  insertThrows : Bool
  patchThrows : Bool
  failThrows : Bool
  holdInvoice : Except String (String × Int)

/-- `handleCreate` from the fee estimate on. -/
def ReversePending.resume (given : ReverseResume) : CreateReply × SwapLedger json scanRows :=
  let req := pending.req
  let id := host.deriveSwapId pending.peer req.paymentHash
  match config.quoteFee given.estimate (config.reverseSwapFee req.onchainAmountSat) with
  | none => (.refused .chainUnavailable "no fee estimate", swaps)
  | some fee =>
    let totalFeeSat := fee.totalFeeSat
    if totalFeeSat > req.maxTotalFeeSat then
      (.refused .feeCeiling s!"fee {totalFeeSat} sat exceeds the client ceiling", swaps)
    else
      match evaluateSwapExposure config.exposure req.onchainAmountSat fee.feeRate
          (swaps.atRisk config.resolutionConfirmations) config.resolutionConfirmations with
      | some (reason, detail) => (.refused reason detail, swaps)
      | none =>
        let refundHeight := pending.height + config.refundDelta req.preferredRefundDelta
        match host.buildSwapHtlc ⟨req.paymentHash, req.claimPubkey, host.refundPubkey id, refundHeight⟩ with
        | .error message => (.refused .invalidKey message, swaps)
        | .ok contract =>
          match swaps.insert (pending.row host config fee contract given.now) given.now given.insertThrows with
          | (.applied, _, inserted) =>
            match given.holdInvoice with
            | .error message =>
              (.refused .internal "could not create the hold invoice",
                (inserted.move id .failed (recordFailure s!"hold invoice: {message}") given.now given.failThrows).2.2)
            | .ok (bolt11, expiresAt) =>
              match inserted.patch id (recordInvoice bolt11 expiresAt) given.now given.patchThrows with
              | (.applied, some record, patched) => (.accepted record, patched)
              | (outcome, _, patched) =>
                let text := LedgerOutcome.text outcome
                (.refused .internal "could not record the invoice",
                  (patched.move id .failed (recordFailure s!"ledger {text}") given.now given.failThrows).2.2)
          | (outcome, _, refused) =>
            let text := LedgerOutcome.text outcome
            (.refused .internal s!"ledger {text}", refused)

end Reverse

section Submarine

structure SubmarineCreate where
  direction : SwapDirection
  paymentHash : String
  refundPubkey : String
  bolt11 : String
  onchainAmountSat : Int
  maxTotalFeeSat : Int
  preferredRefundDelta : Option Int

structure SubmarineConfig extends ProviderConfig where
  claimSafetyBlocks : Int
  routeCltvBudgetBlocks : Int
  minInvoiceExpirySeconds : Int
  paymentMaxFeePpm : Nat

def finalCltvPadding : Int := 3

def defaultExpiry : Int := 3600

def defaultMinFinalCltvExpiry : Int := 40

def cancellableStates : List SwapState := [.created, .fundingSeen, .funded, .fundingLost]

structure InvoiceFacts where
  amountMsat : Int
  minFinalCltvExpiry : Int
  expiresAt : Int

structure SubmarinePending where
  peer : String
  req : SubmarineCreate
  height : Int
  refundHeight : Int
  facts : InvoiceFacts

namespace SubmarineConfig

variable {json : Json} {scanRows : Bool} (config : SubmarineConfig) (host : SwapHost) (value : Int)

def ceilingFor (refundHeight : Int) : Int := refundHeight - config.claimSafetyBlocks - config.resolutionSafetyBlocks

def fitProblem (height ceiling finalCltv extraBlocks : Int) : Option String :=
  let budget := config.routeCltvBudgetBlocks
  let needed := height + extraBlocks + budget + finalCltv + finalCltvPadding
  if needed > ceiling then
    some (s!"final cltv {finalCltv} plus a {budget} block route budget at height {height} needs {needed}, " ++
      s!"above the {ceiling} ceiling")
  else none

def invoiceProblem (view : NodeView) (req : SubmarineCreate) (height refundHeight : Int) :
    Except (SwapRefusalReason × String) InvoiceFacts :=
  match host.decodeInvoice req.bolt11 with
  | .error message => .error (.invoiceMismatch, s!"invoice does not decode: {message}")
  | .ok invoice =>
    let onchainMsat := req.onchainAmountSat * 1000
    let amountMsat := invoice.amountMsat.getD 0
    let expiresAt := invoice.timestamp + invoice.expiry.getD defaultExpiry
    let least := config.minInvoiceExpirySeconds
    let payee := invoice.payeeNodeKey.or invoice.recoveredPubkey
    let minFinalCltvExpiry := invoice.minFinalCltvExpiry.getD defaultMinFinalCltvExpiry
    if invoice.network ≠ host.networkName then .error (.invoiceMismatch, "invoice is for another network")
    else if invoice.paymentHash ≠ req.paymentHash then
      .error (.invoiceMismatch, "invoice carries another payment hash")
    else if amountMsat ≤ 0 then .error (.invoiceMismatch, "invoice carries no amount")
    else if invoice.hasPaymentSecret = false then .error (.invoiceMismatch, "invoice carries no payment secret")
    else if amountMsat ≥ onchainMsat then .error (.invoiceMismatch, "invoice amount leaves no fee")
    else if (onchainMsat - amountMsat) % 1000 ≠ 0 then
      .error (.invoiceMismatch, "invoice amount does not leave a whole-satoshi fee")
    else if expiresAt * 1000 - view.now < least * 1000 then
      .error (.invoiceMismatch, s!"invoice expires within {least} seconds")
    else if payee = some host.ownNodeId then .error (.selfPayment, "invoice is payable to this node")
    else if host.ownNodeId ∈ invoice.hopPubkeys ∧ payee.any view.hasUsableChannelWith = false then
      .error (.selfPayment, "a route hint names this node and it has no channel to the payee")
    else if host.ownNodeId ∈ invoice.introductionNodeIds then
      .error (.selfPayment, "a blinded path is introduced by this node")
    else
      match config.fitProblem height (config.ceilingFor refundHeight) minFinalCltvExpiry config.fundingConfirmations with
      | some text => .error (.cltvUnfittable, text)
      | none => .ok ⟨amountMsat, minFinalCltvExpiry, expiresAt⟩

def beginCreate (swaps : SwapLedger json scanRows) (view : NodeView) (peer : String)
    (req : SubmarineCreate) : CreateReply ⊕ SubmarinePending :=
  if view.stopped then .inl (.refused .disabled "provider stopped")
  else if req.direction ≠ .submarine then
    .inl (.refused .unsupportedDirection "submarine create carries another direction")
  else if view.currentHeight ≤ 0 then .inl (.refused .chainUnavailable "height unknown")
  else
    match swaps.get (host.deriveSwapId peer req.paymentHash) with
    | some existing =>
      if existing.direction = .submarine ∧ existing.refundPubkeyHex = req.refundPubkey ∧
          existing.onchainSat = toString req.onchainAmountSat ∧ existing.bolt11 = some req.bolt11 ∧
          isTerminalSwapState existing.state = false then .inl (.accepted existing)
      else .inl (.refused .duplicateHash "a swap already exists for this hash")
    | none =>
      if swaps.byPaymentHash req.paymentHash ≠ [] ∨ view.hashInUse then
        .inl (.refused .duplicateHash "this hash is already in use")
      else
        match view.destinationProblem with
        | some problem => .inl (.refused .internal problem)
        | none =>
          if swaps.createdCount peer (some .submarine) ≥ config.maxCreatedPerPeer then
            .inl (.refused .rateLimited "too many unfunded swaps")
          else if swaps.countInStates .submarine cancellableStates ≥ config.maxUnpaidSwaps then
            .inl (.refused .rateLimited "too many unpaid swaps on this provider")
          else
            let refundHeight := view.currentHeight + config.refundDelta req.preferredRefundDelta
            match config.invoiceProblem host view req view.currentHeight refundHeight with
            | .error (reason, text) => .inl (.refused reason text)
            | .ok facts => .inr ⟨peer, req, view.currentHeight, refundHeight, facts⟩

def blockHeightProblem (name : String) : Option String :=
  if value < 1 ∨ value ≥ 500000000 then some s!"{name} must be an integer block height from 1 to 499999999" else none

def blocksProblem (name : String) (allowZero : Bool) : Option String :=
  let least := if allowZero then "at least zero" else "greater than zero"
  if value < (if allowZero then 0 else 1) ∨ value ≥ 500000000 then
    some s!"{name} must be an integer block count {least}"
  else none

/-- `validateSubmarineSwapAdmission` as the create handler calls it: the first check that throws. -/
def admissionProblem (height refundHeight : Int) : Option String :=
  let ceiling := config.ceilingFor refundHeight
  [blockHeightProblem height "Current height", blockHeightProblem refundHeight "Refund height",
    blockHeightProblem ceiling "Latest outgoing HTLC expiry",
    blocksProblem config.claimSafetyBlocks "Claim safety margin" false,
    blocksProblem config.fundingConfirmations "Funding confirmations" true,
    blocksProblem config.fundingConfirmations "Minimum funding confirmations" false,
    if ceiling ≤ height then some "Outgoing HTLC expiry must be in the future" else none,
    if refundHeight ≤ ceiling + config.claimSafetyBlocks then
      some "Submarine refund must outlive outgoing HTLC expiry and claim margin"
    else none].findSome? id

end SubmarineConfig

variable (pending : SubmarinePending)

def SubmarinePending.totalFeeSat : Int :=
  pending.req.onchainAmountSat - pending.facts.amountMsat / 1000

def SubmarinePending.row (host : SwapHost) (config : SubmarineConfig) (fee : SwapFee)
    (contract : String × String) (now : Int) : SwapRecord :=
  let id := host.deriveSwapId pending.peer pending.req.paymentHash
  { id := id
    state := .created
    direction := .submarine
    peerNodeIdHex := pending.peer
    paymentHashHex := pending.req.paymentHash
    claimPubkeyHex := host.claimPubkey id
    refundPubkeyHex := pending.req.refundPubkey
    refundHeight := pending.refundHeight
    outputScriptHex := contract.1
    address := contract.2
    network := host.networkName
    onchainSat := toString pending.req.onchainAmountSat
    invoiceMsat := toString pending.facts.amountMsat
    totalFeeSat := toString pending.totalFeeSat
    minerFeeSat := toString fee.minerFeeSat
    createdAt := now
    createdHeight := pending.height
    updatedAt := now
    bolt11 := some pending.req.bolt11
    invoiceExpiresAt := some pending.facts.expiresAt
    paymentMaxCltvExpiryHeight := some (config.ceilingFor pending.refundHeight)
    fundingAttempts := 0
    refundBumps := 0 }

structure SubmarineResume where
  estimate : Option ℚ
  now : Int
  spendableOutboundMsat : Int
  insertThrows : Bool

def SubmarinePending.resume {json : Json} {scanRows : Bool} (config : SubmarineConfig)
    (host : SwapHost) (swaps : SwapLedger json scanRows) (given : SubmarineResume) :
    CreateReply × SwapLedger json scanRows :=
  let req := pending.req
  let totalFeeSat := pending.totalFeeSat
  let claimPubkey := host.claimPubkey (host.deriveSwapId pending.peer req.paymentHash)
  match config.quoteFee given.estimate
      (fun minerFeeSat => config.submarineSwapFee req.onchainAmountSat minerFeeSat config.paymentMaxFeePpm) with
  | none => (.refused .chainUnavailable "no fee estimate", swaps)
  | some fee =>
    let least := fee.totalFeeSat
    if totalFeeSat < least then
      (.refused .feeCeiling s!"invoice leaves {totalFeeSat} sat, below the {least} sat fee", swaps)
    else if totalFeeSat > req.maxTotalFeeSat then
      (.refused .feeCeiling s!"invoice leaves {totalFeeSat} sat, above the client ceiling", swaps)
    else
      match evaluateSwapExposure config.exposure req.onchainAmountSat fee.feeRate
          (swaps.atRisk config.resolutionConfirmations) config.resolutionConfirmations with
      | some (reason, detail) => (.refused reason detail, swaps)
      | none =>
        if given.spendableOutboundMsat < pending.facts.amountMsat then
          (.refused .noOutboundLiquidity "no channel can carry the payment right now", swaps)
        else if claimPubkey = req.refundPubkey then (.refused .invalidKey "refund key is ours", swaps)
        else
          match host.buildSwapHtlc ⟨req.paymentHash, claimPubkey, req.refundPubkey, pending.refundHeight⟩ with
          | .error message => (.refused .invalidKey message, swaps)
          | .ok contract =>
            match config.admissionProblem pending.height pending.refundHeight with
            | some problem => (.refused .cltvUnfittable problem, swaps)
            | none =>
              match swaps.insert (pending.row host config fee contract given.now) given.now given.insertThrows with
              | (.applied, some record, inserted) => (.accepted record, inserted)
              | (outcome, _, refused) =>
                let text := LedgerOutcome.text outcome
                (.refused .internal s!"ledger {text}", refused)

end Submarine

end Beignet.Swaps
