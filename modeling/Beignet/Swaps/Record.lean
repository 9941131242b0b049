import Mathlib

namespace Beignet.Swaps

section States

inductive SwapDirection
  | reverse
  | submarine
  deriving DecidableEq, Repr

inductive SwapState
  | created
  | held
  | funding
  | fundingBroadcast
  | funded
  | claimed
  | settled
  | refundPending
  | refunded
  | exposed
  | cancelled
  | failed
  | fundingSeen
  | fundingLost
  | paying
  | paymentUnresolved
  | preimageKnown
  | claimBroadcast
  | claimConfirmed
  | paymentFailed
  deriving DecidableEq, Repr

def reverseStates : List SwapState :=
  [.created, .held, .funding, .fundingBroadcast, .funded, .claimed, .settled, .refundPending, .refunded,
    .exposed, .cancelled, .failed]

def submarineStates : List SwapState :=
  [.created, .fundingSeen, .funded, .fundingLost, .paying, .paymentUnresolved, .preimageKnown, .claimBroadcast,
    .claimConfirmed, .paymentFailed, .exposed, .cancelled, .failed]

def terminalStates : List SwapState :=
  [.settled, .refunded, .cancelled, .failed, .claimConfirmed, .paymentFailed]

def reverseTransitions : SwapState → List SwapState
  | .created => [.held, .cancelled, .failed]
  | .held => [.funding, .cancelled, .failed]
  | .funding => [.fundingBroadcast, .failed, .exposed]
  | .fundingBroadcast => [.funded, .claimed, .exposed]
  | .funded => [.claimed, .refundPending, .exposed]
  | .claimed => [.settled, .exposed]
  | .refundPending => [.claimed, .refunded, .exposed]
  | .exposed => [.failed]
  | _ => []

def submarineTransitions : SwapState → List SwapState
  | .created => [.fundingSeen, .cancelled, .failed]
  | .fundingSeen => [.funded, .fundingLost, .cancelled, .failed]
  | .funded => [.paying, .fundingLost, .cancelled, .failed]
  | .fundingLost => [.fundingSeen, .cancelled]
  | .paying => [.preimageKnown, .paymentUnresolved, .paymentFailed, .exposed]
  | .paymentUnresolved => [.preimageKnown, .paymentFailed, .exposed]
  | .preimageKnown => [.claimBroadcast, .exposed]
  | .claimBroadcast => [.claimConfirmed, .exposed]
  | .exposed => [.claimBroadcast, .paymentFailed]
  -- A preimage learned late still promotes the row.
  | .paymentFailed => [.preimageKnown]
  | _ => []

def isTerminalSwapState (state : SwapState) : Bool := state ∈ terminalStates

def swapStatesFor : SwapDirection → List SwapState
  | .reverse => reverseStates
  | .submarine => submarineStates

def transitionsFor : SwapDirection → SwapState → List SwapState
  | .reverse => reverseTransitions
  | .submarine => submarineTransitions

def swapSourcesFor (direction : SwapDirection) (target : SwapState) : List SwapState :=
  (swapStatesFor direction).filter fun source => target ∈ transitionsFor direction source

variable {direction : SwapDirection} {source target : SwapState}

theorem mem_transitionsFor_of_source
    (listed : source ∈ swapSourcesFor direction target) : target ∈ transitionsFor direction source := by
  simpa using (List.mem_filter.mp listed).2

theorem mem_swapStatesFor_of_source
    (listed : source ∈ swapSourcesFor direction target) : target ∈ swapStatesFor direction := by
  have arrow := mem_transitionsFor_of_source listed
  revert arrow
  cases direction <;> cases source <;> cases target <;> decide

end States

section Record

inductive SwapResolutionKind
  | claim
  | refund
  | unknown
  deriving DecidableEq, Repr

inductive SwapPreimageSource
  | onchainClaim
  | lightning
  | peer
  | other
  deriving DecidableEq, Repr

inductive SwapNetwork
  | bitcoin
  | testnet
  | regtest
  | signet
  deriving DecidableEq, Repr

structure SwapResolution where
  kind : SwapResolutionKind
  txid : String
  txHex : Option String := none
  height : Option Int := none
  confirmations : Int
  verifiedThisSession : Bool
  deriving DecidableEq, Repr

structure SwapRecord where
  id : String
  state : SwapState
  direction : SwapDirection
  peerNodeIdHex : String
  paymentHashHex : String
  claimPubkeyHex : String
  refundPubkeyHex : String
  refundHeight : Int
  outputScriptHex : String
  address : String
  network : SwapNetwork
  onchainSat : String
  invoiceMsat : String
  totalFeeSat : String
  minerFeeSat : String
  createdAt : Int
  createdHeight : Int
  updatedAt : Int
  bolt11 : Option String := none
  invoiceExpiresAt : Option Int := none
  heldAt : Option Int := none
  heldHeight : Option Int := none
  cancellationHeight : Option Int := none
  fundingAttempts : Int
  fundingTxHex : Option String := none
  fundingTxid : Option String := none
  fundingVout : Option Int := none
  fundingValueSat : Option String := none
  fundingBroadcastAttemptedAt : Option Int := none
  fundingBroadcastAt : Option Int := none
  fundingHeight : Option Int := none
  paymentDispatchedAt : Option Int := none
  paymentDispatchedHeight : Option Int := none
  paymentDispatchAttempts : Option Int := none
  paymentMaxCltvExpiryHeight : Option Int := none
  paymentMaxFeeMsat : Option String := none
  paymentUnresolvedSince : Option Int := none
  claimTxHex : Option String := none
  claimTxid : Option String := none
  claimFeeSat : Option String := none
  claimBroadcastAttemptedAt : Option Int := none
  claimBroadcastHeight : Option Int := none
  claimBumps : Option Int := none
  fundingLostAt : Option Int := none
  strandedHeight : Option Int := none
  refundTxHex : Option String := none
  refundTxid : Option String := none
  refundFeeSat : Option String := none
  refundBroadcastHeight : Option Int := none
  refundBumps : Int
  resolution : Option SwapResolution := none
  preimageHex : Option String := none
  preimageSource : Option SwapPreimageSource := none
  settledAt : Option Int := none
  holdCancelledAt : Option Int := none
  holdCancelReason : Option String := none
  failureReason : Option String := none
  lastError : Option String := none
  deriving DecidableEq, Repr

namespace SwapRecord

variable (record : SwapRecord) {depth : Int}

def verifiedDepth : Option Int :=
  record.resolution.bind fun resolution =>
    if resolution.verifiedThisSession then some resolution.confirmations else none

def isSwapExposure (resolutionConfirmations : Int := 1) : Bool :=
  if isTerminalSwapState record.state then false
  else if record.state = .exposed then
    !record.verifiedDepth.any fun depth => depth ≥ max 1 resolutionConfirmations
  else
    match record.direction with
    | .reverse => record.state ≠ .created
    | .submarine =>
      record.state = .paying ∨ record.state = .paymentUnresolved ∨ record.state = .preimageKnown ∨
        record.state = .claimBroadcast

def resolvedDepth : Option Int :=
  if record.state ≠ .exposed then none else record.verifiedDepth.filter (1 ≤ ·)

theorem isSwapExposure_iff (depth : Int) : record.isSwapExposure depth = true ↔
      record.isSwapExposure = true ∨ ∃ resolved, record.resolvedDepth = some resolved ∧ resolved < depth := by
  unfold isSwapExposure resolvedDepth
  by_cases exposed : record.state = .exposed
  · have live : isTerminalSwapState SwapState.exposed = false := by decide
    rw [exposed, live]
    cases record.verifiedDepth with
    | none => simp
    | some resolved =>
      simp [Option.filter]
      omega
  · simp [exposed]

theorem resolvedDepth_pos (resolved : record.resolvedDepth = some depth) : 1 ≤ depth := by
  unfold resolvedDepth at resolved
  split at resolved
  · cases resolved
  · simpa using (Option.filter_eq_some_iff.mp resolved).2

theorem not_isSwapExposure_of_resolvedDepth (resolved : record.resolvedDepth = some depth) :
    record.isSwapExposure = false := by
  have positive := record.resolvedDepth_pos resolved
  unfold resolvedDepth at resolved
  split at resolved
  · cases resolved
  · rename_i exposed
    have verified := (Option.filter_eq_some_iff.mp resolved).1
    unfold isSwapExposure
    rw [verified]
    simp_all

def endedAt : Int := max record.refundHeight ((record.resolution.bind (·.height)).getD 0)

end SwapRecord

end Record

section Codec

def isHexDigit (c : Char) : Bool := ('0' ≤ c ∧ c ≤ '9') ∨ ('a' ≤ c ∧ c ≤ 'f')

variable (text : String) (record : SwapRecord)

def isHex64 : Bool := text.toList.length = 64 ∧ text.toList.all isHexDigit

def isDecimal : Bool := text ≠ "" ∧ text.toList.all fun c => '0' ≤ c ∧ c ≤ '9'

def isSafeInteger (value : Int) : Bool := value.natAbs < 2 ^ 53

def SwapRecord.readable : Bool :=
  record.id ≠ "" ∧ record.state ∈ swapStatesFor record.direction ∧ isHex64 record.paymentHashHex ∧
    isSafeInteger record.refundHeight ∧ isDecimal record.onchainSat ∧ isDecimal record.invoiceMsat ∧
    isDecimal record.totalFeeSat ∧ isDecimal record.minerFeeSat ∧ record.preimageHex.all isHex64

/-- What a row read back loses: both facts wait for this process to look again. -/
def SwapRecord.reset : SwapRecord :=
  { record with
    resolution := record.resolution.map fun resolution => { resolution with verifiedThisSession := false }
    strandedHeight := none }

end Codec

end Beignet.Swaps
