import Beignet.Data.Basic

namespace Beignet.Closing

open Beignet.Data

/-! Cooperative closing transactions: which outputs they keep, what they weigh and what they pay. -/

variable (scriptPubkey : Bytes)

def hasForm (length : Nat) (first second : Fin 256) : Bool :=
  scriptPubkey.length = length && scriptPubkey[0]? = some first && scriptPubkey[1]? = some second

def relayDustThreshold : Nat :=
  if hasForm scriptPubkey 25 0x76 0xa9 then 546
  else if hasForm scriptPubkey 23 0xa9 0x14 then 540
  else if hasForm scriptPubkey 22 0x00 0x14 then 294
  else if hasForm scriptPubkey 34 0x00 0x20 then 330
  else 354

def getDustLimit : Nat :=
  if hasForm scriptPubkey 22 0x00 0x14 then 294
  else if hasForm scriptPubkey 34 0x00 0x20 then 546
  else 546

def closingOutputDustLimit (ownerDustLimit : Option Nat) : Nat :=
  match ownerDustLimit with
  | none => getDustLimit scriptPubkey
  | some limit => max limit (relayDustThreshold scriptPubkey)

def isOpReturnScript : Bool := scriptPubkey[0]? = some 0x6a

def isDustOutput (amountSat : Int) : Bool :=
  !isOpReturnScript scriptPubkey && amountSat < relayDustThreshold scriptPubkey

theorem isDustOutput_burnt (amountSat : Int) :
    isDustOutput scriptPubkey (if isOpReturnScript scriptPubkey then 0 else amountSat) =
      isDustOutput scriptPubkey amountSat := by
  cases burnt : isOpReturnScript scriptPubkey <;> simp [isDustOutput, burnt]

section Weight

def closingWeightForOutputs (outputScriptLens : List Nat) (isTaproot : Bool) : Nat :=
  206 + (outputScriptLens.map fun scriptLen => 4 * (8 + 1 + scriptLen)).sum +
    if isTaproot then 66 else 220

def closingTxWeight (localScriptLen remoteScriptLen : Nat) (isTaproot : Bool) : Nat :=
  closingWeightForOutputs [localScriptLen, remoteScriptLen] isTaproot

def calculateClosingFee (feeratePerKw localScriptLen remoteScriptLen : Nat) (isTaproot : Bool) : Nat :=
  (closingTxWeight localScriptLen remoteScriptLen isTaproot * feeratePerKw + 999) / 1000

def minRelayFeeratePerKvb : Nat := 1000

def minRelayFeeForWeight (weightUnits : Nat) : Nat :=
  ((weightUnits + 3) / 4 * minRelayFeeratePerKvb + 999) / 1000

theorem minRelayFeeForWeight_mono {a b : Nat} (below : a ≤ b) : minRelayFeeForWeight a ≤ minRelayFeeForWeight b := by
  unfold minRelayFeeForWeight minRelayFeeratePerKvb
  omega

theorem closingWeightForOutputs_le {kept all : List Nat} (fewer : kept.Sublist all) (isTaproot : Bool) :
    closingWeightForOutputs kept isTaproot ≤ closingWeightForOutputs all isTaproot := by
  have sums := (fewer.map fun scriptLen => 4 * (8 + 1 + scriptLen)).sum_le_sum fun _ _ => Nat.zero_le _
  unfold closingWeightForOutputs
  omega

theorem minRelayFeeForWeight_pos (outputScriptLens : List Nat) (isTaproot : Bool) :
    0 < minRelayFeeForWeight (closingWeightForOutputs outputScriptLens isTaproot) := by
  unfold minRelayFeeForWeight minRelayFeeratePerKvb closingWeightForOutputs
  omega

end Weight

section Profile

structure ClosingRelayParams where
  fundingAmount : Nat
  localScriptPubkey : Bytes
  remoteScriptPubkey : Bytes
  localAmount : Int
  remoteAmount : Int
  localDustLimit : Option Nat := none
  remoteDustLimit : Option Nat := none
  isTaproot : Bool

structure ClosingRelayProfile where
  feePaid : Nat
  weight : Nat
  deriving DecidableEq, Repr

def keptOutput (scriptPubkey : Bytes) (amount : Int) (dustLimit : Option Nat) : List (Nat × Int) :=
  if closingOutputDustLimit scriptPubkey dustLimit ≤ amount then [(scriptPubkey.length, amount)] else []

def closingTxRelayProfile (params : ClosingRelayParams) : ClosingRelayProfile :=
  let kept := keptOutput params.localScriptPubkey params.localAmount params.localDustLimit ++
    keptOutput params.remoteScriptPubkey params.remoteAmount params.remoteDustLimit
  { feePaid := (params.fundingAmount - (kept.map Prod.snd).sum).toNat
    weight := closingWeightForOutputs (kept.map Prod.fst) params.isTaproot }

end Profile

section SimpleClose

inductive SimpleCloseVariant where
  | closerOutputOnly
  | closeeOutputOnly
  | closerAndClosee
  deriving DecidableEq, Repr

structure SimpleClosingTxParams where
  fundingTxid : Bytes
  fundingOutputIndex : Nat
  closerScriptPubkey : Bytes
  closeeScriptPubkey : Bytes
  closerAmount : Int
  closeeAmount : Int
  feeSatoshis : Int
  locktime : Nat
  variant : SimpleCloseVariant

inductive ClosingParty where
  | closer
  | closee
  deriving DecidableEq, Repr

structure ClosingOutput where
  script : Bytes
  value : Int
  type : ClosingParty
  deriving DecidableEq, Repr

def ClosingOutput.before (a b : ClosingOutput) : Bool :=
  if a.value ≠ b.value then a.value < b.value else a.script ≤ b.script

structure ClosingTx where
  version : Nat
  locktime : Nat
  sequence : Nat
  fundingTxid : Bytes
  fundingOutputIndex : Nat
  outputs : List ClosingOutput
  deriving DecidableEq, Repr

namespace SimpleClosingTxParams

variable (params : SimpleClosingTxParams)

def includeCloser : Bool := params.variant ≠ .closeeOutputOnly

def includeClosee : Bool := params.variant ≠ .closerOutputOnly

def closerValue : Int :=
  if isOpReturnScript params.closerScriptPubkey then 0 else params.closerAmount - params.feeSatoshis

def closeeValue : Int := if isOpReturnScript params.closeeScriptPubkey then 0 else params.closeeAmount

def entries : List ClosingOutput :=
  (if params.includeCloser then [⟨params.closerScriptPubkey, params.closerValue, .closer⟩] else []) ++
    if params.includeClosee then [⟨params.closeeScriptPubkey, params.closeeValue, .closee⟩] else []

end SimpleClosingTxParams

def buildSimpleClosingTx (params : SimpleClosingTxParams) : Except String ClosingTx :=
  let fee := params.feeSatoshis
  let amount := params.closerAmount
  if params.includeCloser = true ∧ params.closerValue < 0 then
    .error s!"simple close fee {fee} exceeds closer balance {amount}"
  else if params.entries = [] then .error "simple close tx has no outputs"
  else .ok
    { version := 2
      locktime := params.locktime
      sequence := 0xfffffffd
      fundingTxid := params.fundingTxid
      fundingOutputIndex := params.fundingOutputIndex
      outputs := params.entries.insertionSort fun a b => a.before b }

namespace ClosingTx

variable (tx : ClosingTx)

def total : Int := (tx.outputs.map ClosingOutput.value).sum

def fee (fundingSatoshis : Nat) : Int := fundingSatoshis - tx.total

def weight (isTaproot : Bool) : Nat :=
  closingWeightForOutputs (tx.outputs.map fun o => o.script.length) isTaproot

end ClosingTx

end SimpleClose

end Beignet.Closing
