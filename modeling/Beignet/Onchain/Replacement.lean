import Beignet.Onchain.ExactFee

namespace Beignet.Onchain

open Beignet.Data

inductive Vin
  | coinbase
  | spend (txid : String) (vout : Nat)
  deriving DecidableEq, Repr

/-- An output of a fetched transaction. `pushes` are those of its script behind an OP_RETURN, when the script is
    one OP_RETURN and pushes of data. -/
structure Vout where
  value : Nat
  addresses : Option (List String)
  address : Option String
  saysOpReturn : Bool
  pushes : Option (List Bytes)
  deriving DecidableEq, Repr

structure Fetched where
  confirmations : Nat
  vins : List Vin
  vouts : List Vout
  parents : String → Option (List Vout)

structure RbfData where
  changeAddress : String
  inputs : List Utxo
  outputs : List Output
  fee : Nat
  message : Bytes
  deriving DecidableEq, Repr

section Inputs

def prevoutAddress (prevout : Vout) : String :=
  match prevout.address with
  | some address => if address ≠ "" then address else ((prevout.addresses.getD []).head?).getD ""
  | none => ((prevout.addresses.getD []).head?).getD ""

def Fetched.prevout (fetched : Fetched) (txid : String) (vout : Nat) : Option Vout :=
  (fetched.parents txid).bind fun outputs => outputs[vout]?

variable (owns : String → Bool)

def readInput (fetched : Fetched) : Vin → Except String Utxo
  | .coinbase => .error "Cannot rebuild a coinbase transaction."
  | .spend txid vout =>
    match fetched.prevout txid vout with
    | none => .error "Failed to get input value. Unable to RBF."
    | some prevout =>
      let address := prevoutAddress prevout
      if address = "" then .error "Unable to determine the address of an input. Unable to RBF."
      else if owns address = false then
        .error "Transaction spends an input this wallet does not own. Unable to RBF."
      else
        .ok
          { txHash := txid
            txPos := vout
            address := address
            value := prevout.value
            height := some 0
            publicKeyLength := none }

end Inputs

section Outputs

structure OutputScan where
  changeAddress : String := ""
  outputs : List Output := []
  messages : List Bytes := []
  outputTotal : Nat := 0

def voutAddress (vout : Vout) : Option String :=
  match vout.addresses with
  | some addresses => some (addresses.head?.getD "")
  | none =>
    match vout.address with
    | some address => if address ≠ "" then some address else none
    | none => none

variable (owns : String → Bool)

def readOutput (scan : OutputScan) (vout : Vout) : Except String OutputScan :=
  match voutAddress vout, vout.saysOpReturn with
  | none, true =>
    match vout.pushes with
    | none => .error "Unable to read an OP_RETURN output. Unable to RBF."
    | some pushes =>
      .ok { scan with messages := scan.messages ++ pushes, outputTotal := scan.outputTotal + vout.value }
  | none, false => .error "Transaction pays an output without an address. Unable to RBF."
  | some address, _ =>
    if address = "" then .error "Transaction pays an output without an address. Unable to RBF."
    else
      .ok
        { scan with
          changeAddress := if owns address then address else scan.changeAddress
          outputs := scan.outputs ++ [⟨address, vout.value, scan.outputs.length⟩]
          outputTotal := scan.outputTotal + vout.value }

end Outputs

def fetchRbfData (encoding : Encoding) (owns : String → Bool) (fetched : Fetched) : Except String RbfData := do
  if 0 < fetched.confirmations then .error "Transaction is already confirmed. Unable to RBF."
  else do
    let inputs ← fetched.vins.mapM (readInput owns fetched)
    let scan ← fetched.vouts.foldlM (readOutput owns) {}
    if scan.changeAddress = "" ∧ 2 ≤ scan.outputs.length then .error "Unable to determine change address."
    else if 1 < scan.messages.length then
      .error "Transaction carries more than one OP_RETURN message. Unable to RBF."
    else
      let message := scan.messages.head?.getD []
      if scan.messages ≠ [] ∧
          (encoding.isUtf8 message = false ∨ (createOpReturnScript encoding message).isSome = false) then
        .error "Transaction carries an OP_RETURN message the replacement cannot rebuild. Unable to RBF."
      else if inputTotal inputs < scan.outputTotal then .error "Outputs should not be greater than the inputs."
      else
        return {
          changeAddress := scan.changeAddress
          inputs := inputs
          outputs := scan.outputs
          fee := inputTotal inputs - scan.outputTotal
          message := message }

section Setup

variable (encoding : Encoding) (wallet : Wallet) (rbf : RbfData)

def incrementalRelayFee : Nat := 1

def RbfData.payments : List Output :=
  (rbf.outputs.filter fun output => output.address ≠ rbf.changeAddress).zipIdx.map fun (output, index) =>
    { output with index := index }

def RbfData.toSend : SendTransaction :=
  { defaultSendTransaction with
    outputs := rbf.payments
    inputs := rbf.inputs
    changeAddress := rbf.changeAddress
    fee := rbf.fee
    message := rbf.message
    rbf := true }

def RbfData.priceAt (rate : Rat) : Int :=
  getTotalFee encoding wallet rate rbf.message rbf.toSend .consolidate true

def RbfData.noChangeVsize : Rat :=
  getTotalFee encoding wallet 2 rbf.message { rbf.toSend with changeAddress := "" } .consolidate false / 2

/-- The lowest whole rate that outbids the original, of the size at 2 sat/vB. -/
def RbfData.relayFloor : Int :=
  let vsize : Rat := rbf.priceAt encoding wallet 2 / 2
  ⌈(rbf.fee + vsize * incrementalRelayFee) / vsize⌉

/-- `setupRbf` of a fetched transaction. Without a size the rates are no numbers and the replacement is refused. -/
def setupRbf : Except String SendTransaction := do
  let setup ← defaultSendTransaction.setupTransaction encoding wallet ⟨none, none, true, 1, []⟩
  let minFee := max wallet.feeEstimates.slow (rbf.relayFloor encoding wallet)
  let satsPerByte := max wallet.feeEstimates.fast minFee
  let newFee := rbf.priceAt encoding wallet satsPerByte
  let total := inputTotal rbf.inputs
  if rbf.priceAt encoding wallet 2 = 0 ∨ (total : Int) < outputTotal rbf.payments + newFee ∨
      (total : Int) ≤ 2 * newFee ∨
      (newFee : Rat) < rbf.fee + rbf.noChangeVsize encoding wallet * incrementalRelayFee then
    .error "Not enough sats to support an RBF transaction."
  else
    return { setup with
      outputs := rbf.payments.foldl SendTransaction.stageOutput setup.outputs
      inputs := rbf.inputs
      changeAddress := rbf.changeAddress
      fee := newFee
      satsPerByte := satsPerByte
      message := rbf.message
      rbf := true
      boostType := .rbf
      minFee := minFee }

def updateFees (data : SendTransaction) (rates : List Rat) : SendTransaction :=
  rates.foldl (fun data rate =>
    match data.updateFee encoding wallet rate with
    | .ok (_, updated) => updated
    | .error _ => data) data

end Setup

end Beignet.Onchain
