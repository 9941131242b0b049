import Beignet.Onchain.Pricing

namespace Beignet.Onchain

open Beignet.Data

structure FeeEstimates where
  slow : Rat
  fast : Rat

/-- What a send reads from the wallet. The change address of its type is the one at its index; without one,
    pricing takes a stand-in and the builder has one generated. -/
structure Wallet where
  addressType : AddressType
  multisigInfo : Option MultisigWeights
  coinSelectPreference : CoinSelectPreference
  utxos : List Utxo
  blacklistedUtxos : List Utxo
  changeAddressIndex : String × Int
  changeAddressStandIn : String
  generatedChangeAddress : Except String String
  isChangeAddress : String → Bool
  feeEstimates : FeeEstimates

inductive Target
  | pay (address : String) (value : Nat)
  | opReturn (payload : Bytes)
  deriving DecidableEq, Repr

namespace Target

def value : Target → Nat
  | pay _ value => value
  | opReturn _ => 0

def address? : Target → Option String
  | pay address _ => some address
  | opReturn _ => none

def payload? : Target → Option Bytes
  | pay _ _ => none
  | opReturn payload => some payload

end Target

structure Psbt where
  inputs : List Utxo
  outputs : List Target
  deriving DecidableEq, Repr

/-- What is left to the libraries when a transaction is built: the keys and previous transactions of the inputs,
    the signatures, and the order of the outputs. -/
structure Builder where
  addInputs : List Utxo → Except String Unit
  signPsbt : Psbt → Except String Unit
  shuffle : List Target → List Target
  shuffle_perm : ∀ targets, (shuffle targets).Perm targets

def sameOutpoint (a b : Utxo) : Bool := a.txHash = b.txHash ∧ a.txPos = b.txPos

namespace Wallet

variable (wallet : Wallet)

def isUtxoFrozen (utxo : Utxo) : Bool := wallet.blacklistedUtxos.any (sameOutpoint utxo)

def removeBlackListedUtxos (utxos : List Utxo) : List Utxo :=
  utxos.filter fun utxo => wallet.isUtxoFrozen utxo = false

def pricingWallet : PricingWallet where
  addressType := wallet.addressType
  multisig := wallet.multisigInfo
  changeAddress :=
    if wallet.changeAddressIndex.1 ≠ "" then wallet.changeAddressIndex.1 else wallet.changeAddressStandIn

def getChangeAddress : Except String String :=
  if wallet.changeAddressIndex.1 ≠ "" ∧ 0 ≤ wallet.changeAddressIndex.2 then .ok wallet.changeAddressIndex.1
  else wallet.generatedChangeAddress

end Wallet

variable (encoding : Encoding) (wallet : Wallet) (satsPerByte : Rat)

def totalFeeArgs (message : Bytes) (transaction : SendTransaction)
    (coinSelectPreference : CoinSelectPreference) (generatesChange : Bool) : PricingWallet.PriceTransaction where
  satsPerByte := satsPerByte
  message := message
  transaction := transaction
  fundingLightning := false
  coinSelectPreference := coinSelectPreference
  generatesChange := generatesChange

def getTotalFee (message : Bytes) (transaction : SendTransaction)
    (coinSelectPreference : CoinSelectPreference) (generatesChange : Bool) : Int :=
  wallet.pricingWallet.priceTransaction encoding
    (totalFeeArgs satsPerByte message transaction coinSelectPreference generatesChange)

namespace SendTransaction

variable (data : SendTransaction)

section Staging

structure SetupTransaction where
  inputTxHashes : Option (List String)
  utxos : Option (List Utxo)
  rbf : Bool
  satsPerByte : Rat
  outputs : List Output

def gatherInputs (args : SetupTransaction) : Except String (List Utxo) :=
  let gathered : Except String (List Utxo) :=
    match args.inputTxHashes with
    | some hashes =>
      let inputs := wallet.removeBlackListedUtxos (wallet.utxos.filter fun utxo => utxo.txHash ∈ hashes)
      if inputs = [] then
        let requested := ", ".intercalate hashes
        .error s!"No spendable UTXOs found for the requested transactions: {requested}."
      else .ok inputs
    | none =>
      match args.utxos with
      | some utxos => .ok utxos
      | none => .ok (wallet.removeBlackListedUtxos wallet.utxos)
  match gathered with
  | .error message => .error message
  | .ok inputs =>
    let inputs :=
      if inputs ≠ [] then inputs
      else if data.inputs ≠ [] then data.inputs
      else wallet.removeBlackListedUtxos wallet.utxos
    if inputs = [] then .error "No inputs specified in setupTransaction." else .ok inputs

/-- `setupTransaction`. Outputs to the wallet's own change addresses are left out. -/
def setupTransaction (args : SetupTransaction) : Except String SendTransaction :=
  match data.gatherInputs wallet args with
  | .error message => .error message
  | .ok inputs =>
    let changeAddress := wallet.changeAddressIndex.1
    if changeAddress = "" then .error "Unable to successfully generate a change address."
    else
      let outputs := args.outputs.filter fun output =>
        output.address ≠ "" ∧ wallet.isChangeAddress output.address = false
      let fee := getTotalFee encoding wallet args.satsPerByte [] { data with inputs := inputs, outputs := outputs }
        wallet.coinSelectPreference true
      .ok
        { data with
          inputs := inputs
          changeAddress := changeAddress
          fee := fee
          outputs := outputs
          rbf := args.rbf
          satsPerByte := args.satsPerByte }

def stageOutput (staged : List Output) (output : Output) : List Output :=
  if output.index < staged.length then staged.set output.index output else staged ++ [output]

def updateFee (satsPerByte : Rat) : Except String (Int × SendTransaction) :=
  let minFee := data.minFee
  if data.boostType = .rbf ∧ satsPerByte < minFee then
    .error s!"A replacement needs at least {minFee} sats/vbyte to outbid the original transaction."
  else
    let inputTotal := inputTotal data.inputs
    let newFee := getTotalFee encoding wallet satsPerByte data.message data
      (if data.boostType = .rbf then .consolidate else wallet.coinSelectPreference) true
    if (inputTotal : Int) ≤ 2 * newFee then
      .error ("Unable to increase the fee any further. Otherwise, it will exceed half the current input " ++
        "balance.")
    else
      let totalTransactionValue := outputTotal data.outputs
      if (totalTransactionValue : Int) ≤ 2 * newFee then
        .error ("Unable to increase the fee any further. Otherwise, it will exceed half the current " ++
          "sending/output amount.")
      else if data.max = true then
        let address := (data.outputs.head?.map Output.address).getD ""
        let value := ((inputTotal : Int) - newFee).toNat
        .ok (newFee,
          { data with
            satsPerByte := satsPerByte
            fee := newFee
            outputs := stageOutput data.outputs ⟨address, value, 0⟩ })
      else if totalTransactionValue + newFee ≤ inputTotal then
        .ok (newFee, { data with satsPerByte := satsPerByte, fee := newFee })
      else
        .error "New total amount exceeds the available balance. Unable to update the transaction fee."

end Staging

section Building

def changeTargets : Except String (List Target) :=
  let leftover := (inputTotal data.inputs : Int) - (outputTotal data.outputs + data.fee)
  let changeTo := fun address =>
    if (getDustThreshold encoding address : Int) ≤ leftover then [Target.pay address leftover.toNat] else []
  if data.changeAddress ≠ "" then .ok (changeTo data.changeAddress)
  else if 0 < leftover then wallet.getChangeAddress.map changeTo
  else .ok []

def paymentTargets : List Target :=
  (data.outputs.filter fun output => output.address ≠ "" ∧ output.value ≠ 0).map fun output =>
    Target.pay output.address output.value

variable (builder : Builder) (spendFrozen : Bool)

def createPsbtFromTransactionData : Except String Psbt := do
  let balance := inputTotal data.inputs
  let outputValue := outputTotal data.outputs
  let fee := data.fee
  if (balance : Int) < outputValue + fee then
    .error (s!"Inputs of {balance} sats cannot cover outputs of {outputValue} sats plus the staged fee " ++
      s!"of {fee} sats.")
  else do
    let change ← data.changeTargets encoding wallet
    let message := ((createOpReturnScript encoding data.message).map Target.opReturn).toList
    builder.addInputs data.inputs
    return ⟨data.inputs, builder.shuffle (data.paymentTargets ++ change ++ message)⟩

def validateTransaction : Option String :=
  if data.fee = 0 then some "No transaction fee provided."
  else
    match data.outputs with
    | [] => some "Please provide an address to send funds to."
    | first :: _ =>
      if first.address = "" then some "Please provide an address to send funds to."
      else if first.value = 0 then some "Please provide an amount to send."
      else
        data.outputs.findSome? fun output =>
          let address := output.address
          let dustThreshold := getDustThreshold encoding address
          if encoding.validateAddress address = false then some s!"Invalid Address: {address}"
          else if output.value < dustThreshold then
            some (s!"Output value for {address} must be greater than or equal to the dust threshold of " ++
              s!"{dustThreshold} sats")
          else none

/-- `createTransaction` after the coins are settled. -/
def buildTransaction : Except String Psbt := do
  if inputTotal data.inputs = 0 then .error "No inputs to spend."
  else
    match if spendFrozen then none else data.inputs.find? wallet.isUtxoFrozen with
    | some frozen =>
      let txHash := frozen.txHash
      let txPos := frozen.txPos
      .error s!"Staged input {txHash}:{txPos} is frozen."
    | none =>
      match data.validateTransaction encoding with
      | some message => .error message
      | none => do
        let psbt ← data.createPsbtFromTransactionData encoding wallet builder
        builder.signPsbt psbt
        return psbt

def selectArgs : SelectCoins where
  outputs := data.outputs
  changeAddress := data.changeAddress
  satsPerByte := data.satsPerByte
  message := data.message
  coinSelectPreference := wallet.coinSelectPreference
  multisig := wallet.multisigInfo

/-- `createTransaction` of the staged send with `runCoinSelect`: what is staged afterwards, and the result. -/
def createTransaction : SendTransaction × Except String Psbt :=
  match selectCoins encoding (data.selectArgs wallet) data.inputs with
  | .error message => (data, .error message)
  | .ok selected =>
    let staged := { data with inputs := selected.inputs }
    (staged, staged.buildTransaction encoding wallet builder spendFrozen)

end Building

end SendTransaction

end Beignet.Onchain
