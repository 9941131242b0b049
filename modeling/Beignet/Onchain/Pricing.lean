import Beignet.Onchain.Selection

namespace Beignet.Onchain

open Beignet.Data

inductive BoostType
  | rbf
  | cpfp
  deriving DecidableEq, Repr

structure SendTransaction where
  outputs : List Output
  inputs : List Utxo
  changeAddress : String
  fee : Int
  satsPerByte : Rat
  message : Bytes
  rbf : Bool
  boostType : BoostType
  minFee : Rat
  max : Bool
  deriving DecidableEq, Repr

def defaultSendTransaction : SendTransaction where
  outputs := []
  inputs := []
  changeAddress := ""
  fee := 512
  satsPerByte := 2
  message := []
  rbf := false
  boostType := .cpfp
  minFee := 1
  max := false

structure PricingWallet where
  addressType : AddressType
  multisig : Option MultisigWeights
  changeAddress : String

namespace PricingWallet

variable (encoding : Encoding) (wallet : PricingWallet)

section Size

/-- The outputs as they are counted: a send that names none yet pays to one of the wallet's type. -/
def outputParam (addresses : List String) (fundingLightning : Bool) : Counts :=
  let counts := constructByteCountParam encoding addresses
  let counts := if addresses = [] then counts.add wallet.addressType 1 else counts
  if fundingLightning then counts.add .p2wsh 1 else counts

def uncompressedKeyBytes (inputs : List Utxo) : Nat :=
  (inputs.filter fun input => isUncompressed encoding input).length * 32

def skipsSizeFloor (max : Bool) (inputs : List Utxo) : Bool :=
  max ∧ ¬ inputs.any fun input => input.publicKeyLength = some 65

def pricedSize (inputs : List Utxo) (addresses : List String) (message : Bytes) (fundingLightning : Bool) : Nat :=
  getByteCount encoding wallet.multisig (constructByteCountParam encoding (inputs.map Utxo.address))
    (wallet.outputParam encoding addresses fundingLightning) message 0 + uncompressedKeyBytes encoding inputs

end Size

structure PriceTransaction where
  satsPerByte : Rat
  message : Bytes
  transaction : SendTransaction
  fundingLightning : Bool
  coinSelectPreference : CoinSelectPreference
  generatesChange : Bool

variable (args : PriceTransaction) (inputs : List Utxo) (changeAddress : String) (withChange : Bool)

def pricedInputs : List Utxo :=
  let transaction := args.transaction
  if args.coinSelectPreference ≠ .consolidate ∧ transaction.max = false then
    match selectCoins encoding
        { outputs := transaction.outputs
          changeAddress := transaction.changeAddress
          satsPerByte := args.satsPerByte
          message := args.message
          coinSelectPreference := args.coinSelectPreference
          multisig := wallet.multisig }
        transaction.inputs with
    | .ok selected => selected.inputs
    | .error _ => transaction.inputs
  else transaction.inputs

def feeAddresses : List String :=
  let addresses := args.transaction.outputs.map Output.address
  if withChange ∧ changeAddress ≠ "" then addresses ++ [changeAddress] else addresses

/-- The size that is paid for: small transactions are priced at a floor below 2 sat/vB. -/
def flooredSize : Nat :=
  let size := wallet.pricedSize encoding inputs (feeAddresses args changeAddress withChange) args.message
    args.fundingLightning
  if args.satsPerByte < 2 ∧ skipsSizeFloor args.transaction.max inputs = false then
    Nat.max size recommendedBaseFee else size

def feeFor : Int :=
  ⌈wallet.flooredSize encoding args inputs changeAddress withChange * args.satsPerByte⌉

def available : Int := inputTotal inputs - outputTotal args.transaction.outputs

/-- The fee with the change paid to the given address, or all that is left when the change would cost more than
    it has or be dust. -/
def feeWithChange : Int :=
  let fee := wallet.feeFor encoding args inputs changeAddress true
  let available := available args inputs
  if available - fee < getDustThreshold encoding changeAddress ∧
      wallet.feeFor encoding args inputs changeAddress false ≤ available then available
  else fee

def unstagedChange (fee : Int) : Option Int :=
  if args.transaction.changeAddress ≠ "" ∨ args.transaction.max ∨ wallet.changeAddress = "" then none
  else some (available args inputs - fee)

/-- `priceTransaction`, where nothing throws. With a change address of the wallet's the send is priced again
    on the same coins, as one that is staged with it. -/
def priceTransaction : Int :=
  let transaction := args.transaction
  let inputs := wallet.pricedInputs encoding args
  let pricesChange : Bool := transaction.changeAddress ≠ "" ∧ transaction.max = false
  if pricesChange then wallet.feeWithChange encoding args inputs transaction.changeAddress
  else
    let fee := wallet.feeFor encoding args inputs transaction.changeAddress false
    if args.generatesChange then
      match wallet.unstagedChange args inputs fee with
      | none => fee
      | some leftover =>
        if (getDustThreshold encoding wallet.changeAddress : Int) ≤ leftover then
          wallet.feeWithChange encoding args inputs wallet.changeAddress
        else if 0 ≤ leftover then fee + leftover
        else fee
    else fee

section Decision

variable {encoding} {wallet} {args}

theorem pricedSize_le_append {addresses : List String} (pays : addresses ≠ []) (more : List String)
    (inputs : List Utxo) (message : Bytes) (fundingLightning : Bool) :
    wallet.pricedSize encoding inputs addresses message fundingLightning ≤
      wallet.pricedSize encoding inputs (addresses ++ more) message fundingLightning := by
  have counted : ∀ type, wallet.outputParam encoding addresses fundingLightning type ≤
      wallet.outputParam encoding (addresses ++ more) fundingLightning type := by
    intro type
    have le : constructByteCountParam encoding addresses type ≤ _ :=
      constructByteCountParam_le_append addresses more type
    have paysMore : addresses ++ more ≠ [] := by simp [pays]
    simp only [outputParam, if_neg pays, if_neg paysMore]
    cases fundingLightning with
    | false => exact le
    | true =>
      simp only [if_true, Counts.add]
      split <;> omega
  exact Nat.add_le_add_right (getByteCount_mono counted message) _

theorem rate_le_feeFor (notNegative : 0 ≤ args.satsPerByte) (inputs : List Utxo) (changeAddress : String)
    (withChange : Bool) : wallet.pricedSize encoding inputs (feeAddresses args changeAddress withChange) args.message
      args.fundingLightning * args.satsPerByte ≤ wallet.feeFor encoding args inputs changeAddress withChange := by
  have size : wallet.pricedSize encoding inputs (feeAddresses args changeAddress withChange) args.message
      args.fundingLightning ≤ wallet.flooredSize encoding args inputs changeAddress withChange := by
    unfold flooredSize
    dsimp only
    split
    · exact Nat.le_max_left _ _
    · exact le_rfl
  have paid : (wallet.pricedSize encoding inputs (feeAddresses args changeAddress withChange) args.message
      args.fundingLightning : Rat) ≤ wallet.flooredSize encoding args inputs changeAddress withChange := by
    exact_mod_cast size
  exact (mul_le_mul_of_nonneg_right paid notNegative).trans (Int.le_ceil _)

theorem feeFor_mono (pays : args.transaction.outputs ≠ []) (notNegative : 0 ≤ args.satsPerByte)
    (inputs : List Utxo) (changeAddress : String) : wallet.feeFor encoding args inputs changeAddress false ≤
      wallet.feeFor encoding args inputs changeAddress true := by
  have size : wallet.pricedSize encoding inputs (feeAddresses args changeAddress false) args.message
      args.fundingLightning ≤ wallet.pricedSize encoding inputs (feeAddresses args changeAddress true)
      args.message args.fundingLightning := by
    unfold feeAddresses
    by_cases none : changeAddress = ""
    · simp [none]
    · simpa [none] using pricedSize_le_append (by simpa using pays) [changeAddress] inputs args.message
        args.fundingLightning
  have floored : wallet.flooredSize encoding args inputs changeAddress false ≤
      wallet.flooredSize encoding args inputs changeAddress true := by
    unfold flooredSize
    dsimp only
    split
    · exact max_le_max_right _ size
    · exact size
  apply Int.ceil_le_ceil
  apply mul_le_mul_of_nonneg_right _ notNegative
  exact_mod_cast floored

theorem feeWithChange_cases (pays : args.transaction.outputs ≠ []) (notNegative : 0 ≤ args.satsPerByte)
    {inputs : List Utxo} {changeAddress : String}
    (covered : wallet.feeWithChange encoding args inputs changeAddress ≤ available args inputs) :
    (wallet.feeWithChange encoding args inputs changeAddress = wallet.feeFor encoding args inputs changeAddress true ∧
      (getDustThreshold encoding changeAddress : Int) ≤
        available args inputs - wallet.feeWithChange encoding args inputs changeAddress) ∨
    (wallet.feeWithChange encoding args inputs changeAddress = available args inputs ∧
      wallet.feeFor encoding args inputs changeAddress false ≤ available args inputs) := by
  have mono : wallet.feeFor encoding args inputs changeAddress false ≤ _ :=
    feeFor_mono pays notNegative inputs changeAddress
  unfold feeWithChange at covered ⊢
  dsimp only at covered ⊢
  split at covered
  · rename_i dropped
    rw [if_pos dropped]
    exact Or.inr ⟨rfl, dropped.2⟩
  · rename_i kept
    rw [if_neg kept]
    refine Or.inl ⟨rfl, ?_⟩
    by_contra dust
    exact kept ⟨by omega, by omega⟩

end Decision

end PricingWallet

end Beignet.Onchain
