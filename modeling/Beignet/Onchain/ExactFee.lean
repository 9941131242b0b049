import Beignet.Onchain.Send

namespace Beignet.Onchain

open Beignet.Data

variable {encoding : Encoding} {wallet : Wallet}

section Reordered

theorem inputTotal_perm {inputs others : List Utxo} (same : inputs.Perm others) :
    inputTotal inputs = inputTotal others :=
  (same.map Utxo.value).sum_eq

namespace PricingWallet

variable {pricing : PricingWallet} {args : PriceTransaction} {inputs others : List Utxo}

variable (same : inputs.Perm others)
include same

theorem uncompressedKeyBytes_perm : uncompressedKeyBytes encoding inputs = uncompressedKeyBytes encoding others := by
  unfold uncompressedKeyBytes
  rw [(same.filter _).length_eq]

theorem pricedSize_perm (addresses : List String) (message : Bytes)
    (fundingLightning : Bool) : pricing.pricedSize encoding inputs addresses message fundingLightning =
      pricing.pricedSize encoding others addresses message fundingLightning := by
  unfold pricedSize
  rw [uncompressedKeyBytes_perm same, constructByteCountParam_perm (same.map Utxo.address)]

theorem feeFor_perm (changeAddress : String) (withChange : Bool) :
    pricing.feeFor encoding args inputs changeAddress withChange =
      pricing.feeFor encoding args others changeAddress withChange := by
  have floor : skipsSizeFloor args.transaction.max inputs = skipsSizeFloor args.transaction.max others := by
    unfold skipsSizeFloor
    rw [same.any_eq]
  unfold feeFor flooredSize
  rw [pricedSize_perm same, floor]

theorem feeWithChange_perm (changeAddress : String) : pricing.feeWithChange encoding args inputs changeAddress =
      pricing.feeWithChange encoding args others changeAddress := by
  unfold feeWithChange available
  rw [feeFor_perm same, feeFor_perm same, inputTotal_perm same]

end PricingWallet

end Reordered

section Coins

variable {selected : SelectCoins.Selected}

theorem selectCoins_ok {args : SelectCoins} {inputs : List Utxo}
    (found : selectCoins encoding args inputs = .ok selected) :
    args.outputs ≠ [] ∧ args.selectFrom encoding inputs = .ok selected := by
  unfold selectCoins at found
  split_ifs at found with _ pays
  exact ⟨pays, found⟩

theorem selected_perm_priced {data : SendTransaction} (notMax : data.max = false) {rate : Rat}
    (found : selectCoins encoding ({ data with satsPerByte := rate }.selectArgs wallet) data.inputs = .ok selected) :
    selected.inputs.Perm (wallet.pricingWallet.pricedInputs encoding
      (totalFeeArgs rate data.message data wallet.coinSelectPreference true)) := by
  unfold PricingWallet.pricedInputs totalFeeArgs
  dsimp only
  by_cases consolidates : wallet.coinSelectPreference = .consolidate
  · rw [if_neg (by simp [consolidates])]
    apply SelectCoins.selectFrom_consolidates _ (selectCoins_ok found).2
    simp [SelectCoins.consolidates, SendTransaction.selectArgs, consolidates]
  · rw [if_pos ⟨consolidates, notMax⟩]
    have same : selectCoins encoding
        { outputs := data.outputs
          changeAddress := data.changeAddress
          satsPerByte := rate
          message := data.message
          coinSelectPreference := wallet.coinSelectPreference
          multisig := wallet.pricingWallet.multisig }
        data.inputs = .ok selected := found
    rw [same]

end Coins

namespace Psbt

def outputValue (psbt : Psbt) : Nat := (psbt.outputs.map Target.value).sum

/-- `getByteCount` of what is built, with 32 vB for each uncompressed key. -/
def byteCount (encoding : Encoding) (multisig : Option MultisigWeights) (message : Bytes) (psbt : Psbt) : Nat :=
  getByteCount encoding multisig (constructByteCountParam encoding (psbt.inputs.map Utxo.address))
    (constructByteCountParam encoding (psbt.outputs.filterMap Target.address?)) message 0 +
    PricingWallet.uncompressedKeyBytes encoding psbt.inputs

end Psbt

section Build

variable {data : SendTransaction} {builder : Builder} {psbt : Psbt}

def messageTargets (encoding : Encoding) (message : Bytes) : List Target :=
  ((createOpReturnScript encoding message).map Target.opReturn).toList

theorem createPsbt_ok (built : data.createPsbtFromTransactionData encoding wallet builder = .ok psbt) :
    outputTotal data.outputs + data.fee ≤ inputTotal data.inputs ∧ psbt.inputs = data.inputs ∧
    ∃ change, data.changeTargets encoding wallet = .ok change ∧
      psbt.outputs.Perm (data.paymentTargets ++ change ++ messageTargets encoding data.message) := by
  unfold SendTransaction.createPsbtFromTransactionData at built
  dsimp only at built
  split_ifs at built with short
  simp only [bind_eq_ok_iff, pure, Except.pure, Except.ok.injEq] at built
  obtain ⟨change, changes, -, -, rfl⟩ := built
  exact ⟨Int.not_lt.mp short, rfl, change, changes, builder.shuffle_perm _⟩

theorem paymentTargets_eq (addressed : ∀ output ∈ data.outputs, output.address ≠ "")
    (positive : ∀ output ∈ data.outputs, 0 < output.value) :
    data.paymentTargets = data.outputs.map fun output => .pay output.address output.value := by
  unfold SendTransaction.paymentTargets
  rw [List.filter_eq_self.mpr]
  intro output member
  simp [addressed output member, (positive output member).ne']

theorem addressed_of_valid (valid : data.validateTransaction encoding = none) :
    ∀ output ∈ data.outputs, output.address ≠ "" := by
  intro output member empty
  unfold SendTransaction.validateTransaction at valid
  split_ifs at valid
  split at valid
  · cases valid
  · split_ifs at valid
    rw [List.findSome?_eq_none_iff] at valid
    have refused := valid output member
    simp [empty, encoding.validateAddress_empty] at refused

theorem buildTransaction_ok {spendFrozen : Bool}
    (built : data.buildTransaction encoding wallet builder spendFrozen = .ok psbt) :
    data.validateTransaction encoding = none ∧
      data.createPsbtFromTransactionData encoding wallet builder = .ok psbt := by
  unfold SendTransaction.buildTransaction at built
  split at built
  · cases built
  split at built
  · cases built
  split at built
  · cases built
  rename_i valid
  simp only [bind_eq_ok_iff, pure, Except.pure, Except.ok.injEq] at built
  obtain ⟨_, created, _, -, rfl⟩ := built
  exact ⟨valid, created⟩

end Build

section Send

variable {data priced : SendTransaction} {rate : Rat} {fee : Int}

theorem updateFee_ok (notMax : data.max = false) (notRbf : data.boostType = .cpfp)
    (updated : data.updateFee encoding wallet rate = .ok (fee, priced)) :
    fee = getTotalFee encoding wallet rate data.message data wallet.coinSelectPreference true ∧
      priced = { data with satsPerByte := rate, fee := fee } := by
  unfold SendTransaction.updateFee at updated
  simp only [notRbf, reduceCtorEq, false_and, if_false, notMax, Bool.false_eq_true] at updated
  split_ifs at updated
  cases updated
  exact ⟨rfl, by rw [notMax, notRbf]⟩

theorem getTotalFee_staged (notMax : data.max = false) (staged : data.changeAddress ≠ "") (message : Bytes)
    (preference : CoinSelectPreference) : getTotalFee encoding wallet rate message data preference true =
      let args := totalFeeArgs rate message data preference true
      wallet.pricingWallet.feeWithChange encoding args (wallet.pricingWallet.pricedInputs encoding args)
        data.changeAddress := by
  unfold getTotalFee PricingWallet.priceTransaction
  simp [totalFeeArgs, notMax, staged]

structure PaysExactly (encoding : Encoding) (wallet : Wallet) (data : SendTransaction) (satsPerByte : Nat)
    (priced : Int) (psbt : Psbt) : Prop where
  exactFee : (inputTotal psbt.inputs : Int) - psbt.outputValue = priced
  atRate : satsPerByte * psbt.byteCount encoding wallet.multisigInfo data.message ≤ priced
  outputs : ∃ change, psbt.outputs.Perm
      ((data.outputs.map fun output => .pay output.address output.value) ++ change ++
        messageTargets encoding data.message) ∧
    (change = [] ∨ ∃ value, change = [.pay data.changeAddress value] ∧
      getDustThreshold encoding data.changeAddress ≤ value)

variable {psbt : Psbt} {change : List Target} {builder : Builder} {satsPerByte : Nat}

theorem value_messageTargets (message : Bytes) : ((messageTargets encoding message).map Target.value).sum = 0 := by
  unfold messageTargets
  cases createOpReturnScript encoding message <;> rfl

theorem address_messageTargets (message : Bytes) :
    (messageTargets encoding message).filterMap Target.address? = [] := by
  unfold messageTargets
  cases createOpReturnScript encoding message <;> rfl

section

variable (outputs : psbt.outputs.Perm ((data.outputs.map fun output => .pay output.address output.value) ++ change ++
    messageTargets encoding data.message))
include outputs

theorem outputValue_of_perm : psbt.outputValue = outputTotal data.outputs + (change.map Target.value).sum := by
  unfold Psbt.outputValue outputTotal
  rw [(outputs.map Target.value).sum_eq]
  simp [value_messageTargets, Function.comp_def, Target.value]

theorem byteCount_of_perm (pays : data.outputs ≠ []) : psbt.byteCount encoding wallet.multisigInfo data.message =
      wallet.pricingWallet.pricedSize encoding psbt.inputs
        (data.outputs.map Output.address ++ change.filterMap Target.address?) data.message false := by
  have addresses := outputs.filterMap Target.address?
  simp only [List.filterMap_append, address_messageTargets, List.append_nil, List.filterMap_map] at addresses
  have payments : data.outputs.filterMap (Target.address? ∘ fun output => .pay output.address output.value) =
      data.outputs.map Output.address := congrFun List.filterMap_eq_map data.outputs
  rw [payments] at addresses
  unfold Psbt.byteCount PricingWallet.pricedSize PricingWallet.outputParam
  rw [constructByteCountParam_perm addresses]
  simp [pays, Wallet.pricingWallet]

end

theorem paysExactly_of_priced {args : PricingWallet.PriceTransaction}
    (built : data.createPsbtFromTransactionData encoding wallet builder = .ok psbt)
    (pays : data.outputs ≠ []) (staged : data.changeAddress ≠ "")
    (addressed : ∀ output ∈ data.outputs, output.address ≠ "") (positive : ∀ output ∈ data.outputs, 0 < output.value)
    (sends : args.transaction.outputs = data.outputs) (atRate : args.satsPerByte = satsPerByte)
    (message : args.message = data.message) (notFunding : args.fundingLightning = false)
    (priced : data.fee = wallet.pricingWallet.feeWithChange encoding args data.inputs data.changeAddress) :
    PaysExactly encoding wallet data satsPerByte data.fee psbt := by
  obtain ⟨covered, inputs, change, changes, outputs⟩ := createPsbt_ok built
  rw [paymentTargets_eq addressed positive] at outputs
  unfold SendTransaction.changeTargets at changes
  dsimp only at changes
  rw [if_pos staged, Except.ok.injEq] at changes
  have notNegative : 0 ≤ args.satsPerByte := by
    rw [atRate]
    exact Nat.cast_nonneg _
  have paysArgs : args.transaction.outputs ≠ [] := by rwa [sends]
  have available : PricingWallet.available args data.inputs =
      inputTotal data.inputs - outputTotal data.outputs := by
    rw [PricingWallet.available, sends]
  have value := outputValue_of_perm outputs
  have size : psbt.byteCount encoding wallet.multisigInfo data.message = _ := byteCount_of_perm outputs pays
  rw [inputs] at size
  -- The fee of either shape is at least its size at the rate.
  have atLeast : ∀ withChange, (wallet.pricingWallet.pricedSize encoding data.inputs
      (PricingWallet.feeAddresses args data.changeAddress withChange) data.message false * satsPerByte : Int) ≤
      wallet.pricingWallet.feeFor encoding args data.inputs data.changeAddress withChange := by
    intro withChange
    have paid : _ ≤ (wallet.pricingWallet.feeFor encoding args data.inputs data.changeAddress withChange : Rat) :=
      PricingWallet.rate_le_feeFor notNegative data.inputs data.changeAddress withChange
    rw [atRate, message, notFunding] at paid
    exact_mod_cast paid
  have covers : wallet.pricingWallet.feeWithChange encoding args data.inputs data.changeAddress ≤
      PricingWallet.available args data.inputs := by
    rw [← priced, available]
    omega
  rcases PricingWallet.feeWithChange_cases paysArgs notNegative covers with ⟨withChange, kept⟩ | ⟨all, without⟩
  · rw [← priced, available] at kept
    rw [if_pos (by omega)] at changes
    subst changes
    refine ⟨?_, ?_, _, outputs, Or.inr ⟨_, rfl, by omega⟩⟩
    · rw [inputs, value]
      simp only [List.map_cons, List.map_nil, List.sum_cons, List.sum_nil, Target.value]
      omega
    · have paid := atLeast true
      rw [PricingWallet.feeAddresses, sends, if_pos ⟨rfl, staged⟩, mul_comm] at paid
      rw [priced, withChange, size]
      exact paid
  · have dust := getDustThreshold_pos encoding data.changeAddress
    rw [← priced, available] at all
    rw [if_neg (by omega)] at changes
    subst changes
    refine ⟨?_, ?_, _, outputs, Or.inl rfl⟩
    · rw [inputs, value]
      simp only [List.map_nil, List.sum_nil]
      omega
    · have paid := (atLeast false).trans without
      rw [PricingWallet.feeAddresses, sends, if_neg (by simp), available, ← all, mul_comm] at paid
      rw [size, List.filterMap_nil, List.append_nil]
      exact paid

theorem setupTransaction_ok {args : SendTransaction.SetupTransaction} {staged : SendTransaction}
    (setup : defaultSendTransaction.setupTransaction encoding wallet args = .ok staged) :
    staged.max = false ∧ staged.boostType = .cpfp ∧ staged.changeAddress = wallet.changeAddressIndex.1 ∧
      wallet.changeAddressIndex.1 ≠ "" ∧ staged.outputs = args.outputs.filter fun output =>
        output.address ≠ "" ∧ wallet.isChangeAddress output.address = false := by
  unfold SendTransaction.setupTransaction at setup
  split at setup
  · cases setup
  · dsimp only at setup
    split_ifs at setup with missing
    cases setup
    exact ⟨rfl, rfl, rfl, missing, rfl⟩

theorem send_pays_priced_fee {args : SendTransaction.SetupTransaction} {staged priced after : SendTransaction}
    {outputs : List Output} {message : Bytes} {satsPerByte : Nat} {fee : Int} {builder : Builder}
    {spendFrozen : Bool} {psbt : Psbt}
    (setup : defaultSendTransaction.setupTransaction encoding wallet args = .ok staged)
    (positive : ∀ output ∈ outputs, 0 < output.value)
    (updated : { staged with outputs := outputs, message := message }.updateFee encoding wallet satsPerByte =
      .ok (fee, priced))
    (built : priced.createTransaction encoding wallet builder spendFrozen = (after, .ok psbt)) :
    (∃ selected, selectCoins encoding (priced.selectArgs wallet) priced.inputs = .ok selected ∧
      psbt.inputs = selected.inputs ∧
      selected.inputs.Perm (wallet.pricingWallet.pricedInputs encoding
        (totalFeeArgs satsPerByte message { staged with outputs := outputs, message := message }
          wallet.coinSelectPreference true))) ∧
    PaysExactly encoding wallet { staged with outputs := outputs, message := message } satsPerByte fee psbt := by
  obtain ⟨notMax, notRbf, changeAddress, present, -⟩ := setupTransaction_ok setup
  let data : SendTransaction := { staged with outputs := outputs, message := message }
  have notMax : data.max = false := notMax
  have staged : data.changeAddress ≠ "" := changeAddress ▸ present
  obtain ⟨total, rfl⟩ := updateFee_ok notMax notRbf updated
  unfold SendTransaction.createTransaction at built
  split at built
  · cases built
  · rename_i selected found
    obtain ⟨valid, created⟩ := buildTransaction_ok (congrArg Prod.snd built)
    have same := selected_perm_priced notMax found
    refine ⟨⟨selected, found, (createPsbt_ok created).2.1, same⟩, ?_⟩
    have quoted : fee = wallet.pricingWallet.feeWithChange encoding
        (totalFeeArgs satsPerByte data.message data wallet.coinSelectPreference true) selected.inputs
        data.changeAddress := by
      rw [PricingWallet.feeWithChange_perm same, total]
      exact getTotalFee_staged notMax staged _ _
    obtain ⟨exactFee, atRate, outputs⟩ := paysExactly_of_priced created (selectCoins_ok found).1 staged
      (addressed_of_valid valid) positive rfl rfl rfl rfl quoted
    exact ⟨exactFee, atRate, outputs⟩

def segwitEncoding : Encoding where
  getAddressInfo _ := .p2wpkh
  validateAddress address := address ≠ ""
  fromBech32 _ := some 20
  fromBase58Check _ := none
  isBlank message := message.all (· = 32)
  isUtf8 _ := true
  validateAddress_empty := by decide

def twoCoinWallet : Wallet where
  addressType := .p2wpkh
  multisigInfo := none
  coinSelectPreference := .small
  utxos := [⟨"a", 0, "coin", 60000, none, none⟩, ⟨"b", 1, "coin", 40000, some 7, none⟩]
  blacklistedUtxos := []
  changeAddressIndex := ("change", 0)
  changeAddressStandIn := "standIn"
  generatedChangeAddress := .error "unused"
  isChangeAddress address := address = "change"
  feeEstimates := ⟨1, 3⟩

def plainBuilder : Builder where
  addInputs _ := .ok ()
  signPsbt _ := .ok ()
  shuffle targets := targets
  shuffle_perm _ := List.Perm.refl _

def twoCoinStaged : SendTransaction :=
  { defaultSendTransaction with
    inputs := twoCoinWallet.utxos
    changeAddress := "change"
    fee := 256
    satsPerByte := 1 }

def twoCoinOutputs : List Output := [⟨"payee", 30000, 0⟩]

def twoCoinPriced : SendTransaction :=
  { twoCoinStaged with outputs := twoCoinOutputs, message := [104, 105], satsPerByte := 5, fee := 785 }

def twoCoinPsbt : Psbt where
  inputs := [⟨"b", 1, "coin", 40000, some 7, none⟩]
  outputs := [.pay "payee" 30000, .pay "change" 9215, .opReturn [104, 105, 32, 32, 32]]

theorem send_pays_priced_fee_two_coins :
    PaysExactly segwitEncoding twoCoinWallet
      { twoCoinStaged with outputs := twoCoinOutputs, message := [104, 105] } 5 785 twoCoinPsbt := by
  have setup : defaultSendTransaction.setupTransaction segwitEncoding twoCoinWallet ⟨none, none, false, 1, []⟩ =
      .ok twoCoinStaged := by decide +kernel
  have updated : { twoCoinStaged with outputs := twoCoinOutputs, message := [104, 105] }.updateFee segwitEncoding
      twoCoinWallet (5 : Nat) = .ok (785, twoCoinPriced) := by decide +kernel
  have built : twoCoinPriced.createTransaction segwitEncoding twoCoinWallet plainBuilder false =
      ({ twoCoinPriced with inputs := twoCoinPsbt.inputs }, .ok twoCoinPsbt) := by decide +kernel
  exact (send_pays_priced_fee setup (by decide) updated built).2

end Send

end Beignet.Onchain
