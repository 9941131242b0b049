import Beignet.Onchain.Replacement

namespace Beignet.Onchain

open Beignet.Data
open PricingWallet (feeWithChange feeFor flooredSize feeAddresses)

variable {encoding : Encoding} {wallet : Wallet}

structure Wallet.TypedChange (encoding : Encoding) (wallet : Wallet) : Prop where
  pricedType : encoding.getAddressInfo wallet.pricingWallet.changeAddress = wallet.addressType
  built : ∀ address, wallet.getChangeAddress = .ok address → address ≠ "" ∧
    encoding.getAddressInfo address = wallet.addressType ∧
    getDustThreshold encoding address = getDustThreshold encoding wallet.pricingWallet.changeAddress

structure Wallet.GivesChange (encoding : Encoding) (wallet : Wallet) : Prop extends
    wallet.TypedChange encoding where
  priced : wallet.pricingWallet.changeAddress ≠ ""

section Pricing

def changeFor (wallet : Wallet) (data : SendTransaction) : String :=
  if data.changeAddress ≠ "" then data.changeAddress else wallet.pricingWallet.changeAddress

abbrev bumpArgs (data : SendTransaction) (rate : Rat) : PricingWallet.PriceTransaction :=
  totalFeeArgs rate data.message data .consolidate true

def bumpFee (encoding : Encoding) (wallet : Wallet) (data : SendTransaction) (rate : Rat) : Int :=
  getTotalFee encoding wallet rate data.message data .consolidate true

def leftFor (data : SendTransaction) : Int := inputTotal data.inputs - outputTotal data.outputs

def changedFee (encoding : Encoding) (wallet : Wallet) (data : SendTransaction) (rate : Rat) : Int :=
  wallet.pricingWallet.feeFor encoding (bumpArgs data rate) data.inputs (changeFor wallet data) true

variable {data : SendTransaction} {rate : Rat}

theorem available_bumpArgs : PricingWallet.available (bumpArgs data rate) data.inputs = leftFor data := rfl

theorem bumpFee_staged (notMax : data.max = false) (staged : data.changeAddress ≠ "") :
    bumpFee encoding wallet data rate =
      wallet.pricingWallet.feeWithChange encoding (bumpArgs data rate) data.inputs (changeFor wallet data) := by
  unfold bumpFee changeFor
  rw [getTotalFee_staged notMax staged, if_pos staged]
  rfl

section

variable (gives : wallet.GivesChange encoding)
include gives

theorem bumpFee_unstaged (notMax : data.max = false) (unstaged : data.changeAddress = "") :
    bumpFee encoding wallet data rate =
      let fee := wallet.pricingWallet.feeFor encoding (bumpArgs data rate) data.inputs "" false
      if (getDustThreshold encoding (changeFor wallet data) : Int) ≤ leftFor data - fee then
        wallet.pricingWallet.feeWithChange encoding (bumpArgs data rate) data.inputs (changeFor wallet data)
      else if 0 ≤ leftFor data - fee then leftFor data
      else fee := by
  have change : changeFor wallet data = wallet.pricingWallet.changeAddress := by
    rw [changeFor, if_neg (by simpa using unstaged)]
  have none : ¬ (data.changeAddress ≠ "" ∨ data.max = true ∨ wallet.pricingWallet.changeAddress = "") := by
    simp [unstaged, notMax, gives.priced]
  have left : wallet.pricingWallet.unstagedChange (bumpArgs data rate) data.inputs
      (wallet.pricingWallet.feeFor encoding (bumpArgs data rate) data.inputs "" false) =
      some (leftFor data - wallet.pricingWallet.feeFor encoding (bumpArgs data rate) data.inputs "" false) := by
    rw [PricingWallet.unstagedChange]
    exact if_neg none
  have coins : wallet.pricingWallet.pricedInputs encoding (bumpArgs data rate) = data.inputs := rfl
  have stagedNone : (bumpArgs data rate).transaction.changeAddress = "" := unstaged
  have generates : (bumpArgs data rate).generatesChange = true := rfl
  unfold bumpFee getTotalFee PricingWallet.priceTransaction
  simp only [coins, stagedNone, generates, left, change, ne_eq, not_true_eq_false, false_and, decide_false,
    Bool.false_eq_true, if_false, if_true]
  rw [add_sub_cancel]

theorem bumpFee_of_kept (notMax : data.max = false)
    (kept : (getDustThreshold encoding (changeFor wallet data) : Int) ≤
      leftFor data - bumpFee encoding wallet data rate) :
    bumpFee encoding wallet data rate = changedFee encoding wallet data rate := by
  have dust := getDustThreshold_pos encoding (changeFor wallet data)
  have priced : ∀ fee, fee = wallet.pricingWallet.feeWithChange encoding (bumpArgs data rate) data.inputs
      (changeFor wallet data) → (getDustThreshold encoding (changeFor wallet data) : Int) ≤ leftFor data - fee →
      fee = changedFee encoding wallet data rate := by
    intro fee quoted kept
    unfold feeWithChange at quoted
    dsimp only at quoted
    rw [available_bumpArgs] at quoted
    split_ifs at quoted
    · omega
    · exact quoted
  by_cases staged : data.changeAddress = ""
  · rw [bumpFee_unstaged gives notMax staged] at kept ⊢
    dsimp only at kept ⊢
    split_ifs at kept ⊢
    · exact priced _ rfl kept
    · omega
    · omega
  · exact priced _ (bumpFee_staged notMax staged) kept

theorem pricedSize_generated (inputs : List Utxo) (message : Bytes) :
    wallet.pricingWallet.pricedSize encoding inputs [] message false =
      wallet.pricingWallet.pricedSize encoding inputs [wallet.pricingWallet.changeAddress] message false := by
  have same : wallet.pricingWallet.outputParam encoding [] false =
      wallet.pricingWallet.outputParam encoding [wallet.pricingWallet.changeAddress] false := by
    simp [PricingWallet.outputParam, constructByteCountParam, gives.priced, gives.pricedType]
    rfl
  unfold PricingWallet.pricedSize
  rw [same]

theorem feeFor_le_generated (notNegative : 0 ≤ rate) :
    wallet.pricingWallet.feeFor encoding (bumpArgs data rate) data.inputs "" false ≤
      wallet.pricingWallet.feeFor encoding (bumpArgs data rate) data.inputs wallet.pricingWallet.changeAddress
        true := by
  have without : wallet.pricingWallet.feeFor encoding (bumpArgs data rate) data.inputs "" false =
      wallet.pricingWallet.feeFor encoding (bumpArgs data rate) data.inputs wallet.pricingWallet.changeAddress
        false := by
    simp [feeFor, flooredSize, feeAddresses]
  rw [without]
  by_cases pays : data.outputs = []
  · apply le_of_eq
    have sizes : wallet.pricingWallet.flooredSize encoding (bumpArgs data rate) data.inputs
        wallet.pricingWallet.changeAddress false = wallet.pricingWallet.flooredSize encoding (bumpArgs data rate)
        data.inputs wallet.pricingWallet.changeAddress true := by
      simp only [flooredSize, feeAddresses, totalFeeArgs, pays, List.map_nil,
        List.nil_append, Bool.false_eq_true, false_and, if_false, gives.priced, ne_eq, not_false_eq_true, and_self,
        if_true, pricedSize_generated gives]
    unfold feeFor
    rw [sizes]
  · exact PricingWallet.feeFor_mono pays notNegative _ _

theorem bumpFee_of_room (notMax : data.max = false) (notNegative : 0 ≤ rate)
    (room : (getDustThreshold encoding (changeFor wallet data) : Int) ≤
      leftFor data - changedFee encoding wallet data rate) :
    bumpFee encoding wallet data rate = changedFee encoding wallet data rate := by
  have priced : wallet.pricingWallet.feeWithChange encoding (bumpArgs data rate) data.inputs
      (changeFor wallet data) = changedFee encoding wallet data rate := by
    unfold feeWithChange
    dsimp only
    rw [available_bumpArgs, if_neg]
    · rfl
    · rintro ⟨dropped, -⟩
      unfold changedFee at room
      omega
  by_cases staged : data.changeAddress = ""
  · have le : wallet.pricingWallet.feeFor encoding (bumpArgs data rate) data.inputs "" false ≤
        changedFee encoding wallet data rate := by
      unfold changedFee
      rw [changeFor, if_neg (by simpa using staged)]
      exact feeFor_le_generated gives notNegative
    rw [bumpFee_unstaged gives notMax staged]
    dsimp only
    rw [if_pos (by omega), priced]
  · rw [bumpFee_staged notMax staged, priced]

end

def changedSize (encoding : Encoding) (wallet : Wallet) (data : SendTransaction) : Nat :=
  wallet.pricingWallet.pricedSize encoding data.inputs
    (data.outputs.map Output.address ++ [changeFor wallet data]) data.message false

section

variable (gives : wallet.GivesChange encoding)
include gives

theorem changeFor_ne (data : SendTransaction) : changeFor wallet data ≠ "" := by
  unfold changeFor
  split_ifs with staged
  · exact staged
  · exact gives.priced

theorem feeAddresses_changed : feeAddresses (bumpArgs data rate) (changeFor wallet data) true =
      data.outputs.map Output.address ++ [changeFor wallet data] := by
  rw [feeAddresses, if_pos ⟨rfl, changeFor_ne gives data⟩]
  rfl

theorem rate_le_changedFee (notNegative : 0 ≤ rate) :
    changedSize encoding wallet data * rate ≤ changedFee encoding wallet data rate := by
  have paid : _ ≤ (changedFee encoding wallet data rate : Rat) :=
    PricingWallet.rate_le_feeFor notNegative data.inputs (changeFor wallet data) true
  rw [feeAddresses_changed gives] at paid
  exact paid

theorem changedFee_of_two_le (fast : 2 ≤ rate) :
    changedFee encoding wallet data rate = ⌈changedSize encoding wallet data * rate⌉ := by
  have size : wallet.pricingWallet.flooredSize encoding (bumpArgs data rate) data.inputs (changeFor wallet data)
      true = changedSize encoding wallet data := by
    unfold flooredSize
    rw [feeAddresses_changed gives]
    exact if_neg fun slow => absurd slow.1 (not_lt.mpr fast)
  unfold changedFee feeFor
  rw [size]
  rfl

theorem changedFee_two : changedFee encoding wallet data 2 = changedSize encoding wallet data * 2 := by
  rw [changedFee_of_two_le gives le_rfl]
  exact_mod_cast Int.ceil_natCast (changedSize encoding wallet data * 2)

end

theorem feeFor_nonneg (notNegative : 0 ≤ rate) (inputs : List Utxo) (changeAddress : String) (withChange : Bool) :
    0 ≤ wallet.pricingWallet.feeFor encoding (bumpArgs data rate) inputs changeAddress withChange := by
  unfold feeFor
  apply Int.ceil_nonneg
  exact mul_nonneg (Nat.cast_nonneg _) notNegative

theorem bumpFee_nonneg (gives : wallet.GivesChange encoding) (notMax : data.max = false) (notNegative : 0 ≤ rate) :
    0 ≤ bumpFee encoding wallet data rate := by
  have withChange : ∀ changeAddress, 0 ≤ wallet.pricingWallet.feeWithChange encoding (bumpArgs data rate)
      data.inputs changeAddress := by
    intro changeAddress
    unfold feeWithChange
    dsimp only
    split_ifs with dropped
    · exact (feeFor_nonneg notNegative _ _ _).trans dropped.2
    · exact feeFor_nonneg notNegative _ _ _
  by_cases staged : data.changeAddress = ""
  · have without : 0 ≤ wallet.pricingWallet.feeFor encoding (bumpArgs data rate) data.inputs "" false :=
      feeFor_nonneg notNegative _ _ _
    rw [bumpFee_unstaged gives notMax staged]
    dsimp only
    split_ifs
    · exact withChange _
    · omega
    · exact without
  · rw [bumpFee_staged notMax staged]
    exact withChange _

theorem outbids_of_kept (gives : wallet.GivesChange encoding) (notMax : data.max = false) {originalFee : Nat}
    (sized : bumpFee encoding wallet data 2 ≠ 0)
    (floor : (⌈(originalFee + (bumpFee encoding wallet data 2 / 2 : Rat) * incrementalRelayFee) /
      (bumpFee encoding wallet data 2 / 2 : Rat)⌉ : Rat) ≤ rate)
    (kept : (getDustThreshold encoding (changeFor wallet data) : Int) ≤
      leftFor data - bumpFee encoding wallet data rate) :
    (originalFee + changedSize encoding wallet data : Int) ≤ bumpFee encoding wallet data rate := by
  set half : Rat := bumpFee encoding wallet data 2 / 2 with atTwo
  have positive : 0 < half := by
    have nonneg : 0 ≤ bumpFee encoding wallet data 2 := bumpFee_nonneg gives notMax (by norm_num)
    have lt : (0 : Rat) < bumpFee encoding wallet data 2 := by exact_mod_cast lt_of_le_of_ne nonneg sized.symm
    exact div_pos lt (by norm_num)
  rw [incrementalRelayFee, Nat.cast_one, mul_one] at floor
  have ceil := Int.le_ceil ((originalFee + half) / half)
  have atLeastOne : (1 : Rat) ≤ rate := by
    have one : 1 ≤ (originalFee + half) / half := by
      rw [one_le_div positive]
      exact le_add_of_nonneg_left (Nat.cast_nonneg _)
    exact (one.trans ceil).trans floor
  have paid : changedSize encoding wallet data * rate ≤ bumpFee encoding wallet data rate := by
    rw [bumpFee_of_kept gives notMax kept]
    exact rate_le_changedFee gives (zero_le_one.trans atLeastOne)
  have enough : (originalFee + changedSize encoding wallet data : Rat) ≤ changedSize encoding wallet data * rate := by
    by_cases fast : 2 ≤ rate
    · -- At 2 sat/vB the change is kept as well, so the floor was computed with the size that is built.
      have cheaper : changedFee encoding wallet data 2 ≤ changedFee encoding wallet data rate := by
        rw [changedFee_of_two_le gives le_rfl, changedFee_of_two_le gives fast]
        exact Int.ceil_le_ceil (mul_le_mul_of_nonneg_left fast (Nat.cast_nonneg _))
      rw [bumpFee_of_kept gives notMax kept] at kept
      have two : bumpFee encoding wallet data 2 = changedSize encoding wallet data * 2 := by
        rw [bumpFee_of_room gives notMax (by norm_num) (by omega), changedFee_two gives]
      have size : half = changedSize encoding wallet data := by
        rw [atTwo, two]
        push_cast
        ring
      rw [size] at positive ceil floor
      rw [mul_comm, ← div_le_iff₀ positive]
      exact ceil.trans floor
    · -- Below it the floor is one, and the original paid no fee.
      have one : ⌈(originalFee + half) / half⌉ < 2 := by
        exact_mod_cast floor.trans_lt (not_le.mp fast)
      have free : (originalFee : Rat) ≤ 0 := by
        have le := Int.ceil_le.mp (Int.le_of_lt_add_one (b := 1) one)
        rw [Int.cast_one, div_le_one positive] at le
        linarith
      have size := mul_le_mul_of_nonneg_left atLeastOne
        (Nat.cast_nonneg (changedSize encoding wallet data) : (0 : Rat) ≤ _)
      linarith
  have total := enough.trans paid
  exact_mod_cast total

end Pricing

end Beignet.Onchain
