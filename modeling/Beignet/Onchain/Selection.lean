import Beignet.Onchain.Sizes

namespace Beignet.Onchain

open Beignet.Data

/-- `IUtxo`. Of the key pair of an input that is not the wallet's own only the size of the public key counts. -/
structure Utxo where
  txHash : String
  txPos : Nat
  address : String
  value : Nat
  height : Option Nat
  publicKeyLength : Option Nat
  deriving DecidableEq, Repr

structure Output where
  address : String
  value : Nat
  index : Nat
  deriving DecidableEq, Repr

inductive CoinSelectPreference
  | small
  | large
  | consolidate
  | firstInFirstOut
  | lastInFirstOut
  deriving DecidableEq, Repr

def inputTotal (inputs : List Utxo) : Nat := (inputs.map Utxo.value).sum

def outputTotal (outputs : List Output) : Nat := (outputs.map Output.value).sum

def recommendedBaseFee : Nat := 256

structure SelectCoins where
  outputs : List Output
  changeAddress : String
  satsPerByte : Rat
  message : Bytes
  coinSelectPreference : CoinSelectPreference
  multisig : Option MultisigWeights

structure Selection where
  types : Counts
  uncompressed : Nat

variable (encoding : Encoding)

section Counting

def isUncompressed (input : Utxo) : Bool :=
  encoding.getAddressInfo input.address = .p2pkh ∧ input.publicKeyLength = some 65

namespace Selection

def count (selection : Selection) (input : Utxo) : Selection where
  types := selection.types.add (encoding.getAddressInfo input.address) 1
  uncompressed := selection.uncompressed + if isUncompressed encoding input then 1 else 0

def takeOut (selection : Selection) (input : Utxo) : Selection where
  types := selection.types.remove (encoding.getAddressInfo input.address)
  uncompressed := selection.uncompressed - if isUncompressed encoding input then 1 else 0

def countAll (inputs : List Utxo) : Selection :=
  inputs.foldl (count encoding) ⟨Counts.zero, 0⟩

end Selection

def kindOf (input : Utxo) : AddressType × Option Nat :=
  (encoding.getAddressInfo input.address, input.publicKeyLength)

end Counting

namespace SelectCoins

variable (args : SelectCoins) (newInputs : List Utxo)

def amountToSend : Nat := outputTotal args.outputs

def maxSafeInteger : Nat := 2 ^ 53 - 1

def heightOf (input : Utxo) : Nat :=
  match input.height with
  | none => maxSafeInteger
  | some 0 => maxSafeInteger
  | some height => height

def sorted (inputs : List Utxo) : List Utxo :=
  match args.coinSelectPreference with
  | .large => inputs.insertionSort fun a b => b.value ≤ a.value
  | .firstInFirstOut => inputs.insertionSort fun a b => heightOf a ≤ heightOf b
  | .lastInFirstOut => inputs.insertionSort fun a b => heightOf b ≤ heightOf a
  | .small => inputs.insertionSort fun a b => a.value ≤ b.value
  | .consolidate => inputs.insertionSort fun a b => a.value ≤ b.value

/-- Coins are taken until they reach the amount; the others are left for the top-up. -/
def fill (amountToSend : Nat) : Nat → List Utxo → List Utxo × List Utxo
  | _, [] => ([], [])
  | inputAmount, input :: rest =>
    if inputAmount < amountToSend then
      let (newInputs, oldInputs) := fill amountToSend (inputAmount + input.value) rest
      (input :: newInputs, oldInputs)
    else
      let (newInputs, oldInputs) := fill amountToSend inputAmount rest
      (newInputs, input :: oldInputs)

def outputTypes (withChange : Bool) : Counts :=
  let paymentAddresses := args.outputs.map Output.address
  constructByteCountParam encoding
    (if withChange ∧ args.changeAddress ≠ "" then paymentAddresses ++ [args.changeAddress] else paymentAddresses)

def calculateFee (selection : Selection) (withChange : Bool) : Rat :=
  let baseFee := getByteCount encoding args.multisig selection.types (args.outputTypes encoding withChange)
    args.message 0 + selection.uncompressed * 32
  if args.satsPerByte < 2 then max baseFee recommendedBaseFee * args.satsPerByte
  else baseFee * args.satsPerByte

/-- The coins selected so far, and the longest beginning of them that paid the rate without change. -/
structure TopUp where
  newInputs : List Utxo
  inputAmount : Nat
  noChange : Option (Nat × Nat)

def fee : Rat :=
  args.calculateFee encoding (Selection.countAll encoding newInputs) true

def noChangeFee : Rat :=
  args.calculateFee encoding (Selection.countAll encoding newInputs) false

def topUp : TopUp → List Utxo → TopUp
  | state, [] => state
  | state, input :: rest =>
    if args.amountToSend + args.fee encoding state.newInputs ≤ state.inputAmount then state
    else
      topUp
        { newInputs := state.newInputs ++ [input]
          inputAmount := state.inputAmount + input.value
          noChange :=
            if args.amountToSend + args.noChangeFee encoding state.newInputs ≤ state.inputAmount then
              some (state.newInputs.length, state.inputAmount)
            else state.noChange }
        rest

section Again

def addedCost (selection : Selection) (input : Utxo) : Rat :=
  args.calculateFee encoding selection true -
    args.calculateFee encoding (selection.takeOut encoding input) true

/-- Dropped coins are offered back, largest first, at what they add to the coins kept. -/
def offerBack : List Utxo → List (AddressType × Option Nat) → List Utxo → List Utxo
  | economic, _, [] => economic
  | economic, refused, input :: rest =>
    if kindOf encoding input ∈ refused then offerBack economic refused rest
    else
      let kept := Selection.countAll encoding economic
      let added := args.calculateFee encoding (kept.count encoding input) true -
        args.calculateFee encoding kept true
      if added < input.value then offerBack (economic ++ [input]) refused rest
      else offerBack economic (kindOf encoding input :: refused) rest

def economicInputs (newInputs : List Utxo) : Option (List Utxo) :=
  let selection := Selection.countAll encoding newInputs
  let economic := newInputs.filter fun input => args.addedCost encoding selection input < input.value
  let dropped := newInputs.filter fun input => ¬ args.addedCost encoding selection input < input.value
  if economic = [] ∨ dropped = [] then none
  else
    let kept := args.offerBack encoding economic [] (dropped.insertionSort fun a b => b.value ≤ a.value)
    if kept.length = newInputs.length then none else some kept

end Again

inductive Pass
  | selected (inputs : List Utxo) (fee : Rat)
  | refused (message : String)
  | again (economic : List Utxo)

def consolidates : Bool := args.coinSelectPreference = .consolidate ∨ args.amountToSend = 0

def settle (state : TopUp) : Pass :=
  let amountToSend := args.amountToSend
  if state.newInputs = [] then .refused "Not enough funds"
  else if state.inputAmount < amountToSend + args.fee encoding state.newInputs then
    if state.inputAmount < amountToSend + args.noChangeFee encoding state.newInputs then
      match state.noChange with
      | none =>
        if args.consolidates then .refused "Not enough funds"
        else
          match args.economicInputs encoding state.newInputs with
          | none => .refused "Not enough funds"
          | some economic => .again economic
      | some (noChangeLength, noChangeAmount) =>
        .selected (state.newInputs.take noChangeLength) ((noChangeAmount : Rat) - amountToSend)
    else .selected state.newInputs ((state.inputAmount : Rat) - amountToSend)
  else .selected state.newInputs (args.fee encoding state.newInputs)

def pass (inputs : List Utxo) : Pass :=
  let amountToSend := args.amountToSend
  let inputs := args.sorted inputs
  if args.consolidates then args.settle encoding ⟨inputs, inputTotal inputs, none⟩
  else
    let (newInputs, oldInputs) := fill amountToSend 0 inputs
    if inputTotal newInputs < amountToSend ∨ newInputs = [] then .refused "Not enough funds."
    else args.settle encoding (args.topUp encoding ⟨newInputs, inputTotal newInputs, none⟩ oldInputs)

structure Selected where
  inputs : List Utxo
  fee : Rat

def Pass.finish (again : List Utxo → Except String Selected) : Pass → Except String Selected
  | .selected inputs fee => .ok ⟨inputs, fee⟩
  | .refused message => .error message
  | .again economic => again economic

/-- Each pass that is made again has fewer coins, so their number bounds the passes: see `selectFrom_eq`. -/
def selectWithin : Nat → List Utxo → Except String Selected
  | 0, inputs => (args.pass encoding inputs).finish fun _ => .error "Not enough funds"
  | passes + 1, inputs => (args.pass encoding inputs).finish (selectWithin passes)

def selectFrom (inputs : List Utxo) : Except String Selected :=
  args.selectWithin encoding inputs.length inputs

end SelectCoins

def selectCoins (args : SelectCoins) (inputs : List Utxo) : Except String SelectCoins.Selected :=
  if inputs = [] then .error "No inputs provided"
  else if args.outputs = [] then .error "No outputs provided"
  else args.selectFrom encoding inputs

namespace SelectCoins

variable {encoding} {args : SelectCoins} {inputs : List Utxo}

section Passes

theorem sorted_perm (args : SelectCoins) (inputs : List Utxo) : (args.sorted inputs).Perm inputs := by
  unfold sorted
  cases args.coinSelectPreference <;> exact List.perm_insertionSort _ _

variable {state : TopUp} {economic : List Utxo}

theorem settle_selected (unmarked : state.noChange = none) {taken : List Utxo} {fee : Rat}
    (settled : args.settle encoding state = .selected taken fee) : taken = state.newInputs := by
  unfold settle at settled
  rw [unmarked] at settled
  dsimp only at settled
  split_ifs at settled
  · split at settled <;> cases settled
  · cases settled
    rfl
  · cases settled
    rfl

theorem settle_again (settled : args.settle encoding state = .again economic) :
    args.consolidates = false ∧ args.economicInputs encoding state.newInputs = some economic := by
  unfold settle at settled
  dsimp only at settled
  split_ifs at settled with _ _ _ consolidates
  · split at settled <;> cases settled
  split at settled
  · split at settled
    · cases settled
    rename_i found
    cases settled
    exact ⟨by simpa using consolidates, found⟩
  · cases settled

theorem length_fill (amountToSend : Nat) (inputAmount : Nat) (inputs : List Utxo) :
    (fill amountToSend inputAmount inputs).1.length + (fill amountToSend inputAmount inputs).2.length =
      inputs.length := by
  induction inputs generalizing inputAmount with
  | nil => rfl
  | cons input rest ih =>
    unfold fill
    split
    · have := ih (inputAmount + input.value)
      simp only [List.length_cons]
      omega
    · have := ih inputAmount
      simp only [List.length_cons]
      omega

theorem length_topUp (state : TopUp) (oldInputs : List Utxo) :
    (args.topUp encoding state oldInputs).newInputs.length ≤ state.newInputs.length + oldInputs.length := by
  induction oldInputs generalizing state with
  | nil => exact le_rfl
  | cons input rest ih =>
    unfold topUp
    split
    · exact Nat.le_add_right _ _
    · refine (ih _).trans ?_
      simp only [List.length_append, List.length_cons, List.length_nil]
      omega

theorem length_offerBack (economic : List Utxo) (refused : List (AddressType × Option Nat)) (dropped : List Utxo) :
    (args.offerBack encoding economic refused dropped).length ≤ economic.length + dropped.length := by
  induction dropped generalizing economic refused with
  | nil => exact le_rfl
  | cons input rest ih =>
    unfold offerBack
    dsimp only
    split_ifs
    · exact (ih _ _).trans (by simp)
    · refine (ih _ _).trans ?_
      simp only [List.length_append, List.length_cons, List.length_nil]
      omega
    · exact (ih _ _).trans (by simp)

theorem length_economicInputs {newInputs economic : List Utxo}
    (found : args.economicInputs encoding newInputs = some economic) : economic.length < newInputs.length := by
  unfold economicInputs at found
  dsimp only at found
  split_ifs at found with none same
  cases found
  refine lt_of_le_of_ne ?_ same
  refine (length_offerBack _ _ _).trans (le_of_eq ?_)
  simp only [List.length_insertionSort, decide_not]
  exact (List.length_eq_length_filter_add _).symm

theorem length_of_again (passed : args.pass encoding inputs = .again economic) : economic.length < inputs.length := by
  have whole := (args.sorted_perm inputs).length_eq
  unfold pass at passed
  dsimp only at passed
  split_ifs at passed with consolidates short
  · obtain ⟨selects, -⟩ := settle_again passed
    rw [consolidates] at selects
    cases selects
  · have shorter := length_economicInputs (settle_again passed).2
    have parts := length_fill args.amountToSend 0 (args.sorted inputs)
    refine (shorter.trans_le (length_topUp _ _)).trans_le (le_of_eq ?_)
    rw [parts, whole]

theorem selectWithin_of_le {passes more : Nat} (enough : inputs.length ≤ passes) (le : passes ≤ more) :
    args.selectWithin encoding more inputs = args.selectWithin encoding passes inputs := by
  induction more generalizing inputs passes with
  | zero => rw [Nat.le_zero.mp le]
  | succ more ih =>
    cases passed : args.pass encoding inputs with
    | selected taken fee => cases passes <;> rw [selectWithin, selectWithin, passed] <;> rfl
    | refused message => cases passes <;> rw [selectWithin, selectWithin, passed] <;> rfl
    | again economic =>
      have fewer := length_of_again passed
      cases passes with
      | zero => omega
      | succ passes =>
        rw [selectWithin, selectWithin, passed]
        exact ih (by omega) (by omega)

theorem selectFrom_eq (inputs : List Utxo) :
    args.selectFrom encoding inputs = (args.pass encoding inputs).finish (args.selectFrom encoding) := by
  cases passed : args.pass encoding inputs with
  | selected taken fee => cases count : inputs.length <;> rw [selectFrom, count, selectWithin, passed] <;> rfl
  | refused message => cases count : inputs.length <;> rw [selectFrom, count, selectWithin, passed] <;> rfl
  | again economic =>
    have fewer := length_of_again passed
    cases count : inputs.length with
    | zero => omega
    | succ passes =>
      rw [selectFrom, count, selectWithin, passed]
      exact selectWithin_of_le le_rfl (by omega)

theorem selectFrom_consolidates (consolidates : args.consolidates = true) {selected : Selected}
    (found : args.selectFrom encoding inputs = .ok selected) : selected.inputs.Perm inputs := by
  rw [selectFrom_eq] at found
  cases passed : args.pass encoding inputs with
  | selected taken fee =>
    rw [passed] at found
    cases found
    unfold pass at passed
    rw [if_pos consolidates] at passed
    rw [settle_selected rfl passed]
    exact args.sorted_perm inputs
  | refused message =>
    rw [passed] at found
    cases found
  | again economic =>
    unfold pass at passed
    rw [if_pos consolidates] at passed
    obtain ⟨selects, -⟩ := settle_again passed
    rw [consolidates] at selects
    cases selects

end Passes

end SelectCoins

end Beignet.Onchain
