import Beignet.Onchain.Outbids

namespace Beignet.Onchain

open Beignet.Data
open Target (address? value)
open SendTransaction (stageOutput paymentTargets)

variable {encoding : Encoding} {wallet : Wallet} {owns : String → Bool} {fetched : Fetched} {rbf : RbfData}
  {data : SendTransaction}

section Original

def Vout.payment? (vout : Vout) : Option Target :=
  (voutAddress vout).map fun address => .pay address vout.value

def Vout.payloads (vout : Vout) : List Bytes :=
  match voutAddress vout with
  | some _ => []
  | none => vout.pushes.getD []

namespace Fetched

variable (fetched : Fetched)

def payments (changeAddress : String) : List Target :=
  (fetched.vouts.filterMap Vout.payment?).filter fun target => target.address? ≠ some changeAddress

def payloads : List Bytes := fetched.vouts.flatMap Vout.payloads

def inputValue : Nat :=
  (fetched.vins.map fun
    | .coinbase => 0
    | .spend txid vout => ((fetched.prevout txid vout).map Vout.value).getD 0).sum

def outputValue : Nat := (fetched.vouts.map Vout.value).sum

end Fetched

def Utxo.toVin (utxo : Utxo) : Vin := .spend utxo.txHash utxo.txPos

def Output.toTarget (output : Output) : Target := .pay output.address output.value

structure RbfData.Reads (encoding : Encoding) (fetched : Fetched) (rbf : RbfData) : Prop where
  inputs : rbf.inputs.map Utxo.toVin = fetched.vins
  inputValue : inputTotal rbf.inputs = fetched.inputValue
  outputs : rbf.outputs.map Output.toTarget = fetched.vouts.filterMap Vout.payment?
  addressed : ∀ output ∈ rbf.outputs, output.address ≠ ""
  message : fetched.payloads = [] ∧ rbf.message = [] ∨
    fetched.payloads = [rbf.message] ∧ (createOpReturnScript encoding rbf.message).isSome
  fee : fetched.outputValue + rbf.fee = fetched.inputValue

variable {scan after : OutputScan}

theorem readInput_ok {vin : Vin} {utxo : Utxo} (read : readInput owns fetched vin = .ok utxo) :
    utxo.toVin = vin ∧ ∃ txid vout prevout, vin = .spend txid vout ∧
      fetched.prevout txid vout = some prevout ∧ utxo.value = prevout.value := by
  unfold readInput at read
  split at read
  · cases read
  rename_i txid vout
  split at read
  · cases read
  rename_i prevout found
  dsimp only at read
  split_ifs at read
  cases read
  exact ⟨rfl, txid, vout, prevout, rfl, found, rfl⟩

theorem readInputs_ok {vins : List Vin} {inputs : List Utxo}
    (read : vins.mapM (readInput owns fetched) = .ok inputs) :
    inputs.map Utxo.toVin = vins ∧ inputTotal inputs = ({ fetched with vins := vins } : Fetched).inputValue := by
  induction vins generalizing inputs with
  | nil =>
    cases read
    exact ⟨rfl, rfl⟩
  | cons vin rest ih =>
    simp only [List.mapM_cons, bind_eq_ok_iff, pure, Except.pure, Except.ok.injEq] at read
    obtain ⟨utxo, first, utxos, others, rfl⟩ := read
    obtain ⟨same, txid, vout, prevout, rfl, found, value⟩ := readInput_ok first
    obtain ⟨tail, total⟩ := ih others
    refine ⟨by rw [List.map_cons, same, tail], ?_⟩
    rw [inputTotal, List.map_cons, List.sum_cons, value]
    simp only [Fetched.inputValue, Fetched.prevout, List.map_cons, List.sum_cons] at total found ⊢
    rw [found, Option.map_some, Option.getD_some, ← total]
    rfl

structure OutputScan.Reads (vouts : List Vout) (scan : OutputScan) : Prop where
  outputs : scan.outputs.map Output.toTarget = vouts.filterMap Vout.payment?
  addressed : ∀ output ∈ scan.outputs, output.address ≠ ""
  messages : scan.messages = vouts.flatMap Vout.payloads
  total : scan.outputTotal = (vouts.map Vout.value).sum

theorem readOutput_ok {vouts : List Vout} {vout : Vout} (before : scan.Reads vouts)
    (read : readOutput owns scan vout = .ok after) : after.Reads (vouts ++ [vout]) := by
  unfold readOutput at read
  split at read
  · rename_i silent _
    split at read
    · cases read
    · rename_i pushes decompiled
      cases read
      refine ⟨?_, before.addressed, ?_, ?_⟩
      · simp [before.outputs, Vout.payment?, silent]
      · simp [before.messages, Vout.payloads, silent, decompiled]
      · simp [before.total]
  · cases read
  · rename_i address pays
    split at read
    · cases read
    · rename_i named
      cases read
      refine ⟨?_, ?_, ?_, ?_⟩
      · simp [before.outputs, Vout.payment?, pays, Output.toTarget]
      · intro output member
        rcases List.mem_append.mp member with earlier | last
        · exact before.addressed output earlier
        · rw [List.mem_singleton.mp last]
          exact named
      · simp [before.messages, Vout.payloads, pays]
      · simp [before.total]

theorem readOutputs_ok {vouts rest : List Vout} (before : scan.Reads vouts)
    (read : rest.foldlM (readOutput owns) scan = .ok after) : after.Reads (vouts ++ rest) := by
  induction rest generalizing vouts scan with
  | nil =>
    cases read
    rwa [List.append_nil]
  | cons vout rest ih =>
    simp only [List.foldlM_cons, bind_eq_ok_iff] at read
    obtain ⟨next, first, others⟩ := read
    have last := ih (readOutput_ok before first) others
    rwa [List.append_assoc] at last

theorem fetchRbfData_ok (fetches : fetchRbfData encoding owns fetched = .ok rbf) : rbf.Reads encoding fetched := by
  unfold fetchRbfData at fetches
  split_ifs at fetches
  simp only [bind_eq_ok_iff] at fetches
  obtain ⟨inputs, readIns, scan, readOuts, checked⟩ := fetches
  obtain ⟨vins, total⟩ := readInputs_ok readIns
  have scanned : scan.Reads ([] ++ fetched.vouts) := readOutputs_ok ⟨rfl, by simp, rfl, rfl⟩ readOuts
  rw [List.nil_append] at scanned
  split_ifs at checked with change many script short
  cases checked
  have payloads : scan.messages = fetched.payloads := scanned.messages
  have paid : scan.outputTotal = fetched.outputValue := scanned.total
  rw [payloads] at many script
  refine ⟨vins, total, scanned.outputs, scanned.addressed, ?_, ?_⟩
  · rw [payloads]
    match fetched.payloads, many, script with
    | [], _, _ => exact Or.inl ⟨rfl, rfl⟩
    | [payload], _, script =>
      simp only [ne_eq, List.cons_ne_nil, not_false_eq_true, true_and, not_or, Bool.not_eq_false] at script
      exact Or.inr ⟨rfl, script.2⟩
    | _ :: _ :: _, many, _ => simp at many
  · have spent : inputTotal inputs = fetched.inputValue := total
    dsimp only
    omega

end Original

open Output (toTarget)

section Staged

variable {rate : Rat}

theorem stage_numbered (outputs : List Output) (staged : List Output) :
    ((outputs.zipIdx staged.length).map fun (output, index) => { output with index := index }).foldl
        stageOutput staged =
      staged ++ (outputs.zipIdx staged.length).map fun (output, index) => { output with index := index } := by
  induction outputs generalizing staged with
  | nil => simp
  | cons output rest ih =>
    have step : stageOutput staged { output with index := staged.length } =
        staged ++ [{ output with index := staged.length }] := if_neg (lt_irrefl _)
    have next := ih (staged ++ [{ output with index := staged.length }])
    rw [List.length_append, List.length_singleton] at next
    simp only [List.zipIdx_cons, List.map_cons, List.foldl_cons]
    rw [step, next, List.append_assoc, List.singleton_append]

theorem RbfData.stage_payments (rbf : RbfData) : rbf.payments.foldl stageOutput [] = rbf.payments :=
  stage_numbered _ []

theorem getTotalFee_congr {first second : SendTransaction} (outputs : first.outputs = second.outputs)
    (inputs : first.inputs = second.inputs) (changeAddress : first.changeAddress = second.changeAddress)
    (max : first.max = second.max) (rate : Rat) (message : Bytes) (preference : CoinSelectPreference)
    (generatesChange : Bool) : getTotalFee encoding wallet rate message first preference generatesChange =
      getTotalFee encoding wallet rate message second preference generatesChange := by
  cases first
  cases second
  dsimp only at outputs inputs changeAddress max
  subst outputs inputs changeAddress max
  rfl

structure RbfData.Staged (encoding : Encoding) (wallet : Wallet) (rbf : RbfData) (data : SendTransaction) :
    Prop where
  outputs : data.outputs = rbf.payments
  inputs : data.inputs = rbf.inputs
  changeAddress : data.changeAddress = rbf.changeAddress
  message : data.message = rbf.message
  isRbf : data.boostType = .rbf
  notMax : data.max = false
  priced : data.fee = rbf.priceAt encoding wallet data.satsPerByte
  sized : rbf.priceAt encoding wallet 2 ≠ 0
  floor : rbf.relayFloor encoding wallet ≤ data.minFee
  atFloor : data.minFee ≤ data.satsPerByte
  leftover : rbf.fee + rbf.noChangeVsize encoding wallet ≤ leftFor rbf.toSend

theorem RbfData.leftFor_toSend (rbf : RbfData) :
    leftFor rbf.toSend = inputTotal rbf.inputs - outputTotal rbf.payments := rfl

theorem setupRbf_ok (setup : setupRbf encoding wallet rbf = .ok data) :
    wallet.pricingWallet.changeAddress ≠ "" ∧ rbf.Staged encoding wallet data := by
  unfold setupRbf at setup
  simp only [bind_eq_ok_iff] at setup
  obtain ⟨empty, ready, setup⟩ := setup
  obtain ⟨notMax, -, -, changeAddress, outputs⟩ := setupTransaction_ok ready
  split_ifs at setup with refused
  cases setup
  simp only [not_or, not_lt, not_le] at refused
  obtain ⟨sized, covered, -, outbids⟩ := refused
  have present : wallet.pricingWallet.changeAddress ≠ "" := by
    unfold Wallet.pricingWallet
    rwa [if_pos changeAddress]
  refine ⟨present, ?_, rfl, rfl, rfl, rfl, notMax, rfl, sized, ?_, ?_, ?_⟩
  · rw [outputs]
    exact rbf.stage_payments
  · exact le_max_right _ _
  · exact le_max_right _ _
  · rw [incrementalRelayFee, Nat.cast_one, mul_one] at outbids
    apply outbids.trans
    have left : rbf.priceAt encoding wallet (max wallet.feeEstimates.fast
        (max wallet.feeEstimates.slow (rbf.relayFloor encoding wallet))) ≤ leftFor rbf.toSend := by
      rw [rbf.leftFor_toSend]
      omega
    exact_mod_cast left

theorem updateFee_staged {fee : Int} {after : SendTransaction} (staged : rbf.Staged encoding wallet data)
    (updated : data.updateFee encoding wallet rate = .ok (fee, after)) : rbf.Staged encoding wallet after := by
  have isRbf := staged.isRbf
  have notMax := staged.notMax
  unfold SendTransaction.updateFee at updated
  simp only [isRbf, if_true, notMax, Bool.false_eq_true, if_false, true_and] at updated
  split_ifs at updated with slow
  cases updated
  refine { staged with isRbf := rfl, notMax := rfl, priced := ?_, atFloor := not_lt.mp slow }
  rw [staged.message]
  exact getTotalFee_congr staged.outputs staged.inputs staged.changeAddress staged.notMax _ _ _ _

theorem updateFees_staged (rates : List Rat) (staged : rbf.Staged encoding wallet data) :
    rbf.Staged encoding wallet (updateFees encoding wallet data rates) := by
  induction rates generalizing data with
  | nil => exact staged
  | cons rate rest ih =>
    rw [updateFees, List.foldl_cons]
    apply ih
    cases updated : data.updateFee encoding wallet rate with
    | error message => exact staged
    | ok result => exact updateFee_staged staged updated

theorem RbfData.noChangeVsize_eq (rbf : RbfData) :
    rbf.noChangeVsize encoding wallet = wallet.pricingWallet.pricedSize encoding rbf.inputs
      (rbf.payments.map Output.address) rbf.message false := by
  have priced : getTotalFee encoding wallet 2 rbf.message { rbf.toSend with changeAddress := "" } .consolidate
      false = ⌈(wallet.pricingWallet.pricedSize encoding rbf.inputs (rbf.payments.map Output.address) rbf.message
        false : Rat) * 2⌉ := by
    unfold getTotalFee PricingWallet.priceTransaction
    rfl
  have whole : ⌈(wallet.pricingWallet.pricedSize encoding rbf.inputs (rbf.payments.map Output.address)
      rbf.message false : Rat) * 2⌉ = (wallet.pricingWallet.pricedSize encoding rbf.inputs
      (rbf.payments.map Output.address) rbf.message false * 2 : Nat) := by
    rw [← Int.ceil_natCast (R := Rat)]
    push_cast
    rfl
  rw [RbfData.noChangeVsize, priced, whole]
  push_cast
  ring

end Staged

section Outcome

variable {psbt : Psbt} {builder : Builder} {change : List Target} {message : Bytes} {outputs : List Target}
  (second : Nat) (payload : Bytes)

/-- The replacement spends the inputs of the original, keeps its payments and its payload, and outbids it. -/
structure Replaces (encoding : Encoding) (wallet : Wallet) (fetched : Fetched) (rbf : RbfData) (psbt : Psbt) :
    Prop where
  conflicts : psbt.inputs.map Utxo.toVin = fetched.vins
  pays : (fetched.payments rbf.changeAddress).Subperm psbt.outputs
  carries : ∀ payload ∈ fetched.payloads, .opReturn payload ∈ psbt.outputs
  outbids : (fetched.inputValue - fetched.outputValue : Int) +
      incrementalRelayFee * psbt.byteCount encoding wallet.multisigInfo rbf.message ≤
    inputTotal psbt.inputs - psbt.outputValue

/-- What a replacement can rebuild: payments that have a value and payloads that need no padding. -/
structure Fetched.Rebuildable (fetched : Fetched) (changeAddress : String) : Prop where
  valued : ∀ target ∈ fetched.payments changeAddress, 0 < target.value
  unpadded : ∀ payload ∈ fetched.payloads, minOpReturnPayloadBytes ≤ payload.length

theorem payments_toTarget (read : rbf.Reads encoding fetched) :
    rbf.payments.map toTarget = fetched.payments rbf.changeAddress := by
  have numbered : ∀ outputs : List Output, (outputs.zipIdx.map fun (output, index) =>
      { output with index := index }).map toTarget = outputs.map toTarget := by
    intro outputs
    rw [List.map_map]
    calc outputs.zipIdx.map (toTarget ∘ fun (output, index) => { output with index := index })
        = (outputs.zipIdx.map Prod.fst).map toTarget := by rw [List.map_map]; rfl
      _ = outputs.map toTarget := by rw [List.zipIdx_map_fst]
  unfold RbfData.payments Fetched.payments
  rw [numbered, ← read.outputs, List.filter_map]
  simp [Function.comp_def, toTarget, address?]

theorem payments_addressed (read : rbf.Reads encoding fetched) : ∀ output ∈ rbf.payments, output.address ≠ "" := by
  intro output member
  have target : output.toTarget ∈ fetched.payments rbf.changeAddress := by
    rw [← payments_toTarget read]
    exact List.mem_map_of_mem member
  unfold Fetched.payments at target
  rw [← read.outputs] at target
  obtain ⟨original, present, same⟩ := List.mem_map.mp (List.mem_of_mem_filter target)
  rw [← (Target.pay.inj same).1]
  exact read.addressed original present

def RbfData.BuildsChange (encoding : Encoding) (wallet : Wallet) (rbf : RbfData) (fee : Int)
    (change : List Target) : Prop :=
  change = [] ∨ ∃ address, change = [.pay address (leftFor rbf.toSend - fee).toNat] ∧ address ≠ "" ∧
    encoding.getAddressInfo address = encoding.getAddressInfo (changeFor wallet rbf.toSend) ∧
    (getDustThreshold encoding (changeFor wallet rbf.toSend) : Int) ≤ leftFor rbf.toSend - fee

theorem changeTargets_cases (gives : wallet.GivesChange encoding)
    (staged : rbf.Staged encoding wallet data) (changes : data.changeTargets encoding wallet = .ok change) :
    rbf.BuildsChange encoding wallet data.fee change := by
  have left : (inputTotal data.inputs : Int) - (outputTotal data.outputs + data.fee) =
      leftFor rbf.toSend - data.fee := by
    rw [staged.inputs, staged.outputs, rbf.leftFor_toSend]
    omega
  have decided : ∀ address, address ≠ "" →
      encoding.getAddressInfo address = encoding.getAddressInfo (changeFor wallet rbf.toSend) →
      getDustThreshold encoding address = getDustThreshold encoding (changeFor wallet rbf.toSend) →
      change = (if (getDustThreshold encoding address : Int) ≤ leftFor rbf.toSend - data.fee then
        [.pay address (leftFor rbf.toSend - data.fee).toNat] else []) →
      rbf.BuildsChange encoding wallet data.fee change := by
    intro address present type dust built
    split_ifs at built with kept
    · exact Or.inr ⟨address, built, present, type, dust ▸ kept⟩
    · exact Or.inl built
  unfold SendTransaction.changeTargets at changes
  dsimp only at changes
  rw [left, staged.changeAddress] at changes
  by_cases unstaged : rbf.changeAddress = ""
  · have priced : changeFor wallet rbf.toSend = wallet.pricingWallet.changeAddress := if_neg (not_not.mpr unstaged)
    rw [if_neg (not_not.mpr unstaged)] at changes
    split_ifs at changes
    · cases generated : wallet.getChangeAddress with
      | error message =>
        rw [generated] at changes
        cases changes
      | ok address =>
        obtain ⟨present, type, dust⟩ := gives.built address generated
        rw [generated, Except.map, Except.ok.injEq] at changes
        exact decided address present (by rw [priced, type, gives.pricedType]) (by rw [priced, dust]) changes.symm
    · cases changes
      exact Or.inl rfl
  · have priced : changeFor wallet rbf.toSend = rbf.changeAddress := if_pos unstaged
    rw [if_pos unstaged, Except.ok.injEq] at changes
    exact decided rbf.changeAddress unstaged (by rw [priced]) (by rw [priced]) changes.symm

theorem byteCount_le {addresses : List String}
    (counted : ∀ type, constructByteCountParam encoding (psbt.outputs.filterMap address?) type ≤
      constructByteCountParam encoding addresses type) (message : Bytes) :
    psbt.byteCount encoding wallet.multisigInfo message ≤
      wallet.pricingWallet.pricedSize encoding psbt.inputs addresses message false := by
  unfold Psbt.byteCount PricingWallet.pricedSize
  apply Nat.add_le_add_right
  apply getByteCount_mono
  intro type
  apply (counted type).trans
  unfold PricingWallet.outputParam
  by_cases none : addresses = []
  · simp only [none, if_true, Bool.false_eq_true, if_false, Counts.add]
    split <;> omega
  · simp [none]

theorem value_paymentTargets (addressed : ∀ output ∈ data.outputs, output.address ≠ "") :
    (data.paymentTargets.map value).sum = outputTotal data.outputs := by
  unfold paymentTargets outputTotal
  revert addressed
  induction data.outputs with
  | nil => intro _; rfl
  | cons output rest ih =>
    intro addressed
    have tail := ih fun output member => addressed output (List.mem_cons_of_mem _ member)
    have present := addressed output List.mem_cons_self
    by_cases free : output.value = 0
    · rw [List.filter_cons_of_neg (by simp [free]), tail, List.map_cons, List.sum_cons, free, Nat.zero_add]
    · rw [List.filter_cons_of_pos (by simp [free, present]), List.map_cons, List.map_cons, List.map_cons,
        List.sum_cons, List.sum_cons, tail, value]

theorem address_paymentTargets :
    (data.paymentTargets.filterMap address?).Sublist (data.outputs.map Output.address) := by
  have kept : data.paymentTargets.filterMap address? =
      (data.outputs.filter fun output => output.address ≠ "" ∧ output.value ≠ 0).map Output.address := by
    unfold paymentTargets
    rw [List.filterMap_map]
    exact congrFun List.filterMap_eq_map _
  rw [kept]
  exact List.filter_sublist.map Output.address

theorem staged_outbids (gives : wallet.GivesChange encoding) (staged : rbf.Staged encoding wallet data)
    (addressed : ∀ output ∈ rbf.payments, output.address ≠ "")
    (built : data.createPsbtFromTransactionData encoding wallet builder = .ok psbt) :
    (rbf.fee + psbt.byteCount encoding wallet.multisigInfo rbf.message : Int) ≤
      inputTotal psbt.inputs - psbt.outputValue := by
  obtain ⟨covered, inputs, change, changes, outputs⟩ := createPsbt_ok built
  have paid : psbt.outputValue = outputTotal rbf.payments + (change.map value).sum := by
    unfold Psbt.outputValue
    rw [(outputs.map value).sum_eq, List.map_append, List.map_append, List.sum_append, List.sum_append,
      value_messageTargets, value_paymentTargets (staged.outputs ▸ addressed), staged.outputs, Nat.add_zero]
  have counted : ∀ type, constructByteCountParam encoding (psbt.outputs.filterMap address?) type ≤
      constructByteCountParam encoding (rbf.payments.map Output.address ++ change.filterMap address?)
        type := by
    intro type
    rw [constructByteCountParam_apply, constructByteCountParam_apply, (outputs.filterMap address?).countP_eq,
      List.filterMap_append, List.filterMap_append, address_messageTargets, List.append_nil, ← staged.outputs]
    exact (address_paymentTargets.append (List.Sublist.refl _)).countP_le
  have left := rbf.leftFor_toSend
  rcases changeTargets_cases gives staged changes with rfl | ⟨address, rfl, present, type, kept⟩
  · -- All that is left goes to the fee, which was checked when the replacement was set up.
    have size : psbt.byteCount encoding wallet.multisigInfo rbf.message ≤ _ := byteCount_le counted rbf.message
    have leftover := staged.leftover
    rw [rbf.noChangeVsize_eq] at leftover
    rw [inputs, staged.inputs, List.filterMap_nil, List.append_nil] at size
    have enough : (rbf.fee + wallet.pricingWallet.pricedSize encoding rbf.inputs
        (rbf.payments.map Output.address) rbf.message false : Int) ≤ leftFor rbf.toSend := by
      exact_mod_cast leftover
    rw [paid, inputs, staged.inputs, List.map_nil, List.sum_nil]
    omega
  · have priced : data.fee = bumpFee encoding wallet rbf.toSend data.satsPerByte := staged.priced
    have floor := staged.floor.trans staged.atFloor
    have outbid : (rbf.fee + changedSize encoding wallet rbf.toSend : Int) ≤ _ :=
      outbids_of_kept gives rfl staged.sized floor (priced ▸ kept)
    have same : ∀ type, constructByteCountParam encoding (psbt.outputs.filterMap address?) type ≤
        constructByteCountParam encoding (rbf.payments.map Output.address ++ [changeFor wallet rbf.toSend])
          type := by
      intro kind
      apply (counted kind).trans
      rw [constructByteCountParam_apply, constructByteCountParam_apply, List.countP_append, List.countP_append]
      simp [address?, present, type, changeFor_ne gives]
    have size : psbt.byteCount encoding wallet.multisigInfo rbf.message ≤ _ := byteCount_le same rbf.message
    rw [inputs, staged.inputs] at size
    have changed : wallet.pricingWallet.pricedSize encoding rbf.inputs
        (rbf.payments.map Output.address ++ [changeFor wallet rbf.toSend]) rbf.message false =
        changedSize encoding wallet rbf.toSend := rfl
    have dust := getDustThreshold_pos encoding (changeFor wallet rbf.toSend)
    rw [paid, inputs, staged.inputs, List.map_singleton, List.sum_singleton, value]
    omega

theorem paymentTargets_staged (staged : rbf.Staged encoding wallet data)
    (addressed : ∀ output ∈ rbf.payments, output.address ≠ "") :
    data.paymentTargets = (rbf.payments.map toTarget).filter fun target => target.value ≠ 0 := by
  unfold paymentTargets
  rw [staged.outputs, List.filter_map]
  congr 1
  apply List.filter_congr
  intro output member
  by_cases free : output.value = 0
  · simp [free, toTarget, value]
  · simp [free, addressed output member, toTarget, value]

theorem mem_messageTargets {target : Target} : target ∈ messageTargets encoding message ↔
      ∃ payload, createOpReturnScript encoding message = some payload ∧ target = .opReturn payload := by
  unfold messageTargets
  cases createOpReturnScript encoding message <;> simp

theorem createOpReturnScript_some {message payload : Bytes}
    (script : createOpReturnScript encoding message = some payload) : payload = padPayload message := by
  unfold createOpReturnScript at script
  split_ifs at script
  exact (Option.some.inj script).symm

theorem padPayload_eq_self {payload : Bytes} :
    padPayload payload = payload ↔ minOpReturnPayloadBytes ≤ payload.length := by
  unfold padPayload
  rw [List.append_right_eq_self, List.replicate_eq_nil_iff]
  omega

theorem pays_iff {original : List Target}
    (payments : ∀ target ∈ original, ∃ address value, target = .pay address value)
    (changed : ∀ target ∈ change, 0 < target.value)
    (built : outputs.Perm (original.filter (fun target => target.value ≠ 0) ++ change ++
      messageTargets encoding message)) : original.Subperm outputs ↔ ∀ target ∈ original, 0 < target.value := by
  constructor
  · intro kept target member
    have present := built.subset (kept.subset member)
    rcases List.mem_append.mp present with present | present
    · rcases List.mem_append.mp present with present | present
      · exact Nat.pos_of_ne_zero (by simpa using (List.mem_filter.mp present).2)
      · exact changed target present
    · obtain ⟨payload, -, rfl⟩ := mem_messageTargets.mp present
      obtain ⟨_, _, ⟨⟩⟩ := payments _ member
  · intro valued
    have all : original.filter (fun target => target.value ≠ 0) = original := by
      rw [List.filter_eq_self]
      intro target member
      simp [(valued target member).ne']
    rw [all, List.append_assoc] at built
    exact (List.sublist_append_left original _).subperm.trans built.symm.subperm

theorem carries_iff {payments : List Target} (paid : ∀ target ∈ payments, target.payload? = none)
    (built : outputs.Perm (payments ++ messageTargets encoding message))
    (script : (createOpReturnScript encoding message).isSome) :
    .opReturn message ∈ outputs ↔ minOpReturnPayloadBytes ≤ message.length := by
  obtain ⟨payload, script⟩ := Option.isSome_iff_exists.mp script
  have padded := createOpReturnScript_some script
  rw [built.mem_iff, List.mem_append, mem_messageTargets, ← padPayload_eq_self, ← padded]
  constructor
  · rintro (payment | ⟨built, scripted, same⟩)
    · cases paid _ payment
    · rw [script] at scripted
      cases scripted
      exact (Target.opReturn.inj same).symm
  · intro same
    exact Or.inr ⟨payload, script, by rw [same]⟩

/-- A replacement that is set up from what was fetched and repriced any number of times: it conflicts with the
    original and outbids it, and it keeps the payments and the payload of those that it can rebuild. -/
theorem replaces_iff_rebuildable {rates : List Rat} (typed : wallet.TypedChange encoding)
    (fetches : fetchRbfData encoding owns fetched = .ok rbf) (setup : setupRbf encoding wallet rbf = .ok data)
    (built : (updateFees encoding wallet data rates).createPsbtFromTransactionData encoding wallet builder =
      .ok psbt) :
    Replaces encoding wallet fetched rbf psbt ↔ fetched.Rebuildable rbf.changeAddress := by
  have read := fetchRbfData_ok fetches
  obtain ⟨priced, ready⟩ := setupRbf_ok setup
  have gives : wallet.GivesChange encoding := ⟨typed, priced⟩
  have staged := updateFees_staged rates ready
  have addressed := payments_addressed read
  have outbids := staged_outbids gives staged addressed built
  obtain ⟨-, inputs, change, changes, outputs⟩ := createPsbt_ok built
  rw [paymentTargets_staged staged addressed, payments_toTarget read, staged.message] at outputs
  have changed : ∀ target ∈ change, 0 < target.value ∧ target.payload? = none := by
    have dust := getDustThreshold_pos encoding (changeFor wallet rbf.toSend)
    rcases changeTargets_cases gives staged changes with rfl | ⟨address, rfl, -, -, kept⟩
    · simp
    · simp only [List.mem_singleton, forall_eq, Target.value, Target.payload?, and_true]
      omega
  have payments : ∀ target ∈ fetched.payments rbf.changeAddress, ∃ address value, target = .pay address value := by
    rw [← payments_toTarget read]
    intro target member
    obtain ⟨output, -, rfl⟩ := List.mem_map.mp member
    exact ⟨_, _, rfl⟩
  have pays := pays_iff payments (fun target member => (changed target member).1) outputs
  have carries : (∀ payload ∈ fetched.payloads, .opReturn payload ∈ psbt.outputs) ↔
      ∀ payload ∈ fetched.payloads, minOpReturnPayloadBytes ≤ payload.length := by
    rcases read.message with ⟨none, -⟩ | ⟨one, script⟩
    · simp [none]
    · rw [one, List.forall_mem_singleton, List.forall_mem_singleton]
      apply carries_iff _ outputs script
      intro target member
      rcases List.mem_append.mp member with member | member
      · obtain ⟨_, _, rfl⟩ := payments _ (List.mem_of_mem_filter member)
        rfl
      · exact (changed target member).2
  constructor
  · intro replaces
    exact ⟨pays.mp replaces.pays, carries.mp replaces.carries⟩
  · intro rebuildable
    refine ⟨?_, pays.mpr rebuildable.valued, carries.mpr rebuildable.unpadded, ?_⟩
    · rw [inputs, staged.inputs, read.inputs]
    · have fee := read.fee
      rw [incrementalRelayFee]
      omega

def originalPaying : Fetched where
  confirmations := 0
  vins := [.spend "a" 0]
  vouts :=
    [⟨30000, none, some "payee", false, none⟩, ⟨second, none, some "second", false, none⟩,
      ⟨0, none, none, true, some [payload]⟩, ⟨29800 - second, none, some "change", false, none⟩]
  parents txid := if txid = "a" then some [⟨60000, none, some "coin", false, none⟩] else none

def ownsCoin (address : String) : Bool := address = "coin" ∨ address = "change"

def originalData : RbfData where
  changeAddress := "change"
  inputs := [⟨"a", 0, "coin", 60000, some 0, none⟩]
  outputs := [⟨"payee", 30000, 0⟩, ⟨"second", second, 1⟩, ⟨"change", 29800 - second, 2⟩]
  fee := 200
  message := payload

def replacementSend (rate : Nat) : SendTransaction where
  outputs := [⟨"payee", 30000, 0⟩, ⟨"second", second, 1⟩]
  inputs := [⟨"a", 0, "coin", 60000, some 0, none⟩]
  changeAddress := "change"
  fee := 188 * rate
  satsPerByte := rate
  message := payload
  rbf := true
  boostType := .rbf
  minFee := 3
  max := false

theorem twoCoinWallet_typedChange : twoCoinWallet.TypedChange segwitEncoding where
  pricedType := rfl
  built := by
    intro address given
    cases given
    exact ⟨by decide, rfl, rfl⟩

def replacement : Psbt where
  inputs := [⟨"a", 0, "coin", 60000, some 0, none⟩]
  outputs := [.pay "payee" 30000, .pay "second" 4800, .pay "change" 24448, .opReturn [104, 101, 108, 108, 111]]

theorem replaces_iff_rebuildable_hello :
    Replaces segwitEncoding twoCoinWallet (originalPaying 4800 [104, 101, 108, 108, 111])
      (originalData 4800 [104, 101, 108, 108, 111]) replacement := by
  have fetches : fetchRbfData segwitEncoding ownsCoin (originalPaying 4800 [104, 101, 108, 108, 111]) =
      .ok (originalData 4800 [104, 101, 108, 108, 111]) := by decide
  have setup : setupRbf segwitEncoding twoCoinWallet (originalData 4800 [104, 101, 108, 108, 111]) =
      .ok (replacementSend 4800 [104, 101, 108, 108, 111] 3) := by decide +kernel
  have built : (updateFees segwitEncoding twoCoinWallet (replacementSend 4800 [104, 101, 108, 108, 111] 3)
      [2, 4]).createPsbtFromTransactionData segwitEncoding twoCoinWallet plainBuilder = .ok replacement := by
    decide +kernel
  apply (replaces_iff_rebuildable twoCoinWallet_typedChange fetches setup built).mpr
  exact ⟨by decide, by decide⟩

def padded : Psbt where
  inputs := [⟨"a", 0, "coin", 60000, some 0, none⟩]
  outputs := [.pay "payee" 30000, .pay "change" 29436, .opReturn [97, 98, 99, 32, 32]]

/-- A payload of three bytes is padded and a payment without a value is left out. -/
theorem short_payload_and_empty_payment_lost :
    fetchRbfData segwitEncoding ownsCoin (originalPaying 0 [97, 98, 99]) = .ok (originalData 0 [97, 98, 99]) ∧
    setupRbf segwitEncoding twoCoinWallet (originalData 0 [97, 98, 99]) = .ok (replacementSend 0 [97, 98, 99] 3) ∧
    (updateFees segwitEncoding twoCoinWallet (replacementSend 0 [97, 98, 99] 3)
      []).createPsbtFromTransactionData segwitEncoding twoCoinWallet plainBuilder = .ok padded ∧
    twoCoinWallet.TypedChange segwitEncoding ∧
    (.opReturn [97, 98, 99] ∉ padded.outputs ∧ .pay "second" 0 ∉ padded.outputs) ∧
    ¬ Replaces segwitEncoding twoCoinWallet (originalPaying 0 [97, 98, 99]) (originalData 0 [97, 98, 99]) padded := by
  have lost : .opReturn [97, 98, 99] ∉ padded.outputs := by decide
  refine ⟨by decide, by decide +kernel, by decide, twoCoinWallet_typedChange, ⟨lost, by decide⟩, ?_⟩
  intro replaces
  exact lost (replaces.carries [97, 98, 99] (by decide))

end Outcome

end Beignet.Onchain
