import Beignet.Data.Basic
import Beignet.Data.KeyedMap

namespace Beignet.InteractiveTx

open Beignet.Data

inductive TxState where
  | collecting
  | sentComplete
  | receivedComplete
  | complete
  | aborted
  deriving DecidableEq, Repr

structure TxInput where
  serialId : Nat
  prevTxid : Bytes
  prevOutputIndex : Nat
  sequence : Nat
  prevTx : Option Bytes := none
  prevTxVout : Option Nat := none
  isShared : Bool := false
  deriving DecidableEq, Repr

structure TxOutput where
  serialId : Nat
  amountSats : Nat
  scriptPubkey : Bytes
  deriving DecidableEq, Repr

def TxInput.prevTxLength (input : TxInput) : Nat := (input.prevTx.map List.length).getD 0

def dustLimitSats : Nat := 546
def maxInteractiveTxInputs : Nat := 252
def maxInteractiveTxOutputs : Nat := 252
def maxInteractiveTxMsgs : Nat := 4096
def maxInteractiveTxSequence : Nat := 0xfffffffd
def maxPeerPrevTxBytesPerSession : Nat := 1024 * 1024
def maxMoneySats : Nat := 2100000000000000

/-- `bitcoin.Transaction.fromBuffer`, read for the output scripts alone;
    nothing when the buffer does not parse. -/
abbrev ParseOutputs := Bytes → Option (List Bytes)

/-- A version opcode, then one push of 2 to 40 bytes that ends the script. -/
def isNativeSegwit (script : Bytes) : Bool :=
  match script with
  | version :: push :: program =>
    (version = 0 ∨ (0x51 ≤ version.val ∧ version.val ≤ 0x60)) ∧
      2 ≤ push.val ∧ push.val ≤ 40 ∧ program.length = push.val
  | _ => false

def validatePeerInputPrevTx (parse : ParseOutputs) (prevTx : Option Bytes) (prevTxVout : Nat) : Option String :=
  match prevTx with
  | none => some "tx_add_input is missing prev_tx"
  | some [] => some "tx_add_input is missing prev_tx"
  | some bytes =>
    match parse bytes with
    | none => some "tx_add_input prev_tx does not parse as a valid transaction"
    | some outs =>
      match outs[prevTxVout]? with
      | none =>
        let count := outs.length
        some s!"tx_add_input prev_tx_vout {prevTxVout} is out of range (prev_tx has {count} outputs)"
      | some script =>
        refuseIf (isNativeSegwit script = false)
          "tx_add_input spends a non-native-segwit output (txid malleable after signing)"

def ownParity (isInitiator : Bool) (serialId : Nat) : Bool := (serialId % 2 == 0) == isInitiator

variable (serialId : Nat) (inputs : List TxInput) (isInitiator : Bool) (weAreInitiator : Bool)
  (outputs : List TxOutput)

def validateSerialIdParity : Option String :=
  if isInitiator && serialId % 2 != 0 then some "Initiator must use even serial IDs"
  else if !isInitiator && serialId % 2 == 0 then some "Acceptor must use odd serial IDs"
  else none

def validatePeerSerialIdParity : Option String :=
  validateSerialIdParity serialId !weAreInitiator

theorem validateSerialIdParity_eq_none :
    validateSerialIdParity serialId isInitiator = none ↔ ownParity isInitiator serialId = true := by
  unfold validateSerialIdParity ownParity
  cases isInitiator <;> simp

theorem validatePeerSerialIdParity_eq_none :
    validatePeerSerialIdParity serialId weAreInitiator = none ↔ ownParity weAreInitiator serialId = false := by
  rw [validatePeerSerialIdParity, validateSerialIdParity_eq_none]
  unfold ownParity
  cases weAreInitiator <;> simp

def firstDuplicatePrevout : List (Bytes × Nat) → List TxInput → Option (Bytes × Nat)
  | _, [] => none
  | seen, input :: rest =>
    let prevout := (input.prevTxid, input.prevOutputIndex)
    if prevout ∈ seen then some prevout else firstDuplicatePrevout (prevout :: seen) rest

def checkDuplicatePrevouts : Option String :=
  (firstDuplicatePrevout [] inputs).map fun prevout =>
    let txid := hex prevout.1
    let index := prevout.2
    s!"Duplicate prevout: {txid}:{index}"

def checkDustOutputs (dustLimit : Nat) : Option String :=
  let dust := max dustLimit dustLimitSats
  outputs.findSome? fun output =>
    let amount := output.amountSats
    if amount < dust then some s!"Output amount {amount} below dust limit {dust}"
    else if maxMoneySats < amount then some s!"Output amount {amount} exceeds MAX_MONEY"
    else none

def validateInteractiveTx (dustLimit : Nat) : Option String :=
  let inputCount := inputs.length
  let outputCount := outputs.length
  firstRefusal [
    refuseIf (inputCount = 0) "Transaction must have at least one input",
    refuseIf (outputCount = 0) "Transaction must have at least one output",
    refuseIf (maxInteractiveTxInputs * 2 < inputCount)
      s!"Transaction has {inputCount} inputs, above the interactive-tx cap",
    refuseIf (maxInteractiveTxOutputs * 2 < outputCount)
      s!"Transaction has {outputCount} outputs, above the interactive-tx cap",
    checkDuplicatePrevouts inputs,
    checkDustOutputs outputs dustLimit]

end Beignet.InteractiveTx
