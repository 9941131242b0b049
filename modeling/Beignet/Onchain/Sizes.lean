import Beignet.Data.BigEndian

namespace Beignet.Onchain

open Beignet.Data

inductive AddressType
  | p2wpkh
  | p2sh
  | p2pkh
  | p2wsh
  | p2tr
  deriving DecidableEq, Repr

/-- What the libraries say of addresses and texts: the type of an address, whether it is valid, the size of the
    witness program of a bech32 address, whether a base58 address is one of a script, and whether a text is blank
    or is UTF-8. -/
structure Encoding where
  getAddressInfo : String → AddressType
  validateAddress : String → Bool
  fromBech32 : String → Option Nat
  fromBase58Check : String → Option Bool
  isBlank : Bytes → Bool
  isUtf8 : Bytes → Bool
  validateAddress_empty : validateAddress "" = false

structure MultisigWeights where
  threshold : Nat
  totalCosigners : Nat
  deriving DecidableEq, Repr

def Counts := AddressType → Nat

namespace Counts

def zero : Counts := fun _ => 0

def add (counts : Counts) (type : AddressType) (number : Nat) : Counts :=
  fun other => if other = type then counts other + number else counts other

def remove (counts : Counts) (type : AddressType) : Counts :=
  fun other => if other = type then counts other - 1 else counts other

def total (counts : Counts) (weight : AddressType → Nat) : Nat :=
  weight .p2wpkh * counts .p2wpkh + weight .p2sh * counts .p2sh + weight .p2pkh * counts .p2pkh +
    weight .p2wsh * counts .p2wsh + weight .p2tr * counts .p2tr

def size (counts : Counts) : Nat := counts.total fun _ => 1

end Counts

variable (encoding : Encoding)

/-- `constructByteCountParam`: an empty text is no address. -/
def constructByteCountParam (addresses : List String) : Counts :=
  addresses.foldl (fun counts address =>
    if address = "" then counts else counts.add (encoding.getAddressInfo address) 1) Counts.zero

section OpReturn

def minOpReturnPayloadBytes : Nat := 5

def padPayload (payload : Bytes) : Bytes :=
  payload ++ List.replicate (minOpReturnPayloadBytes - payload.length) 32

def embedLength (payload : Bytes) : Nat :=
  let size := payload.length
  1 + (if size < 76 then 1 else if size ≤ 0xff then 2 else if size ≤ 0xffff then 3 else 5) + size

/-- `createOpReturnScript`, given by the payload it pushes. -/
def createOpReturnScript (message : Bytes) : Option Bytes :=
  if message = [] ∨ encoding.isBlank message then none else some (padPayload message)

end OpReturn

section ByteCount

variable (multisig : Option MultisigWeights) (message : Bytes) (inputs outputs : Counts)

def inputWeight : AddressType → Option Nat
  | .p2pkh => some (148 * 4)
  | .p2sh => some (108 + 64 * 4)
  | .p2wpkh => some (108 + 41 * 4)
  | .p2tr => some (66 + 41 * 4)
  | .p2wsh => multisig.map fun m => 8 + 41 * 4 + (73 * m.threshold + 34 * m.totalCosigners)

def outputWeight : AddressType → Nat
  | .p2sh => 32 * 4
  | .p2pkh => 34 * 4
  | .p2wpkh => 31 * 4
  | .p2wsh => 43 * 4
  | .p2tr => 43 * 4

def varIntLength (number : Nat) : Nat :=
  if number < 0xfd then 1 else if number ≤ 0xffff then 3 else if number ≤ 0xffffffff then 5 else 9

def hasWitness (inputs : Counts) : Bool :=
  0 < inputs .p2wpkh ∨ 0 < inputs .p2wsh ∨ 0 < inputs .p2tr ∨ 0 < inputs .p2sh

def messageWeight : Nat :=
  match createOpReturnScript encoding message with
  | some payload => (8 + varIntLength (embedLength payload) + embedLength payload) * 4
  | none => 0

def messageCount : Nat :=
  if (createOpReturnScript encoding message).isSome then 1 else 0

def totalWeight (message : Bytes) : Nat :=
  let legacyInputCount := inputs .p2pkh
  inputs.total (fun type => (inputWeight multisig type).getD 0) + outputs.total outputWeight +
    (if hasWitness inputs then 2 + legacyInputCount else 0) + messageWeight encoding message +
    8 * 4 + varIntLength inputs.size * 4 + varIntLength (outputs.size + messageCount encoding message) * 4

/-- `getByteCount` over counts that `applyMultisigInputWeights` has given the weight of a multisig input. -/
def getByteCount (message : Bytes) (minByteCount : Nat) : Nat :=
  if 0 < inputs .p2wsh ∧ multisig = none then minByteCount
  else
    let totalVsize := (totalWeight encoding multisig inputs outputs message + 3) / 4
    if totalVsize < minByteCount then minByteCount else totalVsize

end ByteCount

section Dust

def dustLimit : Nat := 546

def getDustThreshold (address : String) : Nat :=
  match encoding.fromBech32 address with
  | some size => 3 * (9 + 2 + size + 67)
  | none =>
    match encoding.fromBase58Check address with
    | some isP2sh => 3 * (9 + (if isP2sh then 23 else 25) + 148)
    | none => dustLimit

theorem getDustThreshold_pos (address : String) : 0 < getDustThreshold encoding address := by
  unfold getDustThreshold
  split
  · omega
  split
  · omega
  decide

end Dust

section Monotone

variable {encoding}

theorem constructByteCountParam_apply (addresses : List String) (type : AddressType) :
    constructByteCountParam encoding addresses type =
      addresses.countP fun address => address ≠ "" ∧ encoding.getAddressInfo address = type := by
  have counted : ∀ counts : Counts, addresses.foldl (fun counts address =>
      if address = "" then counts else counts.add (encoding.getAddressInfo address) 1) counts type =
      counts type + addresses.countP fun address => address ≠ "" ∧ encoding.getAddressInfo address = type := by
    induction addresses with
    | nil => intro counts; rfl
    | cons address rest ih =>
      intro counts
      rw [List.foldl_cons, ih, List.countP_cons]
      by_cases empty : address = ""
      · simp [empty]
      · by_cases same : encoding.getAddressInfo address = type
        · simp [empty, same, Counts.add, Nat.add_assoc, Nat.add_comm 1]
        · simp [empty, same, Counts.add, Ne.symm same]
  rw [constructByteCountParam, counted, Counts.zero, Nat.zero_add]

theorem constructByteCountParam_perm {first second : List String} (same : first.Perm second) :
    constructByteCountParam encoding first = constructByteCountParam encoding second := by
  funext type
  rw [constructByteCountParam_apply, constructByteCountParam_apply, same.countP_eq]

theorem constructByteCountParam_le_append (first second : List String) (type : AddressType) :
    constructByteCountParam encoding first type ≤ constructByteCountParam encoding (first ++ second) type := by
  rw [constructByteCountParam_apply, constructByteCountParam_apply, List.countP_append]
  exact Nat.le_add_right _ _

theorem Counts.total_mono {counts more : Counts} (le : ∀ type, counts type ≤ more type)
    (weight : AddressType → Nat) : counts.total weight ≤ more.total weight := by
  unfold Counts.total
  have := Nat.mul_le_mul_left (weight .p2wpkh) (le .p2wpkh)
  have := Nat.mul_le_mul_left (weight .p2sh) (le .p2sh)
  have := Nat.mul_le_mul_left (weight .p2pkh) (le .p2pkh)
  have := Nat.mul_le_mul_left (weight .p2wsh) (le .p2wsh)
  have := Nat.mul_le_mul_left (weight .p2tr) (le .p2tr)
  omega

theorem varIntLength_mono {number more : Nat} (le : number ≤ more) : varIntLength number ≤ varIntLength more := by
  unfold varIntLength
  split_ifs <;> omega

theorem getByteCount_mono {multisig : Option MultisigWeights} {inputs outputs more : Counts}
    (le : ∀ type, outputs type ≤ more type) (message : Bytes) :
    getByteCount encoding multisig inputs outputs message 0 ≤
      getByteCount encoding multisig inputs more message 0 := by
  have weights := Counts.total_mono le outputWeight
  have sizes : outputs.size ≤ more.size := Counts.total_mono le fun _ => 1
  have lengths := varIntLength_mono (Nat.add_le_add_right sizes (messageCount encoding message))
  unfold getByteCount
  split
  · exact le_rfl
  · simp only [Nat.not_lt_zero, if_false]
    apply Nat.div_le_div_right
    unfold totalWeight
    dsimp only
    omega

end Monotone

end Beignet.Onchain
