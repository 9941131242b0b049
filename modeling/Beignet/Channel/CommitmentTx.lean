import Beignet.Data.SortedBy
import Beignet.Channel.Types

namespace Beignet.Channel

open Beignet.Data

/-- The output scripts of a commitment, each under the arguments of the function that builds it. -/
inductive LockScript where
  | toLocal (revocationPubkey localDelayedPubkey : Bytes) (csv : Nat)
  | toRemotePubkeyHash (remotePaymentPubkey : Bytes)
  | toRemoteAnchor (remotePaymentPubkey : Bytes) (csv : Nat)
  | offeredHtlc (revocationPubkey localHtlcPubkey remoteHtlcPubkey paymentHash : Bytes) (anchors : Bool)
  | receivedHtlc (revocationPubkey localHtlcPubkey remoteHtlcPubkey paymentHash : Bytes)
      (cltvExpiry : Nat) (anchors : Bool)
  | anchor (fundingPubkey : Bytes)
  | taprootToLocal (revocationPubkey localDelayedPubkey : Bytes) (toSelfDelay : Nat)
  | taprootToRemote (remotePaymentPubkey : Bytes)
  | taprootOfferedHtlc (revocationPubkey localHtlcPubkey remoteHtlcPubkey paymentHash : Bytes)
  | taprootReceivedHtlc (revocationPubkey localHtlcPubkey remoteHtlcPubkey paymentHash : Bytes)
      (cltvExpiry : Nat)
  | taprootAnchor (pubkey : Bytes)
  deriving DecidableEq, Repr

structure Primitives where
  sha256 : Bytes → Bytes
  derivePublicKey : Bytes → Bytes → Bytes
  deriveRevocationPubkey : Bytes → Bytes → Bytes
  pointFromSecret : Bytes → Bytes
  isValidPublicKey : Bytes → Bool
  scriptPubKey : LockScript → Bytes

def anchorOutputValue : Nat := 330
def anchorTotalCost : Nat := anchorOutputValue * 2

def calculateObscuredCommitmentNumber (sha256 : Bytes → Bytes)
    (openPaymentBasepoint acceptPaymentBasepoint : Bytes) (commitmentNumber : Nat) : Nat :=
  let hash := sha256 (openPaymentBasepoint ++ acceptPaymentBasepoint)
  let mask := ((hash.drop 26).take 6).foldl (fun acc byte => acc * 256 + byte.val) 0
  commitmentNumber ^^^ mask

def buildToLocalScript (revocationPubkey localDelayedPubkey : Bytes) (toSelfDelay : Nat)
    (leaseCsv : Option Nat) : LockScript :=
  .toLocal revocationPubkey localDelayedPubkey (max (leaseCsv.getD 0) toSelfDelay)

def buildToRemoteAnchorScript (remotePubkey : Bytes) (leaseCsv : Option Nat) : LockScript :=
  .toRemoteAnchor remotePubkey (max (leaseCsv.getD 0) 1)

structure HtlcOutput where
  script : LockScript
  amount : Nat
  amountMsat : Nat
  cltvExpiry : Nat
  paymentHash : Bytes
  direction : HtlcDirection
  deriving DecidableEq, Repr

structure CommitmentTxParams where
  fundingTxid : Bytes
  fundingOutputIndex : Nat
  obscuredCommitmentNumber : Nat
  localAmount : Nat
  revocationPubkey : Bytes
  localDelayedPubkey : Bytes
  toSelfDelay : Nat
  leaseCsv : Option Nat
  remoteAmount : Nat
  remotePaymentPubkey : Bytes
  toRemoteLeaseCsv : Option Nat
  htlcOutputs : List HtlcOutput
  dustLimitSatoshis : Nat
  useAnchors : Bool
  useTaproot : Bool
  localFundingPubkey : Bytes
  remoteFundingPubkey : Bytes
  deriving DecidableEq, Repr

inductive OutputKind where
  | toLocal
  | toRemote
  | htlc (index : Nat) (cltvExpiry : Nat)
  | anchorLocal
  | anchorRemote
  deriving DecidableEq, Repr

structure OutputEntry where
  script : Bytes
  value : Nat
  kind : OutputKind
  deriving DecidableEq, Repr

variable (prim : Primitives) (params : CommitmentTxParams)

def toLocalOutputs : List OutputEntry :=
  let script :=
    if params.useTaproot then
      .taprootToLocal params.revocationPubkey params.localDelayedPubkey params.toSelfDelay
    else
      buildToLocalScript params.revocationPubkey params.localDelayedPubkey params.toSelfDelay
        params.leaseCsv
  if params.dustLimitSatoshis ≤ params.localAmount then
    [⟨prim.scriptPubKey script, params.localAmount, .toLocal⟩]
  else []

def toRemoteOutputs : List OutputEntry :=
  let script :=
    if params.useTaproot then .taprootToRemote params.remotePaymentPubkey
    else if params.useAnchors then
      buildToRemoteAnchorScript params.remotePaymentPubkey params.toRemoteLeaseCsv
    else .toRemotePubkeyHash params.remotePaymentPubkey
  if params.dustLimitSatoshis ≤ params.remoteAmount then
    [⟨prim.scriptPubKey script, params.remoteAmount, .toRemote⟩]
  else []

def htlcOutputEntries : List OutputEntry :=
  (params.htlcOutputs.zipIdx.filter fun (htlc, _) => params.dustLimitSatoshis ≤ htlc.amount).map
    fun (htlc, index) => ⟨prim.scriptPubKey htlc.script, htlc.amount, .htlc index htlc.cltvExpiry⟩

/-- A party's anchor is there when its main output or any HTLC output is. -/
def anchorOutputs (toLocal toRemote htlcs : List OutputEntry) : List OutputEntry :=
  let localScript :=
    if params.useTaproot then .taprootAnchor params.localDelayedPubkey
    else .anchor params.localFundingPubkey
  let remoteScript :=
    if params.useTaproot then .taprootAnchor params.remotePaymentPubkey
    else .anchor params.remoteFundingPubkey
  if params.useAnchors then
    (if toLocal ≠ [] ∨ htlcs ≠ [] then
      [⟨prim.scriptPubKey localScript, anchorOutputValue, .anchorLocal⟩] else []) ++
    (if toRemote ≠ [] ∨ htlcs ≠ [] then
      [⟨prim.scriptPubKey remoteScript, anchorOutputValue, .anchorRemote⟩] else [])
  else []

def unsortedOutputs : List OutputEntry :=
  let toLocal := toLocalOutputs prim params
  let toRemote := toRemoteOutputs prim params
  let htlcs := htlcOutputEntries prim params
  toLocal ++ toRemote ++ htlcs ++ anchorOutputs prim params toLocal toRemote htlcs

/-- Value, then script; between two HTLC outputs the expiry breaks the tie. -/
def OutputEntry.before (a b : OutputEntry) : Bool :=
  if a.value ≠ b.value then a.value < b.value
  else if a.script ≠ b.script then a.script < b.script
  else
    match a.kind, b.kind with
    | .htlc _ x, .htlc _ y => x ≤ y
    | _, _ => true

structure CommitmentTx where
  version : Nat
  locktime : Nat
  sequence : Nat
  fundingTxid : Bytes
  fundingOutputIndex : Nat
  outputs : List OutputEntry
  deriving DecidableEq, Repr

namespace CommitmentTx

def outs (tx : CommitmentTx) : List (Nat × Bytes) := tx.outputs.map fun o => (o.value, o.script)

def hasOutput (tx : CommitmentTx) (kind : OutputKind) : Bool := tx.outputs.any fun o => o.kind = kind

end CommitmentTx

/-- Nothing when a lease lock meets a `to_remote` that cannot carry one. -/
def buildCommitmentTx (prim : Primitives) (params : CommitmentTxParams) : Option CommitmentTx :=
  if params.toRemoteLeaseCsv.isSome && (params.useTaproot || !params.useAnchors) then none
  else some
    { version := 2
      locktime := 0x20000000 ||| (params.obscuredCommitmentNumber &&& 0xffffff)
      sequence := 0x80000000 ||| ((params.obscuredCommitmentNumber >>> 24) &&& 0xffffff)
      fundingTxid := params.fundingTxid
      fundingOutputIndex := params.fundingOutputIndex
      outputs := (unsortedOutputs prim params).insertionSort fun a b => a.before b }

def OutputEntry.sortKey (o : OutputEntry) : Lex (Nat × Bytes) := toLex (o.value, o.script)

def OutputKind.rank : OutputKind → Nat
  | .toLocal | .toRemote => 0
  | .htlc _ _ => 1
  | .anchorLocal | .anchorRemote => 2

def OutputKind.cltvExpiry : OutputKind → Nat
  | .htlc _ cltvExpiry => cltvExpiry
  | _ => 0

theorem OutputEntry.before_iff {a b : OutputEntry} :
    a.before b = true ↔ a.sortKey < b.sortKey ∨ a.sortKey = b.sortKey ∧
      (a.kind.rank = 1 → b.kind.rank = 1 → a.kind.cltvExpiry ≤ b.kind.cltvExpiry) := by
  unfold before sortKey
  rw [Prod.Lex.toLex_lt_toLex, toLex_inj, Prod.mk.injEq]
  by_cases values : a.value = b.value
  · by_cases scripts : a.script = b.script
    · cases a.kind <;> cases b.kind <;> simp [values, scripts, OutputKind.rank, OutputKind.cltvExpiry]
    · simp [values, scripts]
  · simp [values]

theorem before_refines_sortKey : RefinesKey OutputEntry.sortKey fun a b : OutputEntry => a.before b = true := by
  intro a b
  refine ⟨fun before => ?_, fun after => ?_⟩
  · exact (OutputEntry.before_iff.mp before).elim le_of_lt fun tie => tie.1.le
  · exact not_lt.mp fun below => after (OutputEntry.before_iff.mpr (.inl below))

end Beignet.Channel
