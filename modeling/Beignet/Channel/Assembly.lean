import Beignet.Channel.CommitmentBuilder

namespace Beignet.Channel

open Beignet.Data

structure HtlcTerms where
  amountMsat : Nat
  paymentHash : Bytes
  cltvExpiry : Nat
  direction : HtlcDirection
  deriving DecidableEq, Repr

namespace HtlcTerms

def amount (t : HtlcTerms) : Nat := t.amountMsat / 1000

end HtlcTerms

variable (direction : HtlcDirection) (entry : HtlcEntry) (channelType : ChannelType) (output : HtlcOutput)
  (keys : CommitmentKeys) (d : HtlcDirection)

def HtlcEntry.terms (entry : HtlcEntry) : HtlcTerms :=
  ⟨entry.amountMsat, entry.paymentHash, entry.cltvExpiry, direction⟩

def HtlcEntry.heldTerms : HtlcTerms := entry.terms entry.direction

/-- The terms on the peer's commitment, which sees our offer as received. -/
def HtlcEntry.signedTerms : HtlcTerms := entry.terms entry.direction.flip

structure CommitmentSpec.Agrees (signed held : CommitmentSpec) : Prop where
  feeratePerKw : signed.feeratePerKw = held.feeratePerKw
  toLocalMsat : signed.toLocalMsat = held.toLocalMsat
  toRemoteMsat : signed.toRemoteMsat = held.toRemoteMsat
  htlcs : (signed.htlcs.map HtlcEntry.signedTerms).Perm (held.htlcs.map HtlcEntry.heldTerms)

def HtlcOutput.terms : HtlcTerms :=
  ⟨output.amountMsat, output.paymentHash, output.cltvExpiry, direction⟩

def HtlcOutput.lock : LockScript × Nat := (output.script, output.amount)

def HtlcTerms.lock (t : HtlcTerms) : LockScript × Nat :=
  (match t.direction with
    | .offered => offeredHtlcScript channelType keys t.paymentHash
    | .received => receivedHtlcScript channelType keys t.paymentHash t.cltvExpiry, t.amount)

@[simp] theorem HtlcDirection.flip_flip : d.flip.flip = d := by
  cases d <;> rfl

theorem HtlcDirection.eq_received {d : HtlcDirection} (other : d ≠ .offered) : d = .received := by
  cases d with
  | offered => exact absurd rfl other
  | received => rfl

theorem htlcOutput_lock (entry : HtlcEntry) :
    (htlcOutput channelType keys d entry).lock = (entry.terms d).lock channelType keys := by
  cases d <;> rfl

structure CommitmentTx.Same (a b : CommitmentTx) : Prop where
  frame : { a with outputs := [] } = { b with outputs := [] }
  outs : a.outs = b.outs

structure BuiltCommitment.Same (a b : BuiltCommitment) : Prop where
  funderBalanceMsat : a.funderBalanceMsat = b.funderBalanceMsat
  feeSats : a.feeSats = b.feeSats
  tx : a.tx.Same b.tx
  fundingAmount : a.fundingAmount = b.fundingAmount
  locks : (a.htlcOutputs.map HtlcOutput.lock).Perm (b.htlcOutputs.map HtlcOutput.lock)

theorem BuiltCommitment.Same.trans {a b c : BuiltCommitment} (first : a.Same b) (second : b.Same c) : a.Same c where
  funderBalanceMsat := first.funderBalanceMsat.trans second.funderBalanceMsat
  feeSats := first.feeSats.trans second.feeSats
  tx := ⟨first.tx.frame.trans second.tx.frame, first.tx.outs.trans second.tx.outs⟩
  fundingAmount := first.fundingAmount.trans second.fundingAmount
  locks := first.locks.trans second.locks

section Outputs

variable (prim : Primitives) (params : CommitmentTxParams)

def lockKey (lock : LockScript × Nat) : Lex (Nat × Bytes) := toLex (lock.2, prim.scriptPubKey lock.1)

section Terms

variable {σ κ : Type} {terms : HtlcOutput → σ} {f : OutputEntry → κ} (amount : σ → Nat) (key : σ → κ)
  (amounts : ∀ h, amount (terms h) = h.amount)
  (entries : ∀ h i, f ⟨prim.scriptPubKey h.script, h.amount, .htlc i h.cltvExpiry⟩ = key (terms h))
include amounts entries

theorem htlcOutputEntries_map : (htlcOutputEntries prim params).map f =
    ((params.htlcOutputs.map terms).filter fun t => params.dustLimitSatoshis ≤ amount t).map key := by
  unfold htlcOutputEntries
  have indexFree : params.htlcOutputs = params.htlcOutputs.zipIdx.map Prod.fst := by simp
  conv_rhs => rw [indexFree]
  rw [List.map_map, List.map_map, List.filter_map, List.map_map]
  simp only [Function.comp_def, entries, amounts]

theorem unsortedOutputs_map_perm {outputs : List HtlcOutput}
    (same : (params.htlcOutputs.map terms).Perm (outputs.map terms)) : ((unsortedOutputs prim params).map f).Perm
      ((unsortedOutputs prim { params with htlcOutputs := outputs }).map f) := by
  have kept := fun params => htlcOutputEntries_map prim params amount key amounts entries
  have htlcs := (same.filter fun t => params.dustLimitSatoshis ≤ amount t).map key
  rw [← kept params, ← kept { params with htlcOutputs := outputs }] at htlcs
  have empty : htlcOutputEntries prim params = [] ↔
      htlcOutputEntries prim { params with htlcOutputs := outputs } = [] := by
    rw [← List.length_eq_zero_iff, ← List.length_eq_zero_iff]
    have lengths := htlcs.length_eq
    simp only [List.length_map] at lengths
    rw [lengths]
  have anchors : ∀ toLocal toRemote, anchorOutputs prim params toLocal toRemote (htlcOutputEntries prim params) =
        anchorOutputs prim { params with htlcOutputs := outputs } toLocal toRemote
          (htlcOutputEntries prim { params with htlcOutputs := outputs }) := by
    intro toLocal toRemote
    simp only [anchorOutputs, ne_eq, empty]
  simp only [unsortedOutputs, anchors, List.map_append]
  exact (htlcs.append_left _).append_right _

end Terms

variable {params} in
theorem buildCommitmentTx_same {outputs : List HtlcOutput}
    (same : (params.htlcOutputs.map HtlcOutput.lock).Perm (outputs.map HtlcOutput.lock)) :
    Option.Rel CommitmentTx.Same (buildCommitmentTx prim params)
      (buildCommitmentTx prim { params with htlcOutputs := outputs }) := by
  have refines := fun l => List.pairwise_of_forall (l := l) before_refines_sortKey
  have keys := map_insertionSort_eq (refines _) (refines _) (unsortedOutputs_map_perm prim params
    (f := OutputEntry.sortKey) Prod.snd (lockKey prim) (fun _ => rfl) (fun _ _ => rfl) same)
  have outs := congrArg (List.map ofLex) keys
  rw [List.map_map, List.map_map] at outs
  unfold buildCommitmentTx
  split
  · exact .none
  · exact .some ⟨rfl, outs⟩

end Outputs

def keptOutputs (channelType : ChannelType) (dustLimitSat feeratePerKw : Nat)
    (outputs : List HtlcOutput) : List HtlcOutput :=
  filterUntrimmedHtlcs HtlcOutput.amount HtlcOutput.direction outputs dustLimitSat feeratePerKw
    (isAnchorChannel channelType)

variable (prim : Primitives)

theorem assembleCommitment_same {s t : ChannelState} (fundingTxid : Bytes)
    (view : HolderView) {spec spec' : CommitmentSpec} {outputs outputs' : List HtlcOutput}
    (channelType : s.channelType = t.channelType) (fundingOutputIndex : s.fundingOutputIndex = t.fundingOutputIndex)
    (fundingSatoshis : s.fundingSatoshis = t.fundingSatoshis) (feeratePerKw : spec.feeratePerKw = spec'.feeratePerKw)
    (toLocalMsat : spec.toLocalMsat = spec'.toLocalMsat) (toRemoteMsat : spec.toRemoteMsat = spec'.toRemoteMsat)
    (kept : ((keptOutputs s.channelType view.dustLimitSatoshis spec.feeratePerKw outputs).map HtlcOutput.lock).Perm
      ((keptOutputs t.channelType view.dustLimitSatoshis spec'.feeratePerKw outputs').map HtlcOutput.lock)) :
    Option.Rel BuiltCommitment.Same (assembleCommitment prim s fundingTxid view spec outputs)
      (assembleCommitment prim t fundingTxid view spec' outputs') := by
  unfold assembleCommitment
  simp only [← keptOutputs.eq_def, channelType, fundingOutputIndex, fundingSatoshis,
    feeratePerKw, toLocalMsat, toRemoteMsat] at kept ⊢
  have count := kept.length_eq
  simp only [List.length_map] at count
  simp only [count]
  refine rel_bind (buildCommitmentTx_same prim ?_) ?_
  · exact kept
  · intro tx tx' same
    exact .some ⟨rfl, rfl, same, rfl, kept⟩

theorem buildCommitmentTx_isSome (params : CommitmentTxParams) : (buildCommitmentTx prim params).isSome =
      !(params.toRemoteLeaseCsv.isSome && (params.useTaproot || !params.useAnchors)) := by
  unfold buildCommitmentTx
  split
  · rename_i locked
    rw [locked]
    rfl
  · rename_i free
    rw [Bool.eq_false_of_not_eq_true free]
    rfl

theorem assembleCommitment_isSome (s : ChannelState) (fundingTxid : Bytes)
    (view : HolderView) (spec : CommitmentSpec) (outputs : List HtlcOutput) :
    (assembleCommitment prim s fundingTxid view spec outputs).isSome = !(view.toRemoteLeaseCsv.isSome &&
        (isTaprootChannel s.channelType || !isAnchorChannel s.channelType)) := by
  unfold assembleCommitment
  exact (isSome_bind_some _ _).trans (buildCommitmentTx_isSome prim _)

theorem assembleCommitment_htlcOutputs {prim : Primitives} {s : ChannelState} {fundingTxid : Bytes}
    {view : HolderView} {spec : CommitmentSpec} {outputs : List HtlcOutput} {built : BuiltCommitment}
    (builds : assembleCommitment prim s fundingTxid view spec outputs = some built) : built.htlcOutputs =
      keptOutputs s.channelType view.dustLimitSatoshis spec.feeratePerKw outputs := by
  simp only [assembleCommitment, Option.bind_eq_bind, Option.bind_eq_some_iff, Option.some.injEq]
    at builds
  obtain ⟨_, _, rfl⟩ := builds
  rfl

end Beignet.Channel
