import Beignet.Channel.Assembly
import Beignet.Channel.Opening

namespace Beignet.Channel

open Beignet.Data

/-! The order of a commitment's outputs, and the HTLC that each second-level signature is for. -/

namespace OutputEntry

variable {a b : OutputEntry}

/-- Ties between an HTLC and another output fall as `unsortedOutputs` lists them. -/
def orderKey (o : OutputEntry) : Lex (Lex (Nat × Bytes) × Lex (Nat × Nat)) :=
  toLex (o.sortKey, toLex (o.kind.rank, o.kind.cltvExpiry))

theorem before_of_orderKey_le (below : a.orderKey ≤ b.orderKey) : a.before b = true := by
  rw [orderKey, orderKey, Prod.Lex.toLex_le_toLex, Prod.Lex.toLex_le_toLex] at below
  rw [before_iff]
  refine below.imp_right fun tie => ⟨tie.1, fun left right => ?_⟩
  have listed := tie.2
  omega

theorem refinesAt_orderKey (listed : a.kind.rank ≤ b.kind.rank) :
    RefinesAt orderKey (fun a b : OutputEntry => a.before b = true) a b := by
  have plain : ∀ k : OutputKind, k.rank ≠ 1 → k.cltvExpiry = 0 := by
    intro k other
    cases k <;> first | rfl | exact absurd rfl other
  have left := plain a.kind
  have right := plain b.kind
  rw [RefinesAt, orderKey, orderKey, Prod.Lex.toLex_le_toLex, Prod.Lex.toLex_le_toLex,
    Prod.Lex.toLex_le_toLex, Prod.Lex.toLex_le_toLex, before_iff]
  grind

end OutputEntry

def OutputKind.htlcIndex : OutputKind → Option Nat
  | .htlc index _ => some index
  | _ => none

/-- `outputMap.htlcs` and `outputMap.htlcOriginalIndices`, which the source fills together. -/
def CommitmentTx.htlcs (tx : CommitmentTx) : List (Nat × Nat) :=
  tx.outputs.zipIdx.filterMap fun (o, position) => o.kind.htlcIndex.map fun index => (position, index)

def HtlcOutput.shown (prim : Primitives) (h : HtlcOutput) : Nat × Bytes × Nat :=
  (h.amount, prim.scriptPubKey h.script, h.cltvExpiry)

structure SecondLevelTerms where
  revocationPubkey : Bytes
  localDelayedPubkey : Bytes
  toSelfDelay : Nat
  feeratePerKw : Nat
  useAnchors : Bool

/-- A second-level transaction, with the script and the amount of the output it spends, which its
    signature is over as well. The commitment stands for its txid. -/
structure HtlcTx where
  locktime : Nat
  commitment : CommitmentTx × List (Nat × Bytes)
  outputIndex : Nat
  value : Int
  script : LockScript
  amount : Nat
  terms : SecondLevelTerms

variable (terms : SecondLevelTerms) (tx : CommitmentTx) (htlcOutputs : List HtlcOutput)

/-- `buildHtlcTimeoutTx` for an HTLC the holder offered, `buildHtlcSuccessTx` for one it received. -/
def buildHtlcTx (outputIndex : Nat) (direction : HtlcDirection) (htlc : HtlcOutput) : HtlcTx where
  locktime := match direction with
    | .offered => htlc.cltvExpiry
    | .received => 0
  commitment := ({ tx with outputs := [] }, tx.outs)
  outputIndex := outputIndex
  value := htlc.amount - secondLevelFeeSats terms.useAnchors terms.feeratePerKw direction
  script := htlc.script
  amount := htlc.amount
  terms := terms

/-- What `signRemoteCommitment` signs: our offer is an HTLC that the holder receives. -/
def signedHtlcTxs : List (Option HtlcTx) :=
  tx.htlcs.map fun (outputIndex, origIdx) => htlcOutputs[origIdx]?.map fun htlc =>
    buildHtlcTx terms tx outputIndex htlc.direction.flip htlc

def checkedHtlcTxs : List (Option HtlcTx) :=
  tx.htlcs.map fun (outputIndex, origIdx) => htlcOutputs[origIdx]?.map fun htlc =>
    buildHtlcTx terms tx outputIndex htlc.direction htlc

section Listing

variable (prim : Primitives) (params : CommitmentTxParams)

theorem unsortedOutputs_blocks : ∃ balances anchors,
    unsortedOutputs prim params = balances ++ htlcOutputEntries prim params ++ anchors ∧
      (∀ o ∈ balances, o.kind.rank = 0) ∧ (∀ o ∈ htlcOutputEntries prim params, o.kind.rank = 1) ∧
      ∀ o ∈ anchors, o.kind.rank = 2 := by
  refine ⟨toLocalOutputs prim params ++ toRemoteOutputs prim params, anchorOutputs prim params _ _ _, rfl, ?_, ?_, ?_⟩
  · unfold toLocalOutputs toRemoteOutputs
    dsimp only
    split_ifs <;> simp [OutputKind.rank]
  · intro o member
    obtain ⟨p, -, rfl⟩ := List.mem_map.mp member
    rfl
  · unfold anchorOutputs
    dsimp only
    split_ifs <;> simp [OutputKind.rank]

theorem pairwise_refinesAt : (unsortedOutputs prim params).Pairwise
    (RefinesAt OutputEntry.orderKey fun a b : OutputEntry => a.before b = true) := by
  have block : ∀ {l : List OutputEntry} {r : Nat}, (∀ o ∈ l, o.kind.rank = r) →
      l.Pairwise fun a b => a.kind.rank ≤ b.kind.rank := fun same =>
    List.pairwise_of_forall_mem_list fun a inside b inside' => (same a inside).trans_le (same b inside').ge
  obtain ⟨balances, anchors, listed, first, second, third⟩ := unsortedOutputs_blocks prim params
  refine List.Pairwise.imp OutputEntry.refinesAt_orderKey ?_
  simp only [listed, List.pairwise_append, List.mem_append]
  refine ⟨⟨block first, block second, ?_⟩, block third, ?_⟩
  all_goals grind

theorem htlcIndex_of_rank {k : OutputKind} (other : k.rank ≠ 1) : k.htlcIndex = none := by
  cases k <;> first | rfl | exact absurd rfl other

def keptPositions : List Nat :=
  (params.htlcOutputs.zipIdx.filter fun (htlc, _) => params.dustLimitSatoshis ≤ htlc.amount).map Prod.snd

theorem filterMap_htlcIndex :
    (unsortedOutputs prim params).filterMap (fun o => o.kind.htlcIndex) = keptPositions params := by
  have none_of : ∀ {l : List OutputEntry} {r : Nat}, (∀ o ∈ l, o.kind.rank = r) → r ≠ 1 →
      l.filterMap (fun o => o.kind.htlcIndex) = [] := fun same other =>
    List.filterMap_eq_nil_iff.mpr fun o inside => htlcIndex_of_rank (same o inside ▸ other)
  obtain ⟨balances, anchors, listed, first, -, third⟩ := unsortedOutputs_blocks prim params
  rw [listed, List.filterMap_append, List.filterMap_append, none_of first (by decide), none_of third (by decide),
    List.append_nil]
  simp [htlcOutputEntries, keptPositions, OutputKind.htlcIndex, List.filterMap_map]

theorem htlc_of_htlcIndex {o : OutputEntry} {index : Nat} (inside : o ∈ unsortedOutputs prim params)
    (indexed : o.kind.htlcIndex = some index) : ∃ htlc, params.htlcOutputs[index]? = some htlc ∧
      o = ⟨prim.scriptPubKey htlc.script, htlc.amount, .htlc index htlc.cltvExpiry⟩ := by
  have rank : o.kind.rank = 1 := by
    by_contra other
    cases (htlcIndex_of_rank other).symm.trans indexed
  obtain ⟨balances, anchors, listed, first, -, third⟩ := unsortedOutputs_blocks prim params
  have member : o ∈ htlcOutputEntries prim params := by
    rw [listed, List.mem_append, List.mem_append] at inside
    grind
  obtain ⟨⟨htlc, i⟩, kept, rfl⟩ := List.mem_map.mp member
  cases indexed
  exact ⟨htlc, List.mem_zipIdx_iff_getElem?.mp (List.mem_filter.mp kept).1, rfl⟩

end Listing

structure CommitmentTx.Orders (prim : Primitives) (params : CommitmentTxParams) (tx : CommitmentTx) : Prop where
  outputs : tx.outputs.Perm (unsortedOutputs prim params)
  sorted : tx.outputs.Pairwise fun a b => a.before b = true
  positions : (tx.htlcs.map Prod.fst).Pairwise (· < ·)
  indices : (tx.htlcs.map Prod.snd).Perm (keptPositions params)
  names : ∀ p ∈ tx.htlcs, ∃ htlc, params.htlcOutputs[p.2]? = some htlc ∧
    tx.outputs[p.1]? = some ⟨prim.scriptPubKey htlc.script, htlc.amount, .htlc p.2 htlc.cltvExpiry⟩

section Order

variable {prim : Primitives} {params : CommitmentTxParams} {tx tx' : CommitmentTx}

theorem orders_of_build (builds : buildCommitmentTx prim params = some tx) : tx.Orders prim params := by
  have outputs : tx.outputs = (unsortedOutputs prim params).insertionSort fun a b => a.before b := by
    unfold buildCommitmentTx at builds
    split at builds <;> cases builds
    rfl
  have perm : tx.outputs.Perm (unsortedOutputs prim params) := outputs ▸ List.perm_insertionSort ..
  constructor
  case outputs => exact perm
  case sorted =>
    have sorted := pairwise_insertionSort_of_refinesAt (pairwise_refinesAt prim params)
    rw [← outputs, List.pairwise_map] at sorted
    exact sorted.imp OutputEntry.before_of_orderKey_le
  case positions =>
    have increasing : tx.outputs.zipIdx.Pairwise fun a b => a.2 < b.2 := by
      rw [← List.pairwise_map (f := Prod.snd), List.zipIdx_map_snd]
      exact List.pairwise_lt_range'
    rw [List.pairwise_map, CommitmentTx.htlcs, List.pairwise_filterMap]
    refine increasing.imp fun {a b} lower p left q right => ?_
    obtain ⟨-, -, rfl⟩ := Option.map_eq_some_iff.mp left
    obtain ⟨-, -, rfl⟩ := Option.map_eq_some_iff.mp right
    exact lower
  case indices =>
    have same : tx.htlcs.map Prod.snd = tx.outputs.filterMap fun o => o.kind.htlcIndex := by
      conv_rhs => rw [← List.zipIdx_map_fst 0 tx.outputs, List.filterMap_map]
      simp [CommitmentTx.htlcs, List.map_filterMap, Function.comp_def]
    rw [same, ← filterMap_htlcIndex prim params]
    exact perm.filterMap _
  case names =>
    intro p member
    obtain ⟨⟨o, i⟩, inside, named⟩ := List.mem_filterMap.mp member
    obtain ⟨index, indexed, rfl⟩ := Option.map_eq_some_iff.mp named
    have found := List.mem_zipIdx_iff_getElem?.mp inside
    obtain ⟨htlc, there, rfl⟩ :=
      htlc_of_htlcIndex prim params (perm.subset (List.mem_of_getElem? found)) indexed
    exact ⟨htlc, there, found⟩

theorem shown_htlcs (orders : tx.Orders prim params) :
    tx.htlcs.map (fun p => (p.1, params.htlcOutputs[p.2]?.map (HtlcOutput.shown prim))) =
      (tx.outputs.map OutputEntry.orderKey).zipIdx.filterMap fun (key, i) =>
        if (ofLex (ofLex key).2).1 = 1 then
          some (i, some ((ofLex (ofLex key).1).1, (ofLex (ofLex key).1).2, (ofLex (ofLex key).2).2))
        else none := by
  rw [CommitmentTx.htlcs, List.map_filterMap, List.zipIdx_map, List.filterMap_map]
  refine List.filterMap_congr fun (o, i) inside => ?_
  have listed := orders.outputs.subset (List.mem_of_getElem? (List.mem_zipIdx_iff_getElem?.mp inside))
  cases indexed : o.kind.htlcIndex with
  | none =>
    have other : o.kind.rank ≠ 1 := by
      intro rank
      cases kind : o.kind <;> simp [kind, OutputKind.rank, OutputKind.htlcIndex] at rank indexed
    simp [indexed, OutputEntry.orderKey, other]
  | some index =>
    obtain ⟨htlc, found, rfl⟩ := htlc_of_htlcIndex prim params listed indexed
    simp [OutputKind.htlcIndex, found, HtlcOutput.shown, OutputEntry.orderKey, OutputEntry.sortKey,
      OutputKind.rank, OutputKind.cltvExpiry]

/-- Between the two sides no output script stands for two scripts or two directions. -/
def TellsApart (prim : Primitives) (signed held : List HtlcOutput) : Prop :=
  ∀ a ∈ signed, ∀ b ∈ held, prim.scriptPubKey a.script = prim.scriptPubKey b.script →
    a.script = b.script ∧ a.direction.flip = b.direction

theorem htlc_signatures_bound (builds : buildCommitmentTx prim params = some tx) :
    tx.Orders prim params ∧ ∀ outputs,
      (params.htlcOutputs.map (HtlcOutput.shown prim)).Perm (outputs.map (HtlcOutput.shown prim)) →
      ∃ tx', buildCommitmentTx prim { params with htlcOutputs := outputs } = some tx' ∧ tx.Same tx' ∧
        tx.htlcs.map (fun p => (p.1, params.htlcOutputs[p.2]?.map (HtlcOutput.shown prim))) =
          tx'.htlcs.map (fun p => (p.1, outputs[p.2]?.map (HtlcOutput.shown prim))) ∧
        (TellsApart prim params.htlcOutputs outputs → ∀ terms,
          signedHtlcTxs terms tx params.htlcOutputs = checkedHtlcTxs terms tx' outputs) := by
  have orders := orders_of_build builds
  refine ⟨orders, fun outputs same => ?_⟩
  have keys := map_insertionSort_eq (pairwise_refinesAt prim params) (pairwise_refinesAt prim _)
    (unsortedOutputs_map_perm prim params Prod.fst
      (fun t => toLex (toLex (t.1, t.2.1), toLex (1, t.2.2))) (fun _ => rfl) (fun _ _ => rfl) same)
  obtain ⟨tx', builds', frame, keys⟩ : ∃ tx',
      buildCommitmentTx prim { params with htlcOutputs := outputs } = some tx' ∧
        { tx with outputs := [] } = { tx' with outputs := [] } ∧
        tx.outputs.map OutputEntry.orderKey = tx'.outputs.map OutputEntry.orderKey := by
    unfold buildCommitmentTx at builds ⊢
    split at builds
    · cases builds
    · cases builds
      exact ⟨_, if_neg (by assumption), rfl, keys⟩
  have orders' := orders_of_build builds'
  have outs : tx.outs = tx'.outs := by
    have outs := congrArg (List.map fun key => ofLex (ofLex key).1) keys
    rwa [List.map_map, List.map_map] at outs
  have named := (shown_htlcs orders).trans ((keys ▸ shown_htlcs orders').symm)
  refine ⟨tx', builds', ⟨frame, outs⟩, named, fun apart terms => ?_⟩
  refine List.ext_getElem? fun k => ?_
  have agree := congrArg (·[k]?) named
  simp only [signedHtlcTxs, checkedHtlcTxs, List.getElem?_map] at agree ⊢
  cases left : tx.htlcs[k]? <;> cases right : tx'.htlcs[k]? <;> rw [left, right] at agree
  case none.none => rfl
  case none.some | some.none => cases agree
  case some.some p q =>
  obtain ⟨htlc, found, -⟩ := orders.names p (List.mem_of_getElem? left)
  obtain ⟨htlc', found', -⟩ := orders'.names q (List.mem_of_getElem? right)
  change outputs[q.2]? = some htlc' at found'
  simp only [found, found', Option.map_some, HtlcOutput.shown, Prod.mk.injEq, Option.some.injEq] at agree ⊢
  obtain ⟨position, amount, script, cltv⟩ := agree
  obtain ⟨script, direction⟩ :=
    apart htlc (List.mem_of_getElem? found) htlc' (List.mem_of_getElem? found') script
  simp only [buildHtlcTx, frame, outs, position, amount, script, cltv, direction]

end Order

def twins (direction : HtlcDirection) (expiries : List Nat) : List HtlcOutput :=
  expiries.map fun cltvExpiry => ⟨.offeredHtlc [1] [2] [3] [4] true, 5000, 5000000, cltvExpiry, [4], direction⟩

def twinParams (htlcOutputs : List HtlcOutput) : CommitmentTxParams :=
  ⟨[], 0, 0, 9000, [1], [5], 144, none, 8000, [6], none, htlcOutputs, 354, true, false, [7], [8]⟩

theorem twin_signatures_bound :
    ∃ tx tx', buildCommitmentTx plainPrimitives (twinParams (twins .received [500, 400])) = some tx ∧
      buildCommitmentTx plainPrimitives (twinParams (twins .offered [400, 500])) = some tx' ∧
      tx.htlcs = [(2, 1), (3, 0)] ∧ ∀ terms, signedHtlcTxs terms tx (twins .received [500, 400]) =
        checkedHtlcTxs terms tx' (twins .offered [400, 500]) := by
  have bound := @htlc_signatures_bound plainPrimitives (twinParams (twins .received [500, 400])) _ rfl
  obtain ⟨tx', built, -, -, same⟩ := bound.2 (twins .offered [400, 500]) (.swap _ _ _)
  exact ⟨_, tx', rfl, built, by decide, same (by unfold TellsApart; decide)⟩

end Beignet.Channel
