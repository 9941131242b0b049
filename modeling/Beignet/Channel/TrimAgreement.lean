import Beignet.Channel.Assembly
import Beignet.Channel.Opening

namespace Beignet.Channel

open Beignet.Data

structure Mirrored (signer holder : ChannelState) : Prop where
  roles : signer.role ≠ holder.role
  channelType : signer.channelType = holder.channelType
  fundingTxid : signer.fundingTxid = holder.fundingTxid
  fundingOutputIndex : signer.fundingOutputIndex = holder.fundingOutputIndex
  fundingSatoshis : signer.fundingSatoshis = holder.fundingSatoshis
  signerBasepoints : holder.remoteBasepoints = some signer.localBasepoints
  holderBasepoints : signer.remoteBasepoints = some holder.localBasepoints
  dustLimit : signer.remoteConfig.dustLimitSatoshis = holder.localConfig.dustLimitSatoshis
  toSelfDelay : signer.localConfig.toSelfDelay = holder.remoteConfig.toSelfDelay
  lessors : signer.leaseExpiry = none ∨ signer.isLessor = !holder.isLessor
  leaseExpiry : signer.leaseExpiry = holder.leaseExpiry
  leaseHeight : getRemoteCommitmentLeaseBlockheight signer = getLocalCommitmentLeaseBlockheight holder false
  spec : (remoteSpec signer).Agrees (localSpec holder false)

/-- At least the trim threshold of an HTLC that spends by timeout, below that of one that spends by
    success: an amount that is kept under one label and dropped under the other. -/
def InTrimBand (dustLimitSat feeratePerKw amountSat : Nat) : Prop :=
  dustLimitSat + htlcTimeoutWeight * feeratePerKw / 1000 ≤ amountSat ∧
    amountSat < dustLimitSat + htlcSuccessWeight * feeratePerKw / 1000

instance (dustLimitSat feeratePerKw amountSat : Nat) :
    Decidable (InTrimBand dustLimitSat feeratePerKw amountSat) := by
  unfold InTrimBand
  infer_instance

/-- No HTLC on the local commitment has an amount in the band, or the channel has anchors and
    trims by the dust limit alone. -/
def TrimBandFree (s : ChannelState) : Prop :=
  isAnchorChannel s.channelType = true ∨ ∀ e ∈ s.htlcs.values, localCarries false e = true →
    ¬ InTrimBand s.localConfig.dustLimitSatoshis (getLocalCommitmentFeeRate s false)
      (e.amountMsat / 1000)

theorem isUntrimmed_flip_iff (dustLimitSat feeratePerKw amount : Nat) (isAnchor : Bool) (d : HtlcDirection) :
    isUntrimmed dustLimitSat feeratePerKw isAnchor amount d.flip =
        isUntrimmed dustLimitSat feeratePerKw isAnchor amount d ↔
      isAnchor = true ∨ ¬ InTrimBand dustLimitSat feeratePerKw amount := by
  have ordered : htlcTimeoutWeight * feeratePerKw / 1000 ≤ htlcSuccessWeight * feeratePerKw / 1000 :=
    Nat.div_le_div_right (Nat.mul_le_mul_right _ (by decide))
  cases isAnchor with
  | true => cases d <;> simp [isUntrimmed, secondLevelFeeSats]
  | false =>
    cases d <;>
      simp only [isUntrimmed, secondLevelFeeSats, HtlcDirection.flip, Bool.false_eq_true, ↓reduceIte,
        decide_eq_decide, InTrimBand, false_or] <;> omega

variable (channelType : ChannelType) (b : BuiltCommitment) (dustLimitSat feeratePerKw : Nat)

def holderKeeps (t : HtlcTerms) : Bool :=
  isUntrimmed dustLimitSat feeratePerKw (isAnchorChannel channelType) t.amount t.direction

def signerKeeps (t : HtlcTerms) : Bool :=
  isUntrimmed dustLimitSat feeratePerKw (isAnchorChannel channelType) t.amount t.direction.flip

def BuiltCommitment.heldTerms : List HtlcTerms :=
  b.htlcOutputs.map fun o => o.terms o.direction

def BuiltCommitment.signedTerms : List HtlcTerms :=
  b.htlcOutputs.map fun o => o.terms o.direction.flip

section Kept

variable (channelType : ChannelType) (keys : CommitmentKeys) (dust rate : Nat)
    (entries : List HtlcEntry) (holderDirection : HtlcEntry → HtlcDirection)

theorem keptOutputs_map : keptOutputs channelType dust rate
        (entries.map fun e => htlcOutput channelType keys (holderDirection e) e) = (entries.filter fun e =>
        isUntrimmed dust rate (isAnchorChannel channelType) (e.amountMsat / 1000) e.direction).map
        fun e => htlcOutput channelType keys (holderDirection e) e := by
  unfold keptOutputs filterUntrimmedHtlcs
  rw [List.filter_map]
  rfl

theorem keptOutputs_heldTerms :
    (keptOutputs channelType dust rate (entries.map (buildLocalHtlcOutput channelType keys))).map
        (fun o => o.terms o.direction) =
      (entries.map HtlcEntry.heldTerms).filter (holderKeeps channelType dust rate) := by
  rw [List.filter_map]
  exact congrArg (List.map _) (keptOutputs_map channelType keys dust rate entries _)
    |>.trans (List.map_map ..)

theorem keptOutputs_signedTerms :
    (keptOutputs channelType dust rate (entries.map (buildRemoteHtlcOutput channelType keys))).map
        (fun o => o.terms o.direction.flip) =
      (entries.map HtlcEntry.signedTerms).filter (signerKeeps channelType dust rate) := by
  have label : (signerKeeps channelType dust rate ∘ HtlcEntry.signedTerms) = fun e =>
      isUntrimmed dust rate (isAnchorChannel channelType) (e.amountMsat / 1000) e.direction := by
    funext e
    simp [signerKeeps, HtlcEntry.signedTerms, HtlcEntry.terms, HtlcTerms.amount]
  rw [List.filter_map, label]
  exact congrArg (List.map _) (keptOutputs_map channelType keys dust rate entries _)
    |>.trans (List.map_map ..)

theorem keptOutputs_lock (label : HtlcOutput → HtlcDirection)
    (reads : ∀ e, label (htlcOutput channelType keys (holderDirection e) e) = holderDirection e) :
    (keptOutputs channelType dust rate
        (entries.map fun e => htlcOutput channelType keys (holderDirection e) e)).map HtlcOutput.lock =
      ((keptOutputs channelType dust rate
        (entries.map fun e => htlcOutput channelType keys (holderDirection e) e)).map
          fun o => o.terms (label o)).map (HtlcTerms.lock channelType keys) := by
  rw [List.map_map]
  refine List.map_congr_left fun o kept => ?_
  obtain ⟨e, -, rfl⟩ := List.mem_map.mp (List.mem_of_mem_filter kept)
  rw [htlcOutput_lock, Function.comp_apply, reads]
  rfl

end Kept

variable {prim : Primitives} {s : ChannelState} {point : Bytes} {number : Nat}

theorem buildLocalCommitment_heldTerms {signedLocal : Bool} {held : BuiltCommitment}
    (builds : buildLocalCommitment prim s point number signedLocal = some held) :
    held.heldTerms = ((localSpec s signedLocal).htlcs.map HtlcEntry.heldTerms).filter
      (holderKeeps s.channelType s.localConfig.dustLimitSatoshis (localSpec s signedLocal).feeratePerKw) := by
  simp only [buildLocalCommitment, Option.bind_eq_bind, Option.bind_eq_some_iff] at builds
  obtain ⟨basepoints, -, txid, -, builds⟩ := builds
  rw [BuiltCommitment.heldTerms, assembleCommitment_htlcOutputs builds]
  exact keptOutputs_heldTerms ..

theorem buildRemoteCommitment_signedTerms {signed : BuiltCommitment}
    (builds : buildRemoteCommitment prim s point number = some signed) :
    signed.signedTerms = ((remoteSpec s).htlcs.map HtlcEntry.signedTerms).filter
      (signerKeeps s.channelType s.remoteConfig.dustLimitSatoshis (remoteSpec s).feeratePerKw) := by
  simp only [buildRemoteCommitment, Option.bind_eq_bind, Option.bind_eq_some_iff] at builds
  obtain ⟨basepoints, -, txid, -, builds⟩ := builds
  rw [BuiltCommitment.signedTerms, assembleCommitment_htlcOutputs builds]
  exact keptOutputs_signedTerms ..

section Agreement

variable {signer holder : ChannelState} (mirrored : Mirrored signer holder)
include mirrored

theorem Mirrored.obscuredNumber_eq (prim : Primitives) (number : Nat) :
    obscuredNumber prim signer holder.localBasepoints number =
      obscuredNumber prim holder signer.localBasepoints number := by
  have opposite := mirrored.roles
  unfold obscuredNumber
  cases signs : signer.role <;> cases holds : holder.role <;> simp_all

theorem Mirrored.view_eq (prim : Primitives) (point : Bytes) (number : Nat) :
    remoteView prim signer holder.localBasepoints point number =
      localView prim holder signer.localBasepoints point number false := by
  have opposite := mirrored.roles
  have funder : (decide (signer.role = .acceptor)) = decide (holder.role = .opener) := by
    cases signs : signer.role <;> cases holds : holder.role <;> simp_all
  simp only [remoteView, localView, mirrored.obscuredNumber_eq, mirrored.dustLimit,
    mirrored.toSelfDelay, mirrored.leaseHeight, ← mirrored.leaseExpiry, funder]
  rcases mirrored.lessors with unleased | opposed
  · simp [unleased, leaseCsvBlocks, deriveCommitmentKeys]
  · cases lessor : holder.isLessor <;> simp [opposed, lessor, deriveCommitmentKeys]

theorem Mirrored.kept_iff : ((((remoteSpec signer).htlcs.map HtlcEntry.signedTerms).filter
        (signerKeeps holder.channelType holder.localConfig.dustLimitSatoshis
          (localSpec holder false).feeratePerKw)).Perm
      (((localSpec holder false).htlcs.map HtlcEntry.heldTerms).filter
        (holderKeeps holder.channelType holder.localConfig.dustLimitSatoshis
          (localSpec holder false).feeratePerKw))) ↔ TrimBandFree holder := by
  have terms := mirrored.spec.htlcs
  have included : ∀ e, e ∈ (localSpec holder false).htlcs ↔
      e ∈ holder.htlcs.values ∧ localCarries false e = true := by
    intro e
    simp [localSpec, signedLocalRetainedRemovals]
  rw [(terms.filter _).congr_left]
  constructor
  · intro same
    refine Classical.or_iff_not_imp_left.mpr fun priced e member carried => ?_
    have present : e.heldTerms ∈ (localSpec holder false).htlcs.map HtlcEntry.heldTerms :=
      List.mem_map_of_mem ((included e).mpr ⟨member, carried⟩)
    have both := same.mem_iff (a := e.heldTerms)
    simp only [List.mem_filter, present, true_and] at both
    exact ((isUntrimmed_flip_iff _ _ _ _ _).mp (Bool.eq_iff_iff.mpr both)).resolve_left priced
  · intro spared
    refine .of_eq (List.filter_congr fun t present => ?_)
    obtain ⟨e, inside, rfl⟩ := List.mem_map.mp present
    obtain ⟨member, carried⟩ := (included e).mp inside
    exact (isUntrimmed_flip_iff _ _ _ _ _).mpr (spared.imp_right fun free => free e member carried)

theorem Mirrored.locks_perm (keys : CommitmentKeys) (spared : TrimBandFree holder) :
    ((keptOutputs holder.channelType holder.localConfig.dustLimitSatoshis
        (localSpec holder false).feeratePerKw ((remoteSpec signer).htlcs.map
          (buildRemoteHtlcOutput holder.channelType keys))).map HtlcOutput.lock).Perm
      ((keptOutputs holder.channelType holder.localConfig.dustLimitSatoshis
        (localSpec holder false).feeratePerKw ((localSpec holder false).htlcs.map
          (buildLocalHtlcOutput holder.channelType keys))).map HtlcOutput.lock) := by
  have signedLocks := keptOutputs_lock holder.channelType keys holder.localConfig.dustLimitSatoshis
    (localSpec holder false).feeratePerKw (remoteSpec signer).htlcs (fun e => e.direction.flip)
    (fun o => o.direction.flip) fun _ => rfl
  have heldLocks := keptOutputs_lock holder.channelType keys holder.localConfig.dustLimitSatoshis
    (localSpec holder false).feeratePerKw (localSpec holder false).htlcs HtlcEntry.direction
    HtlcOutput.direction fun _ => rfl
  refine (List.Perm.of_eq signedLocks).trans (.trans (.map _ ?_) (.of_eq heldLocks.symm))
  refine (List.Perm.of_eq (keptOutputs_signedTerms ..)).trans (.trans ?_ (.of_eq
    (keptOutputs_heldTerms ..).symm))
  exact mirrored.kept_iff.mpr spared

theorem Mirrored.assembles (prim : Primitives) (point : Bytes) (number : Nat) {txid : Bytes}
    (funded : signer.fundingTxid = some txid) :
    ∃ view, view.dustLimitSatoshis = holder.localConfig.dustLimitSatoshis ∧
      buildRemoteCommitment prim signer point number = assembleCommitment prim signer txid view (remoteSpec signer)
          ((remoteSpec signer).htlcs.map (buildRemoteHtlcOutput signer.channelType view.keys)) ∧
      buildLocalCommitment prim holder point number false =
        assembleCommitment prim holder txid view (localSpec holder false)
          ((localSpec holder false).htlcs.map (buildLocalHtlcOutput holder.channelType view.keys)) := by
  refine ⟨localView prim holder signer.localBasepoints point number false, rfl, ?_, ?_⟩
  · simp only [buildRemoteCommitment, mirrored.holderBasepoints, funded, Option.bind_eq_bind,
      Option.bind_some, mirrored.view_eq]
  · simp only [buildLocalCommitment, mirrored.signerBasepoints, ← mirrored.fundingTxid, funded,
      Option.bind_eq_bind, Option.bind_some]

/-- The party that signs and the holder build the same commitment, down to the order of its outputs,
    exactly when no included HTLC of a channel without anchors has an amount in the trim band. -/
theorem trim_agreement_iff (prim : Primitives) (point : Bytes) (number : Nat) {signed : BuiltCommitment}
    (signs : buildRemoteCommitment prim signer point number = some signed) :
    ∃ held, buildLocalCommitment prim holder point number false = some held ∧
      ((signed.signedTerms.Perm held.heldTerms ∧ signed.htlcOutputs.length = held.htlcOutputs.length ∧
          signed.feeSats = held.feeSats ∧ signed.tx.outs = held.tx.outs) ↔
        TrimBandFree holder) := by
  obtain ⟨txid, funded⟩ : ∃ txid, signer.fundingTxid = some txid := by
    cases funding : signer.fundingTxid with
    | some txid => exact ⟨txid, rfl⟩
    | none => simp [buildRemoteCommitment, mirrored.holderBasepoints, funding] at signs
  obtain ⟨view, dust, remote, local'⟩ := mirrored.assembles prim point number funded
  have succeeds : (buildLocalCommitment prim holder point number false).isSome = true := by
    rw [local', assembleCommitment_isSome, ← mirrored.channelType,
      ← assembleCommitment_isSome prim signer txid, ← remote, signs]
    rfl
  obtain ⟨held, holds⟩ := Option.isSome_iff_exists.mp succeeds
  have kept : signed.signedTerms.Perm held.heldTerms ↔ TrimBandFree holder := by
    rw [buildRemoteCommitment_signedTerms signs, buildLocalCommitment_heldTerms holds,
      mirrored.channelType, mirrored.dustLimit, mirrored.spec.feeratePerKw]
    exact mirrored.kept_iff
  refine ⟨held, holds, fun agree => kept.mp agree.1, fun spared => ?_⟩
  have agree := kept.mpr spared
  have same : Option.Rel BuiltCommitment.Same (some signed) (some held) := by
    rw [← signs, ← holds, remote, local']
    refine assembleCommitment_same prim txid view mirrored.channelType mirrored.fundingOutputIndex
      mirrored.fundingSatoshis mirrored.spec.feeratePerKw mirrored.spec.toLocalMsat
      mirrored.spec.toRemoteMsat ?_
    rw [mirrored.channelType, mirrored.spec.feeratePerKw, dust]
    exact mirrored.locks_perm view.keys spared
  cases same with
  | some same =>
    have lengths := agree.length_eq
    simp only [BuiltCommitment.signedTerms, BuiltCommitment.heldTerms, List.length_map] at lengths
    exact ⟨agree, lengths, same.feeSats, same.tx.outs⟩

end Agreement

variable (amountMsat : Nat)

def lockedHtlc (direction : HtlcDirection) : HtlcEntry where
  id := 0
  amountMsat := amountMsat
  paymentHash := [6]
  cltvExpiry := 500
  onionRoutingPacket := []
  direction := direction
  state := .committed

def openerWithHtlc : ChannelState :=
  { plainOpening.opener plainPrimitives with
    htlcs := KeyedMap.empty.set (lockedHtlc amountMsat .offered)
    localBalanceMsat := 600000000 - amountMsat }

def acceptorWithHtlc : ChannelState :=
  { plainOpening.acceptor plainPrimitives with
    htlcs := KeyedMap.empty.set (lockedHtlc amountMsat .received)
    remoteBalanceMsat := 600000000 - amountMsat }

theorem mirrored_withHtlc : Mirrored (openerWithHtlc amountMsat) (acceptorWithHtlc amountMsat) where
  roles := (by decide : ChannelRole.opener ≠ .acceptor)
  channelType := rfl
  fundingTxid := rfl
  fundingOutputIndex := rfl
  fundingSatoshis := rfl
  signerBasepoints := rfl
  holderBasepoints := rfl
  dustLimit := rfl
  toSelfDelay := rfl
  lessors := .inl rfl
  leaseExpiry := rfl
  leaseHeight := rfl
  spec := ⟨rfl, rfl, (Int.add_zero _).symm, .refl _⟩

theorem large_htlc_agrees :
    ∃ signed held, buildRemoteCommitment plainPrimitives (openerWithHtlc 5000000) [4] 1 = some signed ∧
      buildLocalCommitment plainPrimitives (acceptorWithHtlc 5000000) [4] 1 false = some held ∧
      signed.signedTerms.Perm held.heldTerms ∧
      signed.htlcOutputs.length = held.htlcOutputs.length ∧
      signed.feeSats = held.feeSats ∧ signed.tx.outs = held.tx.outs := by
  obtain ⟨signed, signs⟩ : ∃ signed,
      buildRemoteCommitment plainPrimitives (openerWithHtlc 5000000) [4] 1 = some signed :=
    Option.isSome_iff_exists.mp (by decide)
  obtain ⟨held, holds, agree⟩ :=
    trim_agreement_iff (mirrored_withHtlc 5000000) plainPrimitives [4] 1 signs
  exact ⟨signed, held, signs, holds, agree.mpr (.inr (by decide))⟩

/-- At 1000 sat per kiloweight and a dust limit of 354 the band is 1017 to 1056 sat: the opener
    signs an output for 1020 sat and a fee of 896, the acceptor drops it and pays 724. -/
theorem band_htlc_splits_commitment :
    Mirrored (openerWithHtlc 1020000) (acceptorWithHtlc 1020000) ∧ ∃ signed held,
        buildRemoteCommitment plainPrimitives (openerWithHtlc 1020000) [4] 1 = some signed ∧
        buildLocalCommitment plainPrimitives (acceptorWithHtlc 1020000) [4] 1 false = some held ∧
        signed.htlcOutputs.length = 1 ∧ held.htlcOutputs.length = 0 ∧
        signed.feeSats = 896 ∧ held.feeSats = 724 ∧
        signed.tx.outs.map Prod.fst = [1020, 400000, 598084] ∧
        held.tx.outs.map Prod.fst = [400000, 598256] := by
  refine ⟨mirrored_withHtlc 1020000, _, _, rfl, rfl, ?_⟩
  decide

end Beignet.Channel
