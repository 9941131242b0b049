import Beignet.Data.Matching
import Beignet.Channel.Assembly
import Beignet.Channel.Snapshots

namespace Beignet.Channel

open Beignet.Data

section Outputs

def LockScript.paymentHash : LockScript → Option Bytes
  | .offeredHtlc _ _ _ hash _ | .receivedHtlc _ _ _ hash _ _ => some hash
  | .taprootOfferedHtlc _ _ _ hash | .taprootReceivedHtlc _ _ _ hash _ => some hash
  | _ => none

variable {prim : Primitives} {params : CommitmentTxParams} {tx : CommitmentTx} {lock : LockScript}
  {hash : Bytes}

structure OutputEntry.Plain (prim : Primitives) (o : OutputEntry) : Prop where
  kind : ∀ j cltv, o.kind ≠ .htlc j cltv
  script : ∃ lock : LockScript, lock.paymentHash = none ∧ o.script = prim.scriptPubKey lock

theorem plain_of_toLocal : ∀ o ∈ toLocalOutputs prim params, o.Plain prim := by
  intro o member
  unfold toLocalOutputs at member
  dsimp only at member
  split at member
  · rw [List.mem_singleton] at member
    subst member
    split <;> exact ⟨nofun, _, rfl, rfl⟩
  · cases member

theorem plain_of_toRemote : ∀ o ∈ toRemoteOutputs prim params, o.Plain prim := by
  intro o member
  unfold toRemoteOutputs at member
  dsimp only at member
  split at member
  · rw [List.mem_singleton] at member
    subst member
    split
    · exact ⟨nofun, _, rfl, rfl⟩
    · split <;> exact ⟨nofun, _, rfl, rfl⟩
  · cases member

theorem plain_of_anchor {toLocal toRemote htlcs : List OutputEntry} :
    ∀ o ∈ anchorOutputs prim params toLocal toRemote htlcs, o.Plain prim := by
  have scripts : ∀ key : Bytes, ∀ funding : Bytes, ∃ lock : LockScript, lock.paymentHash = none ∧
      prim.scriptPubKey (if params.useTaproot then .taprootAnchor key else .anchor funding) =
        prim.scriptPubKey lock := by
    intro key funding
    split <;> exact ⟨_, rfl, rfl⟩
  intro o member
  unfold anchorOutputs at member
  dsimp only at member
  split at member
  · rcases List.mem_append.mp member with member | member
    · split at member
      · rw [List.mem_singleton] at member
        subst member
        exact ⟨nofun, scripts _ _⟩
      · cases member
    · split at member
      · rw [List.mem_singleton] at member
        subst member
        exact ⟨nofun, scripts _ _⟩
      · cases member
  · cases member

theorem count_plain (injective : Function.Injective prim.scriptPubKey)
    (htlc : lock.paymentHash = some hash) (amount : Nat) {outputs : List OutputEntry}
    (plain : ∀ o ∈ outputs, o.Plain prim) :
    (outputs.map fun o => (o.value, o.script)).count (amount, prim.scriptPubKey lock) = 0 := by
  apply List.count_eq_zero_of_not_mem
  intro shown
  obtain ⟨o, member, same⟩ := List.mem_map.mp shown
  obtain ⟨other, notHtlc, script⟩ := (plain o member).script
  have equal : other = lock := injective (script.symm.trans (congrArg Prod.snd same))
  rw [equal, htlc] at notHtlc
  cases notHtlc

theorem htlcOutputEntries_outs : (htlcOutputEntries prim params).map (fun o => (o.value, o.script)) =
      ((params.htlcOutputs.map HtlcOutput.lock).filter
        fun lock => params.dustLimitSatoshis ≤ lock.2).map fun lock => (lock.2, prim.scriptPubKey lock.1) :=
  htlcOutputEntries_map prim params Prod.snd _ (fun _ => rfl) fun _ _ => rfl

theorem count_outs_le (injective : Function.Injective prim.scriptPubKey)
    (builds : buildCommitmentTx prim params = some tx) (htlc : lock.paymentHash = some hash) (amount : Nat) :
    tx.outs.count (amount, prim.scriptPubKey lock) ≤
      (params.htlcOutputs.map HtlcOutput.lock).count (lock, amount) := by
  unfold buildCommitmentTx at builds
  split at builds
  · cases builds
  · cases builds
    have sorted := (List.perm_insertionSort (fun a b : OutputEntry => a.before b = true)
      (unsortedOutputs prim params)).map fun o => (o.value, o.script)
    have shows : Function.Injective fun lock : LockScript × Nat => (lock.2, prim.scriptPubKey lock.1) := by
      rintro ⟨a, n⟩ ⟨b, m⟩ same
      rw [Prod.mk.injEq] at same
      exact Prod.ext (injective same.2) same.1
    rw [CommitmentTx.outs, sorted.count_eq]
    simp only [unsortedOutputs, List.map_append, List.count_append,
      count_plain injective htlc amount plain_of_toLocal, count_plain injective htlc amount plain_of_toRemote,
      count_plain injective htlc amount plain_of_anchor, htlcOutputEntries_outs]
    have counted := List.count_map_of_injective ((params.htlcOutputs.map HtlcOutput.lock).filter
      fun lock => params.dustLimitSatoshis ≤ lock.2) _ shows (lock, amount)
    dsimp only at counted
    have kept := (List.filter_sublist (p := fun lock : LockScript × Nat => params.dustLimitSatoshis ≤ lock.2)
      (l := params.htlcOutputs.map HtlcOutput.lock)).count_le (lock, amount)
    omega

theorem htlcOutput_of_kind (builds : buildCommitmentTx prim params = some tx) {o : OutputEntry}
    (member : o ∈ tx.outputs) {j cltv : Nat} (kind : o.kind = .htlc j cltv) :
    ∃ h, params.htlcOutputs[j]? = some h ∧ o.script = prim.scriptPubKey h.script ∧ o.value = h.amount := by
  unfold buildCommitmentTx at builds
  split at builds
  · cases builds
  · cases builds
    have placed := (List.mem_insertionSort _).mp member
    simp only [unsortedOutputs, List.mem_append] at placed
    rcases placed with ((main | main) | inside) | anchor
    · exact absurd kind ((plain_of_toLocal o main).kind j cltv)
    · exact absurd kind ((plain_of_toRemote o main).kind j cltv)
    · obtain ⟨⟨h, index⟩, kept, rfl⟩ := List.mem_map.mp inside
      cases kind
      exact ⟨h, List.mem_zipIdx_iff_getElem?.mp (List.mem_filter.mp kept).1, rfl, rfl⟩
    · exact absurd kind ((plain_of_anchor o anchor).kind j cltv)

theorem of_buildRemoteCommitment {s : ChannelState} {point : Bytes} {n : Nat} {built : BuiltCommitment}
    (builds : buildRemoteCommitment prim s point n = some built) :
    ∃ remoteBasepoints params, s.remoteBasepoints = some remoteBasepoints ∧
      buildCommitmentTx prim params = some built.tx ∧ params.htlcOutputs = built.htlcOutputs ∧
      built.htlcOutputs.Sublist ((remoteSpec s).htlcs.map (buildRemoteHtlcOutput s.channelType
        (deriveCommitmentKeys prim s.localBasepoints remoteBasepoints point false))) := by
  simp only [buildRemoteCommitment, assembleCommitment, Option.bind_eq_bind, Option.bind_eq_some_iff,
    Option.some.injEq] at builds
  obtain ⟨remoteBasepoints, known, _, _, tx, made, rfl⟩ := builds
  exact ⟨remoteBasepoints, _, known, made, rfl, List.filter_sublist⟩

end Outputs

end Beignet.Channel

namespace Beignet.Chain

open Beignet.Data Beignet.Keys Beignet.Channel

/-! A revoked commitment on the chain: which of its outputs are the HTLCs of the snapshot. -/

inductive SnapshotOutputType where
  | offeredHtlc
  | receivedHtlc
  deriving DecidableEq, Repr

structure RevokedHtlcSnapshotOutput where
  outputType : SnapshotOutputType
  paymentHash : Bytes
  cltvExpiry : Nat
  witnessScript : Option LockScript
  deriving DecidableEq, Repr

structure SnapshotMatchCandidate where
  amountSats : Nat
  scriptPubkey : Bytes
  metadata : RevokedHtlcSnapshotOutput
  deriving DecidableEq, Repr

namespace SnapshotMatchCandidate

def key (c : SnapshotMatchCandidate) : Nat × Bytes := (c.amountSats, c.scriptPubkey)

def Before (a b : SnapshotMatchCandidate) : Prop := a.metadata.cltvExpiry ≤ b.metadata.cltvExpiry

instance : DecidableRel Before := fun _ _ => inferInstanceAs (Decidable (_ ≤ _))

end SnapshotMatchCandidate

open SnapshotMatchCandidate (key Before)

section Matching

variable (prim : Primitives) (channelType : ChannelType) (keys : CommitmentKeys) (entry : HtlcSnapshotEntry)

-- On their commitment our offered HTLC has their received script and the other way round.
def snapshotScript : LockScript :=
  match entry.direction with
  | .offered => receivedHtlcScript channelType keys entry.paymentHash entry.cltvExpiry
  | .received => offeredHtlcScript channelType keys entry.paymentHash

def snapshotMatchCandidate : SnapshotMatchCandidate where
  amountSats := entry.amountMsat / 1000
  scriptPubkey := prim.scriptPubKey (snapshotScript channelType keys entry)
  metadata :=
    { outputType := match entry.direction with
        | .offered => .offeredHtlc
        | .received => .receivedHtlc
      paymentHash := entry.paymentHash
      cltvExpiry := entry.cltvExpiry
      witnessScript :=
        if isTaprootChannel channelType then none else some (snapshotScript channelType keys entry) }

def matchRevokedHtlcSnapshotOutputs (s : ChannelState) (snapshots : HtlcSnapshots) (commitmentNumber : Nat)
    (revokedTx : CommitmentTx) (index : Nat) : Option RevokedHtlcSnapshotOutput := do
  let remoteBasepoints ← s.remoteBasepoints
  let snapshot ← snapshots.get? commitmentNumber
  guard (snapshot.entries ≠ [])
  let perCommitmentSecret ← s.shaChainStore.getSecret prim.sha256 (maxIndex - commitmentNumber)
  let keys := deriveCommitmentKeys prim s.localBasepoints remoteBasepoints
    (prim.pointFromSecret perCommitmentSecret) false
  let candidates := snapshot.entries.map (snapshotMatchCandidate prim s.channelType keys)
  let matched := dealOut SnapshotMatchCandidate.key SnapshotMatchCandidate.Before revokedTx.outs candidates
  (matched.get? index).map fun pair => pair.2.metadata

end Matching

section Coverage

variable {prim : Primitives} {channelType : ChannelType} {keys : CommitmentKeys}

def snapshotLock (channelType : ChannelType) (keys : CommitmentKeys) (entry : HtlcSnapshotEntry) : LockScript × Nat :=
  (snapshotScript channelType keys entry, entry.amountMsat / 1000)

variable (channelType keys) in
theorem lock_buildRemoteHtlcOutput (e : HtlcEntry) :
    (buildRemoteHtlcOutput channelType keys e).lock = snapshotLock channelType keys e.snapshot := by
  cases direction : e.direction <;>
    simp [HtlcOutput.lock, buildRemoteHtlcOutput, htlcOutput, snapshotLock, snapshotScript,
      HtlcEntry.snapshot, direction, HtlcDirection.flip]

theorem paymentHash_snapshotScript (entry : HtlcSnapshotEntry) :
    (snapshotScript channelType keys entry).paymentHash = some entry.paymentHash := by
  unfold snapshotScript
  split
  · unfold receivedHtlcScript
    split <;> rfl
  · unfold offeredHtlcScript
    split <;> rfl

theorem countP_candidates (injective : Function.Injective prim.scriptPubKey)
    (entries : List HtlcSnapshotEntry) (lock : LockScript) (amount : Nat) :
    (entries.map (snapshotMatchCandidate prim channelType keys)).countP (key · = (amount, prim.scriptPubKey lock)) =
      (entries.map (snapshotLock channelType keys)).count (lock, amount) := by
  rw [List.countP_map, List.count, List.countP_map]
  apply List.countP_congr
  intro entry _
  simp only [Function.comp_apply, key, snapshotMatchCandidate, snapshotLock,
    Prod.mk.injEq, decide_eq_true_eq, beq_iff_eq, injective.eq_iff]
  exact and_comm

theorem dealt_of_covered (injective : Function.Injective prim.scriptPubKey) {params : CommitmentTxParams}
    {tx : CommitmentTx} (made : buildCommitmentTx prim params = some tx) {carried : List HtlcEntry}
    (from_carried : params.htlcOutputs.Sublist (carried.map (buildRemoteHtlcOutput channelType keys)))
    {entries : List HtlcSnapshotEntry} (covered : (carried.map HtlcEntry.snapshot).Subperm entries)
    {e : HtlcEntry} {i : Nat} {o : OutputEntry} (placed : tx.outputs[i]? = some o)
    (script : o.script = prim.scriptPubKey (snapshotScript channelType keys e.snapshot))
    (value : o.value = e.amountMsat / 1000) :
    ∃ entry ∈ entries, snapshotScript channelType keys entry = snapshotScript channelType keys e.snapshot ∧
      (dealOut SnapshotMatchCandidate.key Before tx.outs
        (entries.map (snapshotMatchCandidate prim channelType keys))).get? i =
          some (i, snapshotMatchCandidate prim channelType keys entry) := by
  let lock := snapshotScript channelType keys e.snapshot
  let amount := e.amountMsat / 1000
  have shown : tx.outs[i]? = some (amount, prim.scriptPubKey lock) := by
    rw [CommitmentTx.outs, List.getElem?_map, placed, Option.map_some, script, value]
  have locks : (carried.map (buildRemoteHtlcOutput channelType keys)).map HtlcOutput.lock =
      (carried.map HtlcEntry.snapshot).map (snapshotLock channelType keys) := by
    rw [List.map_map, List.map_map]
    exact List.map_congr_left fun e _ => lock_buildRemoteHtlcOutput channelType keys e
  obtain ⟨some, perm, sublist⟩ := covered
  have enough : tx.outs.countP (· = (amount, prim.scriptPubKey lock)) ≤
      (entries.map (snapshotMatchCandidate prim channelType keys)).countP
        (SnapshotMatchCandidate.key · = (amount, prim.scriptPubKey lock)) := calc
    _ = tx.outs.count (amount, prim.scriptPubKey lock) := List.countP_congr fun _ _ => by simp
    _ ≤ (params.htlcOutputs.map HtlcOutput.lock).count (lock, amount) :=
      count_outs_le injective made (paymentHash_snapshotScript _) amount
    _ ≤ ((carried.map (buildRemoteHtlcOutput channelType keys)).map HtlcOutput.lock).count (lock, amount) :=
      (from_carried.map _).count_le _
    _ = (some.map (snapshotLock channelType keys)).count (lock, amount) := by
      rw [locks]
      exact ((perm.map _).count_eq _).symm
    _ ≤ (entries.map (snapshotLock channelType keys)).count (lock, amount) := (sublist.map _).count_le _
    _ = _ := (countP_candidates injective entries lock amount).symm
  obtain ⟨candidate, listed, key, dealt⟩ := get?_dealOut Before shown enough
  obtain ⟨entry, inside, rfl⟩ := List.mem_map.mp listed
  exact ⟨entry, inside, injective (congrArg Prod.snd key), dealt⟩

end Coverage

section Justice

variable {prim : Primitives}

def Matched (prim : Primitives) (g : Guarded) (n : Nat) : Prop :=
  ∀ c built, g.signed n = some c → buildRemoteCommitment prim c.state c.point n = some built →
    ∀ i o j cltv, built.tx.outputs[i]? = some o → o.kind = .htlc j cltv →
      ∃ h metadata witnessScript, built.htlcOutputs[j]? = some h ∧
        matchRevokedHtlcSnapshotOutputs prim g.state g.revokedHtlcSnapshots n built.tx i = some metadata ∧
        metadata.witnessScript = some witnessScript ∧ prim.scriptPubKey witnessScript = o.script ∧
        metadata.paymentHash = h.paymentHash

theorem matched_of_sound {g : Guarded} (sound : g.Sound prim)
    (injective : Function.Injective prim.scriptPubKey) (plain : isTaprootChannel g.state.channelType = false)
    (bounded : g.state.remoteRevocationCount ≤ maxIndex + 1) {n : Nat}
    (revoked : n < g.state.remoteRevocationCount) : Matched prim g n := by
  intro c built signed builds i o j cltv placed kind
  have constants := sound.constants n c signed
  have type : c.state.channelType = g.state.channelType := congrArg ChannelConstants.channelType constants
  have own : c.state.localBasepoints = g.state.localBasepoints :=
    congrArg ChannelConstants.localBasepoints constants
  have peer : c.state.remoteBasepoints = g.state.remoteBasepoints :=
    congrArg ChannelConstants.remoteBasepoints constants
  obtain ⟨remoteBasepoints, params, known, made, outputs, carried⟩ := of_buildRemoteCommitment builds
  rw [type, own] at carried
  rw [peer] at known
  obtain ⟨h, indexed, script, value⟩ := htlcOutput_of_kind made (List.mem_of_getElem? placed) kind
  rw [outputs] at indexed
  obtain ⟨e, member, rfl⟩ := List.mem_map.mp (carried.subset (List.mem_of_getElem? indexed))
  have covered := sound.covered n c (lt_of_lt_of_le revoked sound.turn.1) signed
  have listed : e.snapshot ∈ g.snapshotOf n := covered.subset (List.mem_map_of_mem member)
  obtain ⟨snapshot, recorded, entries⟩ : ∃ snapshot, g.revokedHtlcSnapshots.get? n = some snapshot ∧
      g.snapshotOf n = snapshot.entries := by
    cases found : g.revokedHtlcSnapshots.get? n with
    | none =>
      rw [Guarded.snapshotOf, found] at listed
      cases listed
    | some snapshot => exact ⟨snapshot, rfl, by rw [Guarded.snapshotOf, found]; rfl⟩
  rw [entries] at covered listed
  obtain ⟨given, recovers, points⟩ := sound.recovered bounded
  have revealed : g.state.shaChainStore.getSecret prim.sha256 (maxIndex - n) = some (given (maxIndex - n)) :=
    recovers.getSecret_eq (by omega) (by omega)
  have returned := Eq.refl (matchRevokedHtlcSnapshotOutputs prim g.state g.revokedHtlcSnapshots n built.tx i)
  conv_rhs at returned =>
    simp only [matchRevokedHtlcSnapshotOutputs, known, recorded, revealed, Option.bind_eq_bind, Option.bind_some, guard,
      List.ne_nil_of_mem listed, ne_eq, not_false_eq_true, ↓reduceIte, Option.pure_def]
  rw [points n c revoked signed] at returned
  rw [← outputs] at carried
  let keys := deriveCommitmentKeys prim g.state.localBasepoints remoteBasepoints c.point false
  have lock := congrArg Prod.fst (lock_buildRemoteHtlcOutput g.state.channelType keys e)
  have output := script.trans (congrArg prim.scriptPubKey lock)
  obtain ⟨entry, inside, same, dealt⟩ := dealt_of_covered injective made carried covered placed output value
  rw [dealt, Option.map_some] at returned
  refine ⟨_, _, snapshotScript g.state.channelType keys entry, indexed, returned, ?_, ?_, ?_⟩
  · exact if_neg (by rw [plain]; exact Bool.false_ne_true)
  · rw [same, output]
    rfl
  · have hashes := congrArg LockScript.paymentHash same
    rw [paymentHash_snapshotScript, paymentHash_snapshotScript] at hashes
    exact Option.some.inj hashes

/-- While we sign in turn, no revoked commitment of the peer's has an HTLC output that its snapshot does not
    explain, however long ago it was revoked. -/
theorem revoked_htlcs_matched (prim : Primitives) (ver : Verifier) (o : Opening) (role : ChannelRole)
    (injective : Function.Injective prim.scriptPubKey) (plain : isTaprootChannel o.channelType = false)
    (inputs : List ChannelInput)
    (inTurn : Along (Guarded.step prim ver) (fun g input => g.signsInTurn input = true)
      (o.guarded prim role) inputs) :
    let g := inputs.foldl (Guarded.step prim ver) (o.guarded prim role)
    g.state.remoteRevocationCount ≤ maxIndex + 1 → ∀ n < g.state.remoteRevocationCount, Matched prim g n := by
  intro g bounded n revoked
  obtain ⟨sound, constants⟩ := Guarded.run_sound prim ver o role inTurn
  have type : g.state.channelType = o.channelType := by
    have same := congrArg ChannelConstants.channelType constants
    cases role <;> exact same
  exact matched_of_sound sound injective (by rw [type, plain]) bounded revoked

end Justice

section Sealed

def scriptFields : LockScript → List Bytes
  | .toLocal revocation delayed csv => [[0], List.replicate csv 0, revocation, delayed]
  | .toRemotePubkeyHash payment => [[1], payment]
  | .toRemoteAnchor payment csv => [[2], List.replicate csv 0, payment]
  | .offeredHtlc revocation holder other hash anchors =>
    [[3], List.replicate anchors.toNat 0, revocation, holder, other, hash]
  | .receivedHtlc revocation holder other hash cltv anchors =>
    [[4], List.replicate cltv 0, List.replicate anchors.toNat 0, revocation, holder, other, hash]
  | .anchor funding => [[5], funding]
  | .taprootToLocal revocation delayed csv => [[6], List.replicate csv 0, revocation, delayed]
  | .taprootToRemote payment => [[7], payment]
  | .taprootOfferedHtlc revocation holder other hash => [[8], revocation, holder, other, hash]
  | .taprootReceivedHtlc revocation holder other hash cltv =>
    [[9], List.replicate cltv 0, revocation, holder, other, hash]
  | .taprootAnchor key => [[10], key]

def scriptOfFields : List Bytes → Option LockScript
  | [[0], csv, revocation, delayed] => some (.toLocal revocation delayed csv.length)
  | [[1], payment] => some (.toRemotePubkeyHash payment)
  | [[2], csv, payment] => some (.toRemoteAnchor payment csv.length)
  | [[3], anchors, revocation, holder, other, hash] =>
    some (.offeredHtlc revocation holder other hash (anchors ≠ []))
  | [[4], cltv, anchors, revocation, holder, other, hash] =>
    some (.receivedHtlc revocation holder other hash cltv.length (anchors ≠ []))
  | [[5], funding] => some (.anchor funding)
  | [[6], csv, revocation, delayed] => some (.taprootToLocal revocation delayed csv.length)
  | [[7], payment] => some (.taprootToRemote payment)
  | [[8], revocation, holder, other, hash] => some (.taprootOfferedHtlc revocation holder other hash)
  | [[9], cltv, revocation, holder, other, hash] =>
    some (.taprootReceivedHtlc revocation holder other hash cltv.length)
  | [[10], key] => some (.taprootAnchor key)
  | _ => none

theorem scriptOfFields_scriptFields (lock : LockScript) : scriptOfFields (scriptFields lock) = some lock := by
  cases lock with
  | offeredHtlc revocation holder other hash anchors =>
    cases anchors <;> simp [scriptFields, scriptOfFields]
  | receivedHtlc revocation holder other hash cltv anchors =>
    cases anchors <;> simp [scriptFields, scriptOfFields]
  | _ => simp [scriptFields, scriptOfFields]

def sealField (field : Bytes) : Bytes := (field.flatMap fun byte => [1, byte]) ++ [0]

theorem sealField_append_inj {a b x y : Bytes} (same : sealField a ++ x = sealField b ++ y) : a = b ∧ x = y := by
  induction a generalizing b with
  | nil =>
    cases b with
    | nil => simpa [sealField] using same
    | cons byte b => simp [sealField] at same
  | cons head a ih =>
    cases b with
    | nil => simp [sealField] at same
    | cons byte b =>
      simp only [sealField, List.flatMap_cons, List.cons_append, List.nil_append, List.cons.injEq, true_and]
        at same
      obtain ⟨rfl, rest⟩ := same
      obtain ⟨rfl, tail⟩ := ih rest
      exact ⟨rfl, tail⟩

theorem flatMap_sealField_injective : Function.Injective (List.flatMap sealField) := by
  intro fields others same
  induction fields generalizing others with
  | nil =>
    cases others with
    | nil => rfl
    | cons other others => simp [sealField] at same
  | cons field fields ih =>
    cases others with
    | nil => simp [sealField] at same
    | cons other others =>
      rw [List.flatMap_cons, List.flatMap_cons] at same
      obtain ⟨rfl, rest⟩ := sealField_append_inj same
      rw [ih rest]

def sealedPrimitives : Primitives :=
  { plainPrimitives with scriptPubKey := fun lock => (scriptFields lock).flatMap sealField }

theorem sealedPrimitives_injective : Function.Injective sealedPrimitives.scriptPubKey := by
  intro a b same
  have fields := flatMap_sealField_injective same
  have read := congrArg scriptOfFields fields
  rw [scriptOfFields_scriptFields, scriptOfFields_scriptFields] at read
  exact Option.some.inj read

end Sealed

section Runs

def guardedOpener (inputs : List ChannelInput) : Guarded :=
  inputs.foldl (Guarded.step sealedPrimitives plainVerifier) (plainOpening.guarded sealedPrimitives .opener)

def signedFor (g : Guarded) (n : Nat) : Option BuiltCommitment :=
  (g.signed n).bind fun c => buildRemoteCommitment sealedPrimitives c.state c.point n

def settledPayment : List ChannelInput :=
  [.addHtlc 30000000 [7] 500 [] none none, .signCommitment [8] [] none, peerRevocation 0,
    .receive (.updateFulfillHtlc 0 [7]), .receive (.commitmentSigned ⟨[8], [], none⟩),
    .signCommitment [8] [] none, peerRevocation 1]

theorem revoked_htlcs_matched_settled :
    let g := guardedOpener settledPayment
    g.state.htlcs.size = 0 ∧ g.state.remoteRevocationCount = 2 ∧
      (signedFor g 1).map (fun built => built.tx.outputs.map OutputEntry.kind) =
        some [.htlc 0 500, .toLocal, .toRemote] ∧
      Matched sealedPrimitives g 1 := by
  refine ⟨by decide +kernel, by decide +kernel, by decide +kernel, ?_⟩
  refine revoked_htlcs_matched sealedPrimitives plainVerifier plainOpening .opener
    sealedPrimitives_injective rfl settledPayment ?_ ?_ 1 ?_
  · refine ⟨?_, ?_, ?_, ?_, ?_, ?_, ?_, trivial⟩ <;> decide +kernel
  · decide +kernel
  · decide +kernel

/-- The second of two signatures in a row is made under the point of the first. When the peer has revoked
    them both, the secret of the second does not give the keys of its HTLC output. -/
theorem unanswered_signature_unmatched :
    let g := guardedOpener [.addHtlc 30000000 [7] 500 [] none none, .signCommitment [8] [] none,
      .signCommitment [8] [] none, peerRevocation 0, peerRevocation 1, .signCommitment [8] [] none,
      peerRevocation 2]
    Function.Injective sealedPrimitives.scriptPubKey ∧ g.state.phase = .normal ∧ g.state.remoteRevocationCount = 3 ∧
      g.state.shaChainStore.getSecret sealedPrimitives.sha256 (maxIndex - 2) =
        some (getPerCommitmentSecret sealedPrimitives plainOpening.acceptorSeed 2) ∧
      (signedFor g 2).map (fun built => (built.tx.outputs.map OutputEntry.kind,
          matchRevokedHtlcSnapshotOutputs sealedPrimitives g.state g.revokedHtlcSnapshots 2 built.tx 0)) =
        some ([.htlc 0 500, .toLocal, .toRemote], none) := by
  refine ⟨sealedPrimitives_injective, ?_, ?_, ?_, ?_⟩ <;> decide +kernel

end Runs

end Beignet.Chain
