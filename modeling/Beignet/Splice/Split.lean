import Beignet.Channel.Conservation
import Beignet.Data.Machine
import Beignet.Splice.Runs

namespace Beignet.Splice

open Beignet.Data Beignet.Channel Beignet.InteractiveTx
open Option (bind_eq_bind orElse_eq_orElse orElse_eq_or none_or some_or map_some)

/-! How a splice splits the new funding output, and that every balance it hands on is one the output
    holds. -/

namespace SpliceTerms

def mirror (t : SpliceTerms) : SpliceTerms :=
  ⟨!t.isInitiator, t.remoteRelativeSatoshis, t.localRelativeSatoshis⟩

def peerShareMsat (t : SpliceTerms) (base : ChannelState) (newCapacity : Nat) : Int :=
  base.remoteBalanceMsat + t.remoteRelativeSatoshis * 1000 -
    if t.isInitiator then 0 else t.feeFromChannelSats base newCapacity * 1000

section Split

variable {t : SpliceTerms} {s base : ChannelState} {newCapacity : Nat}

theorem theirNewMsat_eq (balanced : base.totalMsat = 1000 * base.fundingSatoshis) :
    t.theirNewMsat base newCapacity = t.peerShareMsat base newCapacity := by
  simp only [ChannelState.totalMsat, ChannelState.htlcTotalMsat] at balanced
  simp only [theirNewMsat, peerShareMsat, myNewLocalMsat, myFeeMsat, feeFromChannelSats, getNetCapacityChange]
  split <;> omega

section

variable (capacity : s.fundingSatoshis = base.fundingSatoshis)
include capacity

theorem myNewLocalMsat_congr : t.myNewLocalMsat s newCapacity =
      t.myNewLocalMsat base newCapacity + (s.localBalanceMsat - base.localBalanceMsat) := by
  simp only [myNewLocalMsat, myFeeMsat, feeFromChannelSats, capacity]
  omega

theorem peerShareMsat_congr : t.peerShareMsat s newCapacity =
      t.peerShareMsat base newCapacity + (s.remoteBalanceMsat - base.remoteBalanceMsat) := by
  simp only [peerShareMsat, feeFromChannelSats, capacity]
  omega

theorem myNewLocalMsat_mirror (balance : s.localBalanceMsat = base.remoteBalanceMsat) :
    t.mirror.myNewLocalMsat s newCapacity = t.peerShareMsat base newCapacity := by
  simp only [mirror, myNewLocalMsat, myFeeMsat, peerShareMsat, feeFromChannelSats, getNetCapacityChange,
    capacity, balance]
  cases t.isInitiator with
  | true => simp only [Bool.not_true, Bool.false_eq_true, ↓reduceIte]
  | false =>
    simp only [Bool.not_false, Bool.false_eq_true, ↓reduceIte]
    omega

theorem peerShareMsat_mirror (balance : s.remoteBalanceMsat = base.localBalanceMsat) :
    t.mirror.peerShareMsat s newCapacity = t.myNewLocalMsat base newCapacity := by
  simp only [mirror, myNewLocalMsat, myFeeMsat, peerShareMsat, feeFromChannelSats, getNetCapacityChange,
    capacity, balance]
  cases t.isInitiator with
  | true =>
    simp only [Bool.not_true, Bool.false_eq_true, ↓reduceIte]
    omega
  | false => simp only [Bool.not_false, Bool.false_eq_true, ↓reduceIte]

end

end Split

structure Solvent (t : SpliceTerms) (base : ChannelState) (newCapacity : Nat) : Prop where
  ours : 0 ≤ t.myNewLocalMsat base newCapacity
  theirs : 0 ≤ t.theirNewMsat base newCapacity

theorem Solvent.mono {t : SpliceTerms} {s base : ChannelState} {newCapacity : Nat}
    (solvent : t.Solvent base newCapacity) (balanced : base.totalMsat = 1000 * base.fundingSatoshis)
    (capacity : s.fundingSatoshis = base.fundingSatoshis) (total : s.totalMsat = base.totalMsat)
    (ours : base.localBalanceMsat ≤ s.localBalanceMsat)
    (theirs : base.remoteBalanceMsat ≤ s.remoteBalanceMsat) : t.Solvent s newCapacity := by
  have balanced' : s.totalMsat = 1000 * s.fundingSatoshis := by rw [total, capacity, balanced]
  have own := solvent.ours
  have peer := solvent.theirs
  rw [theirNewMsat_eq balanced] at peer
  constructor
  · rw [myNewLocalMsat_congr capacity]
    omega
  · rw [theirNewMsat_eq balanced', peerShareMsat_congr capacity]
    omega

end SpliceTerms

def negotiatedOutput (env : SpliceEnv) (c : SplicingChannel) (session : SpliceSession) : Option TxOut := do
  let built ← session.negotiation.txBuilder.bind InteractiveTxBuilder.buildTransaction
  let tx ← buildSpliceTx built.inputs built.outputs built.locktime
  let basepoints ← c.live.remoteBasepoints
  let script ← env.createFundingScript c.live.localBasepoints.fundingPubkey
    (session.remoteFundingPubkey.getD basepoints.fundingPubkey)
  let index ← findOutputIndex tx script
  tx.outs[index]?

/-- Where a transaction is negotiated and not yet signed, the peer can pay for what it takes out: its
    balance covers its own contribution and, when it initiated, the fee the channel bears. -/
def PeerAffords (env : SpliceEnv) (c : SplicingChannel) : Prop :=
  c.spliceTx = none → ∀ session, c.spliceSession = some session →
    session.state = .awaitingTxSignatures → ∀ output, negotiatedOutput env c session = some output →
      0 ≤ session.terms.peerShareMsat c.live output.value

namespace SplicingChannel

variable {env : SpliceEnv} {c d : SplicingChannel}

def signedTx (env : SpliceEnv) (c : SplicingChannel) : Option SpliceTx :=
  c.spliceTx <|> buildAndSignSpliceTx env c

theorem signedTx_eq : c.signedTx env = c.spliceTx.or (buildAndSignSpliceTx env c) := by
  rw [signedTx, orElse_eq_orElse, orElse_eq_or]

theorem spliceTx_of_unsigned (unsigned : c.signedTx env = none) : c.spliceTx = none :=
  (Option.or_eq_none_iff.mp (signedTx_eq.symm.trans unsigned)).1

def signedView (env : SpliceEnv) (c : SplicingChannel) : Option ChannelState :=
  { c with spliceTx := c.signedTx env }.splicedState env c.live

structure Records (env : SpliceEnv) (built : SpliceTx) (session : SpliceSession)
    (record : SpliceInFlight) : Prop where
  terms : record.terms = session.terms
  txid : record.spliceTxid = env.getHash built.tx
  index : record.newFundingOutputIndex = built.newFundingOutputIndex
  capacity : built.tx.outs[built.newFundingOutputIndex]?.map TxOut.value = some record.newFundingSatoshis

structure Built (live : ChannelState) (session : SpliceSession) (built : SpliceTx) (output : TxOut) :
    Prop where
  funds : built.tx.outs[built.newFundingOutputIndex]? = some output
  negotiated : session.state ≠ .awaitingReply ∧ session.state ≠ .txNegotiation
  solvent : session.terms.Solvent live output.value

structure Sound (env : SpliceEnv) (c : SplicingChannel) : Prop where
  current : Current c.live
  balanced : c.live.totalMsat = 1000 * c.live.fundingSatoshis
  phase : c.spliceSession ≠ none → c.live.phase = .splicing ∨ c.live.phase = .errored
  built : ∀ built, c.spliceTx = some built →
    ∃ session output, c.spliceSession = some session ∧ Built c.live session built output
  locked : ∀ session, c.spliceSession = some session → session.state = .awaitingLock → c.spliceTx ≠ none
  recorded : ∀ record, c.spliceInFlight = some record → ∃ built session, c.spliceTx = some built ∧
    c.spliceSession = some session ∧ Records env built session record

section Signing

variable {session : SpliceSession} {built : SpliceTx}

theorem of_buildSignedTx {fundingTxid : Bytes} {basepoints : Basepoints}
    (known : c.live.remoteBasepoints = some basepoints)
    (signed : buildSignedTx env c session fundingTxid basepoints = some built) :
    ∃ output, negotiatedOutput env c session = some output ∧
      built.tx.outs[built.newFundingOutputIndex]? = some output ∧
      0 ≤ session.terms.myNewLocalMsat c.live output.value := by
  simp only [buildSignedTx, bind_eq_bind, Option.bind_eq_some_iff] at signed
  obtain ⟨negotiated, complete, tx, assembled, oldScript, -, shared, -, script, scripted, index, found,
    checked⟩ := signed
  split at checked
  · cases checked
  · rename_i passed
    rw [not_not] at passed
    obtain ⟨own, -, same⟩ := Option.bind_eq_some_iff.mp checked
    cases same
    have complete := Option.bind_eq_some_iff.mpr complete
    have negotiates : negotiatedOutput env c session = tx.outs[index]? := by
      simp only [negotiatedOutput, bind_eq_bind, complete, assembled, known, scripted, found, Option.bind_some]
    cases pays : tx.outs[index]? with
    | none => simp [validateSpliceTxBeforeSigning, pays] at passed
    | some output =>
      simp only [validateSpliceTxBeforeSigning, Option.bind_some, pays, firstRefusal_eq_none,
        List.forall_mem_singleton, List.forall_mem_cons, refuseIf_eq_none,
        not_lt] at passed
      exact ⟨output, by rw [negotiates, pays], rfl, passed.2.2.1⟩

theorem of_buildAndSignSpliceTx (unsigned : c.spliceTx = none) (signed : buildAndSignSpliceTx env c = some built) :
    ∃ session output, c.spliceSession = some session ∧ session.state = .awaitingTxSignatures ∧
      negotiatedOutput env c session = some output ∧ built.tx.outs[built.newFundingOutputIndex]? = some output ∧
      0 ≤ session.terms.myNewLocalMsat c.live output.value := by
  unfold buildAndSignSpliceTx at signed
  split at signed
  · rename_i session fundingTxid basepoints running _ known
    split at signed
    · cases signed
    · rename_i ready
      rw [not_or, not_not] at ready
      simp only [unsigned, orElse_eq_orElse, orElse_eq_or, none_or] at signed
      obtain ⟨output, negotiated, pays, ours⟩ := of_buildSignedTx known signed
      exact ⟨session, output, running, ready.1, negotiated, pays, ours⟩
  · cases signed

theorem Sound.signed (sound : Sound env c) (signed : c.signedTx env = some built) :
    ∃ session output, c.spliceSession = some session ∧ built.tx.outs[built.newFundingOutputIndex]? = some output ∧
      (session.state ≠ .awaitingReply ∧ session.state ≠ .txNegotiation) ∧
      0 ≤ session.terms.myNewLocalMsat c.live output.value ∧
      (0 ≤ session.terms.theirNewMsat c.live output.value ↔ PeerAffords env c) := by
  cases before : c.spliceTx with
  | some known =>
    rw [signedTx_eq, before, some_or] at signed
    cases signed
    obtain ⟨session, output, running, funded⟩ := sound.built _ before
    refine ⟨session, output, running, funded.funds, funded.negotiated, funded.solvent.ours,
      iff_of_true funded.solvent.theirs ?_⟩
    intro none
    rw [before] at none
    cases none
  | none =>
    rw [signedTx_eq, before, none_or] at signed
    obtain ⟨session, output, running, ready, negotiated, pays, ours⟩ :=
      of_buildAndSignSpliceTx before signed
    refine ⟨session, output, running, pays, by simp [ready], ours, ?_⟩
    rw [SpliceTerms.theirNewMsat_eq sound.balanced]
    constructor
    · intro theirs _ other running' _ paid negotiated'
      cases running.symm.trans running'
      cases negotiated.symm.trans negotiated'
      exact theirs
    · intro affords
      exact affords before session running ready output negotiated

end Signing

section Frames

variable (sound : Sound env c)
include sound

theorem Sound.withLive {s : ChannelState} (current : Current s)
    (capacity : s.fundingSatoshis = c.live.fundingSatoshis) (total : s.totalMsat = c.live.totalMsat)
    (phase : c.spliceSession ≠ none → s.phase = .splicing ∨ s.phase = .errored)
    (solvent : ∀ built session output, c.spliceTx = some built → c.spliceSession = some session →
      Built c.live session built output → session.terms.Solvent s output.value) : Sound env { c with live := s } where
  current := current
  balanced := by
    change s.totalMsat = 1000 * s.fundingSatoshis
    rw [total, capacity]
    exact sound.balanced
  phase := phase
  built := by
    intro built signed
    obtain ⟨session, output, running, funded⟩ := sound.built built signed
    exact ⟨session, output, running, funded.funds, funded.negotiated,
      solvent built session output signed running funded⟩
  locked := sound.locked
  recorded := sound.recorded

theorem Sound.withFunds {s : ChannelState} (current : Current s)
    (capacity : s.fundingSatoshis = c.live.fundingSatoshis) (total : s.totalMsat = c.live.totalMsat)
    (ours : c.live.localBalanceMsat ≤ s.localBalanceMsat) (theirs : c.live.remoteBalanceMsat ≤ s.remoteBalanceMsat)
    (phase : c.spliceSession ≠ none → s.phase = .splicing ∨ s.phase = .errored) : Sound env { c with live := s } :=
  sound.withLive current capacity total phase fun _ _ _ _ _ funded =>
    funded.solvent.mono sound.balanced capacity total ours theirs

theorem Sound.withEntries (f : HtlcEntry → HtlcEntry)
    (keeps : ∀ e, (f e).key = e.key) (amount : ∀ e, (f e).amountMsat = e.amountMsat) :
    Sound env { c with live := { c.live with htlcs := c.live.htlcs.map f keeps } } := by
  have total : ((c.live.htlcs.values.map f).map fun e => (e.amountMsat : Int)).sum =
      c.live.htlcTotalMsat := by
    simp only [List.map_map, Function.comp_def, amount]
    rfl
  exact sound.withFunds (s := { c.live with htlcs := c.live.htlcs.map f keeps })
    ⟨sound.current.numbered.of_bind (f := fun e => some (f e)) rfl (by simp [Option.map_eq_bind]),
      sound.current.recent⟩
    rfl (congrArg (c.live.localBalanceMsat + c.live.remoteBalanceMsat + ·) total) le_rfl le_rfl sound.phase

theorem Sound.leaveQuiescence : Sound env (leaveQuiescence c) := by
  unfold Splice.leaveQuiescence
  split
  · exact sound.withFunds { sound.current with } rfl rfl le_rfl le_rfl sound.phase
  · exact sound

variable {session : SpliceSession}

omit sound in
theorem records_newRecord {built : SpliceTx} {record : SpliceInFlight}
    (created : newRecord env c session built = some record) : Records env built session record := by
  simp only [newRecord, bind_eq_bind, Option.bind_eq_some_iff] at created
  obtain ⟨output, pays, pubkey, -, same⟩ := created
  cases same
  exact ⟨rfl, rfl, rfl, by rw [pays, map_some]⟩

def KeepsRecord (changes : SpliceInFlight → SpliceInFlight) : Prop :=
  ∀ record, (changes record).terms = record.terms ∧ (changes record).spliceTxid = record.spliceTxid ∧
    (changes record).newFundingOutputIndex = record.newFundingOutputIndex ∧
    (changes record).newFundingSatoshis = record.newFundingSatoshis

theorem Sound.sync (changes : SpliceInFlight → SpliceInFlight)
    (keeps : KeepsRecord changes) : Sound env (syncSpliceInFlight env c changes) := by
  unfold syncSpliceInFlight
  apply Sound.leaveQuiescence
  refine { sound with recorded := ?_ }
  intro record written
  obtain ⟨before, held, rfl⟩ := Option.map_eq_some_iff.mp written
  obtain ⟨terms, txid, index, capacity⟩ := keeps before
  have known : ∃ built session, c.spliceTx = some built ∧ c.spliceSession = some session ∧
      Records env built session before := by
    cases recorded : c.spliceInFlight with
    | some record =>
      simp only [currentRecord, recorded, orElse_eq_orElse, orElse_eq_or, some_or, Option.some.injEq] at held
      exact sound.recorded before (held ▸ recorded)
    | none =>
      simp only [currentRecord, recorded, orElse_eq_orElse, orElse_eq_or, none_or,
        bind_eq_bind, Option.bind_eq_some_iff] at held
      obtain ⟨session, running, built, signed, created⟩ := held
      exact ⟨built, session, signed, running, records_newRecord created⟩
  obtain ⟨built, session, signed, running, records⟩ := known
  exact ⟨built, session, signed, running, terms.trans records.terms, txid.trans records.txid,
    index.trans records.index, by rw [capacity]; exact records.capacity⟩

variable (env c) in
omit sound in
theorem syncSpliceInFlight_fields (changes : SpliceInFlight → SpliceInFlight) :
    (syncSpliceInFlight env c changes).spliceTx = c.spliceTx ∧
      (syncSpliceInFlight env c changes).spliceSession = c.spliceSession := by
  unfold syncSpliceInFlight Splice.leaveQuiescence
  split <;> exact ⟨rfl, rfl⟩

omit sound in
theorem Sound.of_idle (current : Current d.live) (balanced : d.live.totalMsat = 1000 * d.live.fundingSatoshis)
    (session : d.spliceSession = none) (tx : d.spliceTx = none) (record : d.spliceInFlight = none) : Sound env d := by
  refine ⟨current, balanced, fun running => absurd session running, ?_, ?_, ?_⟩
  · intro built signed
    rw [tx] at signed
    cases signed
  · intro running given
    rw [session] at given
    cases given
  · intro written given
    rw [record] at given
    cases given

omit sound in
theorem Sound.of_unsigned (current : Current d.live) (balanced : d.live.totalMsat = 1000 * d.live.fundingSatoshis)
    (phase : d.live.phase = .splicing ∨ d.live.phase = .errored) (running : d.spliceSession = some session)
    (unlocked : session.state ≠ .awaitingLock) (tx : d.spliceTx = none) (record : d.spliceInFlight = none) :
    Sound env d := by
  refine ⟨current, balanced, fun _ => phase, ?_, ?_, ?_⟩
  · intro built signed
    rw [tx] at signed
    cases signed
  · intro other given awaiting
    cases running.symm.trans given
    exact absurd awaiting unlocked
  · intro written given
    rw [record] at given
    cases given

theorem Sound.congr (live : d.live = c.live)
    (session : d.spliceSession = c.spliceSession) (tx : d.spliceTx = c.spliceTx)
    (record : d.spliceInFlight = c.spliceInFlight) : Sound env d := by
  refine ⟨?_, ?_, ?_, ?_, ?_, ?_⟩
  · rw [live]
    exact sound.current
  · rw [live]
    exact sound.balanced
  · rw [live, session]
    exact sound.phase
  · rw [live, session, tx]
    exact sound.built
  · rw [session, tx]
    exact sound.locked
  · rw [session, tx, record]
    exact sound.recorded

theorem Sound.withSession {session moved : SpliceSession} {built : SpliceTx}
    (running : c.spliceSession = some session) (signed : c.spliceTx = some built)
    (terms : moved.terms = session.terms) (negotiated : moved.state ≠ .awaitingReply ∧ moved.state ≠ .txNegotiation) :
    Sound env { c with spliceSession := some moved } where
  current := sound.current
  balanced := sound.balanced
  phase := fun _ => sound.phase (by simp [running])
  built := by
    intro other signed'
    obtain ⟨known, output, running', funded⟩ := sound.built other signed'
    cases running.symm.trans running'
    refine ⟨moved, output, rfl, funded.funds, negotiated, ?_⟩
    rw [terms]
    exact funded.solvent
  locked := by
    intro _ _ _
    change c.spliceTx ≠ none
    rw [signed]
    exact Option.some_ne_none _
  recorded := by
    intro record written
    obtain ⟨other, known, signed', running', records⟩ := sound.recorded record written
    cases running.symm.trans running'
    exact ⟨other, moved, signed', rfl, records.terms.trans terms.symm, records.txid, records.index, records.capacity⟩

theorem Sound.unsigned (early : ∀ session, c.spliceSession = some session →
      session.state = .awaitingReply ∨ session.state = .txNegotiation) :
    c.spliceTx = none ∧ c.spliceInFlight = none := by
  have unsigned : c.spliceTx = none := by
    rw [Option.eq_none_iff_forall_ne_some]
    intro built signed
    obtain ⟨session, output, running, funded⟩ := sound.built built signed
    rcases early session running with waiting | collecting
    · exact funded.negotiated.1 waiting
    · exact funded.negotiated.2 collecting
  refine ⟨unsigned, ?_⟩
  rw [Option.eq_none_iff_forall_ne_some]
  intro record written
  obtain ⟨built, other, signed, -⟩ := sound.recorded record written
  rw [unsigned] at signed
  cases signed

theorem Sound.idle (phase : c.live.phase = .normal) :
    c.spliceSession = none ∧ c.spliceTx = none ∧ c.spliceInFlight = none := by
  have absent : c.spliceSession = none := by
    by_contra running
    rcases sound.phase running with splicing | errored
    · rw [phase] at splicing
      cases splicing
    · rw [phase] at errored
      cases errored
  refine ⟨absent, sound.unsigned fun session running => ?_⟩
  rw [absent] at running
  cases running

theorem Sound.withTx (affords : PeerAffords env c) {built : SpliceTx}
    (signed : c.signedTx env = some built) : Sound env { c with spliceTx := some built } where
  current := sound.current
  balanced := sound.balanced
  phase := sound.phase
  built := by
    intro other same
    cases same
    obtain ⟨session, output, running, pays, negotiated, ours, theirs⟩ := sound.signed signed
    exact ⟨session, output, running, pays, negotiated, ours, theirs.mpr affords⟩
  locked := fun _ _ _ => Option.some_ne_none _
  recorded := by
    intro record written
    obtain ⟨other, session, signed', running, records⟩ := sound.recorded record written
    rw [signedTx_eq, signed', some_or] at signed
    cases signed
    exact ⟨_, session, rfl, running, records⟩

end Frames

section Signatures

variable {built : SpliceTx}

theorem signedTx_of_built (signed : buildAndSignSpliceTx env c = some built) : c.signedTx env = some built := by
  cases before : c.spliceTx with
  | none => rw [signedTx_eq, before, none_or, signed]
  | some known =>
    rw [signedTx_eq, before, some_or]
    unfold buildAndSignSpliceTx at signed
    split at signed
    · split at signed
      · cases signed
      · simpa only [before, orElse_eq_orElse, orElse_eq_or, some_or] using signed
    · cases signed

theorem Sound.maybeSendSpliceCommitment (sound : Sound env c) (affords : PeerAffords env c) :
    Sound env (maybeSendSpliceCommitment env c).1 := by
  unfold Splice.maybeSendSpliceCommitment
  split
  · split
    · exact sound
    split
    · exact sound
    rename_i built signed
    have signing := sound.withTx affords signed
    dsimp only
    split
    · exact signing
    split
    · exact signing
    exact (signing.congr (d := { c with spliceTx := some built, spliceSentCommitment := true })
      rfl rfl rfl rfl).sync _ fun _ => ⟨rfl, rfl, rfl, rfl⟩
  · exact sound

theorem Sound.maybeSignalSpliceTxSigsNeeded (sound : Sound env c) : Sound env c.maybeSignalSpliceTxSigsNeeded.1 := by
  unfold SplicingChannel.maybeSignalSpliceTxSigsNeeded
  dsimp only
  split
  · exact sound
  · exact sound.congr rfl rfl rfl rfl

theorem Sound.maybeSendSpliceTxSigs (sound : Sound env c) (affords : PeerAffords env c) :
    Sound env (c.maybeSendSpliceTxSigs env).1 := by
  unfold SplicingChannel.maybeSendSpliceTxSigs
  split
  · exact sound
  split
  · exact sound
  split
  · exact sound
  rename_i built signed
  have signing := sound.withTx affords (signedTx_of_built signed)
  dsimp only
  split
  · exact signing.maybeSignalSpliceTxSigsNeeded
  unfold releaseTxSigs
  refine Sound.sync ?_ _ fun _ => ⟨rfl, rfl, rfl, rfl⟩
  exact signing.congr rfl rfl rfl rfl

theorem Sound.maybeSendSpliceTxSigsOrdered (sound : Sound env c) (affords : PeerAffords env c) :
    Sound env (c.maybeSendSpliceTxSigsOrdered env).1 := by
  unfold SplicingChannel.maybeSendSpliceTxSigsOrdered
  split
  · exact sound
  split
  · exact sound
  exact sound.maybeSendSpliceTxSigs affords

end Signatures

section Lock

structure SplitOf (terms : SpliceTerms) (base funded : ChannelState) : Prop where
  total : funded.totalMsat = 1000 * funded.fundingSatoshis
  ours : funded.localBalanceMsat = base.localBalanceMsat + terms.localRelativeSatoshis * 1000 -
    if terms.isInitiator then terms.feeFromChannelSats base funded.fundingSatoshis * 1000 else 0

theorem SplitOf.of_split {terms : SpliceTerms} {base funded : ChannelState}
    (ours : funded.localBalanceMsat = terms.myNewLocalMsat base funded.fundingSatoshis)
    (theirs : funded.remoteBalanceMsat = terms.theirNewMsat base funded.fundingSatoshis)
    (htlcs : funded.htlcs = base.htlcs) : SplitOf terms base funded := by
  constructor
  · rw [ChannelState.totalMsat, ours, theirs, ChannelState.htlcTotalMsat, htlcs, SpliceTerms.theirNewMsat]
    omega
  · rw [ours]
    rfl

structure Adopts (funded adopted : ChannelState) : Prop where
  capacity : adopted.fundingSatoshis = funded.fundingSatoshis
  ours : adopted.localBalanceMsat = funded.localBalanceMsat
  theirs : adopted.remoteBalanceMsat = funded.remoteBalanceMsat
  htlcs : adopted.htlcs = funded.htlcs
  counter : adopted.localHtlcCounter = funded.localHtlcCounter
  recent : adopted.restoreRecencyUnproven = funded.restoreRecencyUnproven

theorem adopts_adoptionTail (adoption : Adoption) : Adopts adoption.funded (c.adoptionTail adoption).live := by
  unfold adoptionTail storeAdoptedSignature
  split <;> exact ⟨rfl, rfl, rfl, rfl, rfl, rfl⟩

variable (env) in
theorem splicedState_of_signed {session : SpliceSession} {built : SpliceTx} {output : TxOut}
    (running : c.spliceSession = some session) (signed : c.spliceTx = some built)
    (funds : built.tx.outs[built.newFundingOutputIndex]? = some output) (base : ChannelState) :
    c.splicedState env base =
      some (splicedView env session built.tx built.newFundingOutputIndex output.value base) := by
  simp only [splicedState, signed, running, funds, map_some]

theorem Sound.completeSplice (sound : Sound env c) {built : SpliceTx} (signed : c.spliceTx = some built) :
    ∃ session output, c.spliceSession = some session ∧ Built c.live session built output ∧
      Adopts (splicedView env session built.tx built.newFundingOutputIndex output.value c.live)
        (c.completeSplice env).live ∧ Sound env (c.completeSplice env) := by
  obtain ⟨session, output, running, funded⟩ := sound.built built signed
  have view := splicedState_of_signed env running signed funded.funds c.live
  have adopts : Adopts (splicedView env session built.tx built.newFundingOutputIndex output.value c.live)
      (c.completeSplice env).live := by
    simp only [SplicingChannel.completeSplice, computeSpliceAdoption, splicedAdoption, running, view, map_some]
    exact adopts_adoptionTail (c := c) ⟨session.spliceTxid, built.newFundingOutputIndex,
      splicedView env session built.tx built.newFundingOutputIndex output.value c.live⟩
  have emptied : (c.completeSplice env).spliceSession = none ∧ (c.completeSplice env).spliceTx = none ∧
      (c.completeSplice env).spliceInFlight = none := by
    simp only [SplicingChannel.completeSplice, computeSpliceAdoption, splicedAdoption, running, view, map_some]
    exact ⟨rfl, rfl, rfl⟩
  refine ⟨session, output, running, funded, adopts, .of_idle ⟨?_, ?_⟩ ?_ emptied.1 emptied.2.1 emptied.2.2⟩
  · intro id e found
    rw [adopts.htlcs] at found
    rw [adopts.counter]
    exact sound.current.numbered id e found
  · rw [adopts.recent]
    exact sound.current.recent
  · have split : SplitOf session.terms c.live (c.completeSplice env).live :=
      .of_split (adopts.ours.trans (by rw [adopts.capacity]; rfl))
        (adopts.theirs.trans (by rw [adopts.capacity]; rfl)) adopts.htlcs
    exact split.total

variable {session locked : SpliceSession}

structure Locks (session locked : SpliceSession) : Prop where
  awaiting : session.state = .awaitingLock
  terms : locked.terms = session.terms
  moved : locked.state = .awaitingLock ∨ locked.state = .complete

theorem sendSpliceLocked_ok (ok : session.sendSpliceLocked = .ok locked) : Locks session locked := by
  unfold SpliceSession.sendSpliceLocked at ok
  split at ok
  · cases ok
  rename_i awaiting
  rw [not_not] at awaiting
  split at ok
  · cases ok
  split at ok
  · cases ok
  · cases ok
    split
    · exact ⟨awaiting, rfl, .inr rfl⟩
    · exact ⟨awaiting, rfl, .inl awaiting⟩

theorem handleSpliceLocked_ok {fundingTxid : Bytes} (ok : session.handleSpliceLocked fundingTxid = .ok locked) : Locks session locked := by
  unfold SpliceSession.handleSpliceLocked at ok
  split at ok
  · cases ok
  rename_i awaiting
  rw [not_not] at awaiting
  split at ok
  · cases ok
  cases ok
  split
  · exact ⟨awaiting, rfl, .inr rfl⟩
  · exact ⟨awaiting, rfl, .inl awaiting⟩

theorem Sound.lock (sound : Sound env c) (running : c.spliceSession = some session) (locks : Locks session locked)
    (changes : SpliceInFlight → SpliceInFlight) (keeps : KeepsRecord changes) :
    let synced := syncSpliceInFlight env { c with spliceSession := some locked } changes
    (∃ built, synced.spliceTx = some built) ∧ Sound env synced ∧ Sound env (synced.completeSplice env) := by
  intro synced
  obtain ⟨built, signed⟩ := Option.ne_none_iff_exists'.mp (sound.locked session running locks.awaiting)
  have negotiated : locked.state ≠ .awaitingReply ∧ locked.state ≠ .txNegotiation := by
    rcases locks.moved with state | state <;> simp [state]
  have kept : synced.spliceTx = some built := (syncSpliceInFlight_fields env _ changes).1.trans signed
  have sound' : Sound env synced := (sound.withSession running signed locks.terms negotiated).sync changes keeps
  obtain ⟨-, -, -, -, -, completed⟩ := sound'.completeSplice kept
  exact ⟨⟨built, kept⟩, sound', completed⟩

theorem Sound.sendSpliceLocked (sound : Sound env c) : Sound env (c.sendSpliceLocked env).1 := by
  unfold SplicingChannel.sendSpliceLocked
  split
  · exact sound
  split
  · exact sound
  rename_i session running
  split
  · exact sound
  split
  · exact sound
  rename_i locked ok
  obtain ⟨-, synced, completed⟩ := sound.lock running (sendSpliceLocked_ok ok)
    (fun record => { record with localSpliceLocked := true }) fun _ => ⟨rfl, rfl, rfl, rfl⟩
  dsimp only
  split
  · exact completed
  · exact synced

theorem Sound.handleSpliceLocked (sound : Sound env c) (fundingTxid : Bytes) :
    Sound env (c.handleSpliceLocked env fundingTxid).1 := by
  unfold SplicingChannel.handleSpliceLocked
  split
  · exact sound
  split
  · exact sound
  · rename_i session running
    split
    · exact sound
    rename_i locked ok
    obtain ⟨-, synced, completed⟩ := sound.lock running (handleSpliceLocked_ok ok)
      (fun record => { record with remoteSpliceLocked := true }) fun _ => ⟨rfl, rfl, rfl, rfl⟩
    dsimp only
    split
    · exact completed
    · exact synced

theorem Sound.spliceCompletionTail (sound : Sound env c) (tx : Transaction) (index : Nat) :
    Sound env (c.spliceCompletionTail env tx index).1 := by
  unfold SplicingChannel.spliceCompletionTail
  dsimp only
  split
  · refine Sound.sendSpliceLocked (Sound.sync ?_ _ fun _ => ⟨rfl, rfl, rfl, rfl⟩)
    exact sound.congr rfl rfl rfl rfl
  · refine Sound.sync ?_ _ fun _ => ⟨rfl, rfl, rfl, rfl⟩
    exact sound.congr rfl rfl rfl rfl

end Lock

end SplicingChannel

end Beignet.Splice
