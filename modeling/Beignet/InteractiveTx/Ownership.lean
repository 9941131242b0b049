import Beignet.InteractiveTx.Session

namespace Beignet.InteractiveTx

open Beignet.Data

structure Owned where
  inputs : InputMap
  outputs : OutputMap

def Owned.nothing : Owned := ⟨.empty, .empty⟩

inductive OwnCall where
  | addInput (input : TxInput)
  | addOutput (output : TxOutput)
  | removeInput (serialId : Nat)
  | removeOutput (serialId : Nat)
  | markComplete
  deriving DecidableEq, Repr

def OwnCall.run (call : OwnCall) (s : NegotiationSession) : NegotiationSession × Option String :=
  match call with
  | .addInput input => s.addInput input
  | .addOutput output => s.addOutput output
  | .removeInput serialId => s.removeInput serialId
  | .removeOutput serialId => s.removeOutput serialId
  | .markComplete => s.markComplete

def Owned.record (owned : Owned) (call : OwnCall) (err : Option String) : Owned :=
  match err, call with
  | some _, _ => owned
  | none, .addInput input => { owned with inputs := owned.inputs.set input }
  | none, .addOutput output => { owned with outputs := owned.outputs.set output }
  | none, .removeInput serialId => { owned with inputs := owned.inputs.delete serialId }
  | none, .removeOutput serialId => { owned with outputs := owned.outputs.delete serialId }
  | none, .markComplete => owned

def OwnedExactly (b : InteractiveTxBuilder) (owned : Owned) : Prop :=
  KeyedMap.Restricts (ownParity b.isInitiator) owned.inputs b.inputs ∧
    KeyedMap.Restricts (ownParity b.isInitiator) owned.outputs b.outputs

theorem ownedExactly_create (isInitiator : Bool) (locktime : Nat) :
    OwnedExactly (.create isInitiator locktime) .nothing :=
  ⟨KeyedMap.Restricts.empty _, KeyedMap.Restricts.empty _⟩

theorem OwnedExactly.congr {b b' : InteractiveTxBuilder} {owned : Owned} (exactly : OwnedExactly b owned)
    (role : b'.isInitiator = b.isInitiator) (inputs : b'.inputs = b.inputs)
    (outputs : b'.outputs = b.outputs) : OwnedExactly b' owned := by
  unfold OwnedExactly
  rw [role, inputs, outputs]
  exact exactly

namespace InteractiveTxBuilder

variable {b : InteractiveTxBuilder} {owned : Owned}

section

variable (exactly : OwnedExactly b owned)
include exactly

theorem record_owned {changed : InteractiveTxBuilder} {result : InteractiveTxBuilder × Option String}
    {call : OwnCall} {fits : Prop} (outcome : (∃ reason, result = (b, some reason)) ∨ result = (changed, none) ∧ fits)
    (accepted : fits → OwnedExactly changed (owned.record call none)) :
    OwnedExactly result.1 (owned.record call result.2) := by
  rcases outcome with ⟨reason, rfl⟩ | ⟨rfl, fit⟩
  · exact exactly
  · exact accepted fit

theorem markComplete_owned : OwnedExactly b.markComplete.1 owned := by
  apply exactly.congr <;> unfold markComplete <;> cases b.state <;> rfl

theorem handlePeerComplete_owned : OwnedExactly b.handlePeerComplete.1 owned := by
  apply exactly.congr <;> unfold handlePeerComplete <;> cases b.state <;> rfl

end

theorem addPeerInput_owned (parse : ParseOutputs) (exactly : OwnedExactly b owned) (input : TxInput)
    (free : Option Int) : OwnedExactly (b.addPeerInput parse input free).1 owned := by
  rcases b.addPeerInput_cases parse input free with ⟨reason, msgs, refused⟩ |
    ⟨msgs, bytes, accepted, theirs⟩
  · rw [refused]
    exact exactly
  · rw [accepted]
    exact ⟨exactly.1.set_outside theirs, exactly.2⟩

variable (exactly : OwnedExactly b owned)
include exactly

theorem addPeerOutput_owned (output : TxOutput) :
    OwnedExactly (b.addPeerOutput output).1 owned := by
  rcases b.addPeerOutput_cases output with ⟨reason, msgs, refused⟩ | ⟨msgs, accepted, theirs⟩
  · rw [refused]
    exact exactly
  · rw [accepted]
    exact ⟨exactly.1, exactly.2.set_outside theirs⟩

theorem removePeerInput_owned_iff (serialId : Nat) :
    OwnedExactly (b.removePeerInput serialId).1 owned ↔
      ¬ (ownParity b.isInitiator serialId = true ∧ b.inputs.has serialId = true) := by
  rcases b.removePeerInput_cases serialId with ⟨reason, refused, missing⟩ | ⟨bytes, accepted, -⟩
  · simp [refused, missing, exactly]
  · rw [accepted, ← exactly.1.delete_whole serialId]
    exact ⟨And.left, fun kept => ⟨kept, exactly.2⟩⟩

theorem removePeerOutput_owned_iff (serialId : Nat) :
    OwnedExactly (b.removePeerOutput serialId).1 owned ↔
      ¬ (ownParity b.isInitiator serialId = true ∧ b.outputs.has serialId = true) := by
  -- the peer's removal and our own are the same code for outputs
  rcases b.removeOutput_cases serialId with ⟨⟨reason, refused⟩, missing⟩ | ⟨accepted, -⟩
  · have same : b.removePeerOutput serialId = (b, some reason) := refused
    simp [same, missing, exactly]
  · have same : b.removePeerOutput serialId = (b.dropOutput serialId, none) := accepted
    rw [same, ← exactly.2.delete_whole serialId]
    exact ⟨And.right, fun kept => ⟨exactly.1, kept⟩⟩

end InteractiveTxBuilder

def SessionOwned (s : NegotiationSession) (owned : Owned) : Prop :=
  ∀ b, s.txBuilder = some b → OwnedExactly b owned

namespace NegotiationSession

variable {s : NegotiationSession} {owned : Owned}
  {call : InteractiveTxBuilder → InteractiveTxBuilder × Option String}

theorem onBuilder_cases (s : NegotiationSession) (what : String)
    (call : InteractiveTxBuilder → InteractiveTxBuilder × Option String) :
    (∃ reason, s.onBuilder what call = (s, some reason)) ∨ (∃ b, s.state = .txNegotiation ∧ s.txBuilder = some b ∧
        s.onBuilder what call = ({ s with txBuilder := some (call b).1 }, (call b).2)) := by
  unfold onBuilder
  by_cases state : s.state = .txNegotiation
  · cases builder : s.txBuilder with
    | none => exact .inl ⟨noBuilder s.kind, by simp [state]⟩
    | some b => exact .inr ⟨b, state, rfl, by simp [state]⟩
  · exact .inl ⟨_, if_pos state⟩

variable (exactly : SessionOwned s owned)
include exactly

theorem onBuilder_owned (what : String)
    (keeps : ∀ b, s.state = .txNegotiation → s.txBuilder = some b → OwnedExactly (call b).1 owned) :
    SessionOwned (s.onBuilder what call).1 owned := by
  rcases s.onBuilder_cases what call with ⟨reason, refused⟩ | ⟨b, state, builder, accepted⟩
  · rw [refused]
    exact exactly
  · rw [accepted]
    intro b' same
    cases same
    exact keeps b state builder

theorem onBuilder_record (what : String) (own : OwnCall)
    (keeps : ∀ b, s.txBuilder = some b → OwnedExactly (call b).1 (owned.record own (call b).2)) :
    SessionOwned (s.onBuilder what call).1 (owned.record own (s.onBuilder what call).2) := by
  rcases s.onBuilder_cases what call with ⟨reason, refused⟩ | ⟨b, -, builder, accepted⟩
  · rw [refused]
    exact exactly
  · rw [accepted]
    intro b' same
    cases same
    exact keeps b builder

omit exactly in
theorem settle_owned {result : NegotiationSession × Option String}
    (exactly : SessionOwned result.1 owned) : SessionOwned (settle result).1 owned := by
  unfold settle
  split <;> exact exactly

theorem abort_owned (reason : String) : SessionOwned (s.abort reason).1 owned := by
  have closed : SessionOwned s.close owned := by
    intro b' builder
    obtain ⟨b, present, rfl⟩ := Option.map_eq_some_iff.mp builder
    exact (exactly b present).congr rfl rfl rfl
  unfold abort
  split
  · exact closed
  · exact exactly
  · exact exactly
  · exact closed

theorem setDustLimit_owned (sats : Nat) : SessionOwned (s.setDustLimit sats) owned := by
  intro b' builder
  obtain ⟨b, present, rfl⟩ := Option.map_eq_some_iff.mp builder
  exact (exactly b present).congr rfl rfl rfl

theorem run_owned (call : OwnCall) : SessionOwned (call.run s).1 (owned.record call (call.run s).2) := by
  cases call with
  | addInput input =>
    refine onBuilder_record exactly _ (.addInput input) fun b builder => ?_
    obtain ⟨inputs, outputs⟩ := exactly b builder
    exact InteractiveTxBuilder.record_owned ⟨inputs, outputs⟩ (b.addInput_cases input) fun ours => ⟨inputs.set_inside ours, outputs⟩
  | addOutput output =>
    refine onBuilder_record exactly _ (.addOutput output) fun b builder => ?_
    obtain ⟨inputs, outputs⟩ := exactly b builder
    exact InteractiveTxBuilder.record_owned ⟨inputs, outputs⟩ (b.addOutput_cases output) fun ours => ⟨inputs, outputs.set_inside ours⟩
  | removeInput serialId =>
    refine onBuilder_record exactly _ (.removeInput serialId) fun b builder => ?_
    obtain ⟨inputs, outputs⟩ := exactly b builder
    exact InteractiveTxBuilder.record_owned ⟨inputs, outputs⟩ ((b.removeInput_cases serialId).imp_left And.left)
      fun _ => ⟨inputs.delete serialId, outputs⟩
  | removeOutput serialId =>
    refine onBuilder_record exactly _ (.removeOutput serialId) fun b builder => ?_
    obtain ⟨inputs, outputs⟩ := exactly b builder
    exact InteractiveTxBuilder.record_owned ⟨inputs, outputs⟩ ((b.removeOutput_cases serialId).imp_left And.left)
      fun _ => ⟨inputs, outputs.delete serialId⟩
  | markComplete =>
    have same : ∀ err, owned.record .markComplete err = owned := by
      intro err
      cases err <;> rfl
    rw [same]
    exact settle_owned (onBuilder_owned exactly _ fun b _ builder =>
      InteractiveTxBuilder.markComplete_owned (exactly b builder))

end NegotiationSession

open NegotiationSession (onBuilder_owned abort_owned run_owned)

structure NegotiationRun where
  channel : NegotiatingChannel
  owned : SessionKind → Owned

inductive NegotiationEvent where
  | start (kind : SessionKind) (isInitiator : Bool) (locktime : Nat)
  | own (kind : SessionKind) (call : OwnCall)
  | abort (kind : SessionKind) (reason : String)
  | peerAddInput (msg : TxAddInputMsg) (prevTxBytesFree : Option Int)
  | peerAddOutput (output : TxOutput)
  | peerRemoveInput (serialId : Nat)
  | peerRemoveOutput (serialId : Nat)
  | peerComplete

namespace NegotiationRun

def start (r : NegotiationRun) (kind : SessionKind) (isInitiator : Bool) (locktime : Nat) : NegotiationRun where
  channel := r.channel.withSession kind (some ⟨kind, .txNegotiation, some (.create isInitiator locktime)⟩)
  owned := Function.update r.owned kind .nothing

def own (r : NegotiationRun) (kind : SessionKind) (call : OwnCall) : NegotiationRun :=
  match r.channel.session kind with
  | none => r
  | some s =>
    { channel := r.channel.withSession kind (some (call.run s).1)
      owned := Function.update r.owned kind ((r.owned kind).record call (call.run s).2) }

def abort (r : NegotiationRun) (kind : SessionKind) (reason : String) : NegotiationRun :=
  match kind with
  | .splice => { r with channel := (r.channel.abortSplice reason).1 }
  | .dualFunding => { r with channel := (r.channel.onSession .dualFunding fun s => s.abort reason).1 }

def step (parse : ParseOutputs) (extractTxid : Bytes → Option Bytes) (r : NegotiationRun) :
    NegotiationEvent → NegotiationRun
  | .start kind isInitiator locktime => r.start kind isInitiator locktime
  | .own kind call => r.own kind call
  | .abort kind reason => r.abort kind reason
  | .peerAddInput msg free =>
    { r with channel := (r.channel.handleTxAddInput parse extractTxid msg free).1 }
  | .peerAddOutput output => { r with channel := (r.channel.handleTxAddOutput output).1 }
  | .peerRemoveInput serialId => { r with channel := (r.channel.handleTxRemoveInput serialId).1 }
  | .peerRemoveOutput serialId => { r with channel := (r.channel.handleTxRemoveOutput serialId).1 }
  | .peerComplete => { r with channel := r.channel.handleTxComplete.1 }

end NegotiationRun

namespace NegotiatingChannel

def reachedBuilder (c : NegotiatingChannel) : Option InteractiveTxBuilder :=
  if c.negotiating c.routedKind ∧ ¬ (c.routedKind = .splice ∧ c.compositeSplice = true) then
    (c.session c.routedKind).bind NegotiationSession.txBuilder
  else none

def TakesOurs (c : NegotiatingChannel) : NegotiationEvent → Prop
  | .peerRemoveInput serialId => ∃ b, c.reachedBuilder = some b ∧
      ownParity b.isInitiator serialId = true ∧ b.inputs.has serialId = true
  | .peerRemoveOutput serialId => ∃ b, c.reachedBuilder = some b ∧
      ownParity b.isInitiator serialId = true ∧ b.outputs.has serialId = true
  | _ => False

variable {c : NegotiatingChannel} {owned : SessionKind → Owned}

def OwnedBy (c : NegotiatingChannel) (owned : SessionKind → Owned) : Prop :=
  ∀ kind s, c.session kind = some s → SessionOwned s (owned kind)

section

variable (owns : c.OwnedBy owned)
include owns

variable {session : Option NegotiationSession}
  {call : NegotiationSession → NegotiationSession × Option String} (kind : SessionKind)

theorem OwnedBy.withSession {owned' : Owned} (next : ∀ s, session = some s → SessionOwned s owned') :
    (c.withSession kind session).OwnedBy (Function.update owned kind owned') := by
  intro other s present
  rw [session_withSession] at present
  by_cases same : other = kind
  · rw [if_pos same] at present
    rw [same, Function.update_self]
    exact next s present
  · rw [if_neg same] at present
    rw [Function.update_of_ne same]
    exact owns other s present

theorem OwnedBy.withSession_same (next : ∀ s, session = some s → SessionOwned s (owned kind)) :
    (c.withSession kind session).OwnedBy owned := by
  have updated := owns.withSession kind next
  rwa [Function.update_eq_self] at updated

theorem OwnedBy.onSession (keeps : ∀ s, c.session kind = some s → SessionOwned (call s).1 (owned kind)) :
    (c.onSession kind call).1.OwnedBy owned := by
  unfold NegotiatingChannel.onSession
  cases present : c.session kind with
  | none => exact owns
  | some s =>
    apply owns.withSession_same
    intro s' same
    cases same
    exact keeps s present

theorem OwnedBy.abortSplice (reason : String) : (c.abortSplice reason).1.OwnedBy owned := by
  unfold NegotiatingChannel.abortSplice
  cases present : c.spliceSession with
  | none => exact owns
  | some s =>
    dsimp only
    split
    · exact owns
    · have kept := abort_owned (owns .splice s present) reason
      split
      · rename_i s' message outcome
        rw [outcome] at kept
        apply owns.withSession_same
        intro next same
        cases same
        exact kept
      · apply owns.withSession_same
        intro next same
        cases same

theorem OwnedBy.handleItem (what : String) (keeps : ¬ (c.routedKind = .splice ∧ c.compositeSplice = true) → ∀ s,
      c.session c.routedKind = some s → SessionOwned (call s).1 (owned c.routedKind)) :
    (c.handleItem what call).1.OwnedBy owned := by
  unfold NegotiatingChannel.handleItem
  cases routed : c.routedKind with
  | splice =>
    rw [routed] at keeps
    dsimp only
    split
    · exact owns.abortSplice _
    · rename_i alone
      exact owns.onSession .splice (keeps fun both => alone both.2)
  | dualFunding =>
    rw [routed] at keeps
    dsimp only
    split
    · exact owns.onSession .dualFunding (keeps (by simp))
    · exact owns

end

variable {b : InteractiveTxBuilder}

theorem reachedBuilder_of_session {s : NegotiationSession}
    (alone : ¬ (c.routedKind = .splice ∧ c.compositeSplice = true))
    (present : c.session c.routedKind = some s) (state : s.state = .txNegotiation)
    (builder : s.txBuilder = some b) : c.reachedBuilder = some b := by
  have negotiating : c.negotiating c.routedKind = true := by
    simp [NegotiatingChannel.negotiating, present, state]
  rw [reachedBuilder, if_pos ⟨negotiating, alone⟩, present]
  exact builder

theorem handleItem_reached (reached : c.reachedBuilder = some b)
    (what : String) (call : NegotiationSession → NegotiationSession × Option String) :
    ∃ s, s.state = .txNegotiation ∧ s.txBuilder = some b ∧ c.session c.routedKind = some s ∧
      (c.handleItem what call).1.session c.routedKind = some (call s).1 := by
  unfold reachedBuilder at reached
  split at reached
  · rename_i both
    obtain ⟨s, present, builder⟩ := Option.bind_eq_some_iff.mp reached
    have state : s.state = .txNegotiation := by
      simpa [NegotiatingChannel.negotiating, present] using both.1
    refine ⟨s, state, builder, present, ?_⟩
    unfold NegotiatingChannel.handleItem
    cases routed : c.routedKind with
    | splice =>
      rw [routed] at present both
      have alone : c.compositeSplice = false := by simpa using both.2
      simp [alone, NegotiatingChannel.onSession, present, session_withSession]
    | dualFunding =>
      rw [routed] at present both
      simp [both.1, NegotiatingChannel.onSession, present, session_withSession]
  · cases reached

variable (owns : c.OwnedBy owned)
include owns

theorem OwnedBy.handleTxAddInput (parse : ParseOutputs)
    (extractTxid : Bytes → Option Bytes) (msg : TxAddInputMsg) (free : Option Int) :
    (c.handleTxAddInput parse extractTxid msg free).1.OwnedBy owned := by
  have keeps : ∀ kind s, c.session kind = some s → SessionOwned
      (s.addPeerInput parse (peerInput extractTxid c.routedKind msg) free).1 (owned kind) := by
    intro kind s present
    exact onBuilder_owned (owns kind s present) _ fun b _ builder =>
      InteractiveTxBuilder.addPeerInput_owned parse (owns kind s present b builder) _ free
  have added := owns.onSession .splice (keeps .splice)
  unfold NegotiatingChannel.handleTxAddInput
  cases routed : c.routedKind with
  | dualFunding =>
    rw [routed] at keeps
    refine owns.handleItem _ fun _ s present => ?_
    rw [routed] at present ⊢
    exact keeps .dualFunding s present
  | splice =>
    rw [routed] at added
    dsimp only
    split
    · exact owns.abortSplice _
    split
    · exact owns.abortSplice _
    split
    · rename_i next reason outcome
      rw [outcome] at added
      exact added.abortSplice reason
    · rename_i next outcome
      rw [outcome] at added
      exact added

theorem OwnedBy.handleTxAddOutput (output : TxOutput) :
    (c.handleTxAddOutput output).1.OwnedBy owned := by
  refine owns.handleItem _ fun _ s present => ?_
  have dusted := NegotiationSession.setDustLimit_owned (owns _ s present)
  exact onBuilder_owned (dusted _) _ fun b _ builder =>
    InteractiveTxBuilder.addPeerOutput_owned (dusted _ b builder) output

theorem OwnedBy.handleItem_iff (what method : String)
    {call : InteractiveTxBuilder → InteractiveTxBuilder × Option String} {takes : InteractiveTxBuilder → Prop}
    (spares : ∀ b kept, OwnedExactly b kept → (OwnedExactly (call b).1 kept ↔ ¬ takes b)) :
    (c.handleItem what fun s => s.onBuilder method call).1.OwnedBy owned ↔
      ¬ ∃ b, c.reachedBuilder = some b ∧ takes b := by
  constructor
  · rintro after ⟨b, reached, taken⟩
    obtain ⟨s, state, builder, present, next⟩ := handleItem_reached reached what fun s =>
      s.onBuilder method call
    have accepted : (s.onBuilder method call).1.txBuilder = some (call b).1 := by
      simp [NegotiationSession.onBuilder, state, builder]
    exact (spares b _ (owns _ s present b builder)).mp (after _ _ next _ accepted) taken
  · intro spared
    refine owns.handleItem _ fun alone s present => ?_
    refine onBuilder_owned (owns _ s present) _ fun b state builder => ?_
    rw [spares b _ (owns _ s present b builder)]
    exact fun taken => spared ⟨b, reachedBuilder_of_session alone present state builder, taken⟩

end NegotiatingChannel

namespace NegotiationRun

theorem step_owned_iff (parse : ParseOutputs) (extractTxid : Bytes → Option Bytes)
    {r : NegotiationRun} (owns : r.channel.OwnedBy r.owned) (event : NegotiationEvent) :
    (r.step parse extractTxid event).channel.OwnedBy (r.step parse extractTxid event).owned ↔
      ¬ r.channel.TakesOurs event := by
  cases event with
  | start kind isInitiator locktime =>
    refine iff_of_true ?_ id
    apply owns.withSession
    intro s same b builder
    cases same
    cases builder
    exact ownedExactly_create isInitiator locktime
  | own kind call =>
    refine iff_of_true ?_ id
    simp only [step, own]
    split
    · exact owns
    · rename_i s present
      apply owns.withSession
      intro next same
      cases same
      exact run_owned (owns kind s present) call
  | abort kind reason =>
    refine iff_of_true ?_ id
    cases kind with
    | splice => exact owns.abortSplice reason
    | dualFunding =>
      exact owns.onSession .dualFunding fun s present =>
        abort_owned (owns .dualFunding s present) reason
  | peerAddInput msg free =>
    exact iff_of_true (owns.handleTxAddInput parse extractTxid msg free) id
  | peerAddOutput output => exact iff_of_true (owns.handleTxAddOutput output) id
  | peerRemoveInput serialId =>
    exact owns.handleItem_iff _ _ fun b kept exactly =>
      InteractiveTxBuilder.removePeerInput_owned_iff exactly serialId
  | peerRemoveOutput serialId =>
    exact owns.handleItem_iff _ _ fun b kept exactly =>
      InteractiveTxBuilder.removePeerOutput_owned_iff exactly serialId
  | peerComplete =>
    refine iff_of_true ?_ id
    have keeps : ∀ kind s, r.channel.session kind = some s →
        SessionOwned s.handlePeerComplete.1 (r.owned kind) := by
      intro kind s present
      exact NegotiationSession.settle_owned (onBuilder_owned (owns kind s present) _
        fun b _ builder => InteractiveTxBuilder.handlePeerComplete_owned (owns kind s present b builder))
    simp only [step, NegotiatingChannel.handleTxComplete]
    split
    · exact owns.onSession .splice (keeps .splice)
    split
    · exact owns.onSession .dualFunding (keeps .dualFunding)
    exact owns

inductive Spared (parse : ParseOutputs) (extractTxid : Bytes → Option Bytes) (first : NegotiationRun) :
    NegotiationRun → Prop where
  | refl : Spared parse extractTxid first first
  | step {r : NegotiationRun} (event : NegotiationEvent) (run : Spared parse extractTxid first r)
      (spared : ¬ r.channel.TakesOurs event) :
      Spared parse extractTxid first (r.step parse extractTxid event)

theorem Spared.owned {parse : ParseOutputs} {extractTxid : Bytes → Option Bytes}
    {first r : NegotiationRun} (idle : ∀ kind, first.channel.session kind = none)
    (run : Spared parse extractTxid first r) : r.channel.OwnedBy r.owned := by
  induction run with
  | refl =>
    intro kind s present
    rw [idle kind] at present
    cases present
  | step event run spared ih => exact (step_owned_iff parse extractTxid ih event).mpr spared

theorem OwnedExactly.built {b : InteractiveTxBuilder} {owned : Owned} {tx : InteractiveTxBuilder.BuiltTransaction}
    (exactly : OwnedExactly b owned) (built : b.buildTransaction = some tx) :
    (∀ input ∈ owned.inputs.values, input ∈ tx.inputs) ∧ ∀ output ∈ owned.outputs.values, output ∈ tx.outputs := by
  unfold InteractiveTxBuilder.buildTransaction at built
  split at built
  · cases built
  split at built
  · cases built
  cases built
  refine ⟨fun input mine => ?_, fun output mine => ?_⟩
  · exact (List.mem_insertionSort _).mpr ((exactly.1 input).mp mine).1
  · exact (List.mem_insertionSort _).mpr ((exactly.2 output).mp mine).1

def idleChannel : NegotiatingChannel where
  fundingTxid := none
  fundingOutputIndex := 0
  localDustLimit := 354
  remoteDustLimit := 354
  openDustLimit := 354
  compositeSplice := false
  spliceSentTxSigs := false
  inFlightSentTxSignatures := false
  inFlightReceivedTxSignatures := false
  spliceSession := none
  dualFundingSession := none

def changeOutput : TxOutput := ⟨0, 40000, [0, 20]⟩

def changeAdded : NegotiationRun :=
  ((⟨idleChannel, fun _ => .nothing⟩ : NegotiationRun).start .splice true 0).own .splice
    (.addOutput changeOutput)

end NegotiationRun

end Beignet.InteractiveTx
