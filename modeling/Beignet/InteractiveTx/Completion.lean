import Beignet.InteractiveTx.Builder

namespace Beignet.InteractiveTx

open InteractiveTxBuilder (resume markComplete addPeerInput unlessRefused addPeerOutput handlePeerComplete)

inductive TxMessage where
  | addInput (input : TxInput)
  | addOutput (output : TxOutput)
  | removeInput (serialId : Nat)
  | removeOutput (serialId : Nat)
  | complete
  deriving DecidableEq, Repr

namespace TxMessage

def send (m : TxMessage) (b : InteractiveTxBuilder) : InteractiveTxBuilder × Option String :=
  match m with
  | addInput input => b.addInput input
  | addOutput output => b.addOutput output
  | removeInput serialId => b.removeInput serialId
  | removeOutput serialId => b.removeOutput serialId
  | complete => b.markComplete

def receive (parse : ParseOutputs) (free : Option Int) (m : TxMessage) (b : InteractiveTxBuilder) :
    InteractiveTxBuilder × Option String :=
  match m with
  | addInput input => b.addPeerInput parse input free
  | addOutput output => b.addPeerOutput output
  | removeInput serialId => b.removePeerInput serialId
  | removeOutput serialId => b.removePeerOutput serialId
  | complete => b.handlePeerComplete

def removesOwn (isInitiator : Bool) : TxMessage → Bool
  | removeInput serialId => ownParity isInitiator serialId
  | removeOutput serialId => ownParity isInitiator serialId
  | _ => true

def Admitted (parse : ParseOutputs) (free : Option Int) (b : InteractiveTxBuilder) : TxMessage → Prop
  | addInput input => InteractiveTxBuilder.peerInputRefusal parse
      { b with peerAddInputMsgs := b.peerAddInputMsgs + 1 } input free = none
  | addOutput output => InteractiveTxBuilder.peerOutputRefusal
      { b with peerAddOutputMsgs := b.peerAddOutputMsgs + 1 } output = none
  | _ => True

def applyInputs : TxMessage → InputMap → InputMap
  | addInput input, inputs => inputs.set input
  | removeInput serialId, inputs => inputs.delete serialId
  | _, inputs => inputs

def applyOutputs : TxMessage → OutputMap → OutputMap
  | addOutput output, outputs => outputs.set output
  | removeOutput serialId, outputs => outputs.delete serialId
  | _, outputs => outputs

def Removable (b : InteractiveTxBuilder) : TxMessage → Prop
  | removeInput serialId => b.inputs.has serialId = true
  | removeOutput serialId => b.outputs.has serialId = true
  | _ => True

structure Effect (m : TxMessage) (b b' : InteractiveTxBuilder) : Prop where
  role : b'.isInitiator = b.isInitiator
  locktime : b'.locktime = b.locktime
  dust : b'.dustLimit = b.dustLimit
  inputs : b'.inputs = m.applyInputs b.inputs
  outputs : b'.outputs = m.applyOutputs b.outputs

variable {m : TxMessage} {b : InteractiveTxBuilder}

theorem send_accepted (sent : (m.send b).2 = none) : Effect m b (m.send b).1 ∧ m.Removable b ∧
      (m ≠ complete → (m.send b).1.state = resume b.state) := by
  cases m with
  | addInput input =>
    rcases b.addInput_cases input with ⟨reason, refused⟩ | ⟨accepted, -⟩
    · simp [send, refused] at sent
    · rw [send, accepted]
      exact ⟨⟨rfl, rfl, rfl, rfl, rfl⟩, trivial, fun _ => rfl⟩
  | addOutput output =>
    rcases b.addOutput_cases output with ⟨reason, refused⟩ | ⟨accepted, -⟩
    · simp [send, refused] at sent
    · rw [send, accepted]
      exact ⟨⟨rfl, rfl, rfl, rfl, rfl⟩, trivial, fun _ => rfl⟩
  | removeInput serialId =>
    rcases b.removeInput_cases serialId with ⟨⟨reason, refused⟩, -⟩ | ⟨accepted, present⟩
    · simp [send, refused] at sent
    · rw [send, accepted]
      exact ⟨⟨rfl, rfl, rfl, rfl, rfl⟩, present, fun _ => rfl⟩
  | removeOutput serialId =>
    rcases b.removeOutput_cases serialId with ⟨⟨reason, refused⟩, -⟩ | ⟨accepted, present⟩
    · simp [send, refused] at sent
    · rw [send, accepted]
      exact ⟨⟨rfl, rfl, rfl, rfl, rfl⟩, present, fun _ => rfl⟩
  | complete =>
    refine ⟨?_, trivial, fun item => absurd rfl item⟩
    constructor <;> unfold send markComplete <;> cases b.state <;> rfl

theorem receive_accepted {parse : ParseOutputs} {free : Option Int} (admitted : m.Admitted parse free b)
    (removable : m.Removable b) (live : b.sessionRefusal = none) : Effect m b (m.receive parse free b).1 ∧
      (m ≠ complete → (m.receive parse free b).1.state = resume b.state) := by
  cases m with
  | addInput input =>
    have accepted := admitted
    unfold Admitted at accepted
    simp only [receive, addPeerInput, live, accepted, unlessRefused]
    exact ⟨⟨rfl, rfl, rfl, rfl, rfl⟩, fun _ => rfl⟩
  | addOutput output =>
    have accepted := admitted
    unfold Admitted at accepted
    simp only [receive, addPeerOutput, live, accepted, unlessRefused]
    exact ⟨⟨rfl, rfl, rfl, rfl, rfl⟩, fun _ => rfl⟩
  | removeInput serialId =>
    rcases b.removePeerInput_cases serialId with ⟨reason, -, missing⟩ | ⟨bytes, accepted, -⟩
    · exact absurd removable (by simp [Removable, missing])
    · rw [receive, accepted]
      exact ⟨⟨rfl, rfl, rfl, rfl, rfl⟩, fun _ => rfl⟩
  | removeOutput serialId =>
    rcases b.removeOutput_cases serialId with ⟨-, missing⟩ | ⟨accepted, -⟩
    · exact absurd removable (by simp [Removable, missing])
    · have same : b.removePeerOutput serialId = (b.dropOutput serialId, none) := accepted
      rw [receive, same]
      exact ⟨⟨rfl, rfl, rfl, rfl, rfl⟩, fun _ => rfl⟩
  | complete =>
    refine ⟨?_, fun item => absurd rfl item⟩
    constructor <;> unfold receive handlePeerComplete <;> cases b.state <;> rfl

end TxMessage

structure Party where
  builder : InteractiveTxBuilder
  log : List (Bool × TxMessage)

structure Exchange where
  active : Party
  passive : Party
  inFlight : Option TxMessage

inductive ExchangeEvent where
  | send (m : TxMessage)
  | deliver (prevTxBytesFree : Option Int)

namespace Exchange

def start (first : Bool) (locktime : Nat) : Exchange where
  active := ⟨.create first locktime, []⟩
  passive := ⟨.create (!first) locktime, []⟩
  inFlight := none

def step (parse : ParseOutputs) (x : Exchange) : ExchangeEvent → Exchange
  | .send m =>
    let role := x.active.builder.isInitiator
    let result := m.send x.active.builder
    if x.inFlight = none ∧ m.removesOwn role ∧ result.2 = none then
      { x with active := ⟨result.1, (role, m) :: x.active.log⟩, inFlight := some m }
    else x
  | .deliver free =>
    match x.inFlight with
    | none => x
    | some m =>
      { active := ⟨(m.receive parse free x.passive.builder).1, (x.active.builder.isInitiator, m) :: x.passive.log⟩
        passive := x.active
        inFlight := none }

end Exchange

def bothComplete : List (Bool × TxMessage) → Bool
  | (p, .complete) :: (q, .complete) :: _ => p != q
  | _ => false

def lastComplete : List (Bool × TxMessage) → Bool
  | (_, .complete) :: _ => true
  | _ => false

namespace Exchange

/-- Items leave only an unfinished builder and pass the receiver's checks; a builder that still
    holds `RECEIVED_COMPLETE` completes only when the message before was a `tx_complete`. -/
def Orderly (parse : ParseOutputs) (x : Exchange) : ExchangeEvent → Prop
  | .send .complete => x.active.builder.state = .receivedComplete → lastComplete x.active.log = true
  | .send _ => x.active.builder.state ≠ .complete
  | .deliver free => ∀ m, x.inFlight = some m → m.Admitted parse free x.passive.builder

inductive OrderlyRun (parse : ParseOutputs) (first : Exchange) : Exchange → Prop where
  | refl : OrderlyRun parse first first
  | step {x : Exchange} (event : ExchangeEvent) (run : OrderlyRun parse first x)
      (orderly : x.Orderly parse event) : OrderlyRun parse first (x.step parse event)

end Exchange

def phase (role : Bool) (log : List (Bool × TxMessage)) : TxState :=
  if bothComplete log then .complete
  else
    match log with
    | (p, .complete) :: _ => if p = role then .sentComplete else .receivedComplete
    | _ => .collecting

def Tracks (p : Party) : Prop :=
  p.builder.state = phase p.builder.isInitiator p.log ∨
    (p.builder.state = .receivedComplete ∧ phase p.builder.isInitiator p.log = .collecting)

def LastFrom (role : Bool) (log : List (Bool × TxMessage)) : Prop :=
  ∀ entry, log.head? = some entry → entry.1 = role

variable {m : TxMessage}

theorem phase_item (role sender : Bool) (item : m ≠ .complete)
    (log : List (Bool × TxMessage)) : phase role ((sender, m) :: log) = .collecting := by
  cases m with
  | complete => exact absurd rfl item
  | _ => simp [phase, bothComplete]

variable {log : List (Bool × TxMessage)} {sender : Bool} {p : Party}

theorem bothComplete_cons_complete (last : LastFrom (!sender) log) :
    bothComplete ((sender, .complete) :: log) = lastComplete log := by
  cases log with
  | nil => rfl
  | cons entry rest =>
    obtain ⟨p, m⟩ := entry
    have other : p = !sender := last (p, m) rfl
    cases m <;> simp [bothComplete, lastComplete, other]

theorem phase_complete (role sender : Bool) (last : LastFrom (!sender) log) :
    phase role ((sender, .complete) :: log) =
      if lastComplete log then .complete
      else if sender = role then .sentComplete else .receivedComplete := by
  unfold phase
  rw [bothComplete_cons_complete last]

theorem phase_of_last {role sender : Bool} (unfinished : bothComplete log = false) (last : LastFrom sender log) :
    phase role log =
      if lastComplete log then (if sender = role then .sentComplete else .receivedComplete)
      else .collecting := by
  unfold phase
  rw [unfinished]
  cases log with
  | nil => rfl
  | cons entry rest =>
    obtain ⟨p, m⟩ := entry
    have same : p = sender := last (p, m) rfl
    cases m <;> simp [lastComplete, same]

theorem phase_ne_aborted (role : Bool) (log : List (Bool × TxMessage)) : phase role log ≠ .aborted := by
  unfold phase
  repeat' split
  all_goals simp

theorem phase_eq_complete (role : Bool) : phase role log = .complete ↔ bothComplete log = true := by
  unfold phase
  constructor
  · intro complete
    by_contra unfinished
    rw [if_neg unfinished] at complete
    repeat' split at complete
    all_goals cases complete
  · intro finished
    rw [if_pos finished]

theorem Tracks.complete_iff (tracks : Tracks p) : p.builder.state = .complete ↔ bothComplete p.log = true := by
  rw [← phase_eq_complete p.builder.isInitiator]
  rcases tracks with same | ⟨stale, collecting⟩
  · rw [same]
  · simp [stale, collecting]

theorem Tracks.live (tracks : Tracks p) (unfinished : bothComplete p.log = false) :
    p.builder.sessionRefusal = none := by
  rw [InteractiveTxBuilder.sessionRefusal_eq_none]
  refine ⟨?_, ?_⟩
  · rcases tracks with same | ⟨stale, -⟩
    · rw [same]
      exact phase_ne_aborted _ _
    · simp [stale]
  · rw [Ne, tracks.complete_iff, unfinished]
    simp

theorem Tracks.state_cases (tracks : Tracks p)
    (unfinished : bothComplete p.log = false) (last : LastFrom sender p.log) : (lastComplete p.log = true ∧
      p.builder.state = if sender = p.builder.isInitiator then .sentComplete else .receivedComplete) ∨
      (lastComplete p.log = false ∧ (p.builder.state = .collecting ∨ p.builder.state = .receivedComplete)) := by
  unfold Tracks at tracks
  rw [phase_of_last unfinished last] at tracks
  cases ended : lastComplete p.log with
  | true =>
    refine .inl ⟨rfl, ?_⟩
    rcases tracks with same | ⟨-, collecting⟩
    · simpa [ended] using same
    · rw [ended, if_pos rfl] at collecting
      split at collecting <;> cases collecting
  | false =>
    refine .inr ⟨rfl, ?_⟩
    rcases tracks with same | ⟨stale, -⟩
    · exact .inl (by simpa [ended] using same)
    · exact .inr stale

/-- Between turns both builders hold the same items and saw the same messages; a message in
    flight is the only difference. -/
def Exchange.Link (x : Exchange) : Prop :=
  match x.inFlight with
  | none => x.active.builder.inputs = x.passive.builder.inputs ∧
      x.active.builder.outputs = x.passive.builder.outputs ∧ x.active.log = x.passive.log ∧
      LastFrom x.passive.builder.isInitiator x.active.log
  | some m => x.active.builder.inputs = m.applyInputs x.passive.builder.inputs ∧
      x.active.builder.outputs = m.applyOutputs x.passive.builder.outputs ∧
      x.active.log = (x.active.builder.isInitiator, m) :: x.passive.log ∧
      LastFrom x.passive.builder.isInitiator x.passive.log ∧
      bothComplete x.passive.log = false ∧ m.Removable x.passive.builder

structure Exchange.Agreed (locktime : Nat) (x : Exchange) : Prop where
  roles : x.passive.builder.isInitiator = !x.active.builder.isInitiator
  activeLocktime : x.active.builder.locktime = locktime
  passiveLocktime : x.passive.builder.locktime = locktime
  activeDust : x.active.builder.dustLimit = dustLimitSats
  passiveDust : x.passive.builder.dustLimit = dustLimitSats
  activeTracks : Tracks x.active
  passiveTracks : Tracks x.passive
  link : x.Link

namespace Exchange

theorem agreed_start (first : Bool) (locktime : Nat) : (start first locktime).Agreed locktime where
  roles := rfl
  activeLocktime := rfl
  passiveLocktime := rfl
  activeDust := rfl
  passiveDust := rfl
  activeTracks := .inl rfl
  passiveTracks := .inl rfl
  link := ⟨rfl, rfl, rfl, fun _ absent => by cases absent⟩

theorem tracks_send {p : Party} (tracks : Tracks p)
    (unfinished : bothComplete p.log = false) (last : LastFrom (!p.builder.isInitiator) p.log)
    (sent : (m.send p.builder).2 = none)
    (fresh : m = .complete → p.builder.state = .receivedComplete → lastComplete p.log = true) :
    Tracks ⟨(m.send p.builder).1, (p.builder.isInitiator, m) :: p.log⟩ := by
  obtain ⟨effect, -, item_state⟩ := TxMessage.send_accepted sent
  have states := tracks.state_cases unfinished last
  unfold Tracks
  dsimp only
  rw [effect.role]
  by_cases complete : m = .complete
  · subst complete
    rw [phase_complete _ _ last]
    left
    rcases states with ⟨ended, state⟩ | ⟨ongoing, state | state⟩
    · have received : p.builder.state = .receivedComplete := by simpa using state
      simp [TxMessage.send, markComplete, received, ended]
    · simp [TxMessage.send, markComplete, state, ongoing]
    · rw [fresh rfl state] at ongoing
      cases ongoing
  · rw [phase_item _ _ complete, item_state complete]
    rcases states with ⟨-, state⟩ | ⟨-, state | state⟩ <;>
      simp [state, resume]

variable {parse : ParseOutputs}

theorem tracks_receive {free : Option Int} {p : Party} (tracks : Tracks p) (unfinished : bothComplete p.log = false)
    (last : LastFrom p.builder.isInitiator p.log) (admitted : m.Admitted parse free p.builder)
    (removable : m.Removable p.builder) :
    Tracks ⟨(m.receive parse free p.builder).1, (!p.builder.isInitiator, m) :: p.log⟩ := by
  obtain ⟨effect, item_state⟩ :=
    TxMessage.receive_accepted admitted removable (tracks.live unfinished)
  have states := tracks.state_cases unfinished last
  unfold Tracks
  dsimp only
  rw [effect.role]
  by_cases complete : m = .complete
  · subst complete
    rw [phase_complete _ _ (by simpa using last)]
    left
    rcases states with ⟨ended, state⟩ | ⟨ongoing, state | state⟩
    · have sent : p.builder.state = .sentComplete := by simpa using state
      simp [TxMessage.receive, handlePeerComplete, sent, ended]
    · simp [TxMessage.receive, handlePeerComplete, state, ongoing]
    · simp [TxMessage.receive, handlePeerComplete, state, ongoing]
  · rw [phase_item _ _ complete, item_state complete]
    rcases states with ⟨-, state⟩ | ⟨-, state | state⟩ <;>
      simp [state, resume]

variable {locktime : Nat} {x : Exchange}

theorem Agreed.send (agreed : x.Agreed locktime)
    (idle : x.inFlight = none) (sent : (m.send x.active.builder).2 = none)
    (fresh : m = .complete → x.active.builder.state = .receivedComplete → lastComplete x.active.log = true)
    (unfinished : bothComplete x.active.log = false) : Agreed locktime { x with
        active := ⟨(m.send x.active.builder).1, (x.active.builder.isInitiator, m) :: x.active.log⟩
        inFlight := some m } := by
  have link := agreed.link
  rw [Link, idle] at link
  obtain ⟨inputs, outputs, logs, last⟩ := link
  have fromPeer : LastFrom (!x.active.builder.isInitiator) x.active.log := by
    rw [← agreed.roles]
    exact last
  obtain ⟨effect, removable, -⟩ := TxMessage.send_accepted sent
  exact
    { roles := by rw [effect.role]; exact agreed.roles
      activeLocktime := by rw [effect.locktime]; exact agreed.activeLocktime
      passiveLocktime := agreed.passiveLocktime
      activeDust := by rw [effect.dust]; exact agreed.activeDust
      passiveDust := agreed.passiveDust
      activeTracks := tracks_send agreed.activeTracks unfinished fromPeer sent fresh
      passiveTracks := agreed.passiveTracks
      link := by
        refine ⟨?_, ?_, ?_, ?_, ?_, ?_⟩
        · rw [effect.inputs, inputs]
        · rw [effect.outputs, outputs]
        · rw [effect.role, logs]
        · rw [← logs]
          exact last
        · rw [← logs]
          exact unfinished
        · cases m <;> simp_all [TxMessage.Removable] }

theorem Agreed.deliver {free : Option Int} (agreed : x.Agreed locktime) (inFlight : x.inFlight = some m)
    (admitted : m.Admitted parse free x.passive.builder) : Agreed locktime
      { active := ⟨(m.receive parse free x.passive.builder).1, (x.active.builder.isInitiator, m) :: x.passive.log⟩
        passive := x.active
        inFlight := none } := by
  have link := agreed.link
  rw [Link, inFlight] at link
  obtain ⟨inputs, outputs, logs, last, unfinished, removable⟩ := link
  have sender : x.active.builder.isInitiator = !x.passive.builder.isInitiator := by
    rw [agreed.roles, Bool.not_not]
  obtain ⟨effect, -⟩ :=
    TxMessage.receive_accepted admitted removable (agreed.passiveTracks.live unfinished)
  exact
    { roles := by rw [effect.role]; exact sender
      activeLocktime := by rw [effect.locktime]; exact agreed.passiveLocktime
      passiveLocktime := agreed.activeLocktime
      activeDust := by rw [effect.dust]; exact agreed.passiveDust
      passiveDust := agreed.activeDust
      activeTracks := by
        rw [sender]
        exact tracks_receive agreed.passiveTracks unfinished last admitted removable
      passiveTracks := agreed.activeTracks
      link := by
        refine ⟨?_, ?_, logs.symm, ?_⟩
        · rw [effect.inputs, inputs]
        · rw [effect.outputs, outputs]
        · intro entry newest
          cases newest
          rfl }

theorem Agreed.step (agreed : x.Agreed locktime) {event : ExchangeEvent} (orderly : x.Orderly parse event) :
    (x.step parse event).Agreed locktime := by
  cases event with
  | send m =>
    unfold Exchange.step
    dsimp only
    split
    · rename_i turn
      obtain ⟨idle, -, sent⟩ := turn
      refine agreed.send idle sent ?_ ?_
      · rintro rfl
        exact orderly
      · by_contra finished
        have complete := agreed.activeTracks.complete_iff.mpr (by simpa using finished)
        cases m with
        | complete => simp [TxMessage.send, markComplete, complete] at sent
        | _ => exact orderly complete
    · exact agreed
  | deliver free =>
    unfold Exchange.step
    cases flight : x.inFlight with
    | none => exact agreed
    | some m => exact agreed.deliver flight (orderly m flight)

theorem OrderlyRun.agreed {first : Bool} (run : OrderlyRun parse (start first locktime) x) : x.Agreed locktime := by
  induction run with
  | refl => exact agreed_start first locktime
  | step event run orderly ih => exact ih.step orderly

theorem Agreed.idle_of_complete (agreed : x.Agreed locktime)
    (passive : x.passive.builder.state = .complete) : x.inFlight = none := by
  cases flight : x.inFlight with
  | none => rfl
  | some m =>
    have link := agreed.link
    rw [Link, flight] at link
    have finished := agreed.passiveTracks.complete_iff.mp passive
    rw [link.2.2.2.2.1] at finished
    cases finished

def runEvents (parse : ParseOutputs) (x : Exchange) (events : List ExchangeEvent) : Exchange :=
  events.foldl (step parse) x

end Exchange

end Beignet.InteractiveTx
