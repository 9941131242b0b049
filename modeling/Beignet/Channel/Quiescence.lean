import Beignet.Channel.Types

namespace Beignet.Channel

inductive QuiescenceState where
  | normal
  | sentStfu
  | receivedStfu
  | quiescent
  deriving DecidableEq, Repr

structure QuiescenceManager where
  state : QuiescenceState
  initiator : Bool
  deriving DecidableEq, Repr

namespace QuiescenceManager

def fresh : QuiescenceManager := ⟨.normal, false⟩

variable (m : QuiescenceManager)

def isQuiescent : Bool := m.state == .quiescent

def isInitiator : Bool := m.initiator

def initiate : Option QuiescenceManager :=
  if m.state != .normal then none else some ⟨.sentStfu, true⟩

def handlePeerStfu (peerInitiator localIsOpener : Bool) : Except String (QuiescenceManager × Bool) :=
  match m.state with
  | .normal => .ok (⟨.receivedStfu, false⟩, true)
  | .sentStfu => .ok (⟨.quiescent, if peerInitiator then localIsOpener else m.initiator⟩, false)
  | .receivedStfu | .quiescent => .error "Unexpected STFU in current state"

def completeHandshake : QuiescenceManager :=
  if m.state == .receivedStfu then { m with state := .quiescent } else m

def exitQuiescence : Option QuiescenceManager :=
  if m.state != .quiescent then none else some ⟨.normal, false⟩

def reset (_ : QuiescenceManager) : QuiescenceManager := ⟨.normal, false⟩

end QuiescenceManager

/-- The part of a channel that quiescence concerns. `stfuReplyOwed` is a peer's stfu that was taken
    while updates were still pending. -/
structure QuiescenceSide where
  quiescence : QuiescenceManager
  stfuReplyOwed : Bool
  deriving DecidableEq, Repr

structure QuiescenceReply where
  side : QuiescenceSide
  sent : List Bool := []
  error : Option String := none
  deriving DecidableEq, Repr

namespace QuiescenceSide

def fresh : QuiescenceSide := ⟨.fresh, false⟩

variable (c : QuiescenceSide) (hasPendingHtlcs : Bool)

def initiateQuiescence : QuiescenceReply :=
  if hasPendingHtlcs then { side := c, error := some "Cannot quiesce: pending HTLCs exist" }
  else
    match c.quiescence.initiate with
    | none => { side := c, error := some "Cannot quiesce: already quiescing" }
    | some quiescence => { side := { c with quiescence }, sent := [true] }

def handleStfuMessage (role : ChannelRole) (hasPendingHtlcs initiator : Bool) : QuiescenceReply :=
  if hasPendingHtlcs && c.quiescence.state != .normal then
    { side := c, error := some "Cannot accept STFU: pending HTLCs exist" }
  else
    match c.quiescence.handlePeerStfu initiator (role == .opener) with
    | .error message => { side := c, error := some message }
    | .ok (quiescence, shouldRespond) =>
      -- the answer waits until the updates that are under way have settled
      if hasPendingHtlcs then { side := { quiescence, stfuReplyOwed := true } }
      else if shouldRespond then
        { side := { c with quiescence := quiescence.completeHandshake }, sent := [false] }
      else { side := { c with quiescence } }

/-- `_maybeAnswerOwedStfu`, called when an update may have settled. -/
def maybeAnswerOwedStfu : QuiescenceReply :=
  if !c.stfuReplyOwed || hasPendingHtlcs then { side := c }
  else { side := ⟨c.quiescence.completeHandshake, false⟩, sent := [false] }

def exitQuiescence (c : QuiescenceSide) : QuiescenceReply :=
  match c.quiescence.exitQuiescence with
  | none => { side := c, error := some "Cannot exit quiescence: not quiescent" }
  | some quiescence => { side := { c with quiescence } }

def markForReestablish : QuiescenceSide := ⟨c.quiescence.reset, false⟩

end QuiescenceSide

inductive QuiescenceCall where
  | initiate (hasPendingHtlcs : Bool)
  | receive (hasPendingHtlcs : Bool)
  | settle (hasPendingHtlcs : Bool)
  | exit
  deriving DecidableEq, Repr

def QuiescenceSide.call (role : ChannelRole) (c : QuiescenceSide) (incoming : List Bool) :
    QuiescenceCall → QuiescenceReply × List Bool
  | .initiate pending => (c.initiateQuiescence pending, incoming)
  | .receive pending =>
    match incoming with
    | [] => ({ side := c }, [])
    | initiator :: rest => (c.handleStfuMessage role pending initiator, rest)
  | .settle pending => (c.maybeAnswerOwedStfu pending, incoming)
  | .exit => (c.exitQuiescence, incoming)

/-- Two channels and the stfu messages each has sent that are still under way. `stfus` counts those a
    side has sent since it was last out of quiescence. -/
structure QuiescenceLink where
  side : ChannelRole → QuiescenceSide
  wire : ChannelRole → List Bool
  stfus : ChannelRole → Nat

inductive QuiescenceInput where
  | call (role : ChannelRole) (call : QuiescenceCall)
  | disconnect
  deriving DecidableEq, Repr

namespace QuiescenceLink

open Function

def fresh : QuiescenceLink := ⟨fun _ => .fresh, fun _ => [], fun _ => 0⟩

/-- A session of a side lasts as long as its manager is not in `NORMAL`. -/
def countStfus (count : Nat) (reply : QuiescenceReply) : Nat :=
  if reply.side.quiescence.state = .normal then 0 else count + reply.sent.length

def step (link : QuiescenceLink) : QuiescenceInput → QuiescenceLink
  | .call role call =>
    let (reply, unread) := (link.side role).call role (link.wire role.other) call
    { side := update link.side role reply.side
      wire := update (update link.wire role (link.wire role ++ reply.sent)) role.other unread
      stfus := update link.stfus role (countStfus (link.stfus role) reply) }
  | .disconnect => ⟨fun role => (link.side role).markForReestablish, fun _ => [], fun _ => 0⟩

def run (link : QuiescenceLink) (inputs : List QuiescenceInput) : QuiescenceLink := inputs.foldl step link

end QuiescenceLink

open QuiescenceLink (countStfus)

/-- Everything a call can do to a side: its state, what it had not read, the state and the messages it
    leaves, and what it has still not read. -/
inductive CallEffect (role : ChannelRole) :
    QuiescenceSide → List Bool → QuiescenceSide → List Bool → List Bool → Prop
  | same (c : QuiescenceSide) (incoming : List Bool) : CallEffect role c incoming c [] incoming
  | dropped {c : QuiescenceSide} (busy : c.quiescence.state ≠ .normal) (initiator : Bool) (rest : List Bool) :
      CallEffect role c (initiator :: rest) c [] rest
  | opened (flag owed : Bool) (incoming : List Bool) :
      CallEffect role ⟨⟨.normal, flag⟩, owed⟩ incoming ⟨⟨.sentStfu, true⟩, owed⟩ [true] incoming
  | answered (flag owed initiator : Bool) (rest : List Bool) :
      CallEffect role ⟨⟨.normal, flag⟩, owed⟩ (initiator :: rest) ⟨⟨.quiescent, false⟩, owed⟩ [false] rest
  | latched (flag owed initiator : Bool) (rest : List Bool) :
      CallEffect role ⟨⟨.normal, flag⟩, owed⟩ (initiator :: rest) ⟨⟨.receivedStfu, false⟩, true⟩ [] rest
  | joined (flag owed initiator : Bool) (rest : List Bool) :
      CallEffect role ⟨⟨.sentStfu, flag⟩, owed⟩ (initiator :: rest)
        ⟨⟨.quiescent, if initiator then role == .opener else flag⟩, owed⟩ [] rest
  | settled (m : QuiescenceManager) (incoming : List Bool) :
      CallEffect role ⟨m, true⟩ incoming ⟨m.completeHandshake, false⟩ [false] incoming
  | left (flag owed : Bool) (incoming : List Bool) :
      CallEffect role ⟨⟨.quiescent, flag⟩, owed⟩ incoming ⟨⟨.normal, false⟩, owed⟩ [] incoming

theorem handleStfuMessage_effect (role : ChannelRole) (c : QuiescenceSide) (pending initiator : Bool)
    (rest : List Bool) : CallEffect role c (initiator :: rest) (c.handleStfuMessage role pending initiator).side
      (c.handleStfuMessage role pending initiator).sent rest := by
  obtain ⟨⟨state, flag⟩, owed⟩ := c
  cases state with
  | normal =>
    cases pending with
    | true => exact .latched flag owed initiator rest
    | false => exact .answered flag owed initiator rest
  | sentStfu =>
    cases pending with
    | true => exact .dropped QuiescenceState.noConfusion initiator rest
    | false => exact .joined flag owed initiator rest
  | receivedStfu => cases pending <;> exact .dropped QuiescenceState.noConfusion initiator rest
  | quiescent => cases pending <;> exact .dropped QuiescenceState.noConfusion initiator rest

theorem call_effect (role : ChannelRole) (c : QuiescenceSide) (incoming : List Bool) (call : QuiescenceCall) :
    CallEffect role c incoming (c.call role incoming call).1.side (c.call role incoming call).1.sent
      (c.call role incoming call).2 := by
  cases call with
  | initiate pending =>
    obtain ⟨⟨state, flag⟩, owed⟩ := c
    cases pending with
    | true => exact .same _ incoming
    | false => cases state <;> first | exact .opened flag owed incoming | exact .same _ incoming
  | receive pending =>
    cases incoming with
    | nil => exact .same c []
    | cons initiator rest => exact handleStfuMessage_effect role c pending initiator rest
  | settle pending =>
    obtain ⟨m, owed⟩ := c
    cases owed with
    | false => exact .same _ incoming
    | true => cases pending <;> first | exact .settled m incoming | exact .same _ incoming
  | exit =>
    obtain ⟨⟨state, flag⟩, owed⟩ := c
    cases state <;> first | exact .left flag owed incoming | exact .same _ incoming

section Agreement

/-- How far apart the two sides can be: `me`, its peer, what `me` has sent and what its peer has sent.
    A side that has left its session may open another one while the other is still in the old one. -/
inductive Standing (role : ChannelRole) :
    QuiescenceSide → QuiescenceSide → List Bool → List Bool → Prop
  | idle : Standing role ⟨⟨.normal, false⟩, false⟩ ⟨⟨.normal, false⟩, false⟩ [] []
  | opened : Standing role ⟨⟨.sentStfu, true⟩, false⟩ ⟨⟨.normal, false⟩, false⟩ [true] []
  | owed : Standing role ⟨⟨.sentStfu, true⟩, false⟩ ⟨⟨.receivedStfu, false⟩, true⟩ [] []
  | crossed : Standing role ⟨⟨.sentStfu, true⟩, false⟩ ⟨⟨.sentStfu, true⟩, false⟩ [true] [true]
  -- the peer has met our stfu with an answer or with an opening of its own
  | answered (opening flag : Bool) (tieBreak : flag = (opening && role.other == .opener)) :
      Standing role ⟨⟨.sentStfu, true⟩, false⟩ ⟨⟨.quiescent, flag⟩, false⟩ [] [opening]
  | settled (mine theirs : Bool) (agree : theirs = !mine) :
      Standing role ⟨⟨.quiescent, mine⟩, false⟩ ⟨⟨.quiescent, theirs⟩, false⟩ [] []
  | left (flag : Bool) : Standing role ⟨⟨.normal, false⟩, false⟩ ⟨⟨.quiescent, flag⟩, false⟩ [] []
  | leftEarly (opening : Bool) :
      Standing role ⟨⟨.sentStfu, true⟩, false⟩ ⟨⟨.normal, false⟩, false⟩ [] [opening]
  | reopened (opening : Bool) :
      Standing role ⟨⟨.sentStfu, true⟩, false⟩ ⟨⟨.sentStfu, true⟩, false⟩ [] [opening, true]
  | early (flag : Bool) :
      Standing role ⟨⟨.sentStfu, true⟩, false⟩ ⟨⟨.quiescent, flag⟩, false⟩ [true] []
  -- an stfu was refused, and nothing that is under way can complete the session
  | refused (flag : Bool) :
      Standing role ⟨⟨.sentStfu, true⟩, false⟩ ⟨⟨.quiescent, flag⟩, false⟩ [] []
  | abandoned : Standing role ⟨⟨.sentStfu, true⟩, false⟩ ⟨⟨.normal, false⟩, false⟩ [] []
  | late : Standing role ⟨⟨.sentStfu, true⟩, false⟩ ⟨⟨.sentStfu, true⟩, false⟩ [true] []
  | stuck : Standing role ⟨⟨.sentStfu, true⟩, false⟩ ⟨⟨.sentStfu, true⟩, false⟩ [] []

def EitherStanding (role : ChannelRole) (me peer : QuiescenceSide) (sent received : List Bool) : Prop :=
  Standing role me peer sent received ∨ Standing role.other peer me received sent

variable {role : ChannelRole} {me peer next : QuiescenceSide} {sent received said unread : List Bool}

theorem EitherStanding.symm (standing : EitherStanding role me peer sent received) :
    EitherStanding role.other peer me received sent := by
  rcases standing with here | there
  · refine .inr ?_
    rwa [ChannelRole.other_other]
  · exact .inl there

theorem Standing.call_me (standing : Standing role me peer sent received)
    (effect : CallEffect role me received next said unread) :
    EitherStanding role next peer (sent ++ said) unread := by
  cases effect with
  | same =>
    rw [List.append_nil]
    exact .inl standing
  | dropped =>
    cases standing with
    | crossed => exact .inl .late
    | answered => exact .inl (.refused _)
    | leftEarly => exact .inl .abandoned
    | reopened => exact .inr .late
  | opened =>
    cases standing with
    | idle => exact .inl .opened
    | left => exact .inl (.early _)
  | answered => cases standing
  | latched => cases standing
  | joined _ _ opening =>
    cases standing with
    | crossed => exact .inr (.answered true _ (by simp))
    | answered _ _ tieBreak =>
      -- the funder's own flag stays up and the other's goes down, whichever side reads first
      refine .inl (.settled _ _ ?_)
      cases role <;> cases opening <;> simp [tieBreak, ChannelRole.other]
    | leftEarly => exact .inr (.left _)
    | reopened => exact .inr (.early _)
  | settled => cases standing
  | left =>
    cases standing with
    | settled => exact .inl (.left _)

theorem Standing.call_peer (standing : Standing role me peer sent received)
    (effect : CallEffect role.other peer sent next said unread) :
    EitherStanding role me next unread (received ++ said) := by
  cases effect with
  | same =>
    rw [List.append_nil]
    exact .inl standing
  | dropped =>
    cases standing with
    | opened => contradiction
    | crossed => exact .inr .late
    | early => exact .inl (.refused _)
    | late => exact .inl .stuck
  | opened =>
    cases standing with
    | idle => exact .inr .opened
    | opened => exact .inl .crossed
    | leftEarly opening => exact .inl (.reopened opening)
    | abandoned => exact .inr .late
  | answered =>
    cases standing with
    | opened => exact .inl (.answered false _ rfl)
  | latched =>
    cases standing with
    | opened => exact .inl .owed
  | joined =>
    cases standing with
    | crossed => exact .inl (.answered true _ rfl)
    | late => exact .inl (.refused _)
  | settled =>
    cases standing with
    | owed => exact .inl (.answered false _ rfl)
  | left =>
    cases standing with
    | answered opening => exact .inl (.leftEarly opening)
    | settled => exact .inr (.left _)
    | left => exact .inl .idle
    | early => exact .inl .opened
    | refused => exact .inl .abandoned

theorem EitherStanding.call (standing : EitherStanding role me peer sent received)
    (effect : CallEffect role me received next said unread) :
    EitherStanding role next peer (sent ++ said) unread := by
  rcases standing with here | there
  · exact here.call_me effect
  · rw [← ChannelRole.other_other role] at effect
    have after := (there.call_peer effect).symm
    rwa [ChannelRole.other_other] at after

theorem EitherStanding.initiator (standing : EitherStanding role me peer sent received)
    (mine : me.quiescence.isQuiescent = true) (theirs : peer.quiescence.isQuiescent = true) :
    peer.quiescence.isInitiator = !me.quiescence.isInitiator := by
  rcases standing with here | there
  · cases here <;> first | exact absurd mine (by decide) | exact absurd theirs (by decide) | assumption
  · cases there with
    | settled _ _ agree => simp [QuiescenceManager.isInitiator, agree]
    | _ => first | exact absurd mine (by decide) | exact absurd theirs (by decide)

end Agreement

structure SessionCounted (c : QuiescenceSide) (stfus : Nat) : Prop where
  owed : c.stfuReplyOwed = true → c.quiescence.state = .receivedStfu
  silent : c.quiescence.state = .normal ∨ c.quiescence.state = .receivedStfu → stfus = 0
  once : stfus ≤ 1

namespace SessionCounted

variable {role : ChannelRole} {c next : QuiescenceSide} {incoming said unread : List Bool} {stfus : Nat}

theorem quiet (counted : SessionCounted c stfus) (error : Option String) :
    SessionCounted c (countStfus stfus ⟨c, [], error⟩) := by
  by_cases normal : c.quiescence.state = .normal
  · rw [countStfus, if_pos normal]
    exact { counted with silent := fun _ => rfl, once := Nat.zero_le 1 }
  · rwa [countStfus, if_neg normal]

theorem call (counted : SessionCounted c stfus) (error : Option String)
    (effect : CallEffect role c incoming next said unread) :
    SessionCounted next (countStfus stfus ⟨next, said, error⟩) := by
  cases effect with
  | same => exact counted.quiet error
  | dropped => exact counted.quiet error
  | opened flag owed =>
    have none := counted.silent (.inl rfl)
    refine ⟨fun waits => absurd (counted.owed waits) (by simp), by simp, ?_⟩
    simp [countStfus, none]
  | answered flag owed =>
    have none := counted.silent (.inl rfl)
    refine ⟨fun waits => absurd (counted.owed waits) (by simp), by simp, ?_⟩
    simp [countStfus, none]
  | latched =>
    have none := counted.silent (.inl rfl)
    refine ⟨fun _ => rfl, ?_, ?_⟩ <;> simp [countStfus, none]
  | joined flag owed =>
    refine ⟨fun waits => absurd (counted.owed waits) (by simp), by simp, ?_⟩
    simpa [countStfus] using counted.once
  | settled m =>
    have received := counted.owed rfl
    have none := counted.silent (.inr received)
    have settled : m.completeHandshake.state = .quiescent := by
      simp only at received
      simp [QuiescenceManager.completeHandshake, received]
    refine ⟨by simp, by simp [settled], ?_⟩
    simp [countStfus, settled, none]
  | left flag owed =>
    refine ⟨fun waits => absurd (counted.owed waits) (by simp), ?_, ?_⟩ <;>
      simp [countStfus]

end SessionCounted

namespace QuiescenceLink

open Function

structure Consistent (link : QuiescenceLink) : Prop where
  standing : ∀ role, EitherStanding role (link.side role) (link.side role.other) (link.wire role)
    (link.wire role.other)
  counted : ∀ role, SessionCounted (link.side role) (link.stfus role)

theorem consistent_fresh : Consistent fresh where
  standing := fun _ => .inl .idle
  counted := fun _ => ⟨nofun, fun _ => rfl, Nat.zero_le 1⟩

variable {link : QuiescenceLink}

theorem standing_of_one (me : ChannelRole)
    (standing : EitherStanding me (link.side me) (link.side me.other) (link.wire me) (link.wire me.other))
    (role : ChannelRole) : EitherStanding role (link.side role) (link.side role.other) (link.wire role)
      (link.wire role.other) := by
  rcases me.eq_or_eq_other role with rfl | rfl
  · exact standing
  · rw [ChannelRole.other_other]
    exact standing.symm

theorem Consistent.step (consistent : Consistent link) (input : QuiescenceInput) : Consistent (link.step input) := by
  cases input with
  | disconnect => exact ⟨fun _ => .inl .idle, fun _ => ⟨nofun, fun _ => rfl, Nat.zero_le 1⟩⟩
  | call me call =>
    have effect := call_effect me (link.side me) (link.wire me.other) call
    refine ⟨standing_of_one me ?_, fun role => ?_⟩
    · simpa [QuiescenceLink.step] using (consistent.standing me).call effect
    · by_cases same : role = me
      · subst same
        simpa [QuiescenceLink.step] using (consistent.counted role).call (((link.side role).call role _ call).1.error) effect
      · simpa [QuiescenceLink.step, same] using consistent.counted role

theorem Consistent.run (consistent : Consistent link) (inputs : List QuiescenceInput) :
    Consistent (link.run inputs) := by
  induction inputs generalizing link with
  | nil => exact consistent
  | cons input rest ih => exact ih (consistent.step input)

/-- Whenever both sides are quiescent one of them takes itself for the initiator and the other does
    not, and neither has sent a second stfu in its session. -/
theorem quiescence_agreement (inputs : List QuiescenceInput) (role : ChannelRole) :
    (((fresh.run inputs).side role).quiescence.isQuiescent = true →
      ((fresh.run inputs).side role.other).quiescence.isQuiescent = true →
      ((fresh.run inputs).side role.other).quiescence.isInitiator =
        !((fresh.run inputs).side role).quiescence.isInitiator) ∧
    (fresh.run inputs).stfus role ≤ 1 := by
  have consistent := consistent_fresh.run inputs
  exact ⟨(consistent.standing role).initiator, (consistent.counted role).once⟩

def crossing : List QuiescenceInput :=
  [.call .opener (.initiate false), .call .acceptor (.initiate false),
    .call .opener (.receive false), .call .acceptor (.receive false)]

theorem quiescence_agreement_crossing :
    ((fresh.run crossing).side .opener).quiescence = ⟨.quiescent, true⟩ ∧
    ((fresh.run crossing).side .acceptor).quiescence.isInitiator = false :=
  ⟨by decide, (quiescence_agreement crossing .opener).1 (by decide) (by decide)⟩

end QuiescenceLink

end Beignet.Channel
