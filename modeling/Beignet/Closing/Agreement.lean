import Beignet.Closing.Legacy

namespace Beignet.Closing

open Beignet.Data Beignet.Channel
open ChannelRole (other_ne other_other eq_or_eq_other)

structure ClosingKeys where
  sign : ChannelRole → Nat → Bytes
  verify : ChannelRole → Nat → Bytes → Bool
  verifies : ∀ role fee, verify role fee (sign role fee) = true

inductive ClosingWire where
  | closingSigned (msg : ClosingSigned)
  | error
  deriving DecidableEq, Repr

def ClosingReply.wire (r : ClosingReply) : Option ClosingWire :=
  r.actions.findSome? fun
    | .sendClosingSigned msg => some (.closingSigned msg)
    | .wireError _ | .recoveryClose => some .error
    | _ => none

def ClosingState.markErrored (s : ClosingState) : ClosingState :=
  if s.phase = .closed ∨ s.phase = .forceClosed ∨ s.phase = .errored then s else { s with phase := .errored }

structure Exchange where
  party : ChannelRole → ClosingState
  inFlight : Option (ChannelRole × ClosingWire)

namespace Exchange

def reply (e : Exchange) (role : ChannelRole) (r : ClosingReply) : Exchange where
  party := Function.update e.party role r.state
  inFlight := r.wire.map fun wire => (role.other, wire)

def step (keys : ClosingKeys) (e : Exchange) : Exchange :=
  match e.inFlight with
  | none => e
  | some (role, .error) => ⟨Function.update e.party role (e.party role).markErrored, none⟩
  | some (role, .closingSigned msg) =>
    e.reply role ((e.party role).handleClosingSigned (keys.sign role) (keys.verify role.other) msg)

def fee (e : Exchange) : Option Nat :=
  match e.inFlight with
  | some (_, .closingSigned msg) => some msg.feeSatoshis
  | _ => none

variable {keys : ClosingKeys} {e : Exchange}

theorem step_closingSigned {role : ChannelRole} {msg : ClosingSigned}
    (wire : e.inFlight = some (role, .closingSigned msg)) :
    e.step keys = e.reply role ((e.party role).handleClosingSigned (keys.sign role) (keys.verify role.other) msg) := by
  rw [step, wire]

def run (keys : ClosingKeys) (n : Nat) (e : Exchange) : Exchange := (step keys)^[n] e

theorem run_of_quiet (quiet : e.inFlight = none) (n : Nat) : e.run keys n = e := by
  refine Function.iterate_fixed ?_ n
  rw [step, quiet]

end Exchange

structure ClosingPair where
  party : ChannelRole → ClosingState
  keys : ClosingKeys
  roles : ∀ role, (party role).role = role
  fresh : ∀ role, (party role).Fresh

namespace ClosingPair

variable (p : ClosingPair)

def start : Exchange :=
  Exchange.reply ⟨p.party, none⟩ .opener ((p.party .opener).proposeClosingFee (p.keys.sign .opener))

def after (n : Nat) : Exchange := p.start.run p.keys n

theorem after_succ (n : Nat) : p.after (n + 1) = (p.after n).step p.keys := Function.iterate_succ_apply' ..

def range (role : ChannelRole) : Range := (p.party role).ownRange

def Settled (e : Exchange) : Prop :=
  (∃ fee, (∀ role, (e.party role).phase = .closed ∧ (e.party role).lastProposedClosingFeeSat = some fee) ∧
    ∀ role, fee ∈ p.range role) ∨
  ∀ role, (e.party role).phase = .errored

def bound : Nat := Nat.clog 2 (max (p.range .opener).hi (p.range .acceptor).hi) + 5

/-- There is a fee that both take, the acceptor can be paid out, and the opener's first fee is one that it
    takes itself, or one that it can offer and the acceptor does not take. -/
def Agreeable : Prop :=
  (∃ fee, ∀ role, fee ∈ p.range role) ∧ ¬ (p.party .acceptor).payoutBlocked 0 ∧
    ((p.party .opener).calculateIdealClosingFee ∈ p.range .opener ∨
      (p.party .opener).closingFeeRelays (p.party .opener).calculateIdealClosingFee = true ∧
        (p.party .opener).calculateIdealClosingFee ∉ p.range .acceptor)

variable {p} {e : Exchange} {role : ChannelRole} {last : Option Nat} {offer fee : Nat}

theorem relays_of_mem (payable : ¬ (p.party .acceptor).payoutBlocked 0) (mem : fee ∈ p.range role) :
    (p.party role).closingFeeRelays fee = true := by
  have bounds := Range.mem_iff.mp mem
  refine closingFeeRelays_of_afforded (p.fresh role).solvent ((p.party role).floor_le_lo.trans bounds.1)
    (bounds.2.trans (p.party role).hi_le_balance) ?_
  cases role with
  | opener => exact (p.party .opener).unblocked_of_mem (p.roles .opener) mem
  | acceptor =>
    intro blocked
    have same : (p.party .acceptor).localAmountAfter fee = (p.party .acceptor).localAmountAfter 0 := by
      simp [ClosingState.localAmountAfter, p.roles .acceptor]
    exact payable ⟨blocked.1, same ▸ blocked.2⟩

/-- `role` is to answer `offer`, which is the last one of the other party. Before that it has offered `last`. -/
structure At (p : ClosingPair) (e : Exchange) (role : ChannelRole) (last : Option Nat) (offer : Nat) : Prop where
  answers : ∀ msg : ClosingSigned, p.keys.verify role.other msg.feeSatoshis msg.signature = true →
    (e.party role).handleClosingSigned (p.keys.sign role) (p.keys.verify role.other) msg =
      ((p.party role).haggling (some msg.feeSatoshis) last).answerClosingFee (p.keys.sign role) msg.feeSatoshis
  other : ∃ theirs, e.party role.other = (p.party role.other).haggling theirs (some offer)
  wire : e.inFlight = some (role, .closingSigned ⟨offer, p.keys.sign role.other offer⟩)

section

variable (here : At p e role last offer)
include here

theorem At.step :
    e.step p.keys = e.reply role (((p.party role).haggling (some offer) last).answerClosingFee (p.keys.sign role) offer) := by
  rw [Exchange.step_closingSigned here.wire]
  exact congrArg (e.reply role) (here.answers _ (p.keys.verifies role.other offer))

theorem At.sends : e.fee = some offer := by
  rw [Exchange.fee, here.wire]

theorem At.counter {counter k : Nat} (other : last ≠ some offer)
    (outside : offer ∉ p.range role) (inhabited : k ∈ p.range role) (payable : ¬ (p.party .acceptor).payoutBlocked 0)
    (counters : counter = (p.range role).counter (last.getD (p.party role).calculateIdealClosingFee) offer) :
    At p (e.step p.keys) role.other (some offer) counter := by
  have relays := relays_of_mem payable (Range.counter_mem inhabited
    (last.getD (p.party role).calculateIdealClosingFee) offer)
  rw [← counters] at relays
  rw [here.step, ClosingState.answer_counter _ other outside
    ((ClosingState.counterFee_haggling inhabited _ _).trans counters.symm) relays]
  obtain ⟨theirs, same⟩ := here.other
  refine ⟨?_, ⟨some offer, ?_⟩, ?_⟩
  · intro msg verified
    simp only [Exchange.reply, Function.update_of_ne (other_ne role), same]
    exact (p.fresh role.other).handleClosingSigned_haggling _ _ verified
  · simp [Exchange.reply]
  · simp [Exchange.reply, ClosingReply.wire]

def Closed (e : Exchange) (fee : Nat) : Prop :=
  ∀ role, (e.party role).phase = .closed ∧ (e.party role).lastProposedClosingFeeSat = some fee

theorem At.take (other : last ≠ some offer) (inside : offer ∈ p.range role)
    (relays : ∀ role, (p.party role).closingFeeRelays offer = true) :
    Closed (e.run p.keys 2) offer ∧ (e.run p.keys 2).inFlight = none := by
  have first := here.step
  rw [ClosingState.answer_take _ other inside (relays role)] at first
  obtain ⟨theirs, same⟩ := here.other
  have wire : (e.step p.keys).inFlight = some (role.other, .closingSigned ⟨offer, p.keys.sign role offer⟩) := by
    rw [first]
    rfl
  have party : (e.step p.keys).party =
      Function.update e.party role ((p.party role).haggling (some offer) (some offer)).closed := by
    rw [first]
    rfl
  have verified : p.keys.verify role.other.other offer (p.keys.sign role offer) = true := by
    rw [other_other]
    exact p.keys.verifies role offer
  have second : (e.run p.keys 2).party role.other = ((p.party role.other).haggling (some offer) (some offer)).closed ∧
      (e.run p.keys 2).party role = ((p.party role).haggling (some offer) (some offer)).closed ∧
      (e.run p.keys 2).inFlight = none := by
    change ((e.step p.keys).step p.keys).party _ = _ ∧ ((e.step p.keys).step p.keys).party _ = _ ∧
      ((e.step p.keys).step p.keys).inFlight = _
    rw [Exchange.step_closingSigned wire, party, Function.update_of_ne (other_ne role), same,
      (p.fresh role.other).handleClosingSigned_haggling (p.keys.sign role.other) _ verified,
      ClosingState.answer_agree _ (relays role.other)]
    refine ⟨?_, ?_, rfl⟩
    · simp [Exchange.reply]
    · simp [Exchange.reply, party]
  refine ⟨fun other => ?_, second.2.2⟩
  rcases eq_or_eq_other role other with rfl | rfl
  · rw [second.2.1]
    exact ⟨rfl, rfl⟩
  · rw [second.1]
    exact ⟨rfl, rfl⟩

end

theorem At.closes (payable : ¬ (p.party .acceptor).payoutBlocked 0) {n last : Nat} (here : At p e role (some last) offer)
    (own : last ∈ p.range role) (refused : last ∉ p.range role.other) (given : offer ∈ p.range role.other)
    (settles : bargain n (p.range role) (p.range role.other) last offer = some fee) :
    ∃ k ≤ n + 1, Closed (e.run p.keys k) fee := by
  induction n generalizing e role last offer with
  | zero => cases settles
  | succ n ih =>
    have other : some last ≠ some offer := fun same => refused (Option.some.inj same ▸ given)
    rw [bargain] at settles
    split at settles
    · rename_i inside
      obtain rfl := Option.some.inj settles
      refine ⟨2, by omega, (here.take other inside fun party => ?_).1⟩
      rcases eq_or_eq_other role party with rfl | rfl
      · exact relays_of_mem payable inside
      · exact relays_of_mem payable given
    · rename_i outside
      have next := here.counter other outside own payable rfl
      have mem := Range.counter_mem own last offer
      obtain ⟨k, few, closed⟩ := ih next given (by rwa [other_other]) (by rwa [other_other])
        (by rwa [other_other])
      exact ⟨k + 1, by omega, closed⟩

section Start

variable (p)

theorem start_eq (relays : (p.party .opener).closingFeeRelays (p.party .opener).calculateIdealClosingFee = true) :
    At p p.start .acceptor none (p.party .opener).calculateIdealClosingFee := by
  have start : p.start = Exchange.reply ⟨p.party, none⟩ .opener _ :=
    congrArg (Exchange.reply ⟨p.party, none⟩ .opener) (((p.fresh .opener).proposeClosingFee _).trans (if_pos relays))
  rw [start]
  refine ⟨fun msg verified => ?_, ⟨(p.party .opener).theirLastClosingFeeSat, ?_⟩, rfl⟩
  · exact (p.fresh .acceptor).handleClosingSigned _ _ verified
  · simp [Exchange.reply, ChannelRole.other]

end Start

theorem Closed.settled (closed : Closed e fee) (mem : ∀ role, fee ∈ p.range role) : p.Settled e :=
  .inl ⟨fee, closed, mem⟩

theorem mem_both (role : ChannelRole) (mine : fee ∈ p.range role) (theirs : fee ∈ p.range role.other)
    (party : ChannelRole) : fee ∈ p.range party := by
  rcases eq_or_eq_other role party with rfl | rfl
  · exact mine
  · exact theirs

theorem settled_of_agreeable (agreeable : p.Agreeable) : ∃ n ≤ p.bound, p.Settled (p.after n) := by
  obtain ⟨⟨common, both⟩, payable, first⟩ := agreeable
  let ideal := (p.party .opener).calculateIdealClosingFee
  have relays : (p.party .opener).closingFeeRelays ideal = true := by
    rcases first with inside | ⟨relays, -⟩
    · exact relays_of_mem payable inside
    · exact relays
  have proposed := p.start_eq relays
  by_cases taken : ideal ∈ p.range .acceptor
  · -- The first fee is taken at once.
    have own : ideal ∈ p.range .opener := by
      rcases first with inside | ⟨-, outside⟩
      · exact inside
      · exact absurd taken outside
    have mem := mem_both .opener own taken
    exact ⟨2, by unfold bound; omega,
      (proposed.take nofun taken fun _ => relays_of_mem payable (mem _)).1.settled mem⟩
  · let answer := (p.range .acceptor).counter (p.party .acceptor).calculateIdealClosingFee ideal
    have given : answer ∈ p.range .acceptor := Range.counter_mem (both .acceptor) _ _
    have answered : At p (p.after 1) .opener (some ideal) answer :=
      proposed.counter nofun taken (both .acceptor) payable rfl
    have other : some ideal ≠ some answer := fun same => taken (Option.some.inj same ▸ given)
    by_cases met : answer ∈ p.range .opener
    · have mem := mem_both .opener met given
      exact ⟨3, by unfold bound; omega,
        (answered.take other met fun _ => relays_of_mem payable (mem _)).1.settled mem⟩
    · let counter := (p.range .opener).counter ideal answer
      have own : counter ∈ p.range .opener := Range.counter_mem (both .opener) _ _
      have countered : At p (p.after 2) .acceptor (some answer) counter :=
        answered.counter other met (both .opener) payable rfl
      have near : Nat.dist answer counter ≤ 2 ^ Nat.clog 2 (max (p.range .opener).hi (p.range .acceptor).hi) := by
        have power := Nat.le_pow_clog (by decide : 1 < 2) (max (p.range .opener).hi (p.range .acceptor).hi)
        have top := (Range.mem_iff.mp given).2
        have top' := (Range.mem_iff.mp own).2
        unfold Nat.dist
        omega
      obtain ⟨fee, settles, theirs, ours⟩ := bargain_settles ⟨both .acceptor, both .opener⟩ given own near
      obtain ⟨k, few, closed⟩ := countered.closes payable given met own settles
      refine ⟨k + 2, by unfold bound; omega, ?_⟩
      exact closed.settled (mem_both .acceptor theirs ours)

structure Sound (p : ClosingPair) (e : Exchange) : Prop where
  frozen : ∀ role, (e.party role).frozen = (p.party role).frozen
  phase : ∀ role, (e.party role).phase ≠ .errored
  closed : ∀ role, (e.party role).phase = .closed → ∃ fee, (p.party role).closingFeeRelays fee = true
  wire : ∀ role wire, e.inFlight = some (role, wire) → ∃ fee, wire = .closingSigned ⟨fee, p.keys.sign role.other fee⟩

theorem Sound.reply (sound : Sound p e) {r : ClosingReply} (frozen : r.state.frozen = (p.party role).frozen)
    (phase : r.state.phase ≠ .errored)
    (closed : r.state.phase = .closed → ∃ fee, (p.party role).closingFeeRelays fee = true)
    (actions : ∀ action ∈ r.actions, (∃ fee, action = .sendClosingSigned ⟨fee, p.keys.sign role fee⟩) ∨
      action = .channelClosed ∨ ∃ message, action = .error message) : Sound p (e.reply role r) := by
  refine ⟨fun party => ?_, fun party => ?_, fun party => ?_, fun party wire sent => ?_⟩
  · rcases eq_or_eq_other role party with rfl | rfl
    · simpa [Exchange.reply] using frozen
    · simpa [Exchange.reply] using sound.frozen role.other
  · rcases eq_or_eq_other role party with rfl | rfl
    · simpa [Exchange.reply] using phase
    · simpa [Exchange.reply] using sound.phase role.other
  · rcases eq_or_eq_other role party with rfl | rfl
    · simpa [Exchange.reply] using closed
    · simpa [Exchange.reply] using sound.closed role.other
  · obtain ⟨wire', spoken, same⟩ := Option.map_eq_some_iff.mp sent
    obtain ⟨rfl, rfl⟩ := Prod.mk.inj same
    obtain ⟨action, member, uttered⟩ := List.exists_of_findSome?_eq_some spoken
    rcases actions action member with ⟨fee, rfl⟩ | rfl | ⟨message, rfl⟩
    · rw [other_other]
      exact ⟨fee, (Option.some.inj uttered).symm⟩
    · cases uttered
    · cases uttered

theorem Sound.step (sound : Sound p e) : Sound p (e.step p.keys) := by
  cases wire : e.inFlight with
  | none =>
    rw [Exchange.step, wire]
    exact sound
  | some message =>
    obtain ⟨role, sent⟩ := message
    obtain ⟨fee, rfl⟩ := sound.wire role sent wire
    rw [Exchange.step_closingSigned wire]
    obtain ⟨frozen, phase, actions⟩ := (p.fresh role).answer_sound (sound.frozen role) (p.keys.sign role)
      (p.keys.verify role.other) ⟨fee, _⟩ (p.keys.verifies role.other fee)
    refine sound.reply frozen ?_ ?_ actions
    · rcases phase with same | negotiating | ⟨closed, -⟩
      · rw [same]
        exact sound.phase role
      · rw [negotiating]
        exact nofun
      · rw [closed]
        exact nofun
    · rcases phase with same | negotiating | ⟨-, relays⟩
      · rw [same]
        exact sound.closed role
      · rw [negotiating]
        exact nofun
      · exact fun _ => ⟨fee, relays⟩

theorem sound_start (p : ClosingPair) : Sound p p.start := by
  have quiet : Sound p ⟨p.party, none⟩ := by
    refine ⟨fun _ => rfl, fun role => ?_, fun role closed => ?_, nofun⟩
    · rcases (p.fresh role).phase with phase | phase <;> simp [phase]
    · rcases (p.fresh role).phase with phase | phase <;> simp [phase] at closed
  have proposal := (p.fresh .opener).proposeClosingFee (p.keys.sign .opener)
  unfold start
  split at proposal <;> rw [proposal]
  · exact quiet.reply rfl nofun nofun (by simp)
  · exact quiet.reply rfl nofun nofun (by simp [ClosingState.refuse])

theorem sound_after (p : ClosingPair) (n : Nat) : Sound p (p.after n) := by
  induction n with
  | zero => exact p.sound_start
  | succ n ih =>
    rw [after_succ]
    exact ih.step

theorem open_of_unproposed
    (unrelayable : ¬ (p.party .opener).closingFeeRelays (p.party .opener).calculateIdealClosingFee = true) (n : Nat) :
    ((p.after n).party .opener).phase ≠ .closed := by
  have start : p.start = Exchange.reply ⟨p.party, none⟩ .opener _ :=
    congrArg (Exchange.reply ⟨p.party, none⟩ .opener)
      (((p.fresh .opener).proposeClosingFee _).trans (if_neg unrelayable))
  rw [after, start, Exchange.run_of_quiet rfl n]
  simp [Exchange.reply, ClosingState.refuse]

theorem opener_takes_own {n : Nat} (payable : ¬ (p.party .acceptor).payoutBlocked 0)
    (relays : (p.party .opener).closingFeeRelays (p.party .opener).calculateIdealClosingFee = true)
    (taken : (p.party .opener).calculateIdealClosingFee ∈ p.range .acceptor) (closed : Closed (p.after n) fee) :
    fee = (p.party .opener).calculateIdealClosingFee := by
  have proposed := p.start_eq relays
  have negotiating : (p.start.party .opener).phase = .negotiatingClosing := by
    obtain ⟨theirs, same⟩ := proposed.other
    exact congrArg (fun s : ClosingState => s.phase) same
  match n with
  | 0 => exact absurd (negotiating.symm.trans (closed .opener).1) nofun
  | 1 =>
    have same : (p.after 1).party .opener = p.start.party .opener := by
      change (p.start.step p.keys).party .opener = _
      rw [proposed.step]
      simp [Exchange.reply]
    rw [← same] at negotiating
    exact absurd (negotiating.symm.trans (closed .opener).1) nofun
  | n + 2 =>
    obtain ⟨agreed, quiet⟩ := proposed.take nofun taken fun role => by
      cases role with
      | opener => exact relays
      | acceptor => exact relays_of_mem payable taken
    have same : p.after (n + 2) = p.start.run p.keys 2 := by
      rw [after, Exchange.run, Function.iterate_add_apply]
      exact Exchange.run_of_quiet quiet n
    rw [same] at closed
    exact Option.some.inj ((closed .opener).2.symm.trans (agreed .opener).2)

theorem agreeable_of_settled {n : Nat} (settled : p.Settled (p.after n)) : p.Agreeable := by
  have sound := p.sound_after n
  rcases settled with ⟨fee, closed, mem⟩ | errored
  · have payable : ¬ (p.party .acceptor).payoutBlocked 0 := by
      intro blocked
      obtain ⟨fee, relays⟩ := sound.closed .acceptor (closed .acceptor).1
      have same : (p.party .acceptor).localAmountAfter fee = (p.party .acceptor).localAmountAfter 0 := by
        simp [ClosingState.localAmountAfter, p.roles .acceptor]
      rw [closingFeeRelays_of_blocked ⟨blocked.1, same ▸ blocked.2⟩] at relays
      cases relays
    refine ⟨⟨fee, mem⟩, payable, ?_⟩
    · by_cases relays : (p.party .opener).closingFeeRelays (p.party .opener).calculateIdealClosingFee = true
      · by_cases taken : (p.party .opener).calculateIdealClosingFee ∈ p.range .acceptor
        · exact .inl (opener_takes_own payable relays taken closed ▸ mem .opener)
        · exact .inr ⟨relays, taken⟩
      · exact absurd (closed .opener).1 (open_of_unproposed relays n)
  · exact absurd (errored .opener) (sound.phase .opener)

/-- The negotiation ends in agreement, within a number of messages that the ranges bound, exactly for the pairs
    whose ranges meet and whose opener starts with a fee of its own range or one that is turned down. -/
theorem negotiation_settles_iff (p : ClosingPair) : (∃ n ≤ p.bound, p.Settled (p.after n)) ↔ p.Agreeable := by
  constructor
  · rintro ⟨n, -, settled⟩
    exact agreeable_of_settled settled
  · exact settled_of_agreeable

end ClosingPair

def plainKeys : ClosingKeys where
  sign := fun _ fee => [Fin.ofNat 256 fee]
  verify := fun _ fee signature => signature = [Fin.ofNat 256 fee]
  verifies := by simp

theorem plainClosing_fresh (role : ChannelRole) (feeratePerKw : Nat) : (plainClosing role feeratePerKw).Fresh where
  phase := .inl rfl
  unheld := by
    change (plainClosing role 0).isMutualCloseHeld = false
    cases role <;> decide
  unblocked := by
    change (plainClosing role 0).closingBlockedBy = none
    cases role <;> decide
  ecdsa := by cases role <;> rfl
  rangeless := rfl
  unproposed := rfl
  solvent := by
    change (plainClosing role 0).localSat + (plainClosing role 0).remoteSat ≤ (plainClosing role 0).fundingSatoshis
    cases role <;> decide

def plainPair (openerFeeratePerKw acceptorFeeratePerKw : Nat) : ClosingPair where
  party
    | .opener => plainClosing .opener openerFeeratePerKw
    | .acceptor => plainClosing .acceptor acceptorFeeratePerKw
  keys := plainKeys
  roles := by rintro (_ | _) <;> rfl
  fresh := by rintro (_ | _) <;> exact plainClosing_fresh _ _

theorem plainPair_payable (openerFeerate acceptorFeerate : Nat) :
    ¬ ((plainPair openerFeerate acceptorFeerate).party .acceptor).payoutBlocked 0 := nofun

theorem negotiation_settles_iff_meeting :
    (plainPair 1000 2000).Agreeable ∧
      ∃ n ≤ (plainPair 1000 2000).bound, (plainPair 1000 2000).Settled ((plainPair 1000 2000).after n) := by
  have agreeable : (plainPair 1000 2000).Agreeable :=
    ⟨⟨1000, by rintro (_ | _) <;> decide⟩, plainPair_payable _ _, .inl (by decide)⟩
  exact ⟨agreeable, (ClosingPair.negotiation_settles_iff _).mpr agreeable⟩

/-- An opener at 1,000 and an acceptor at 5,000 sat per kiloweight take 337 to 1,348 and 1,685 to 6,740 sat.
    They never close, and send each other the nearest ends of their ranges for ever. -/
theorem disjoint_ranges_haggle_forever :
    let p := plainPair 1000 5000
    (∀ n, ¬ p.Settled (p.after n)) ∧
      ∀ n, (p.after (2 * n + 4)).fee = some 1348 ∧ (p.after (2 * n + 5)).fee = some 1685 := by
  intro p
  have opener : p.range .opener = ⟨337, 1348⟩ := by decide +kernel
  have acceptor : p.range .acceptor = ⟨1685, 6740⟩ := by decide +kernel
  constructor
  · intro n settled
    obtain ⟨⟨fee, both⟩, -⟩ := ClosingPair.agreeable_of_settled settled
    have low := both .opener
    have high := both .acceptor
    rw [opener, Range.mem_iff] at low
    rw [acceptor, Range.mem_iff] at high
    dsimp only at low high
    omega
  · have payable : ¬ (p.party .acceptor).payoutBlocked 0 := plainPair_payable _ _
    have low : 1348 ∈ p.range .opener := by rw [opener]; decide
    have high : 1685 ∈ p.range .acceptor := by rw [acceptor]; decide
    -- Once the opener is at its upper end, the acceptor goes to its lower one and both stay there.
    have down {e : Exchange} {last : Nat} (here : ClosingPair.At p e .acceptor (some last) 1348)
        (near : (p.range .acceptor).counter last 1348 = 1685) (other : last ≠ 1348) :
        ClosingPair.At p (e.step p.keys) .opener (some 1348) 1685 :=
      here.counter (by simpa using other) (by rw [acceptor]; decide) high payable near.symm
    have up {e : Exchange} (here : ClosingPair.At p e .opener (some 1348) 1685) :
        ClosingPair.At p (e.step p.keys) .acceptor (some 1685) 1348 :=
      here.counter (by decide) (by rw [opener]; decide) low payable (by rw [opener]; decide)
    have ideal : (p.party .opener).calculateIdealClosingFee = 674 := by decide
    have proposed := p.start_eq (by decide)
    rw [ideal] at proposed
    have answered : ClosingPair.At p (p.after 1) .opener (some 674) 2022 :=
      proposed.counter nofun (by rw [acceptor]; decide) high payable (by decide)
    have countered : ClosingPair.At p (p.after 2) .acceptor (some 2022) 1348 :=
      answered.counter (by decide) (by rw [opener]; decide) low payable (by rw [opener]; decide)
    have back := down countered (by rw [acceptor]; decide) (by decide)
    have loop (n : Nat) : ClosingPair.At p (p.after (2 * n + 4)) .acceptor (some 1685) 1348 := by
      induction n with
      | zero => exact up back
      | succ n ih =>
        rw [show 2 * (n + 1) + 4 = 2 * n + 4 + 1 + 1 by omega, p.after_succ, p.after_succ]
        exact up (down ih (by rw [acceptor]; decide) (by decide))
    intro n
    refine ⟨(loop n).sends, ?_⟩
    rw [p.after_succ]
    exact (down (loop n) (by rw [acceptor]; decide) (by decide)).sends

end Beignet.Closing
