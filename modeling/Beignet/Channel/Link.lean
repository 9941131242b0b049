import Beignet.Channel.Parties

namespace Beignet.Channel

open Beignet.TwoLogs
open Function (update)

/-! Two channels joined by two queues. -/

/-- A message on its way, with the spec of the commitment its sender would sign in that moment. -/
structure Packet where
  msg : Message
  spec : CommitmentSpec

structure Link where
  party : Side → ChannelState
  inbox : Side → List Packet

def sideRole : Side → ChannelRole
  | .left => .opener
  | .right => .acceptor

/-- The operations a party may perform at any time: HTLCs are removed once they are irrevocably
    committed, a commitment is signed when one is due and none is unanswered. -/
def permitted (s : ChannelState) : ChannelInput → Bool
  | .addHtlc .. | .updateFee _ | .setBlockHeight _ => true
  | .fulfillHtlc id _ | .failHtlc id _ | .failMalformedHtlc id _ _ =>
    (s.htlcs.get? (.received, id)).any receivedAddIrrevocablyCommitted
  | .signCommitment .. => s.needsCommitment && !s.isAwaitingRemoteRevocation
  | .receive _ | .disconnect | .resume => false

inductive Move where
  | act (x : Side) (input : ChannelInput)
  | deliver (x : Side)
  deriving DecidableEq, Repr

namespace Link

variable (prim : Primitives) (ver : Verifier) (link : Link)

def start (o : Opening) : Link := ⟨fun x => o.party prim (sideRole x), fun _ => []⟩

def handle (x : Side) (input : ChannelInput) : Link :=
  let r := (link.party x).step prim ver input
  { party := Function.update link.party x r.state
    inbox := Function.update link.inbox x.other
      (link.inbox x.other ++ r.sent.map fun msg => ⟨msg, remoteSpec (link.party x)⟩) }

def move : Move → Link
  | .act x input => link.handle prim ver x input
  | .deliver x =>
    match link.inbox x with
    | [] => link
    | packet :: rest =>
      { link with inbox := Function.update link.inbox x rest }.handle prim ver x (.receive packet.msg)

def allows : Move → Bool
  | .act x input => permitted (link.party x) input
  | .deliver _ => true

def run (moves : List Move) : Link := moves.foldl (fun link m => link.move prim ver m) link

def allowsAll (link : Link) : List Move → Bool
  | [] => true
  | m :: rest => link.allows m && (link.move prim ver m).allowsAll rest

end Link

def commitmentRate (first : Nat) (log : Side → List LedgerUpdate) : Side → Nat → Nat → Nat
  | .left, own, _ => rateAt first (log .left) own
  | .right, _, others => rateAt first (log .left) others

/-- A packet stands for a token of the abstract queue. `sent` are the HTLCs of the sender, and `signed`
    and `rate` tell of the commitment its last signature is for. -/
inductive Carries (sent : List HtlcRecord) (signed : Holdings) (rate : Nat) :
    Packet → Token LedgerUpdate → Prop
  | add {msg : UpdateAddHtlc} {spec : CommitmentSpec} {r : HtlcRecord} (found : sent[msg.id]? = some r)
      (terms : r.terms .received = ⟨msg.amountMsat, msg.paymentHash, msg.cltvExpiry, .received⟩) :
      Carries sent signed rate ⟨.updateAddHtlc msg, spec⟩ (.update (.add msg.id))
  | remove {msg : Message} {spec : CommitmentSpec} {id : Nat} {d : HtlcState}
      (removes : msg.removes = some (id, d)) : Carries sent signed rate ⟨msg, spec⟩ (.update (.remove id d))
  | fee {x : Nat} {spec : CommitmentSpec} :
      Carries sent signed rate ⟨.updateFee x, spec⟩ (.update (.fee x))
  | signature {msg : CommitmentSigned} {spec : CommitmentSpec} (holdings : spec.signed = signed)
      (feerate : spec.feeratePerKw = rate) : Carries sent signed rate ⟨.commitmentSigned msg, spec⟩ .signature
  | revocation {msg : RevokeAndAck} {spec : CommitmentSpec} :
      Carries sent signed rate ⟨.revokeAndAck msg, spec⟩ .revocation

def KeepsTerms (sent sent' : List HtlcRecord) : Prop :=
  ∀ (id : Nat) (r : HtlcRecord), sent[id]? = some r → ∃ r', sent'[id]? = some r' ∧
    r'.terms .received = r.terms .received

theorem KeepsTerms.refl (sent : List HtlcRecord) : KeepsTerms sent sent := fun _ r found => ⟨r, found, rfl⟩

section Carries

variable {sent sent' : List HtlcRecord} {signed : Holdings} {rate : Nat} {packet : Packet}
  {token : Token LedgerUpdate} (carries : Carries sent signed rate packet token)
include carries

theorem Carries.mono (kept : KeepsTerms sent sent') : Carries sent' signed rate packet token := by
  cases carries with
  | add found terms =>
    obtain ⟨r', found', same⟩ := kept _ _ found
    exact .add found' (same.trans terms)
  | remove removes => exact .remove removes
  | fee => exact .fee
  | signature holdings feerate => exact .signature holdings feerate
  | revocation => exact .revocation

theorem Carries.resign (other : token ≠ .signature) (signed' : Holdings) (rate' : Nat) :
    Carries sent signed' rate' packet token := by
  cases carries with
  | add found terms => exact .add found terms
  | remove removes => exact .remove removes
  | fee => exact .fee
  | signature => exact absurd rfl other
  | revocation => exact .revocation

end Carries

def Opening.holdings (prim : Primitives) (o : Opening) (x : Side) : Holdings :=
  ((o.party prim (sideRole x)).localBalanceMsat, (o.party prim (sideRole x)).remoteBalanceMsat, 0)

structure Simulates (prim : Primitives) (o : Opening) (net : Net LedgerUpdate)
    (offers : Side → List HtlcRecord) (link : Link) : Prop where
  ordered : net.Ordered
  recorded : Recorded net.log offers
  constants : ∀ x, (link.party x).constants = (o.party prim (sideRole x)).constants
  alive : ∀ x, net.dead x = false →
    Tracks (o.holdings prim x) o.openerConfig.feeratePerKw (net.log x) (net.log x.other) (net.view x)
      (offers x) (offers x.other) (link.party x)
  dead : ∀ x, net.dead x = true → (link.party x).phase = .errored
  inbox : ∀ x, List.Forall₂
    (Carries (offers x.other)
      (commitmentHoldings (o.holdings prim) offers x (net.view x.other).signedOther
        (net.view x.other).signedOwn)
      (commitmentRate o.openerConfig.feeratePerKw net.log x (net.view x.other).signedOther
        (net.view x.other).signedOwn))
    (link.inbox x) (net.inbox x)

theorem forall₂_imp_mem {α β : Type*} {R S : α → β → Prop} {l : List α} {m : List β} (all : List.Forall₂ R l m)
    (imp : ∀ a b, b ∈ m → R a b → S a b) : List.Forall₂ S l m := by
  induction all with
  | nil => exact .nil
  | cons head _ ih =>
    refine .cons (imp _ _ List.mem_cons_self head) (ih fun a b member => imp a b ?_)
    exact List.mem_cons_of_mem _ member

variable {input : ChannelInput} {prim : Primitives} {s : ChannelState} {id : Nat} {d : HtlcState}

theorem ignorable_removes {msg : Message}
    (removes : msg.removes = some (id, d)) (ignorable : Ignorable prim s (.receive msg)) :
    s.operational = false ∨ s.htlcs.get? (.offered, id) = none ∨
      ∃ e, s.htlcs.get? (.offered, id) = some e ∧ e.state = d := by
  cases msg with
  | updateFulfillHtlc | updateFailHtlc | updateFailMalformedHtlc =>
    exact ignorable.imp_right fun missing => missing id d removes
  | updateAddHtlc | updateFee | commitmentSigned | revokeAndAck => cases removes

theorem permitted_settles
    {e : HtlcEntry} (allowed : permitted s input = true) (settles : input.settles = some (id, d))
    (found : s.htlcs.get? (.received, id) = some e) : receivedAddIrrevocablyCommitted e = true := by
  cases input with
  | fulfillHtlc | failHtlc | failMalformedHtlc =>
    cases settles
    simpa [permitted, found] using allowed
  | addHtlc | updateFee | signCommitment | receive | setBlockHeight | disconnect | resume => cases settles

structure Extends (log : Side → List LedgerUpdate) (offers : Side → List HtlcRecord) (x : Side)
    (u : LedgerUpdate) (offers' : Side → List HtlcRecord) : Prop where
  recorded : Recorded (Function.update log x (log x ++ [u])) offers'
  stable : ∀ (base : Side → Holdings) (holder : Side) (own others : Nat), own ≤ (log holder).length →
    others ≤ (log holder.other).length →
      commitmentHoldings base offers' holder own others = commitmentHoldings base offers holder own others
  kept : ∀ y, KeepsTerms (offers y) (offers' y)

section Extends

variable {log : Side → List LedgerUpdate} {offers : Side → List HtlcRecord}
  (recorded : Recorded log offers) (x : Side)
include recorded

theorem extends_add {r : HtlcRecord} (addedAt : r.addedAt = (log x).length) (fresh : r.removal = none) :
    Extends log offers x (.add (offers x).length) (addOffer offers x r) where
  recorded := recorded.add addedAt fresh
  stable _ _ _ _ inside inside' := commitmentHoldings_addOffer inside inside' addedAt
  kept y id r' found := by
    exact ⟨r', getElem?_update_concat.mpr (.inl found), rfl⟩

theorem extends_remove {id : Nat} {r : HtlcRecord} {d : HtlcState} (found : (offers x.other)[id]? = some r)
    (unremoved : r.removal = none) (dead : d.live = false) :
    Extends log offers x (.remove id d) (removeOffer offers x id ((log x).length, d)) where
  recorded := recorded.remove found unremoved dead
  stable _ _ _ _ inside inside' := commitmentHoldings_removeOffer inside inside' found unremoved
  kept y id' r' found' := by
    rw [getElem?_removeOffer, found']
    refine ⟨_, rfl, ?_⟩
    split <;> rfl

theorem extends_fee (rate : Nat) : Extends log offers x (.fee rate) offers where
  recorded := recorded.fee x rate
  stable _ _ _ _ _ _ := rfl
  kept y := KeepsTerms.refl (offers y)

end Extends

theorem commitmentRate_append {first : Nat} {log : Side → List LedgerUpdate} {x holder : Side}
    {u : LedgerUpdate} {own others : Nat} (inside : own ≤ (log holder).length)
    (inside' : others ≤ (log holder.other).length) :
    commitmentRate first (update log x (log x ++ [u])) holder own others =
      commitmentRate first log holder own others := by
  cases x with
  | right => cases holder <;> rfl
  | left =>
    cases holder with
    | left => exact rateAt_append inside u
    | right => exact rateAt_append inside' u

theorem Opening.party_role (prim : Primitives) (o : Opening) (role : ChannelRole) :
    (o.party prim role).role = role := by
  cases role <;> rfl

theorem Opening.holdings_other (prim : Primitives) (o : Opening) (x : Side) :
    o.holdings prim x.other = mirror (o.holdings prim x) := by
  cases x <;> rfl

theorem Opening.party_tracks (prim : Primitives) (o : Opening) (x : Side) :
    Tracks (o.holdings prim x) o.openerConfig.feeratePerKw [] [] {} [] [] (o.party prim (sideRole x)) where
  phase := by cases x <;> rfl
  offers id := by
    rw [o.party_htlcs]
    exact .absent
  receipts id := by
    rw [o.party_htlcs]
    exact .absent
  counter := by cases x <;> rfl
  balances := by
    rw [List.map_nil, List.map_nil, List.sum_nil, add_zero, add_zero]
    rfl
  fee := by
    cases x with
    | left =>
      have role := o.party_role prim .opener
      rw [sideRole, FeeTracked.of_opener role]
      exact ⟨rfl, fun _ c low high => by rw [Nat.le_zero.mp high], nofun, nofun, nofun⟩
    | right =>
      have role := o.party_role prim .acceptor
      rw [sideRole, FeeTracked.of_acceptor role]
      exact ⟨fun _ => ⟨rfl, rfl⟩, nofun, nofun, nofun, nofun⟩
  revocations := by cases x <;> exact ⟨0, rfl, rfl⟩
  nonce taproot := by
    cases x with
    | left =>
      have same : isTaprootChannel o.channelType = true := taproot
      simp [sideRole, Opening.party, Opening.opener, ChannelState.establish, same]
    | right =>
      have same : isTaprootChannel o.channelType = true := taproot
      simp [sideRole, Opening.party, Opening.acceptor, ChannelState.establish, same]

theorem Simulates.start (prim : Primitives) (o : Opening) :
    Simulates prim o .start (fun _ => []) (.start prim o) where
  ordered := Net.start_ordered
  recorded := ⟨nofun, nofun, nofun, nofun⟩
  constants _ := rfl
  alive x _ := o.party_tracks prim x
  dead _ dead := by cases dead
  inbox _ := .nil

namespace Simulates

variable {prim : Primitives} {o : Opening} {net : Net LedgerUpdate} {offers : Side → List HtlcRecord}
  {link : Link} (simulates : Simulates prim o net offers link)
include simulates

theorem role (x : Side) : (link.party x).role = sideRole x :=
  (congrArg ChannelConstants.role (simulates.constants x)).trans (o.party_role prim _)

variable {x : Side}

theorem alive_of_operational (operational : (link.party x).operational = true) : net.dead x = false := by
  cases dead : net.dead x with
  | false => rfl
  | true => simp [ChannelState.operational, simulates.dead x dead] at operational

theorem held (alive : net.dead x = false) :
    (localSpec (link.party x) false).held = commitmentHoldings (o.holdings prim) offers x
        (net.view x).acked (net.view x).received ∧
      (localSpec (link.party x) false).feeratePerKw = commitmentRate o.openerConfig.feeratePerKw net.log x
        (net.view x).acked (net.view x).received := by
  have tracks := simulates.alive x alive
  refine ⟨tracks.localSpec_held (simulates.ordered.bounds x), ?_⟩
  rw [tracks.localSpec_rate, simulates.role]
  cases x <;> rfl

theorem signed (alive : net.dead x = false) :
    (remoteSpec (link.party x)).signed = commitmentHoldings (o.holdings prim) offers x.other
        (net.view x).revoked (net.log x).length ∧
      (remoteSpec (link.party x)).feeratePerKw = commitmentRate o.openerConfig.feeratePerKw net.log x.other
        (net.view x).revoked (net.log x).length := by
  have tracks := simulates.alive x alive
  refine ⟨?_, ?_⟩
  · rw [tracks.remoteSpec_signed (simulates.ordered.bounds x) (simulates.recorded.logged x),
      commitmentHoldings, Side.other_other, o.holdings_other]
  · rw [tracks.remoteSpec_rate (simulates.ordered.bounds x), simulates.role]
    cases x <;> rfl

variable {rest : List Packet}

theorem agrees {msg : CommitmentSigned} {spec : CommitmentSpec}
    (head : link.inbox x = ⟨.commitmentSigned msg, spec⟩ :: rest) (operational : (link.party x).operational = true) :
    spec.Agrees (localSpec (link.party x) false) := by
  have alive := simulates.alive_of_operational operational
  have inbox := simulates.inbox x
  rw [head] at inbox
  generalize queue : net.inbox x = tokens at inbox
  cases inbox with
  | @cons _ token _ rest' carries _ =>
    cases carries with
    | remove removes => cases removes
    | signature holdings feerate =>
      obtain ⟨own, other⟩ := simulates.ordered.of_signature alive queue
      obtain ⟨held, rate⟩ := simulates.held alive
      rw [CommitmentSpec.agrees_iff, holdings, feerate, held, rate, own, other]
      exact ⟨rfl, rfl⟩

section Steps

variable {x : Side} {t : ChannelState} (constants : t.constants = (link.party x).constants)
include constants

theorem constants_update (y : Side) :
    (update link.party x t y).constants = (o.party prim (sideRole y)).constants := by
  rcases x.eq_or_other y with rfl | rfl
  · rw [Function.update_self, constants, simulates.constants]
  · rw [Function.update_of_ne (Side.other_ne x), simulates.constants]

theorem replace (alive : net.dead x = false → Tracks (o.holdings prim x) o.openerConfig.feeratePerKw (net.log x)
      (net.log x.other) (net.view x) (offers x) (offers x.other) t) (dead : net.dead x = true → t.phase = .errored) :
    Simulates prim o net offers { link with party := update link.party x t } :=
  { simulates with
    constants := simulates.constants_update constants
    alive := fun y => by
      rcases x.eq_or_other y with rfl | rfl
      · simpa using alive
      · simpa using simulates.alive x.other
    dead := fun y => by
      rcases x.eq_or_other y with rfl | rfl
      · simpa using dead
      · simpa using simulates.dead x.other }

variable {tokens : List (Token LedgerUpdate)} {packet : Packet}

theorem fail (phase : t.phase = .errored) (short : tokens <:+ net.inbox x)
    (inbox : List.Forall₂ (Carries (offers x.other)
      (commitmentHoldings (o.holdings prim) offers x (net.view x.other).signedOther (net.view x.other).signedOwn)
      (commitmentRate o.openerConfig.feeratePerKw net.log x (net.view x.other).signedOther
        (net.view x.other).signedOwn)) rest tokens) : Simulates prim o (net.drop x tokens) offers
      ⟨update link.party x t, update link.inbox x rest⟩ where
  ordered := simulates.ordered.drop short
  recorded := simulates.recorded
  constants := simulates.constants_update constants
  alive y := by
    rcases x.eq_or_other y with rfl | rfl
    · simp [Net.drop]
    · simpa [Net.drop] using simulates.alive x.other
  dead y := by
    rcases x.eq_or_other y with rfl | rfl
    · simpa [Net.drop] using phase
    · simpa [Net.drop] using simulates.dead x.other
  inbox y := by
    rcases x.eq_or_other y with rfl | rfl
    · simpa [Net.drop] using inbox
    · simpa [Net.drop] using simulates.inbox x.other

theorem append (alive : net.dead x = false) {u : LedgerUpdate} {offers' : Side → List HtlcRecord}
    (extend : Extends net.log offers x u offers')
    (mine : Tracks (o.holdings prim x) o.openerConfig.feeratePerKw (net.log x ++ [u]) (net.log x.other)
      (net.view x) (offers' x) (offers' x.other) t)
    (theirs : ∀ s, Tracks (o.holdings prim x.other) o.openerConfig.feeratePerKw (net.log x.other) (net.log x)
        (net.view x.other) (offers x.other) (offers x) s →
      Tracks (o.holdings prim x.other) o.openerConfig.feeratePerKw (net.log x.other) (net.log x ++ [u])
        (net.view x.other) (offers' x.other) (offers' x) s)
    (carries : ∀ signed rate, Carries (offers' x) signed rate packet (.update u)) :
    Simulates prim o (net.append x u) offers' ⟨update link.party x t,
      update link.inbox x.other (link.inbox x.other ++ [packet])⟩ where
  ordered := simulates.ordered.append x u
  recorded := extend.recorded
  constants := simulates.constants_update constants
  alive y := by
    rcases x.eq_or_other y with rfl | rfl
    · intro _
      simpa [Net.append] using mine
    · intro alive'
      have tracks := simulates.alive x.other alive'
      rw [Side.other_other] at tracks
      simpa [Net.append] using theirs _ tracks
  dead y := by
    rcases x.eq_or_other y with rfl | rfl
    · simp [Net.append, alive]
    · simpa [Net.append] using simulates.dead x.other
  inbox y := by
    have before := simulates.inbox y
    have bounds := simulates.ordered.bounds y.other
    rw [Side.other_other] at bounds
    have inside := (bounds.signedOther.trans bounds.revoked).trans bounds.received
    have kept := before.imp fun _ _ carried => carried.mono (extend.kept y.other)
    rw [← extend.stable _ _ _ _ inside bounds.signedOwn,
      ← commitmentRate_append (x := x) (u := u) inside bounds.signedOwn] at kept
    rcases x.eq_or_other y with rfl | rfl
    · simpa [Net.append] using kept
    · rw [Side.other_other] at kept
      simpa [Net.append] using List.rel_append kept (.cons (carries _ _) .nil)

theorem sign (alive : net.dead x = false) (idle : (net.view x).awaiting = false)
    (mine : Tracks (o.holdings prim x) o.openerConfig.feeratePerKw (net.log x) (net.log x.other)
      ((net.view x).sign (net.log x).length) (offers x) (offers x.other) t) (msg : CommitmentSigned) :
    Simulates prim o (net.sign x) offers ⟨update link.party x t, update link.inbox x.other
      (link.inbox x.other ++ [⟨.commitmentSigned msg, remoteSpec (link.party x)⟩])⟩ where
  ordered := simulates.ordered.sign idle
  recorded := simulates.recorded
  constants := simulates.constants_update constants
  alive y := by
    rcases x.eq_or_other y with rfl | rfl
    · intro _
      simpa [Net.sign] using mine
    · simpa [Net.sign] using simulates.alive x.other
  dead y := by
    rcases x.eq_or_other y with rfl | rfl
    · simp [Net.sign, alive]
    · simpa [Net.sign] using simulates.dead x.other
  inbox y := by
    have before := simulates.inbox y
    rcases x.eq_or_other y with rfl | rfl
    · simpa [Net.sign] using before
    · -- No signature of ours is on its way, so the new one is the only one that is told of.
      have unsigned := (simulates.ordered.of_idle idle).1
      obtain ⟨holdings, feerate⟩ := simulates.signed alive
      have kept : List.Forall₂ (Carries (offers x)
          (commitmentHoldings (o.holdings prim) offers x.other (net.view x).revoked (net.log x).length)
          (commitmentRate o.openerConfig.feeratePerKw net.log x.other (net.view x).revoked
            (net.log x).length)) (link.inbox x.other) (net.inbox x.other) := by
        rw [Side.other_other] at before
        refine forall₂_imp_mem before fun packet token member carried => ?_
        exact carried.resign (fun same => unsigned (same ▸ member)) _ _
      have last : Carries (offers x) _ _ ⟨.commitmentSigned msg, remoteSpec (link.party x)⟩ .signature :=
        .signature holdings feerate
      simpa [Net.sign, View.sign] using List.rel_append kept (.cons last .nil)

theorem receive (alive : net.dead x = false) {token : Token LedgerUpdate}
    (head : link.inbox x = packet :: rest) (head' : net.inbox x = token :: tokens)
    (mine : Tracks (o.holdings prim x) o.openerConfig.feeratePerKw (net.log x) (net.log x.other)
      ((net.view x).receive token) (offers x) (offers x.other) t) {answer : List Packet}
    (answers : ∀ signed rate, List.Forall₂ (Carries (offers x) signed rate) answer token.answer) :
    Simulates prim o (net.receive x token tokens) offers ⟨update link.party x t,
      update (update link.inbox x rest) x.other (link.inbox x.other ++ answer)⟩ where
  ordered := simulates.ordered.receive alive head'
  recorded := simulates.recorded
  constants := simulates.constants_update constants
  alive y := by
    rcases x.eq_or_other y with rfl | rfl
    · intro _
      simpa [Net.receive] using mine
    · simpa [Net.receive] using simulates.alive x.other
  dead y := by
    rcases x.eq_or_other y with rfl | rfl
    · simp [Net.receive, alive]
    · simpa [Net.receive] using simulates.dead x.other
  inbox y := by
    have before := simulates.inbox y
    rcases x.eq_or_other y with rfl | rfl
    · rw [head, head', List.forall₂_cons] at before
      simpa [Net.receive] using before.2
    · rw [Side.other_other] at before
      have unsigned : ((net.view x).receive token).signedOwn = (net.view x).signedOwn ∧
          ((net.view x).receive token).signedOther = (net.view x).signedOther := by
        cases token <;> exact ⟨rfl, rfl⟩
      simpa [Net.receive, unsigned] using List.rel_append before (answers _ _)

end Steps

theorem recent (x : Side) : (link.party x).restoreRecencyUnproven = false := by
  have same := congrArg ChannelConstants.restoreRecencyUnproven (simulates.constants x)
  refine same.trans ?_
  cases x <;> rfl

theorem idle_of_revoked (alive : net.dead x = false)
    (answered : (link.party x).isAwaitingRemoteRevocation = false) : (net.view x).awaiting = false := by
  obtain ⟨count, number, commitments⟩ := (simulates.alive x alive).revocations
  rw [ChannelState.isAwaitingRemoteRevocation, ChannelState.remoteRevocationCount, number,
    decide_eq_false_iff_not, commitments] at answered
  cases awaiting : (net.view x).awaiting with
  | false => rfl
  | true =>
    rw [awaiting] at answered
    exact absurd (Nat.lt_succ_self count) answered

variable {ver : Verifier} {t : ChannelState} {sent : List Message} {msg : Message} {spec : CommitmentSpec}

theorem act (effect : StepEffect prim ver (link.party x) input t sent)
    (allowed : permitted (link.party x) input = true) :
    ∃ net' offers', Simulates prim o net' offers' ⟨Function.update link.party x t, Function.update link.inbox x.other
        (link.inbox x.other ++ sent.map fun msg => ⟨msg, remoteSpec (link.party x)⟩)⟩ := by
  have constants := effect.constants (simulates.recent x)
  cases dead : net.dead x with
  | true =>
    obtain ⟨silent, ⟨errored, -⟩ | ⟨rfl, -⟩ | ⟨rfl, -⟩⟩ := effect.of_errored (simulates.dead x dead)
    · refine ⟨net, offers, ?_⟩
      simpa [silent] using simulates.replace constants (by simp [dead]) fun _ => errored
    · cases allowed
    · cases allowed
  | false =>
    have tracks := simulates.alive x dead
    have bounds := simulates.ordered.bounds x
    have bounds' := simulates.ordered.bounds x.other
    rw [Side.other_other] at bounds'
    generalize state : link.party x = s at effect allowed tracks ⊢
    cases effect with
    | refused =>
      refine ⟨net, offers, ?_⟩
      rw [← state]
      simpa using simulates
    | failed =>
      refine ⟨net.drop x (net.inbox x), offers, ?_⟩
      simpa using simulates.fail constants rfl List.suffix_rfl (simulates.inbox x)
    | offered amount hash cltv onion blinding skimmed phase =>
      let record : HtlcRecord := ⟨amount, hash, cltv, (net.log x).length, none⟩
      have found : (addOffer offers x record x)[s.localHtlcCounter]? = some record := by
        rw [tracks.counter]
        simp [addOffer]
      refine ⟨net.append x (.add (offers x).length), addOffer offers x record, ?_⟩
      refine simulates.append constants dead
        (extends_add simulates.recorded x (r := record) rfl rfl) ?_ ?_ ?_
      · simpa [addOffer] using tracks.offer bounds amount hash cltv onion blinding _
      · intro s' other
        simpa [addOffer] using other.peerOffers bounds' (r := record) rfl rfl
      · intro signed rate
        rw [← tracks.counter]
        exact .add found rfl
    | settled update settles operational found live removes =>
      have dies := ChannelInput.settles_dead settles
      obtain ⟨⟨r, there, unremoved⟩, after⟩ := tracks.settleReceived bounds found live
        (permitted_settles allowed settles found) dies update
      refine ⟨_, _, simulates.append constants dead
        (extends_remove simulates.recorded x there unremoved dies) ?_ ?_ ?_⟩
      · simpa [removeOffer] using after
      · intro s' other
        simpa [removeOffer] using other.peerRemoves bounds' there unremoved
      · exact fun _ _ => .remove removes
    | feeStaged rate phase role uncommitted =>
      exact ⟨_, _, simulates.append constants dead
        (extends_fee simulates.recorded x rate) (tracks.stageFee bounds role uncommitted _)
        (fun _ other => other.peerFee bounds' rate) fun _ _ => .fee⟩
    | signed signature htlcSigs partialSig msg operational =>
      have answered : (link.party x).isAwaitingRemoteRevocation = false := by
        rw [state]
        simp only [permitted, Bool.and_eq_true, Bool.not_eq_true'] at allowed
        exact allowed.2
      have idle := simulates.idle_of_revoked dead answered
      have after := simulates.sign constants dead idle
        (tracks.sign bounds (simulates.recorded.logged x) idle) msg
      rw [state] at after
      exact ⟨net.sign x, offers, after⟩
    | heightSet height =>
      have kept := simulates.replace constants
        (fun _ => { tracks with fee := tracks.fee.congr rfl rfl rfl rfl rfl rfl }) (by simp [dead])
      exact ⟨net, offers, by simpa using kept⟩
    | received | removed | feeReceived | accepted | misrevoked | revoked => cases allowed
    | disconnected | resumed => cases allowed

theorem verifiable (alive : net.dead x = false) : ¬ Unverifiable prim (link.party x) := by
  obtain ⟨keys, funded, unleased, signer⟩ : let k := (link.party x).constants
      k.remoteBasepoints.isSome = true ∧ k.fundingTxid.isSome = true ∧ k.leaseExpiry = none ∧
        k.hasSigner = true := by
    rw [simulates.constants x]
    cases x <;> exact ⟨rfl, rfl, rfl, rfl⟩
  have built := buildLocalCommitment_isSome prim keys funded unleased
    (nextLocalPoint prim (link.party x)) (nextLocalNumber (link.party x)) false
  rintro (unbuilt | unknown | unequipped)
  · rw [nextLocalCommitment] at unbuilt
    rw [unbuilt] at built
    cases built
  · cases (congrArg Option.isSome unknown).symm.trans keys
  · split at unequipped
    · rename_i taproot
      have nonce := (simulates.alive x alive).nonce taproot
      rw [unequipped] at nonce
      cases nonce
    · cases unequipped.symm.trans signer

theorem heeded (alive : net.dead x = false)
    {sent : List HtlcRecord} {signed : Holdings} {rate : Nat} {token : Token LedgerUpdate}
    {tokens : List (Token LedgerUpdate)} (head : net.inbox x = token :: tokens)
    (carries : Carries sent signed rate ⟨msg, spec⟩ token) : ¬ Ignorable prim (link.party x) (.receive msg) := by
  have tracks := simulates.alive x alive
  have bounds := simulates.ordered.bounds x
  have logged := simulates.recorded.logged x
  have online : (link.party x).operational ≠ false := by simp [ChannelState.operational, tracks.phase]
  cases carries with
  | @add msg spec r found terms =>
    have next := simulates.ordered.of_update alive head
    obtain ⟨r, found, addedAt⟩ := simulates.recorded.adds x.other _ _ next
    rintro (offline | ⟨e, there⟩)
    · exact offline tracks.phase
    · rw [(tracks.of_arrival bounds found addedAt).1] at there
      cases there
  | @remove msg spec id d removes =>
    have next := simulates.ordered.of_update alive head
    obtain ⟨r, found, removal⟩ := simulates.recorded.removes x _ _ _ next
    obtain ⟨e, there, live⟩ := tracks.of_removal bounds found removal
    intro ignorable
    rcases ignorable_removes removes ignorable with offline | missing | ⟨e', there', state⟩
    · exact online offline
    · rw [there] at missing
      cases missing
    · cases there.symm.trans there'
      rw [state, Message.removes_dead removes] at live
      cases live
  | fee => exact online
  | signature holdings feerate =>
    rintro (offline | unverifiable)
    · exact online offline
    · exact simulates.verifiable alive unverifiable
  | revocation =>
    rintro (offline | unexpected)
    · exact online offline
    · obtain ⟨count, number, commitments⟩ := tracks.revocations
      rw [simulates.ordered.of_revocation head, Bool.toNat_true] at commitments
      rw [ChannelState.remoteRevocationCountForRaa, number, commitments] at unexpected
      exact absurd unexpected (Nat.not_succ_le_self count)

theorem deliver (head : link.inbox x = ⟨msg, spec⟩ :: rest)
    (effect : StepEffect prim ver (link.party x) (.receive msg) t sent) :
    ∃ net' offers', Simulates prim o net' offers' ⟨Function.update link.party x t,
      Function.update (Function.update link.inbox x rest) x.other
        (link.inbox x.other ++ sent.map fun msg => ⟨msg, remoteSpec (link.party x)⟩)⟩ := by
  have constants := effect.constants (simulates.recent x)
  have inbox := simulates.inbox x
  rw [head] at inbox
  obtain ⟨token, tokens, carries, later, head'⟩ := List.forall₂_cons_left_iff.mp inbox
  have short : tokens <:+ net.inbox x := head' ▸ List.suffix_cons token tokens
  have lost : ∀ t' : ChannelState, t'.constants = (link.party x).constants → t'.phase = .errored →
      ∃ net' offers', Simulates prim o net' offers' ⟨Function.update link.party x t',
        Function.update (Function.update link.inbox x rest) x.other
          (link.inbox x.other ++ [].map fun msg => ⟨msg, remoteSpec (link.party x)⟩)⟩ := by
    intro t' constants' errored
    have same : Function.update (Function.update link.inbox x rest) x.other (link.inbox x.other) =
        Function.update link.inbox x rest := Function.update_eq_self_iff.mpr (by simp)
    refine ⟨net.drop x tokens, offers, ?_⟩
    rw [List.map_nil, List.append_nil, same]
    exact simulates.fail constants' errored short later
  cases dead : net.dead x with
  | true =>
    obtain ⟨silent, ⟨errored, -⟩ | ⟨⟨⟩, -⟩ | ⟨⟨⟩, -⟩⟩ := effect.of_errored (simulates.dead x dead)
    rw [silent]
    exact lost t constants errored
  | false =>
    have tracks := simulates.alive x dead
    have bounds := simulates.ordered.bounds x
    have logged := simulates.recorded.logged x
    have heeded := simulates.heeded dead head' carries
    cases effect with
    | refused ignorable => exact absurd ignorable heeded
    | failed => exact lost _ constants rfl
    | misrevoked => exact lost _ constants rfl
    | received msg operational fresh =>
      cases carries with
      | remove removes => cases removes
      | add found terms =>
        have next := simulates.ordered.of_update dead head'
        obtain ⟨r, found', addedAt⟩ := simulates.recorded.adds x.other _ _ next
        cases found.symm.trans found'
        exact ⟨_, _, simulates.receive constants dead head head'
          (tracks.receive logged bounds next found addedAt terms) fun _ _ => .nil⟩
    | settled update settles => cases settles
    | removed removes operational found proved other committed =>
      cases carries with
      | remove removes' =>
        cases removes.symm.trans removes'
        have next := simulates.ordered.of_update dead head'
        obtain ⟨r, found', removal⟩ := simulates.recorded.removes x _ _ _ next
        exact ⟨_, _, simulates.receive constants dead head head'
          (tracks.removeOffered logged bounds next found' removal found committed
            (Message.removes_dead removes)) fun _ _ => .nil⟩
      | add | fee | signature | revocation => cases removes
    | feeReceived rate operational role =>
      cases carries with
      | remove removes => cases removes
      | fee =>
        have next := simulates.ordered.of_update dead head'
        exact ⟨_, _, simulates.receive constants dead head head'
          (tracks.stagePeerFee logged role next) fun _ _ => .nil⟩
    | accepted msg operational built =>
      cases carries with
      | remove removes => cases removes
      | signature =>
        exact ⟨_, _, simulates.receive constants dead head head' (tracks.accept ver msg)
          fun _ _ => .cons .revocation .nil⟩
    | revoked rotated msg store next rotates =>
      cases carries with
      | remove removes => cases removes
      | revocation =>
        have awaiting := simulates.ordered.of_revocation head'
        exact ⟨_, _, simulates.receive constants dead head head' (tracks.settle bounds awaiting rotates)
          fun _ _ => .nil⟩

theorem move (ver : Verifier) (m : Move) (allowed : link.allows m = true) :
    ∃ net' offers', Simulates prim o net' offers' (link.move prim ver m) := by
  cases m with
  | act x input => exact simulates.act (step_effect prim ver (link.party x) input) allowed
  | deliver x =>
    cases head : link.inbox x with
    | nil =>
      refine ⟨net, offers, ?_⟩
      rw [Link.move, head]
      exact simulates
    | cons packet rest =>
      obtain ⟨msg, spec⟩ := packet
      have after := simulates.deliver head (step_effect prim ver (link.party x) (.receive msg))
      rw [Link.move, head]
      simpa [Link.handle] using after

end Simulates

theorem simulates_run {prim : Primitives} {o : Opening} (ver : Verifier) {moves : List Move} {link : Link}
    (start : ∃ net offers, Simulates prim o net offers link) (allowed : link.allowsAll prim ver moves = true) :
    ∃ net offers, Simulates prim o net offers (link.run prim ver moves) := by
  induction moves generalizing link with
  | nil => exact start
  | cons m rest ih =>
    obtain ⟨net, offers, simulates⟩ := start
    simp only [Link.allowsAll, Bool.and_eq_true] at allowed
    exact ih (simulates.move ver m allowed.1) allowed.2

def crossingMoves : List Move :=
  [.act .right (.addHtlc 7000000 [6] 600 [] none none), .act .left (.addHtlc 5000000 [9] 500 [] none none),
    .act .left (.signCommitment [8] [[1]] none), .deliver .right]

end Beignet.Channel
