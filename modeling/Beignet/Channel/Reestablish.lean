import Beignet.Channel.Commitments

namespace Beignet.Channel

open Beignet.Data

/-! A disconnect, for a channel that is neither splicing nor negotiating a dual-funded open. -/

variable (e : HtlcEntry) (s : ChannelState)

def HtlcEntry.uncommittedAdd : Bool :=
  e.direction = .received && e.state = .pending && e.addLocallyRevoked = some false

def HtlcEntry.uncommittedRemoval : Bool :=
  e.direction = .offered && !e.state.live && e.removalLocallyRevoked = some false

def HtlcEntry.restoreRemoval : HtlcEntry :=
  if e.uncommittedRemoval then
    { e with state := .committed, removalRemoteCommitted := none, removalLocallyRevoked := none }
  else e

theorem HtlcEntry.restoreRemoval_key : e.restoreRemoval.key = e.key := by
  unfold HtlcEntry.restoreRemoval
  split <;> rfl

structure AbandonedLocalAdd where
  htlcId : Nat
  paymentHash : Bytes
  amountMsat : Nat
  deriving DecidableEq, Repr

structure HeldAdds where
  state : ChannelState
  kept : List PendingUpdate
  dropped : List AbandonedLocalAdd

def HtlcEntry.unsignedAdd : Bool :=
  e.state = .pending && e.addRemoteCommitted = some false && e.commitCoverPending ≠ some true

def ChannelState.giveUp (entry : HtlcEntry) : ChannelState :=
  { s with
    htlcs := s.htlcs.delete entry.key
    localBalanceMsat := s.localBalanceMsat + entry.amountMsat }

def HeldAdds.scan (acc : HeldAdds) (update : PendingUpdate) : HeldAdds :=
  match update with
  | .addHtlc id amountMsat paymentHash =>
    match acc.state.htlcs.get? (.offered, id) with
    | some entry =>
      if entry.unsignedAdd then
        { acc with
          state := acc.state.giveUp entry
          dropped := acc.dropped ++ [⟨id, entry.paymentHash, entry.amountMsat⟩] }
      else { acc with kept := acc.kept ++ [update] }
    | none => { acc with dropped := acc.dropped ++ [⟨id, paymentHash, amountMsat⟩] }
  | _ => { acc with kept := acc.kept ++ [update] }

def HtlcEntry.owesCover : Bool :=
  e.commitCoverPending ≠ some true &&
    ((e.addLocallyRevoked = some true && e.state = .pending) ||
      (e.removalLocallyRevoked = some true && e.removalRemoteCommitted ≠ some true && !e.state.live))

def owesCommitmentSignature : Bool :=
  s.pendingLocalUpdatesSignedCount < s.pendingLocalUpdates.length ||
    (s.pendingFeeratePerKw.isSome && !s.pendingFeerateCommitted) ||
    (s.pendingLeaseBlockheight.isSome && !s.pendingLeaseBlockheightCommitted) ||
    s.htlcs.values.any HtlcEntry.owesCover

def scanHeldAdds : HeldAdds :=
  (s.pendingLocalUpdates.drop s.pendingLocalUpdatesSignedCount).foldl HeldAdds.scan
    ⟨s, s.pendingLocalUpdates.take s.pendingLocalUpdatesSignedCount, []⟩

/-- Only a channel restored from a capsule gives up the adds it has not signed. -/
def dropUnsignedLocalAddsIfHeld : ChannelState × List AbandonedLocalAdd :=
  let scanned := scanHeldAdds s
  if s.restoreRecencyUnproven = false ∨ scanned.dropped = [] then (s, [])
  else
    let kept := { scanned.state with pendingLocalUpdates := scanned.kept }
    ({ kept with needsCommitment := kept.needsCommitment && owesCommitmentSignature kept }, scanned.dropped)

namespace ChannelState

variable (s : ChannelState)

def reestablishable : Bool :=
  match s.phase with
  | .normal | .shuttingDown | .negotiatingClosing | .awaitingChannelReady
  | .awaitingFundingConfirmed => true
  | _ => false

/-- The updates of the peer's that no signature of its covers are undone. -/
def rollbackHtlcs : ChannelState :=
  { s with
    htlcs := (s.htlcs.filter fun e => !e.uncommittedAdd).map HtlcEntry.restoreRemoval
      HtlcEntry.restoreRemoval_key
    remoteBalanceMsat := s.remoteBalanceMsat +
      ((s.htlcs.values.filter HtlcEntry.uncommittedAdd).map fun e => (e.amountMsat : Int)).sum }

def rollbackFee : ChannelState :=
  let dropped := s.pendingFeerateSignable = false ∧ s.pendingFeerateCommitted = false
  { s with
    pendingFeeratePerKw := if dropped then none else s.pendingFeeratePerKw
    pendingLocalUpdates :=
      if dropped then s.pendingLocalUpdates.filter fun
        | .fee _ => false
        | _ => true
      else s.pendingLocalUpdates }

def rollbackLease : ChannelState :=
  let dropped :=
    s.pendingLeaseBlockheightSignable = false ∧ s.pendingLeaseBlockheightCommitted = false
  { s with pendingLeaseBlockheight := if dropped then none else s.pendingLeaseBlockheight }

def suspend : ChannelState :=
  { s with
    quiescing := false
    peerHasSentStfu := false
    preReestablishState := some s.phase
    phase := .awaitingReestablish }

end ChannelState

def markForReestablish (s : ChannelState) : ChannelState × List AbandonedLocalAdd :=
  if s.reestablishable then
    dropUnsignedLocalAddsIfHeld s.suspend.rollbackHtlcs.rollbackFee.rollbackLease
  else (s, [])

def resumeReestablished (s : ChannelState) : ChannelState :=
  match s.preReestablishState with
  | some phase => { s with phase := phase, preReestablishState := none }
  | none => s

end Beignet.Channel
