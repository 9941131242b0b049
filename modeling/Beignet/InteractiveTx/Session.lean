import Beignet.InteractiveTx.Builder

namespace Beignet.InteractiveTx

open Beignet.Data

inductive SessionKind where
  | dualFunding
  | splice
  deriving DecidableEq, Repr

/-- `DualFundingState` and `SpliceState`, whose members correspond one to one:
    `NONE`/`IDLE`, `AWAITING_ACCEPT`/`AWAITING_ACK`, `TX_NEGOTIATION`, `AWAITING_TX_SIGNATURES`,
    `AWAITING_CHANNEL_READY`/`AWAITING_SPLICE_LOCKED`, `COMPLETE`, `ABORTED`. -/
inductive SessionState where
  | idle
  | awaitingReply
  | txNegotiation
  | awaitingTxSignatures
  | awaitingLock
  | complete
  | aborted
  deriving DecidableEq, Repr

structure NegotiationSession where
  kind : SessionKind
  state : SessionState
  txBuilder : Option InteractiveTxBuilder
  deriving DecidableEq

namespace NegotiationSession

def noBuilder : SessionKind → String
  | .dualFunding => "No TX builder"
  | .splice => "No TX builder available"

def onBuilder (s : NegotiationSession) (what : String)
    (call : InteractiveTxBuilder → InteractiveTxBuilder × Option String) : NegotiationSession × Option String :=
  if s.state ≠ .txNegotiation then (s, some s!"Cannot {what}: not in TX_NEGOTIATION state")
  else
    match s.txBuilder with
    | none => (s, some (noBuilder s.kind))
    | some b => ({ s with txBuilder := some (call b).1 }, (call b).2)

def settle (result : NegotiationSession × Option String) : NegotiationSession × Option String :=
  if result.2 = none ∧ result.1.txBuilder.any InteractiveTxBuilder.isComplete then
    ({ result.1 with state := .awaitingTxSignatures }, none)
  else result

def addInput (s : NegotiationSession) (input : TxInput) : NegotiationSession × Option String :=
  s.onBuilder "add input" fun b => b.addInput input

def addPeerInput (parse : ParseOutputs) (s : NegotiationSession) (input : TxInput)
    (prevTxBytesFree : Option Int) : NegotiationSession × Option String :=
  s.onBuilder "add peer input" fun b => b.addPeerInput parse input prevTxBytesFree

def addOutput (s : NegotiationSession) (output : TxOutput) : NegotiationSession × Option String :=
  s.onBuilder "add output" fun b => b.addOutput output

def addPeerOutput (s : NegotiationSession) (output : TxOutput) : NegotiationSession × Option String :=
  s.onBuilder "add peer output" fun b => b.addPeerOutput output

def removeInput (s : NegotiationSession) (serialId : Nat) : NegotiationSession × Option String :=
  s.onBuilder "remove input" fun b => b.removeInput serialId

def removePeerInput (s : NegotiationSession) (serialId : Nat) : NegotiationSession × Option String :=
  s.onBuilder "remove peer input" fun b => b.removePeerInput serialId

def removeOutput (s : NegotiationSession) (serialId : Nat) : NegotiationSession × Option String :=
  s.onBuilder "remove output" fun b => b.removeOutput serialId

def removePeerOutput (s : NegotiationSession) (serialId : Nat) : NegotiationSession × Option String :=
  s.onBuilder "remove peer output" fun b => b.removePeerOutput serialId

def markComplete (s : NegotiationSession) : NegotiationSession × Option String :=
  settle (s.onBuilder "mark complete" InteractiveTxBuilder.markComplete)

def handlePeerComplete (s : NegotiationSession) : NegotiationSession × Option String :=
  let what := match s.kind with
    | .dualFunding => "handle peer complete"
    | .splice => "handle peer tx_complete"
  settle (s.onBuilder what InteractiveTxBuilder.handlePeerComplete)

def setDustLimit (s : NegotiationSession) (sats : Nat) : NegotiationSession :=
  { s with txBuilder := s.txBuilder.map fun b => b.setDustLimit sats }

def close (s : NegotiationSession) : NegotiationSession :=
  { s with state := .aborted, txBuilder := s.txBuilder.map InteractiveTxBuilder.abort }

def abort (s : NegotiationSession) (reason : String) : NegotiationSession × Option String :=
  match s.kind, s.state with
  | .dualFunding, _ => (s.close, none)
  | .splice, .complete => (s, some s!"Cannot abort completed splice: {reason}")
  | .splice, .aborted => (s, some "Splice already aborted")
  | .splice, _ => (s.close, none)

end NegotiationSession

inductive TxAction where
  | error (message : String)
  | txAbort (reason : String)
  | spliceAborted (reason : String)
  deriving DecidableEq, Repr

structure TxAddInputMsg where
  serialId : Nat
  prevTx : Bytes
  prevTxVout : Nat
  sequence : Nat
  sharedInputTxid : Option Bytes
  deriving DecidableEq, Repr

structure NegotiatingChannel where
  fundingTxid : Option Bytes
  fundingOutputIndex : Nat
  localDustLimit : Nat
  remoteDustLimit : Nat
  openDustLimit : Nat
  compositeSplice : Bool
  spliceSentTxSigs : Bool
  inFlightSentTxSignatures : Bool
  inFlightReceivedTxSignatures : Bool
  spliceSession : Option NegotiationSession
  dualFundingSession : Option NegotiationSession
  deriving DecidableEq

namespace NegotiatingChannel

variable (c : NegotiatingChannel) (kind : SessionKind) (reason : String) (serialId : Nat)

def session : SessionKind → Option NegotiationSession
  | .dualFunding => c.dualFundingSession
  | .splice => c.spliceSession

def withSession (s : Option NegotiationSession) : NegotiatingChannel :=
  match kind with
  | .dualFunding => { c with dualFundingSession := s }
  | .splice => { c with spliceSession := s }

theorem session_withSession (kind other : SessionKind) (s : Option NegotiationSession) :
    (c.withSession kind s).session other = if other = kind then s else c.session other := by
  cases kind <;> cases other <;> rfl

def negotiating : Bool :=
  (c.session kind).any fun s => s.state = .txNegotiation

/-- Splicing reuses the interactive-tx messages: a splice negotiation takes them first. -/
def routedKind : SessionKind :=
  if c.negotiating .splice then .splice else .dualFunding

def abortSplice : NegotiatingChannel × List TxAction :=
  match c.spliceSession with
  | none => (c, [.error "No splice session to abort"])
  | some s =>
    if c.spliceSentTxSigs || c.inFlightSentTxSignatures ||
        (c.inFlightReceivedTxSignatures && !c.compositeSplice) then
      (c, [.error s!"Cannot abort splice: tx_signatures already exchanged, the splice tx may confirm ({reason})"])
    else
      match s.abort reason with
      | (s', some message) => (c.withSession .splice (some s'), [.error message])
      | (_, none) => (c.withSession .splice none, [.spliceAborted reason])

def onSession (call : NegotiationSession → NegotiationSession × Option String) : NegotiatingChannel × Option String :=
  match c.session kind with
  | none => (c, none)
  | some s => (c.withSession kind (some (call s).1), (call s).2)

def errorActions (err : Option String) : List TxAction := (err.map TxAction.error).toList

def failNegotiation : NegotiatingChannel × List TxAction :=
  let aborted := c.abortSplice reason
  (aborted.1, .txAbort reason :: aborted.2 ++ [.error s!"splice aborted: {reason}"])

/-- What the four item handlers share: routing, the refusals around it, and the session call.
    Our own contributions that the drivers send next are calls of their own. -/
def handleItem (what : String)
    (call : NegotiationSession → NegotiationSession × Option String) : NegotiatingChannel × List TxAction :=
  match c.routedKind with
  | .splice =>
    if c.compositeSplice then c.failNegotiation s!"peer sent {what} in a composite splice session"
    else
      let result := c.onSession .splice call
      (result.1, errorActions result.2)
  | .dualFunding =>
    if c.negotiating .dualFunding then
      let result := c.onSession .dualFunding call
      (result.1, errorActions result.2)
    else (c, [.error s!"Unexpected {what}"])

def zeroTxid : Bytes := List.replicate 32 0

/-- The input a `tx_add_input` stands for; `extractTxid` is `extractTxidFromPrevTx`,
    nothing when it throws. Only a splice reads the shared-input field. -/
def peerInput (extractTxid : Bytes → Option Bytes) (kind : SessionKind) (msg : TxAddInputMsg) : TxInput :=
  let shared := if kind = .splice then msg.sharedInputTxid else none
  let fromPrevTx := if 32 ≤ msg.prevTx.length then (extractTxid msg.prevTx).getD zeroTxid else zeroTxid
  { serialId := msg.serialId
    prevTxid := shared.getD fromPrevTx
    prevOutputIndex := msg.prevTxVout
    sequence := msg.sequence
    prevTx := some msg.prevTx
    prevTxVout := some msg.prevTxVout
    isShared := shared.isSome }

def sharedInputMismatch (msg : TxAddInputMsg) : Bool :=
  msg.sharedInputTxid.any fun txid =>
    ¬ (c.fundingTxid = some txid ∧ msg.prevTxVout = c.fundingOutputIndex)

def handleTxAddInput (parse : ParseOutputs) (extractTxid : Bytes → Option Bytes)
    (c : NegotiatingChannel) (msg : TxAddInputMsg) (prevTxBytesFree : Option Int) :
    NegotiatingChannel × List TxAction :=
  let call := fun s => NegotiationSession.addPeerInput parse s (peerInput extractTxid c.routedKind msg)
    prevTxBytesFree
  match c.routedKind with
  | .dualFunding => c.handleItem "tx_add_input" call
  | .splice =>
    if c.compositeSplice then
      c.failNegotiation "peer sent tx_add_input in a composite splice session"
    else if c.sharedInputMismatch msg then
      let aborted :=
        c.abortSplice "peer splice shared input does not match the channel funding outpoint"
      (aborted.1, .txAbort "splice shared input does not match the channel funding outpoint" :: aborted.2)
    else
      -- An invalid peer input fails the negotiation of a splice; the v2 open reports it alone.
      match c.onSession .splice call with
      | (c', some reason) => c'.failNegotiation reason
      | (c', none) => (c', [])

def handleTxAddOutput (output : TxOutput) : NegotiatingChannel × List TxAction :=
  let dust := match c.routedKind with
    | .splice => max c.localDustLimit c.remoteDustLimit
    | .dualFunding => c.openDustLimit
  c.handleItem "tx_add_output" fun s => (s.setDustLimit dust).addPeerOutput output

def handleTxRemoveInput : NegotiatingChannel × List TxAction :=
  c.handleItem "tx_remove_input" fun s => s.removePeerInput serialId

def handleTxRemoveOutput : NegotiatingChannel × List TxAction :=
  c.handleItem "tx_remove_output" fun s => s.removePeerOutput serialId

/-- Up to the driver: the audits and signatures behind a completed negotiation are not part of it. -/
def handleTxComplete : NegotiatingChannel × List TxAction :=
  match c.routedKind with
  | .splice =>
    let result := c.onSession .splice NegotiationSession.handlePeerComplete
    (result.1, errorActions result.2)
  | .dualFunding =>
    if c.negotiating .dualFunding then
      let result := c.onSession .dualFunding NegotiationSession.handlePeerComplete
      (result.1, errorActions result.2)
    else (c, [.error "Unexpected tx_complete"])

end NegotiatingChannel

end Beignet.InteractiveTx
