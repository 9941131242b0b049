import Beignet.Ffor.Epoch
import Beignet.Splice.Resume

namespace Beignet.Ffor

open Beignet.Data Beignet.Channel Beignet.Splice

/-! Settling an HTLC under an epoch: the predicate that callers ask first, and the settle itself. -/

inductive FforRole where
  | s | r
  deriving DecidableEq

inductive SettleOp where
  | fulfill | fail
  deriving DecidableEq

/-- What the freeze table reads of an epoch record, for a settle; preimages are read for being there. -/
structure FreezeRecord where
  role : FforRole
  state : EpochState
  concurrentVersion : Option Nat
  concurrentVersionMismatch : Bool
  sHtlcIdBase : Option Nat
  maxPayments : Nat
  activationMismatch : Bool
  knownPreimages : List Bool
  settledBitmap : Option Bytes

def bitmapGet (bitmap : Bytes) (slot : Nat) : Bool := (bitmap.getD (slot / 8) 0).val.testBit (slot % 8)

def bitmapLength (numSlots : Nat) : Nat := (numSlots + 7) / 8

def bitmapSet (bitmap : Bytes) (slot : Nat) : Bytes :=
  bitmap.modify (slot / 8) (· ||| Fin.ofNat 256 (2 ^ (slot % 8)))

/-- What a sync reply or close ack reports. -/
def shownBitmap (count : Nat) (shown : Nat → Bool) : Bytes :=
  ((List.range count).filter shown).foldl bitmapSet (.replicate (bitmapLength count) 0)

theorem bitmapGet_set {bitmap : Bytes} {slot other : Nat} (inside : slot / 8 < bitmap.length) :
    bitmapGet (bitmapSet bitmap slot) other = (bitmapGet bitmap other || other = slot) := by
  have fits : 2 ^ (slot % 8) < 256 := Nat.pow_lt_pow_right (n := 8) (by decide) (by omega)
  have bit : other = slot ↔ slot / 8 = other / 8 ∧ slot % 8 = other % 8 := by omega
  by_cases byte : slot / 8 = other / 8
  · simp [bitmapGet, bitmapSet, bit, ← byte, inside, Nat.mod_eq_of_lt fits, Nat.testBit_two_pow]
  · simp [bitmapGet, bitmapSet, bit, byte]

theorem bitmapGet_foldl {slots : List Nat} {bitmap : Bytes} {slot : Nat}
    (inside : ∀ s ∈ slots, s / 8 < bitmap.length) :
    bitmapGet (slots.foldl bitmapSet bitmap) slot = (bitmapGet bitmap slot || slot ∈ slots) := by
  induction slots generalizing bitmap with
  | nil => simp
  | cons s rest ih =>
    rw [List.forall_mem_cons] at inside
    rw [List.foldl_cons, ih (by simpa [bitmapSet] using inside.2), bitmapGet_set inside.1]
    simp [Bool.or_assoc]

theorem bitmapGet_shownBitmap (count slot : Nat) (shown : Nat → Bool) :
    bitmapGet (shownBitmap count shown) slot = (slot < count && shown slot) := by
  rw [shownBitmap, bitmapGet_foldl]
  · simp [bitmapGet]
  · intro s member
    simp only [List.mem_filter, List.mem_range, List.length_replicate, bitmapLength] at member ⊢
    omega

/-- A channel with its epoch; `vouchers` are the keys of the entries with the voucher flag. -/
structure FforChannel extends SplicingChannel where
  ffor : Option FreezeRecord
  vouchers : List (HtlcDirection × Nat)
  fforInternalSettle : Bool
  fforHolding : Bool
  fforActivateAckUnsent : Bool

namespace FforChannel

variable (c : FforChannel) (f : FreezeRecord) (htlcId : Nat) (direction : HtlcDirection) (op : SettleOp)

def canSettleHtlcs : Bool :=
  c.live.operational || c.isSplicePendingLock && !isTaprootChannel c.live.channelType

def canFulfillHtlc : Bool :=
  c.canSettleHtlcs && !c.live.quiescing && (c.live.htlcs.get? (.received, htlcId)).any (·.state.live)

def canFailHtlc : Bool := c.canFulfillHtlc htlcId

def isVoucher : Bool :=
  direction = (if f.role = .r then .received else .offered) &&
    f.sHtlcIdBase.any (fun base => base ≤ htlcId && htlcId - base + 1 ≤ f.maxPayments) &&
    c.live.htlcs.has (direction, htlcId) && (direction, htlcId) ∈ c.vouchers

/-- `_fforConcurrentVoucherRefusal` for a settle of our own. -/
def concurrentVoucherRefusal : Option String :=
  let parked := s!"FFOR voucher {htlcId} is parked: only the epoch's own drain, redemption or unwind settles it"
  if f.concurrentVersion = some 2 ∧ (f.state = .active ∨ f.state = .draining) ∧ op = .fail then
    some s!"FFOR voucher {htlcId} remains reserved until its claim is resolved"
  else if f.role = .s then some s!"FFOR voucher {htlcId} is settled by the receiver, not by us"
  else if c.fforInternalSettle = false then some parked
  else
    match f.state, op with
    | .aborted, _ | .active, .fulfill | .draining, .fulfill => none
    | .active, .fail =>
      some (s!"FFOR voucher {htlcId} cannot be failed while the epoch is ACTIVE: " ++
        "only the final close authorizes a fail")
    | .draining, .fail =>
      let slot := htlcId - f.sHtlcIdBase.getD 0
      if f.knownPreimages.getD slot false then some s!"FFOR voucher {htlcId} is not failed: its preimage is held"
      else if f.settledBitmap.all (bitmapGet · slot) then
        some s!"FFOR voucher {htlcId} is not failed: the close acknowledgement does not mark it unsettled"
      else none
    | _, _ => some parked

/-- `_fforConcurrentRefusal` for a settle of our own. -/
def concurrentRefusal : Option String :=
  let name := f.state.name
  if f.state = .closed then none
  else if c.isVoucher f htlcId direction then c.concurrentVoucherRefusal f htlcId op
  else
    match f.state with
    | .activating => some "FFOR epoch is ACTIVATING: no settle until the activation is acknowledged"
    | .active | .draining =>
      if f.role = .s ∧ f.state = .active ∧ c.fforActivateAckUnsent = true then
        some "FFOR epoch is ACTIVE: no settle until ff_activate_ack has been sent"
      else if c.fforHolding = true ∧ f.activationMismatch = true then
        some (s!"FFOR epoch is {name}: no settle until the channel reestablishes, " ++
          "the close is in dispute and its retransmissions are held")
      else none
    | _ => none

/-- `_fforUpdateRefusal` for a settle of our own. -/
def fforUpdateRefusal : Option String :=
  match c.ffor with
  | none => none
  | some f =>
    let name := f.state.name
    if f.concurrentVersionMismatch then some "FFOR: stored concurrent version is unsupported or inconsistent"
    else if isFforConcurrentVersion f.concurrentVersion then c.concurrentRefusal f htlcId direction op
    else if f.role = .r ∧ f.state ≠ .closed ∧ c.fforInternalSettle = false ∧ c.isVoucher f htlcId direction then
      some s!"FFOR voucher {htlcId} is parked: only the epoch's drain or unwind settles it"
    else
      match f.state with
      | .activating | .active => some s!"FFOR epoch is {name}: no settle until it drains"
      | .draining =>
        refuseIf (c.isVoucher f htlcId direction = false) "FFOR epoch is DRAINING: only the voucher drain may settle"
      | _ => none

/-- The guards that the three settles repeat; `settle` is the rest, on a channel shown as an open one. -/
def guarded (verb : String) (settle : ChannelState → Reply) : FforChannel × List ChannelAction :=
  let refuse (text : String) := (c, [ChannelAction.notify (.error s!"Cannot {verb} HTLC: {text}" none)])
  if c.canSettleHtlcs = false then refuse "wrong state"
  else if c.live.quiescing then refuse "channel is quiescing"
  else
    match c.fforUpdateRefusal htlcId direction op with
    | some refusal => refuse refusal
    | none =>
      let reply := settle (SplicingChannel.shown c.live)
      ({ c with live := { reply.state with phase := c.live.phase } }, reply.actions)

def fulfillHtlc (prim : Primitives) (paymentPreimage : Bytes) : FforChannel × List ChannelAction :=
  c.guarded htlcId .received .fulfill "fulfill" (Channel.fulfillHtlc prim · htlcId paymentPreimage)

def failHtlc (reason : Bytes) (direction : HtlcDirection) : FforChannel × List ChannelAction :=
  c.guarded htlcId direction .fail "fail" (Channel.failHtlc · htlcId reason direction)

def failMalformedHtlc (sha256OfOnion : Bytes) (failureCode : Nat) : FforChannel × List ChannelAction :=
  c.guarded htlcId .received .fail "fail" (Channel.failMalformedHtlc · htlcId sha256OfOnion failureCode)

/-- No error is returned, and the entry is in its new state. -/
def Settled (htlcId : Nat) (intent : HtlcState) (out : FforChannel × List ChannelAction) : Prop :=
  (∀ message code, .notify (.error message code) ∉ out.2) ∧
    (out.1.live.htlcs.get? (.received, htlcId)).map (·.state) = some intent

/-- The epoch leaves a settle of this received HTLC to its caller. -/
def Unfrozen (op : SettleOp) : Prop :=
  ∀ f ∈ c.ffor, f.concurrentVersionMismatch = false ∧
    match isFforConcurrentVersion f.concurrentVersion, c.isVoucher f htlcId .received with
    | false, false => f.state ∉ [EpochState.activating, .active, .draining]
    | false, true => f.state ∉ [EpochState.activating, .active] ∧ (f.state ≠ .closed → c.fforInternalSettle = true)
    | true, false => f.state ≠ .activating ∧ ¬ (f.role = .s ∧ f.state = .active ∧ c.fforActivateAckUnsent = true) ∧
      ¬ (f.state ∈ [EpochState.active, .draining] ∧ c.fforHolding = true ∧ f.activationMismatch = true)
    | true, true => f.state = .closed ∨ c.fforInternalSettle = true ∧
      match op with
      | .fulfill => f.state ∈ [EpochState.active, .draining, .aborted]
      | .fail => f.state = .aborted ∨ f.state = .draining ∧ f.concurrentVersion ≠ some 2 ∧
        f.knownPreimages.getD (htlcId - f.sHtlcIdBase.getD 0) false = false ∧
        f.settledBitmap.all (bitmapGet · (htlcId - f.sHtlcIdBase.getD 0)) = false

variable {c f htlcId op}

theorem role_of_isVoucher (voucher : c.isVoucher f htlcId .received = true) : f.role = .r := by
  by_contra other
  simp [isVoucher, other] at voucher

theorem ite_some_eq_none_iff {p : Prop} [Decidable p] {text : String} {other : Option String} :
    (if p then some text else other) = none ↔ ¬ p ∧ other = none := by
  by_cases p <;> simp [*]

theorem fforUpdateRefusal_eq_none_iff : c.fforUpdateRefusal htlcId .received op = none ↔ c.Unfrozen htlcId op := by
  unfold fforUpdateRefusal Unfrozen
  cases c.ffor with
  | none => simp
  | some f =>
    simp only [Option.mem_some_iff, forall_eq']
    cases f.concurrentVersionMismatch with
    | true => simp
    | false =>
      cases concurrent : isFforConcurrentVersion f.concurrentVersion with
      | false =>
        cases voucher : c.isVoucher f htlcId .received with
        | false => cases state : f.state <;> simp [refuseIf]
        | true =>
          cases state : f.state <;> cases c.fforInternalSettle <;> simp [refuseIf, role_of_isVoucher voucher]
      | true =>
        simp only [concurrentRefusal]
        cases voucher : c.isVoucher f htlcId .received with
        | false => cases state : f.state <;> simp [ite_some_eq_none_iff]
        | true =>
          have role := role_of_isVoucher voucher
          cases state : f.state <;> cases op <;>
            simp [concurrentVoucherRefusal, state, role, ite_some_eq_none_iff, and_left_comm]

variable {entry : HtlcEntry} {verb : String} {intent : HtlcState}

theorem operational_shown (able : c.canSettleHtlcs = true) : (SplicingChannel.shown c.live).operational = true := by
  simp only [canSettleHtlcs, Bool.or_eq_true, Bool.and_eq_true, SplicingChannel.isSplicePendingLock,
    decide_eq_true_eq] at able
  rcases able with operational | ⟨⟨splicing, -⟩, -⟩
  · cases phase : c.live.phase <;> simp_all [ChannelState.operational, SplicingChannel.shown]
  · simp [ChannelState.operational, SplicingChannel.shown, splicing]

/-- Past the guards that the predicate has as well, only the epoch and the settle's own checks decide. -/
theorem settled_guarded_iff {settle : ChannelState → Reply}
    (able : c.canSettleHtlcs = true) (awake : c.live.quiescing = false) :
    Settled htlcId intent (c.guarded htlcId .received op verb settle) ↔ c.Unfrozen htlcId op ∧
      (∀ message code, .notify (.error message code) ∉ (settle (SplicingChannel.shown c.live)).actions) ∧
      ((settle (SplicingChannel.shown c.live)).state.htlcs.get? (.received, htlcId)).map (·.state) = some intent := by
  rw [← fforUpdateRefusal_eq_none_iff]
  cases refusal : c.fforUpdateRefusal htlcId .received op with
  | none => simp [guarded, able, awake, refusal, Settled]
  | some text => simp [guarded, able, awake, refusal, Settled]

theorem settled_settleHtlc_iff {early : Option Verdict}
    {check : HtlcEntry → Option Verdict} {update : PendingUpdate} {msg : Message}
    (found : c.live.htlcs.get? (.received, htlcId) = some entry) (able : c.canFulfillHtlc htlcId = true)
    (dead : intent.live = false) (checked : check entry = none) :
    Settled htlcId intent (c.guarded htlcId .received op verb
      (Channel.settleHtlc · verb early htlcId intent check update msg)) ↔ c.Unfrozen htlcId op ∧ early = none := by
  simp only [canFulfillHtlc, found, Bool.and_eq_true, Bool.not_eq_true', Option.any_some] at able
  obtain ⟨⟨settling, awake⟩, live⟩ := able
  rw [settled_guarded_iff settling awake]
  have operational := operational_shown settling
  replace awake : (SplicingChannel.shown c.live).quiescing = false := awake
  replace found : (SplicingChannel.shown c.live).htlcs.get? (.received, htlcId) = some entry := found
  have first : guardRepeatSettle entry htlcId intent = none := by
    cases state : entry.state <;> cases intent <;> simp_all [guardRepeatSettle, HtlcState.live]
  generalize SplicingChannel.shown c.live = s at *
  apply and_congr_right
  intro
  simp only [Channel.settleHtlc, found, Verdict.orAccept, firstRefusal, refuseIf, operational, awake, checked, first]
  cases early with
  | none => simp [found, HtlcEntry.settleAs]
  | some verdict =>
    have other : entry.state ≠ intent := fun same => by simp [same, dead] at live
    have kept : (verdict.reply s).state.htlcs = s.htlcs := by cases verdict <;> rfl
    simp [kept, found, other]

/-- A channel in which the peer's payment of 300,000 sat can be settled, under a baseline epoch. -/
def underEpoch (state : EpochState) : FforChannel where
  toSplicingChannel := SplicingChannel.loaded ⟨openerAfter
    [.receive (.updateAddHtlc ⟨0, 300000000, [6], 500, [], none, none⟩),
      .receive (.commitmentSigned ⟨[8], [[1]], none⟩), .signCommitment [8] [] none, peerRevocation 0],
    none, none, 0, none⟩
  ffor := some ⟨.s, state, none, false, none, 4, false, [], none⟩
  vouchers := []
  fforInternalSettle := false
  fforHolding := false
  fforActivateAckUnsent := false

end FforChannel

end Beignet.Ffor
