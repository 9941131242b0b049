import Beignet.Closing.Types

namespace Beignet.Closing

open Beignet.Data Beignet.Channel
open SimpleClosingTxParams (closerValue entries includeCloser includeClosee closeeValue)

/-! The closee's part of `option_simple_close`: what it signs when the peer sends `closing_complete`. -/

section Scripts

variable (script : Bytes)

def byteIs (index : Nat) (byte : Fin 256) : Bool := script[index]? = some byte

def isOpReturnForm : Bool :=
  match script with
  | _ :: push :: rest =>
    (8 ≤ script.length && 0x06 ≤ push.val && push.val ≤ 0x4b && script.length = push.val + 2) ||
      match rest with
      | length :: _ => 79 ≤ script.length && push = 0x4c && 0x4c ≤ length.val && length.val ≤ 0x50 &&
          script.length = length.val + 3
      | [] => false
  | _ => false

def isWitnessProgram : Bool :=
  match script with
  | version :: push :: _ =>
    (version = 0x00 || (0x51 ≤ version.val && version.val ≤ 0x60)) && 0x02 ≤ push.val && push.val ≤ 0x28 &&
      script.length = push.val + 2
  | _ => false

def isValidShutdownScript (allowAnySegwit allowOpReturn : Bool) : Bool :=
  if script = [] then false
  else if allowOpReturn && byteIs script 0 0x6a then isOpReturnForm script
  else
    (hasForm script 25 0x76 0xa9 && byteIs script 2 0x14 && byteIs script 23 0x88 && byteIs script 24 0xac) ||
      (hasForm script 23 0xa9 0x14 && byteIs script 22 0x87) ||
      hasForm script 22 0x00 0x14 || hasForm script 34 0x00 0x20 ||
      (allowAnySegwit && isWitnessProgram script)

end Scripts

namespace ClosingState

variable (s : ClosingState) (msg : ClosingComplete)

def completeProfile : ClosingRelayProfile :=
  closingTxRelayProfile
    { fundingAmount := s.fundingSatoshis
      localScriptPubkey := msg.closeeScriptPubkey
      remoteScriptPubkey := msg.closerScriptPubkey
      localAmount := s.localSat
      remoteAmount := s.remoteSat - msg.feeSatoshis
      isTaproot := isTaprootChannel s.channelType }

def completeChecks : List (Option String) :=
  let fee := msg.feeSatoshis
  let locktime := msg.locktime
  let height := s.currentBlockHeight
  let feePaid := (s.completeProfile msg).feePaid
  let floor := minRelayFeeForWeight (s.completeProfile msg).weight
  [ refuseIf (s.remoteSat < fee) "closing_complete: fee exceeds closer balance", refuseIf (feePaid < floor)
      (s!"closing_complete: fee {fee} sat pays {feePaid} sat on the closing tx, below the {floor} sat relay " ++
        "floor"),
    refuseIf (500000000 ≤ locktime) s!"closing_complete: locktime {locktime} is not a block height",
    refuseIf (0 < locktime ∧ height = 0)
      s!"closing_complete: no chain tip to validate locktime {locktime} against",
    refuseIf (0 < locktime ∧ height + 6 < locktime)
      s!"closing_complete: locktime {locktime} is beyond our chain tip {height}",
    refuseIf (s.localShutdownScript ≠ some msg.closeeScriptPubkey)
      "closing_complete: closee script does not match ours",
    refuseIf (isValidShutdownScript msg.closerScriptPubkey true true = false)
      "closing_complete: invalid closer script" ]

def ourDust : Bool := isDustOutput msg.closeeScriptPubkey s.localSat

def closeeVariant : Except String (SimpleCloseVariant × Bytes) :=
  if s.ourDust msg then
    match msg.closerOutputOnlySig with
    | some sig => .ok (.closerOutputOnly, sig)
    | none => .error "closing_complete: our output is dust but no closer_output_only sig"
  else
    match msg.closerAndCloseeSig, msg.closeeOutputOnlySig with
    | some sig, _ => .ok (.closerAndClosee, sig)
    | none, some sig => .ok (.closeeOutputOnly, sig)
    | none, none =>
      .error "closing_complete: peer offered only closer_output_only for our non-dust output"

def alreadyClosed : Bool := s.phase = .closed && s.simpleClose

def completing : ClosingState :=
  { s with
    remoteShutdownScript := some msg.closerScriptPubkey
    phase := if s.alreadyClosed then s.phase else .negotiatingClosing }

def answerComplete (variant : SimpleCloseVariant) (signature : Bytes) : ClosingReply :=
  let reply := .sendClosingSig ⟨msg.closerScriptPubkey, msg.closeeScriptPubkey, msg.feeSatoshis, msg.locktime,
    variant, signature⟩
  if s.alreadyClosed then ⟨s.completing msg, [reply]⟩
  else ⟨{ s.completing msg with phase := .closed }, [reply, .channelClosed]⟩

variable (verify : SimpleCloseVariant → ClosingComplete → Bytes → Bool)
  (sign : SimpleCloseVariant → ClosingComplete → Bytes) (variant : SimpleCloseVariant)

def signComplete : ClosingReply :=
  if s.externalClose = true ∧ s.ourDust msg = true then
    (s.completing msg).refuse "Cannot close cooperatively: external payout would be dust"
  else
    match s.closeeVariant msg with
    | .error reason => (s.completing msg).refuse reason
    | .ok (variant, theirSig) =>
      if verify variant msg theirSig = false then
        (s.completing msg).refuse "closing_complete: peer signature failed to verify"
      else s.answerComplete msg variant (sign variant msg)

def handleClosingComplete : ClosingReply :=
  if s.phase ≠ .negotiatingClosing ∧ s.phase ≠ .shuttingDown ∧ s.alreadyClosed = false then
    s.refuse "Unexpected closing_complete"
  else if s.isMutualCloseHeld then s.refuseHeldMutualClose
  else
    match s.closingBlockedBy with
    | some reason => s.refuse ("Unexpected closing_complete: " ++ reason)
    | none =>
      if s.simpleClose = false then s.refuse "Unexpected closing_complete: simple close not negotiated"
      else
        match firstRefusal (s.completeChecks msg) with
        | some reason => s.refuse reason
        | none => s.signComplete msg verify sign

def closeTxParams : SimpleClosingTxParams where
  fundingTxid := s.fundingTxid.getD []
  fundingOutputIndex := s.fundingOutputIndex
  closerScriptPubkey := msg.closerScriptPubkey
  closeeScriptPubkey := msg.closeeScriptPubkey
  closerAmount := s.remoteSat
  closeeAmount := s.localSat
  feeSatoshis := msg.feeSatoshis
  locktime := msg.locktime
  variant := variant

def carried : List (Nat × Int) :=
  let params := s.closeTxParams msg variant
  (if params.includeClosee then [(msg.closeeScriptPubkey.length, params.closeeValue)] else []) ++
    if params.includeCloser then [(msg.closerScriptPubkey.length, params.closerValue)] else []

/-- Those that the relay check counts: none under `getDustLimit`, and a burnt output at its full amount. -/
def judged : List (Nat × Int) :=
  keptOutput msg.closeeScriptPubkey s.localSat none ++
    keptOutput msg.closerScriptPubkey (s.remoteSat - msg.feeSatoshis) none

structure Relayable (tx : ClosingTx) : Prop where
  noDust : ∀ o ∈ tx.outputs, isDustOutput o.script o.value = false
  fee : ∃ fee : Nat, tx.total + fee = s.fundingSatoshis ∧
    minRelayFeeForWeight (tx.weight (isTaprootChannel s.channelType)) ≤ fee
  paid : s.ourDust msg = false →
    ∃ o ∈ tx.outputs, o.type = .closee ∧ o.script = msg.closeeScriptPubkey ∧ o.value = s.localSat

/-- The closer's output is not dust if it stays, we do not burn our own balance, and where the relay check
    counts other outputs than are carried, those that are carried leave enough for the fee. -/
structure Sustains (variant : SimpleCloseVariant) : Prop where
  closer : variant ≠ .closeeOutputOnly → isDustOutput msg.closerScriptPubkey (s.remoteSat - msg.feeSatoshis) = false
  closee : isOpReturnScript msg.closeeScriptPubkey = true → s.localSat = 0
  fee : s.carried msg variant ≠ s.judged msg → ((s.carried msg variant).map Prod.snd).sum +
      minRelayFeeForWeight (closingWeightForOutputs ((s.carried msg variant).map Prod.fst)
        (isTaprootChannel s.channelType)) ≤ s.fundingSatoshis

variable {s msg verify sign} {reply : ClosingSig}

theorem variant_of_signed (answered : .sendClosingSig reply ∈ (s.signComplete msg verify sign).actions) :
    ∃ sig, s.closeeVariant msg = .ok (reply.variant, sig) := by
  unfold signComplete at answered
  split at answered
  · simp [refuse] at answered
  split at answered
  · simp [refuse] at answered
  rename_i variant sig chosen
  split at answered
  · simp [refuse] at answered
  refine ⟨sig, ?_⟩
  rw [chosen]
  unfold answerComplete at answered
  split at answered <;> simp at answered <;> rw [answered]

theorem of_answered (answered : .sendClosingSig reply ∈ (s.handleClosingComplete msg verify sign).actions) :
    firstRefusal (s.completeChecks msg) = none ∧ ∃ sig, s.closeeVariant msg = .ok (reply.variant, sig) := by
  unfold handleClosingComplete at answered
  split at answered
  · simp [refuse] at answered
  split at answered
  · simp [refuseHeldMutualClose] at answered
  split at answered
  · simp [refuse] at answered
  split at answered
  · simp [refuse] at answered
  split at answered
  · simp [refuse] at answered
  rename_i passed
  exact ⟨passed, variant_of_signed answered⟩

variable {variant : SimpleCloseVariant} {sig : Bytes}

theorem variant_eq (chosen : s.closeeVariant msg = .ok (variant, sig)) :
    variant = .closerOutputOnly ↔ s.ourDust msg = true := by
  unfold closeeVariant at chosen
  split at chosen
  · rename_i dust
    split at chosen
    · simp only [Except.ok.injEq, Prod.mk.injEq] at chosen
      simp [← chosen.1, dust]
    · cases chosen
  · rename_i kept
    split at chosen
    · simp only [Except.ok.injEq, Prod.mk.injEq] at chosen
      simp [← chosen.1, kept]
    · simp only [Except.ok.injEq, Prod.mk.injEq] at chosen
      simp [← chosen.1, kept]
    · cases chosen

def closeTx (s : ClosingState) (msg : ClosingComplete) (variant : SimpleCloseVariant) : ClosingTx where
  version := 2
  locktime := msg.locktime
  sequence := 0xfffffffd
  fundingTxid := s.fundingTxid.getD []
  fundingOutputIndex := s.fundingOutputIndex
  outputs := (s.closeTxParams msg variant).entries.insertionSort fun a b => a.before b

theorem build_closeTx (covered : msg.feeSatoshis ≤ s.remoteSat) (variant : SimpleCloseVariant) :
    buildSimpleClosingTx (s.closeTxParams msg variant) = .ok (s.closeTx msg variant) := by
  have nonneg : ¬ ((s.closeTxParams msg variant).includeCloser = true ∧
      (s.closeTxParams msg variant).closerValue < 0) := by
    rintro ⟨-, negative⟩
    simp only [closerValue, closeTxParams] at negative
    split_ifs at negative <;> omega
  have some : (s.closeTxParams msg variant).entries ≠ [] := by cases variant <;> exact List.cons_ne_nil _ _
  exact (if_neg nonneg).trans (if_neg some)

theorem mem_closeTx {o : ClosingOutput} : o ∈ (s.closeTx msg variant).outputs ↔ variant ≠ .closeeOutputOnly ∧
        o = ⟨msg.closerScriptPubkey, (s.closeTxParams msg variant).closerValue, .closer⟩ ∨
      variant ≠ .closerOutputOnly ∧
        o = ⟨msg.closeeScriptPubkey, (s.closeTxParams msg variant).closeeValue, .closee⟩ := by
  rw [closeTx, List.mem_insertionSort]
  cases variant <;>
    simp [entries, includeCloser, includeClosee, closeTxParams]

theorem closeTx_total (variant : SimpleCloseVariant) :
    (s.closeTx msg variant).total = ((s.carried msg variant).map Prod.snd).sum := by
  have sorted := (List.perm_insertionSort (fun a b : ClosingOutput => a.before b = true)
    (s.closeTxParams msg variant).entries).map ClosingOutput.value
  rw [ClosingTx.total, closeTx, sorted.sum_eq]
  cases variant <;>
    simp [carried, entries, includeCloser, includeClosee, closeTxParams, add_comm]

theorem closeTx_weight (variant : SimpleCloseVariant) (isTaproot : Bool) : (s.closeTx msg variant).weight isTaproot =
      closingWeightForOutputs ((s.carried msg variant).map Prod.fst) isTaproot := by
  have sorted := (List.perm_insertionSort (fun a b : ClosingOutput => a.before b = true)
    (s.closeTxParams msg variant).entries).map fun o => 4 * (8 + 1 + o.script.length)
  have sums := sorted.sum_eq
  simp only [ClosingTx.weight, closeTx, closingWeightForOutputs, List.map_map, Function.comp_def, sums]
  cases variant <;>
    simp [carried, entries, includeCloser, includeClosee, closeTxParams, add_comm]

section

variable (passed : firstRefusal (s.completeChecks msg) = none)
include passed

theorem judged_fee : ((s.judged msg).map Prod.snd).sum +
      minRelayFeeForWeight (closingWeightForOutputs ((s.judged msg).map Prod.fst) (isTaprootChannel s.channelType)) ≤
        s.fundingSatoshis := by
  have check := firstRefusal_eq_none.mp passed _ (List.mem_cons_of_mem _ List.mem_cons_self)
  have enough := Nat.not_lt.mp (refuseIf_eq_none.mp check)
  have positive := minRelayFeeForWeight_pos ((s.judged msg).map Prod.fst) (isTaprootChannel s.channelType)
  simp only [completeProfile, closingTxRelayProfile] at enough
  change minRelayFeeForWeight (closingWeightForOutputs ((s.judged msg).map Prod.fst) _) ≤
    ((s.fundingSatoshis : Int) - ((s.judged msg).map Prod.snd).sum).toNat at enough
  omega

theorem fee_le_of_passed : msg.feeSatoshis ≤ s.remoteSat := by
  have check := firstRefusal_eq_none.mp passed _ List.mem_cons_self
  exact Nat.not_lt.mp (refuseIf_eq_none.mp check)

omit passed in
theorem Relayable.sustains (relayable : s.Relayable msg (s.closeTx msg variant)) : s.Sustains msg variant where
  closer := fun stays => by
    have clean := relayable.noDust _ (mem_closeTx.mpr (.inl ⟨stays, rfl⟩))
    exact (isDustOutput_burnt _ _).symm.trans clean
  closee := fun burnt => by
    have kept : s.ourDust msg = false := by simp [ourDust, isDustOutput, burnt]
    obtain ⟨o, member, closee, -, value⟩ := relayable.paid kept
    rcases mem_closeTx.mp member with ⟨-, rfl⟩ | ⟨-, rfl⟩
    · cases closee
    · simpa [closeeValue, closeTxParams, burnt] using value.symm
  fee := fun _ => by
    obtain ⟨fee, total, enough⟩ := relayable.fee
    rw [closeTx_total] at total
    rw [closeTx_weight] at enough
    omega

theorem Sustains.relayable
    (chosen : s.closeeVariant msg = .ok (variant, sig))
    (sustains : s.Sustains msg variant) : s.Relayable msg (s.closeTx msg variant) where
  noDust := by
    intro o member
    rcases mem_closeTx.mp member with ⟨stays, rfl⟩ | ⟨stays, rfl⟩
    · exact (isDustOutput_burnt _ _).trans (sustains.closer stays)
    · have clean : s.ourDust msg = false := by
        by_contra dust
        exact stays ((variant_eq chosen).mpr (Bool.eq_true_of_not_eq_false dust))
      exact (isDustOutput_burnt _ _).trans clean
  fee := by
    have enough : ((s.carried msg variant).map Prod.snd).sum + minRelayFeeForWeight (closingWeightForOutputs
        ((s.carried msg variant).map Prod.fst) (isTaprootChannel s.channelType)) ≤ (s.fundingSatoshis : Int) := by
      by_cases same : s.carried msg variant = s.judged msg
      · rw [same]
        exact judged_fee passed
      · exact sustains.fee same
    refine ⟨((s.fundingSatoshis : Int) - (s.closeTx msg variant).total).toNat, ?_, ?_⟩
    · rw [closeTx_total]
      omega
    · rw [closeTx_total, closeTx_weight]
      omega
  paid := fun kept => by
    have stays : variant ≠ .closerOutputOnly := by
      intro dropped
      rw [(variant_eq chosen).mp dropped] at kept
      cases kept
    refine ⟨_, mem_closeTx.mpr (.inr ⟨stays, rfl⟩), rfl, rfl, ?_⟩
    cases burnt : isOpReturnScript msg.closeeScriptPubkey with
    | true => simp [closeeValue, closeTxParams, burnt, sustains.closee burnt]
    | false => simp [closeeValue, closeTxParams, burnt]

end

end ClosingState

variable (script : Bytes) (closee : Bytes)

def plainClosee (localSat : Nat) : ClosingState :=
  { plainClosing .opener 0 with
    localBalanceMsat := 1000 * localSat
    remoteBalanceMsat := 1000 * (1000000 - localSat)
    localShutdownScript := some script
    simpleClose := true }

def completeBoth (fee : Nat) : ClosingComplete where
  closerScriptPubkey := 0x00 :: 0x14 :: List.replicate 20 2
  closeeScriptPubkey := closee
  feeSatoshis := fee
  locktime := 0
  closerOutputOnlySig := none
  closeeOutputOnlySig := none
  closerAndCloseeSig := some [1]

def keyHash : Bytes := 0x00 :: 0x14 :: List.replicate 20 1

def taprootKey : Bytes := 0x51 :: 0x20 :: List.replicate 32 1

def plainAnswer (localSat fee : Nat) : ClosingReply :=
  (plainClosee script localSat).handleClosingComplete (completeBoth script fee) (fun _ _ _ => true) fun _ _ => [9]

def bothReply (fee : Nat) : ClosingSig :=
  ⟨0x00 :: 0x14 :: List.replicate 20 2, closee, fee, 0, .closerAndClosee, [9]⟩

end Beignet.Closing
