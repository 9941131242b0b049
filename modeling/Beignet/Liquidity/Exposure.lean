import Beignet.Data.KeyedMap
import Beignet.Liquidity.OpeningFee

namespace Beignet.Liquidity

open Beignet.Data

structure JitConfig where
  fee : Quote
  maxClientFundingSats : Nat
  fundingBufferSats : Nat
  minCltvDeltaBlocks : Nat
  holdExpiryMarginBlocks : Nat
  maxConcurrentFundings : Nat
  maxTotalFundingSats : Option Nat

structure RegisteredIntent extends JitIntent where
  walletPubkeyHex : String
  maxAmountMsat : Nat
  targetRemainingInboundSat : Nat
  expiresAt : Nat
  paymentHash : Option Bytes
  expectedTotalMsat : Option Nat

structure JitPart extends HeldJitPart where
  incomingCltvExpiry : Nat
  forwardCltv : Nat
  spliceRetried : Bool
  revoked : Bool

abbrev Intents := KeyedMap fun intent : RegisteredIntent => intent.interceptScidHex

abbrev Fundings := KeyedMap fun funding : String × Nat => funding.1

structure JitManager where
  intents : Intents
  heldParts : String → List JitPart
  spliceQueues : List (String × JitPart)
  fundingInFlight : Fundings
  spliceInFlight : Fundings
  reservedSats : Nat
  frontedSats : Nat
  storedFrontedSats : Nat
  /-- Of all fundings ever started, those that landed, timed out or were running when a process died. -/
  exposedSats : Nat

namespace JitManager

variable (cfg : JitConfig) (m : JitManager) (scid : String) (sats : Nat) (channel : String)
  (parts : List JitPart) (now height : Nat) (fronted consumed stored : Bool)

def heldTotalMsat : Nat := ((m.heldParts scid).map (·.forwardAmountMsat)).sum

def queuedMsat : Nat :=
  ((m.spliceQueues.filter (·.2.intentScidHex = some scid)).map (·.2.forwardAmountMsat)).sum

def claimedAgainst : Nat := m.heldTotalMsat scid + m.queuedMsat scid

def running : List (String × Nat) := m.fundingInFlight.values ++ m.spliceInFlight.values

def fundingSlotsFree : Bool := m.fundingInFlight.size + m.spliceInFlight.size < cfg.maxConcurrentFundings

def reserveFunding : Option JitManager :=
  if cfg.maxTotalFundingSats.any (· < m.frontedSats + m.reservedSats + sats) then none
  else some { m with reservedSats := m.reservedSats + sats }

/-- A funding that never landed returns its coins; the counter is written when one is fronted. -/
def releaseFunding (fronted stored : Bool) : JitManager :=
  if fronted then
    { m with
      reservedSats := m.reservedSats - sats
      frontedSats := m.frontedSats + sats
      storedFrontedSats := if stored then m.frontedSats + sats else m.storedFrontedSats
      exposedSats := m.exposedSats + sats }
  else { m with reservedSats := m.reservedSats - sats }

def pastDeadline (height : Nat) (part : JitPart) : Bool :=
  0 < height && 0 < part.incomingCltvExpiry && part.incomingCltvExpiry ≤ height + cfg.holdExpiryMarginBlocks

def fundingSats (totalMsat targetInbound : Nat) : Nat :=
  min ((totalMsat + 999) / 1000 + targetInbound + cfg.fundingBufferSats) cfg.maxClientFundingSats

def failAllHeld : JitManager :=
  { m with heldParts := Function.update m.heldParts scid [] }

def failAllSpliceQueued : JitManager :=
  { m with spliceQueues := m.spliceQueues.filter (·.1 ≠ channel) }

def feeRefused (intents : List RegisteredIntent) : Bool :=
  (validateFee cfg.fee (parts.map (·.toHeldJitPart)) (intents.map (·.toJitIntent))).isSome

def fund (intent : RegisteredIntent) : JitManager :=
  let scid := intent.interceptScidHex
  let sats := fundingSats cfg (m.heldTotalMsat scid) intent.targetRemainingInboundSat
  if m.fundingInFlight.has scid then m
  else if !m.fundingSlotsFree cfg || feeRefused cfg (m.heldParts scid) [intent] then m.failAllHeld scid
  else
    match m.reserveFunding cfg sats with
    | none => m.failAllHeld scid
    | some reserved => { reserved with fundingInFlight := m.fundingInFlight.set (scid, sats) }

def hold (part : JitPart) : JitManager :=
  let tagged := { part with intentScidHex := some scid }
  { m with heldParts := Function.update m.heldParts scid (m.heldParts scid ++ [tagged]) }

def tryInterceptUnknownScid (scid : String) (part : JitPart) : JitManager × Bool :=
  match m.intents.get? scid with
  | none => (m, false)
  | some intent =>
    let heldTotal := m.heldTotalMsat scid + part.forwardAmountMsat
    if (principalError part.toHeldJitPart).isSome then (m, false)
    else if intent.expiresAt < now then ({ m with intents := m.intents.delete scid }, false)
    else if m.fundingInFlight.has scid ||
        intent.paymentHash.any (fun hash => hash ≠ [] && hash ≠ part.paymentHash) ||
        part.incomingCltvExpiry < part.forwardCltv + cfg.minCltvDeltaBlocks || pastDeadline cfg height part ||
        !m.fundingSlotsFree cfg then (m, false)
    else if intent.maxAmountMsat < heldTotal then (m, false)
    else
      let held := m.hold scid part
      (if intent.expectedTotalMsat.all (· ≤ heldTotal) then held.fund cfg intent else held, true)

def matchIntent (now : Nat) (wallet : String) (part : JitPart) : Option RegisteredIntent :=
  let fits := fun (intent : RegisteredIntent) =>
    m.claimedAgainst intent.interceptScidHex + part.forwardAmountMsat ≤ intent.maxAmountMsat
  let candidates := m.intents.values.filter fun intent => intent.walletPubkeyHex = wallet && now < intent.expiresAt
  (candidates.find? fun intent => intent.paymentHash = some part.paymentHash && fits intent).or
    (candidates.find? fun intent => intent.paymentHash.isNone && fits intent)

def queue : List JitPart := (m.spliceQueues.filter (·.1 = channel)).map Prod.snd

def intentsBehind : List RegisteredIntent :=
  m.intents.values.filter fun intent => parts.any (·.intentScidHex = some intent.interceptScidHex)

def spliceAndRetry : JitManager :=
  let queued := m.queue channel
  let intents := m.intentsBehind queued
  let targetInbound := (intents.map (·.targetRemainingInboundSat)).foldl max 0
  let sats := fundingSats cfg (queued.map (·.forwardAmountMsat)).sum targetInbound
  if feeRefused cfg queued intents then m.failAllSpliceQueued channel
  else
    match m.reserveFunding cfg sats with
    | none => m.failAllSpliceQueued channel
    | some reserved => { reserved with spliceInFlight := m.spliceInFlight.set (channel, sats) }

def enqueue (channel scid : String) (part : JitPart) : JitManager :=
  { m with spliceQueues := m.spliceQueues ++ [(channel, { part with intentScidHex := some scid })] }

def tryHoldForSplice (channel : String) (peer : Option String) (pendingLock : Bool)
    (part : JitPart) : JitManager × Bool :=
  let running := m.spliceInFlight.has channel
  if (principalError part.toHeldJitPart).isSome || part.spliceRetried || part.revoked ||
      pastDeadline cfg height part then (m, false)
  else
    match peer.bind fun wallet => m.matchIntent now wallet part with
    | none => (m, false)
    | some intent =>
      if !running && (!m.fundingSlotsFree cfg || pendingLock) then (m, false)
      else
        let queued := m.enqueue channel intent.interceptScidHex part
        (if running then queued else queued.spliceAndRetry cfg channel, true)

def endFunding : JitManager :=
  match m.fundingInFlight.get? scid with
  | none => m
  | some (_, sats) =>
    let released := (m.failAllHeld scid).releaseFunding sats fronted stored
    { released with
      intents := if consumed then m.intents.delete scid else m.intents
      fundingInFlight := m.fundingInFlight.delete scid }

def endSplice : JitManager :=
  match m.spliceInFlight.get? channel with
  | none => m
  | some (_, sats) =>
    let spent := m.intentsBehind (m.queue channel)
    let released := (m.failAllSpliceQueued channel).releaseFunding sats fronted stored
    { released with
      intents := if consumed then m.intents.filter (fun intent =>
          !spent.any (·.interceptScidHex = intent.interceptScidHex)) else m.intents
      spliceInFlight := m.spliceInFlight.delete channel }

/-- A crash and the restore: a half-done funding is not resumed, held parts are owed a refund. -/
def restart (intents : Intents) : JitManager where
  intents := intents
  heldParts := fun _ => []
  spliceQueues := []
  fundingInFlight := .empty
  spliceInFlight := .empty
  reservedSats := 0
  frontedSats := m.storedFrontedSats
  storedFrontedSats := m.storedFrontedSats
  exposedSats := m.exposedSats + (m.running.map Prod.snd).sum

end JitManager

/-- `drop` is what deadline scans, aggregation timeouts and the forwards of an opened channel do: such a
    forward may come back to `holdForSplice` before its funding ends. `retire` is what expiry and newer
    requests of a wallet do. -/
inductive JitEvent where
  | register (intent : RegisteredIntent)
  | retire (scid : String)
  | intercept (now height : Nat) (scid : String) (part : JitPart)
  | holdForSplice (now height : Nat) (channel : String) (peer : Option String) (pendingLock : Bool) (part : JitPart)
  | drop (keepHeld keepQueued : String → JitPart → Bool)
  | endFunding (scid : String) (fronted consumed stored : Bool)
  | endSplice (channel : String) (fronted consumed stored : Bool)
  | restart (intents : Intents)

variable (cfg : JitConfig)

def JitManager.step (m : JitManager) : JitEvent → JitManager
  | .register intent =>
    if m.intents.has intent.interceptScidHex then m else { m with intents := m.intents.set intent }
  | .retire scid => { m with intents := m.intents.delete scid }
  | .intercept now height scid part => (m.tryInterceptUnknownScid cfg now height scid part).1
  | .holdForSplice now height channel peer pendingLock part =>
    (m.tryHoldForSplice cfg now height channel peer pendingLock part).1
  | .drop keepHeld keepQueued =>
    { m with
      heldParts := fun scid => (m.heldParts scid).filter (keepHeld scid)
      spliceQueues := m.spliceQueues.filter fun queued => keepQueued queued.1 queued.2 }
  | .endFunding scid fronted consumed stored => m.endFunding scid fronted consumed stored
  | .endSplice channel fronted consumed stored => m.endSplice channel fronted consumed stored
  | .restart intents => m.restart intents

def JitManager.fresh : JitManager := ⟨.empty, fun _ => [], [], .empty, .empty, 0, 0, 0, 0⟩

structure JitManager.Bounded (m : JitManager) : Prop where
  claims : ∀ intent ∈ m.intents.values, m.claimedAgainst intent.interceptScidHex ≤ intent.maxAmountMsat
  concurrent : m.running.length ≤ cfg.maxConcurrentFundings
  single : ∀ funding ∈ m.running, funding.2 ≤ cfg.maxClientFundingSats
  lifetime : ∀ cap ∈ cfg.maxTotalFundingSats, m.exposedSats ≤ cap

/-- A minted scid has no parts of an earlier intent, the open path's check decides as one over both paths
    would, and a process stops only with no funding running and its counter on disk. -/
def JitEvent.Heeds (m : JitManager) : JitEvent → Prop
  | .register intent => m.claimedAgainst intent.interceptScidHex = 0
  | .intercept _ _ scid part => ∀ intent, m.intents.get? scid = some intent →
      m.heldTotalMsat scid + part.forwardAmountMsat ≤ intent.maxAmountMsat →
        m.claimedAgainst scid + part.forwardAmountMsat ≤ intent.maxAmountMsat
  | .restart _ => m.running = [] ∧ m.storedFrontedSats = m.frontedSats
  | _ => True

def JitManager.HeededStep (m next : JitManager) : Prop :=
  ∃ event : JitEvent, event.Heeds m ∧ next = m.step cfg event

section Accounts

/-- What the reservations and the counter say about the fundings that run and those that ended. -/
structure Accounts (running : List (String × Nat)) (reserved fronted exposed : Nat) : Prop where
  concurrent : running.length ≤ cfg.maxConcurrentFundings
  single : ∀ funding ∈ running, funding.2 ≤ cfg.maxClientFundingSats
  backed : reserved = (running.map Prod.snd).sum
  counted : exposed ≤ fronted
  budget : ∀ cap ∈ cfg.maxTotalFundingSats, fronted + reserved ≤ cap

variable {cfg} {running rest : List (String × Nat)} {reserved fronted exposed sats : Nat} {key : String}

theorem Accounts.start (accounts : Accounts cfg running reserved fronted exposed)
    (added : rest.Perm ((key, sats) :: running)) (slot : running.length < cfg.maxConcurrentFundings)
    (single : sats ≤ cfg.maxClientFundingSats)
    (budget : ∀ cap ∈ cfg.maxTotalFundingSats, fronted + reserved + sats ≤ cap) :
    Accounts cfg rest (reserved + sats) fronted exposed where
  concurrent := by
    rw [added.length_eq, List.length_cons]
    exact slot
  single := by
    intro funding member
    rcases List.mem_cons.mp (added.mem_iff.mp member) with rfl | before
    · exact single
    · exact accounts.single funding before
  backed := by
    rw [(added.map Prod.snd).sum_eq, List.map_cons, List.sum_cons, accounts.backed, Nat.add_comm]
  counted := accounts.counted
  budget := by
    intro cap set
    rw [← Nat.add_assoc]
    exact budget cap set

theorem Accounts.finish (accounts : Accounts cfg running reserved fronted exposed)
    (removed : running.Perm ((key, sats) :: rest)) (charge : Nat) (within : charge ≤ sats) :
    Accounts cfg rest (reserved - sats) (fronted + charge) (exposed + charge) := by
  have total : reserved = sats + (rest.map Prod.snd).sum := by
    rw [accounts.backed, (removed.map Prod.snd).sum_eq, List.map_cons, List.sum_cons]
  have length := removed.length_eq
  have concurrent := accounts.concurrent
  have counted := accounts.counted
  rw [List.length_cons] at length
  refine ⟨by omega, ?_, by omega, by omega, ?_⟩
  · intro funding member
    exact accounts.single funding (removed.mem_iff.mpr (List.mem_cons_of_mem _ member))
  · intro cap set
    have budget := accounts.budget cap set
    omega

end Accounts

structure JitManager.Sound (m : JitManager) : Prop where
  claims : ∀ intent ∈ m.intents.values, m.claimedAgainst intent.interceptScidHex ≤ intent.maxAmountMsat
  accounts : Accounts cfg m.running m.reservedSats m.frontedSats m.exposedSats

namespace JitManager

variable {cfg} {m next : JitManager} {scid channel : String} {part : JitPart} {sats : Nat} {now height : Nat}
  {fronted consumed stored : Bool} (other : String)

theorem Sound.bounded (sound : m.Sound cfg) : m.Bounded cfg where
  claims := sound.claims
  concurrent := sound.accounts.concurrent
  single := sound.accounts.single
  lifetime := by
    intro cap set
    have budget := sound.accounts.budget cap set
    have counted := sound.accounts.counted
    omega

theorem Sound.shrink (sound : m.Sound cfg) (fewer : next.intents.values ⊆ m.intents.values)
    (less : ∀ scid, next.claimedAgainst scid ≤ m.claimedAgainst scid)
    (accounts : Accounts cfg next.running next.reservedSats next.frontedSats next.exposedSats) : next.Sound cfg :=
  ⟨fun intent member => (less _).trans (sound.claims intent (fewer member)), accounts⟩

theorem Sound.grow (sound : m.Sound cfg) {amount : Nat} (same : next.intents = m.intents)
    (more : ∀ other, next.claimedAgainst other = m.claimedAgainst other + if other = scid then amount else 0)
    (fits : ∀ intent, m.intents.get? scid = some intent → m.claimedAgainst scid + amount ≤ intent.maxAmountMsat)
    (accounts : Accounts cfg next.running next.reservedSats next.frontedSats next.exposedSats) : next.Sound cfg := by
  refine ⟨?_, accounts⟩
  intro intent member
  rw [same] at member
  rw [more]
  split
  · rename_i here
    rw [here]
    exact fits intent ((m.intents.get?_eq_some _ _).mpr ⟨member, here⟩)
  · exact sound.claims intent member

theorem claimedAgainst_hold : (m.hold scid part).claimedAgainst other =
    m.claimedAgainst other + if other = scid then part.forwardAmountMsat else 0 := by
  by_cases here : other = scid
  · subst here
    simp [claimedAgainst, heldTotalMsat, queuedMsat, hold, Nat.add_right_comm]
  · simp [claimedAgainst, heldTotalMsat, queuedMsat, hold, here]

theorem claimedAgainst_enqueue : (m.enqueue channel scid part).claimedAgainst other =
    m.claimedAgainst other + if other = scid then part.forwardAmountMsat else 0 := by
  by_cases here : other = scid
  · subst here
    simp [claimedAgainst, heldTotalMsat, queuedMsat, enqueue, Nat.add_assoc]
  · simp [claimedAgainst, heldTotalMsat, queuedMsat, enqueue, here, Ne.symm here]

theorem claimedAgainst_le (held : ∀ scid, (next.heldParts scid).Sublist (m.heldParts scid))
    (queued : next.spliceQueues.Sublist m.spliceQueues) (scid : String) :
    next.claimedAgainst scid ≤ m.claimedAgainst scid :=
  Nat.add_le_add (((held scid).map _).sum_le_sum fun _ _ => Nat.zero_le _)
    (((queued.filter _).map _).sum_le_sum fun _ _ => Nat.zero_le _)

theorem failAllHeld_sublist : ((m.failAllHeld scid).heldParts other).Sublist (m.heldParts other) := by
  by_cases here : other = scid
  · subst here
    simp [failAllHeld]
  · simp [failAllHeld, here]

theorem Sound.failAllHeld (sound : m.Sound cfg) : (m.failAllHeld scid).Sound cfg :=
  sound.shrink (List.Subset.refl _) (claimedAgainst_le failAllHeld_sublist (List.Sublist.refl _)) sound.accounts

theorem Sound.failAllSpliceQueued (sound : m.Sound cfg) : (m.failAllSpliceQueued channel).Sound cfg :=
  sound.shrink (List.Subset.refl _) (claimedAgainst_le (fun _ => List.Sublist.refl _) List.filter_sublist)
    sound.accounts

theorem running_length_lt (free : m.fundingSlotsFree cfg = true) : m.running.length < cfg.maxConcurrentFundings := by
  rw [running, List.length_append]
  exact of_decide_eq_true free

theorem perm_set_fundingInFlight (idle : m.fundingInFlight.has scid = false) :
    ((m.fundingInFlight.set (scid, sats)).values ++ m.spliceInFlight.values).Perm ((scid, sats) :: m.running) := by
  rw [KeyedMap.values_set_of_absent idle, List.append_assoc]
  exact List.perm_middle

theorem perm_set_spliceInFlight (idle : m.spliceInFlight.has channel = false) :
    (m.fundingInFlight.values ++ (m.spliceInFlight.set (channel, sats)).values).Perm
      ((channel, sats) :: m.running) := by
  rw [KeyedMap.values_set_of_absent idle, ← List.append_assoc]
  exact List.perm_append_singleton _ _

theorem reserveFunding_some {reserved : JitManager} (granted : m.reserveFunding cfg sats = some reserved) :
    reserved = { m with reservedSats := m.reservedSats + sats } ∧
      ∀ cap ∈ cfg.maxTotalFundingSats, m.frontedSats + m.reservedSats + sats ≤ cap := by
  unfold reserveFunding at granted
  split at granted
  · cases granted
  · rename_i within
    refine ⟨(Option.some.inj granted).symm, ?_⟩
    intro cap set
    rw [Option.mem_def.mp set] at within
    simpa using within

section

variable (sound : m.Sound cfg)
include sound

theorem Sound.fund (intent : RegisteredIntent) : (m.fund cfg intent).Sound cfg := by
  unfold JitManager.fund
  dsimp only
  split
  · exact sound
  rename_i idle
  split
  · exact sound.failAllHeld
  rename_i passes
  split
  · exact sound.failAllHeld
  rename_i reserved granted
  obtain ⟨rfl, budget⟩ := reserveFunding_some granted
  have free : m.fundingSlotsFree cfg = true := by grind
  exact ⟨sound.claims, sound.accounts.start (perm_set_fundingInFlight (Bool.eq_false_iff.mpr idle))
    (running_length_lt free) (Nat.min_le_right _ _) budget⟩

theorem Sound.spliceAndRetry (idle : m.spliceInFlight.has channel = false)
    (free : m.fundingSlotsFree cfg = true) : (m.spliceAndRetry cfg channel).Sound cfg := by
  unfold JitManager.spliceAndRetry
  dsimp only
  split
  · exact sound.failAllSpliceQueued
  split
  · exact sound.failAllSpliceQueued
  rename_i reserved granted
  obtain ⟨rfl, budget⟩ := reserveFunding_some granted
  exact ⟨sound.claims, sound.accounts.start (perm_set_spliceInFlight idle) (running_length_lt free)
    (Nat.min_le_right _ _) budget⟩

theorem Sound.tryInterceptUnknownScid (heeds : (JitEvent.intercept now height scid part).Heeds m) :
    (m.tryInterceptUnknownScid cfg now height scid part).1.Sound cfg := by
  unfold JitManager.tryInterceptUnknownScid
  split
  · exact sound
  rename_i intent found
  dsimp only
  split
  · exact sound
  split
  · exact sound.shrink (fun _ member => (KeyedMap.mem_delete.mp member).1) (fun _ => le_rfl) sound.accounts
  split
  · exact sound
  split
  · exact sound
  rename_i within
  have held : (m.hold scid part).Sound cfg := by
    refine sound.grow rfl claimedAgainst_hold ?_ sound.accounts
    intro other same
    cases found.symm.trans same
    exact heeds intent found (Nat.le_of_not_lt within)
  split
  · exact held.fund intent
  exact held

omit sound in
theorem matchIntent_fits {now : Nat} {wallet : String} {intent : RegisteredIntent}
    (matched : m.matchIntent now wallet part = some intent) : intent ∈ m.intents.values ∧
      m.claimedAgainst intent.interceptScidHex + part.forwardAmountMsat ≤ intent.maxAmountMsat := by
  unfold matchIntent at matched
  dsimp only at matched
  rcases Option.or_eq_some_iff.mp matched with bound | ⟨-, unbound⟩
  · have fits := List.find?_some bound
    exact ⟨(List.mem_filter.mp (List.mem_of_find?_eq_some bound)).1, by simp_all⟩
  · have fits := List.find?_some unbound
    exact ⟨(List.mem_filter.mp (List.mem_of_find?_eq_some unbound)).1, by simp_all⟩

theorem Sound.tryHoldForSplice {peer : Option String}
    {pendingLock : Bool} : (m.tryHoldForSplice cfg now height channel peer pendingLock part).1.Sound cfg := by
  unfold JitManager.tryHoldForSplice
  dsimp only
  split
  · exact sound
  split
  · exact sound
  rename_i intent found
  obtain ⟨wallet, -, matched⟩ := Option.bind_eq_some_iff.mp found
  obtain ⟨member, fits⟩ := matchIntent_fits matched
  split
  · exact sound
  rename_i serves
  have queued : (m.enqueue channel intent.interceptScidHex part).Sound cfg := by
    refine sound.grow rfl claimedAgainst_enqueue ?_ sound.accounts
    intro other same
    obtain ⟨there, equal⟩ := (m.intents.get?_eq_some _ _).mp same
    rw [KeyedMap.eq_of_key_eq there member equal]
    exact fits
  dsimp only
  split
  · exact queued
  rename_i idle
  have free : m.fundingSlotsFree cfg = true := by grind
  exact queued.spliceAndRetry (Bool.eq_false_iff.mpr idle) free

omit sound in
theorem values_retired_subset {consumed : Bool} {kept : RegisteredIntent → Bool} :
    (if consumed then m.intents.filter kept else m.intents).values ⊆ m.intents.values := by
  split
  · exact List.filter_subset_self _
  · exact List.Subset.refl _

theorem Sound.endFunding : (m.endFunding scid fronted consumed stored).Sound cfg := by
  unfold JitManager.endFunding
  split
  · exact sound
  · rename_i key sats found
    have removed := (KeyedMap.values_perm_cons_delete found).append_right m.spliceInFlight.values
    have less : ∀ other, (m.failAllHeld scid).claimedAgainst other ≤ m.claimedAgainst other :=
      claimedAgainst_le failAllHeld_sublist (List.Sublist.refl _)
    cases fronted with
    | false => exact sound.shrink values_retired_subset less (sound.accounts.finish removed 0 (Nat.zero_le _))
    | true => exact sound.shrink values_retired_subset less (sound.accounts.finish removed sats le_rfl)

theorem Sound.endSplice : (m.endSplice channel fronted consumed stored).Sound cfg := by
  unfold JitManager.endSplice
  split
  · exact sound
  · rename_i key sats found
    have removed := ((KeyedMap.values_perm_cons_delete found).append_left m.fundingInFlight.values).trans
      List.perm_middle
    have less : ∀ scid, (m.failAllSpliceQueued channel).claimedAgainst scid ≤ m.claimedAgainst scid :=
      claimedAgainst_le (fun _ => List.Sublist.refl _) List.filter_sublist
    cases fronted with
    | false => exact sound.shrink values_retired_subset less (sound.accounts.finish removed 0 (Nat.zero_le _))
    | true => exact sound.shrink values_retired_subset less (sound.accounts.finish removed sats le_rfl)

theorem Sound.restart {intents : Intents} (heeds : (JitEvent.restart intents).Heeds m) :
    (m.restart intents).Sound cfg := by
  obtain ⟨idle, stored⟩ := heeds
  refine ⟨fun _ _ => Nat.zero_le _, Nat.zero_le _, ?_, rfl, ?_, ?_⟩
  · intro funding member
    cases member
  · show m.exposedSats + (m.running.map Prod.snd).sum ≤ m.storedFrontedSats
    rw [idle, stored]
    exact sound.accounts.counted
  · intro cap set
    show m.storedFrontedSats + 0 ≤ cap
    have budget := sound.accounts.budget cap set
    omega

theorem Sound.step {event : JitEvent} (heeds : event.Heeds m) : (m.step cfg event).Sound cfg := by
  cases event with
  | register intent =>
    unfold JitManager.step
    dsimp only
    split
    · exact sound
    · refine ⟨?_, sound.accounts⟩
      intro other member
      rcases KeyedMap.mem_set.mp member with rfl | ⟨before, -⟩
      · exact (Nat.le_of_eq heeds).trans (Nat.zero_le _)
      · exact sound.claims other before
  | retire scid => exact sound.shrink (List.filter_subset_self _) (fun _ => le_rfl) sound.accounts
  | intercept now height scid part => exact sound.tryInterceptUnknownScid heeds
  | holdForSplice now height channel peer pendingLock part => exact sound.tryHoldForSplice
  | drop keepHeld keepQueued =>
    exact sound.shrink (List.Subset.refl _)
      (claimedAgainst_le (fun _ => List.filter_sublist) List.filter_sublist) sound.accounts
  | endFunding scid fronted consumed stored => exact sound.endFunding
  | endSplice channel fronted consumed stored => exact sound.endSplice
  | restart intents => exact sound.restart heeds

end

theorem Sound.fresh : JitManager.fresh.Sound cfg := by
  refine ⟨?_, Nat.zero_le _, ?_, rfl, le_rfl, fun _ _ => Nat.zero_le _⟩
  · intro intent member
    cases member
  · intro funding member
    cases member

end JitManager

/-- What a provider fronts stays bounded over every run that heeds the condition. -/
theorem fronted_bounded {m : JitManager} (run : Relation.ReflTransGen (JitManager.HeededStep cfg) .fresh m) :
    m.Bounded cfg := by
  suffices sound : m.Sound cfg from sound.bounded
  induction run with
  | refl => exact JitManager.Sound.fresh
  | tail earlier next reached =>
    obtain ⟨event, heeds, rfl⟩ := next
    exact reached.step heeds

def oneSatConfig : JitConfig := ⟨⟨0, 0⟩, 20, 10, 40, 18, 3, some 22⟩

def oneSatIntent : RegisteredIntent := ⟨⟨"scid", true, .skim⟩, "wallet", 1000, 0, 100, none, none⟩

def oneSatPart (id : Nat) : JitPart := ⟨⟨[], id, [], some 1000, 1000, none, none⟩, 100, 40, false, false⟩

def JitManager.run (events : List JitEvent) : JitManager := events.foldl (JitManager.step cfg) .fresh

def servedOnce : JitManager :=
  .run oneSatConfig [.register oneSatIntent, .intercept 0 0 "scid" (oneSatPart 0), .endFunding "scid" true true true]

theorem servedOnce_bounded : servedOnce.exposedSats = 11 ∧ servedOnce.Bounded oneSatConfig := by
  refine ⟨by decide, fronted_bounded oneSatConfig ?_⟩
  refine .tail (.tail (.single ⟨.register oneSatIntent, rfl, rfl⟩)
    ⟨.intercept 0 0 "scid" (oneSatPart 0), ?_, rfl⟩) ⟨.endFunding "scid" true true true, trivial, rfl⟩
  intro intent registered within
  exact within

def spentTwice : List JitEvent :=
  [.register oneSatIntent, .holdForSplice 0 0 "channel" (some "wallet") false (oneSatPart 0),
    .intercept 0 0 "scid" (oneSatPart 1)]

def crashedTwice : List JitEvent :=
  spentTwice ++ [.restart (.set .empty oneSatIntent), .intercept 0 0 "scid" (oneSatPart 2), .restart .empty]

/-- Both paths spend one intent in full; the counter of a process that dies while funding starts again. -/
theorem fronted_unbounded : ¬ (JitManager.run oneSatConfig spentTwice).Bounded oneSatConfig ∧
    ¬ (JitManager.run oneSatConfig crashedTwice).Bounded oneSatConfig := by
  have spent : (JitManager.run oneSatConfig spentTwice).claimedAgainst "scid" = 2000 := by decide
  have lost : (JitManager.run oneSatConfig crashedTwice).exposedSats = 33 := by decide
  constructor
  · intro bounded
    have within : _ ≤ 1000 := bounded.claims oneSatIntent (.head _)
    exact absurd (spent ▸ within) (by decide)
  · intro bounded
    have within := bounded.lifetime 22 rfl
    exact absurd (lost ▸ within) (by decide)

end Beignet.Liquidity
