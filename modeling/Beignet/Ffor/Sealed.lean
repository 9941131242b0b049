import Beignet.Ffor.Epoch

namespace Beignet.Ffor

inductive Sent (α : Type) where
  | accept (paymentHashes : List α)
  | syncReply (proofs : List (Nat × α))
  | closeAck (proofs : List (Nat × α))
  | fulfil (preimage : α)

def Sent.strings {α : Type} : Sent α → List α
  | .accept paymentHashes => paymentHashes
  | .syncReply proofs => proofs.map Prod.snd
  | .closeAck proofs => proofs.map Prod.snd
  | .fulfil preimage => [preimage]

/-- A node acting as S in one epoch: its record in memory and on disk, the preimages its upstream
    channels and their monitors hold, and what it has sent. -/
structure Settler (α Upstream : Type) where
  memory : EpochRecord α Upstream
  disk : EpochRecord α Upstream
  recorded : List α
  sent : List (Sent α)

variable {α Upstream : Type}

inductive Stage where
  | slot | fulfil | whole

structure Writes where
  settling : Bool
  fulfil : Bool
  settled : Bool

/-- What reaches S. Voucher round, activation, abort, drain and reestablish are `lifecycle`, as far as
    S's answers read them; `republish` is an upstream fulfil sent again, or the claim on chain. -/
inductive Event (α Upstream : Type) where
  | delegated (u : Upstream) (htlc : DelegatedHtlc α) (currentBlockHeight forwardingCltvDelta : Nat)
      (committed : Bool) (writes : Writes) (stage : Stage)
  | republish (preimage : α)
  | close (same valid canSign written : Bool)
  | sync (valid activateAckUnsent canSign written : Bool)
  | redeem (slot : Nat) (preimage : α)
  | outcome (slot : Nat)
  | lifecycle (state : EpochState) (activated activationMismatch capabilityHold : Bool)
  | persist
  | restart

namespace Settler

section Steps

variable (s : Settler α Upstream)

def send (message : Sent α) : Settler α Upstream :=
  { s with sent := message :: s.sent }

def recordPreimage (preimage : α) : Settler α Upstream :=
  { s with recorded := preimage :: s.recorded }

def fulfilUpstream (preimage : α) (taken : Bool) : Settler α Upstream :=
  if taken then s.send (.fulfil preimage) else s

def adopt (f : EpochRecord α Upstream) (written : Bool) : Settler α Upstream :=
  { s with memory := f, disk := if written then f else s.disk }

def restart : Settler α Upstream :=
  { s with memory := s.disk }

def answer (answered : EpochRecord.Answer α Upstream) (signed : List (Nat × α) → Sent α) (written : Bool) :
    Settler α Upstream :=
  match answered with
  | .refused f => s.adopt f false
  | .replayed proofs => s.send (.closeAck proofs)
  | .signed f proofs => if written then (s.adopt f true).send (signed proofs) else s.adopt f false

variable [DecidableEq Upstream] (u : Upstream) (slot : Nat)

/-- Nothing is revealed on a SETTLING that is not on disk: without the write the slot stays as it was. -/
def markSettling (written : Bool) : Option (Settler α Upstream) :=
  if s.memory.slotStates slot ≠ .unused then some s
  else
    match s.memory.fforSetSlot slot .settling (some u) with
    | .ok f => if written then some (s.adopt f true) else none
    | .error _ => none

def markSettled (written : Bool) : Settler α Upstream :=
  match s.memory.fforSetSlot slot .settled (some u) with
  | .ok f => s.adopt f written
  | .error _ => s

def settle (preimage : α) (writes : Writes) (stage : Stage) : Settler α Upstream :=
  match s.markSettling u slot writes.settling with
  | none => s
  | some marked =>
    let recorded := marked.recordPreimage preimage
    let fulfilled := recorded.fulfilUpstream preimage writes.fulfil
    match stage with
    | .slot => marked.restart
    | .fulfil => fulfilled.restart
    | .whole => if writes.fulfil then fulfilled.markSettled u slot writes.settled else fulfilled

variable [DecidableEq α]

/-- An HTLC on no hash of the book takes the ordinary path; a refused one is failed upstream. -/
def fforTrySettleDelegated (u : Upstream) (htlc : DelegatedHtlc α) (currentBlockHeight forwardingCltvDelta : Nat)
    (committed : Bool) (writes : Writes) (stage : Stage) : Settler α Upstream :=
  match s.memory.fforFindDelegatedSlot htlc.paymentHash with
  | none => s
  | some slot =>
    match s.memory.delegatedRefusal u htlc slot currentBlockHeight forwardingCltvDelta committed,
      s.memory.preimages[slot]? with
    | none, some preimage => s.settle u slot preimage writes stage
    | _, _ => s

def step (hash : α → α) : Event α Upstream → Settler α Upstream
  | .delegated u htlc currentBlockHeight forwardingCltvDelta committed writes stage =>
    s.fforTrySettleDelegated u htlc currentBlockHeight forwardingCltvDelta committed writes stage
  | .republish preimage => if preimage ∈ s.recorded then s.send (.fulfil preimage) else s
  | .close same valid canSign written => s.answer (s.memory.handleFforClose same valid canSign) .closeAck written
  | .sync valid activateAckUnsent canSign written =>
    s.answer (s.memory.handleFforSync hash valid activateAckUnsent canSign) .syncReply written
  | .redeem slot preimage => s.adopt (s.memory.redeemVoucher hash slot preimage) false
  | .outcome slot => s.adopt (s.memory.recordOutcome slot) false
  | .lifecycle state activated activationMismatch capabilityHold =>
    s.adopt { s.memory with state, activated, activationMismatch, capabilityHold } false
  | .persist => s.adopt s.memory true
  | .restart => s.restart

end Steps

def opened (record : EpochRecord α Upstream) : Settler α Upstream where
  memory := record
  disk := record
  recorded := []
  sent := [.accept record.paymentHashes]

def Published (s : Settler α Upstream) (b : α) : Prop :=
  ∃ message ∈ s.sent, b ∈ message.strings

variable (hash : α → α)

/-- What R and the payers can come to hold: the iterated images of what S has sent and of their own. -/
def Derivable (own : Set α) (s : Settler α Upstream) (preimage : α) : Prop :=
  ∃ b n, (s.Published b ∨ b ∈ own) ∧ preimage = hash^[n] b

def Reaches [DecidableEq α] [DecidableEq Upstream] (own : Set α) : Settler α Upstream → Settler α Upstream → Prop :=
  Relation.ReflTransGen fun s s' => ∃ event, s' = s.step hash event ∧
    ∀ slot preimage, event = .redeem slot preimage → s.Derivable hash own preimage

/-- No string that S has sent leads by hashing to the hash of an unused slot, and no unused voucher
    has been redeemed. -/
def UnpaidSealed (s : Settler α Upstream) : Prop :=
  ∀ slot, s.memory.slotStates slot = .unused →
    (∀ b n, s.Published b → s.memory.paymentHashes[slot]? ≠ some (hash (hash^[n] b))) ∧
      s.memory.voucherFulfilled slot = false

end Settler

/-- Independent secrets and no accidental collision: the hash of a secret is reached by hashing from
    that secret in one step, and from no other secret and nothing that the peers bring. -/
structure Fresh (hash : α → α) (randomBytes : Nat → α) (own : Set α) : Prop where
  apart : ∀ i j n, hash^[n] (randomBytes i) = hash (randomBytes j) → i = j ∧ n = 1
  foreign : ∀ b ∈ own, ∀ n j, hash (hash^[n] b) ≠ hash (randomBytes j)

namespace EpochRecord

def Used (f : EpochRecord α Upstream) (slot : Nat) : Prop :=
  f.slotStates slot ≠ .unused

structure Backed (f : EpochRecord α Upstream) (paid : Nat → Prop) : Prop where
  redeemed : ∀ slot, f.slotRedeemed slot = true → paid slot
  fulfilled : ∀ slot, f.voucherFulfilled slot = true → paid slot
  outcomes : ∀ slot, f.voucherOutcomes slot = some .fulfilled → paid slot
  closeAck : ∀ proofs, f.closeAck = some proofs →
    ∀ proof ∈ proofs, paid proof.1 ∧ f.preimages[proof.1]? = some proof.2

structure Noted (f g : EpochRecord α Upstream) : Prop where
  hashes : g.paymentHashes = f.paymentHashes
  preimages : g.preimages = f.preimages
  used : ∀ slot, g.Used slot ↔ f.Used slot
  backed : ∀ paid : Nat → Prop, (∀ slot, f.Used slot → paid slot) → f.Backed paid → g.Backed paid

variable {f g : EpochRecord α Upstream} {proofs : List (Nat × α)}

theorem Noted.refl (f : EpochRecord α Upstream) : f.Noted f :=
  ⟨rfl, rfl, fun _ => Iff.rfl, fun _ _ backed => backed⟩

theorem Backed.mono {paid more : Nat → Prop} (backed : f.Backed paid) (grows : ∀ slot, paid slot → more slot) :
    f.Backed more where
  redeemed slot shown := grows slot (backed.redeemed slot shown)
  fulfilled slot shown := grows slot (backed.fulfilled slot shown)
  outcomes slot shown := grows slot (backed.outcomes slot shown)
  closeAck proofs stored proof member := (backed.closeAck proofs stored proof member).imp_left (grows _)

theorem mem_proofs {shown : Nat → Bool} {proof : Nat × α} (member : proof ∈ f.proofs shown) :
    shown proof.1 = true ∧ f.preimages[proof.1]? = some proof.2 := by
  obtain ⟨slot, _, listed⟩ := List.mem_filterMap.mp member
  split at listed
  · next displayed =>
    obtain ⟨secret, stored, same⟩ := Option.map_eq_some_iff.mp listed
    rw [← same]
    exact ⟨displayed, stored⟩
  · cases listed

theorem noted_closed (f : EpochRecord α Upstream) : f.Noted f.closed := by
  refine ⟨rfl, rfl, ?_, fun _ _ backed => { backed with }⟩
  intro slot
  simp only [Used, closed]
  split
  · next settling => simp [settling.2]
  · exact Iff.rfl

theorem fforSetSlot_ok [DecidableEq Upstream] {slot : Nat} {state : SlotState} {upstream : Option Upstream}
    (marked : f.fforSetSlot slot state upstream = .ok g) : g = { f with
      slotStates := Function.update f.slotStates slot state
      slotUpstream := Function.update f.slotUpstream slot upstream } := by
  unfold fforSetSlot at marked
  split at marked
  · cases marked
  split at marked
  · cases marked
  exact (Except.ok.inj marked).symm

theorem noted_recordOutcome (f : EpochRecord α Upstream) (slot : Nat) : f.Noted (f.recordOutcome slot) := by
  unfold recordOutcome
  split
  · refine ⟨rfl, rfl, fun _ => Iff.rfl, fun paid used backed => ?_⟩
    refine ⟨backed.redeemed, backed.fulfilled, ?_, backed.closeAck⟩
    intro other shown
    dsimp only at shown
    by_cases same : other = slot
    · subst same
      rw [Function.update_self, Option.some.injEq] at shown
      apply backed.fulfilled
      by_contra unfulfilled
      rw [if_neg unfulfilled] at shown
      cases shown
    · rw [Function.update_of_ne same] at shown
      exact backed.outcomes other shown
  · exact Noted.refl f

def Answer.Sound (f : EpochRecord α Upstream) : Answer α Upstream → Prop
  | .refused g => f.Noted g
  | .replayed proofs => f.closeAck = some proofs
  | .signed g proofs => f.Noted g ∧ ∀ paid : Nat → Prop, (∀ slot, f.Used slot → paid slot) → f.Backed paid →
      ∀ proof ∈ proofs, paid proof.1 ∧ f.preimages[proof.1]? = some proof.2

theorem sound_handleFforClose (f : EpochRecord α Upstream) (same valid canSign : Bool) :
    (f.handleFforClose same valid canSign).Sound f := by
  have paying : ∀ paid : Nat → Prop, (∀ slot, f.Used slot → paid slot) → f.Backed paid →
      ∀ proof ∈ f.closed.proofs f.closed.settledAtClose, paid proof.1 ∧ f.preimages[proof.1]? = some proof.2 := by
    intro paid used backed proof member
    obtain ⟨shown, stored⟩ := mem_proofs member
    refine ⟨?_, stored⟩
    rcases Bool.or_eq_true _ _ |>.mp shown with settled | redeemed
    · apply used
      apply ((noted_closed f).used proof.1).mp
      simp [Used, of_decide_eq_true settled]
    · exact backed.redeemed _ redeemed
  unfold handleFforClose
  dsimp only
  split
  · split
    · next proofs stored =>
      split
      · exact stored
      · exact Noted.refl f
    · exact Noted.refl f
  · split
    · exact Noted.refl f
    split
    · exact Noted.refl f
    split
    · exact noted_closed f
    refine ⟨⟨rfl, rfl, (noted_closed f).used, fun paid used backed => ?_⟩, paying⟩
    refine ⟨backed.redeemed, backed.fulfilled, backed.outcomes, ?_⟩
    intro proofs stored
    cases stored
    exact paying paid used backed

theorem sound_handleFforSync [DecidableEq α] (f : EpochRecord α Upstream) (hash : α → α)
    (valid unsent canSign : Bool) : (f.handleFforSync hash valid unsent canSign).Sound f := by
  unfold handleFforSync
  dsimp only
  split
  · exact Noted.refl f
  split
  · next proofs stored =>
    split at stored
    · exact stored
    cases stored
  · split
    · exact Noted.refl f
    split
    · exact Noted.refl f
    split
    · exact Noted.refl f
    refine ⟨⟨rfl, rfl, fun _ => Iff.rfl, fun _ _ backed => { backed with }⟩, ?_⟩
    intro paid used backed proof member
    obtain ⟨shown, stored⟩ := mem_proofs member
    refine ⟨?_, stored⟩
    rcases Bool.or_eq_true _ _ |>.mp shown with settled | outcome
    · apply used
      simp [Used, of_decide_eq_true settled]
    · exact backed.outcomes _ (of_decide_eq_true outcome)

end EpochRecord

open EpochRecord (Used fforSetSlot_ok)

namespace Settler

def Holds (hashes secrets : List α) (paid : Nat → Prop) (f : EpochRecord α Upstream) : Prop :=
  f.paymentHashes = hashes ∧ f.preimages = secrets ∧ f.Backed paid

/-- What holds along a run: a slot used in memory is used on disk, and all that the records show, the
    upstream channels hold and the messages carry belongs to used slots. -/
structure Guarded (hashes secrets : List α) (s : Settler α Upstream) : Prop where
  memory : Holds hashes secrets s.memory.Used s.memory
  disk : Holds hashes secrets s.memory.Used s.disk
  saved : ∀ slot, s.memory.Used slot → s.disk.Used slot
  recorded : ∀ b ∈ s.recorded, ∃ slot, s.memory.Used slot ∧ secrets[slot]? = some b
  sent : ∀ b, s.Published b → b ∈ hashes ∨ ∃ slot, s.memory.Used slot ∧ secrets[slot]? = some b

namespace Guarded

variable {hashes secrets : List α} {s : Settler α Upstream}

theorem advance (guarded : s.Guarded hashes secrets) {memory disk : EpochRecord α Upstream}
    (more : ∀ slot, s.memory.Used slot → memory.Used slot) (held : Holds hashes secrets memory.Used memory)
    (kept : Holds hashes secrets memory.Used disk) (saved : ∀ slot, memory.Used slot → disk.Used slot) :
    ({ s with memory, disk } : Settler α Upstream).Guarded hashes secrets := by
  have still {b : α} : (∃ slot, s.memory.Used slot ∧ secrets[slot]? = some b) →
      ∃ slot, memory.Used slot ∧ secrets[slot]? = some b := by
    intro ⟨slot, used, secret⟩
    exact ⟨slot, more slot used, secret⟩
  exact ⟨held, kept, saved, fun b member => still (guarded.recorded b member),
    fun b published => (guarded.sent b published).imp_right still⟩

theorem note (guarded : s.Guarded hashes secrets) {f : EpochRecord α Upstream} (noted : s.memory.Noted f)
    (written : Bool) : (s.adopt f written).Guarded hashes secrets := by
  have same : f.Used = s.memory.Used := by
    funext slot
    exact propext (noted.used slot)
  have held : Holds hashes secrets f.Used f := by
    refine ⟨noted.hashes.trans guarded.memory.1, noted.preimages.trans guarded.memory.2.1, ?_⟩
    rw [same]
    exact noted.backed _ (fun _ used => used) guarded.memory.2.2
  apply guarded.advance (fun slot => (noted.used slot).mpr) held
  · cases written with
    | true => exact held
    | false =>
      rw [same]
      exact guarded.disk
  · cases written with
    | true => exact fun _ used => used
    | false =>
      rw [same]
      exact guarded.saved

variable {slot : Nat}

section

variable (guarded : s.Guarded hashes secrets)
include guarded

theorem settling {f : EpochRecord α Upstream} {upstream : Option Upstream} (marked : f = { s.memory with
      slotStates := Function.update s.memory.slotStates slot .settling
      slotUpstream := Function.update s.memory.slotUpstream slot upstream }) :
    (s.adopt f true).Guarded hashes secrets := by
  have more : ∀ other, s.memory.Used other → f.Used other := by
    intro other used
    rw [marked]
    by_cases same : other = slot
    · simp [Used, same]
    · simpa [Used, Function.update_of_ne same] using used
  have held : Holds hashes secrets f.Used f := by
    have grown := guarded.memory.2.2.mono more
    subst marked
    exact ⟨guarded.memory.1, guarded.memory.2.1, grown.1, grown.2, grown.3, grown.4⟩
  exact guarded.advance more held held fun _ used => used

theorem restart : s.restart.Guarded hashes secrets := by
  obtain ⟨hashed, secret, backed⟩ := guarded.disk
  have held : Holds hashes secrets s.disk.Used s.disk := ⟨hashed, secret, backed.mono guarded.saved⟩
  exact guarded.advance guarded.saved held held fun _ used => used

theorem send {message : Sent α} (paid : ∀ b ∈ message.strings, ∃ slot, s.memory.Used slot ∧ secrets[slot]? = some b) :
    (s.send message).Guarded hashes secrets := by
  refine ⟨guarded.memory, guarded.disk, guarded.saved, guarded.recorded, ?_⟩
  intro b ⟨sent, member, held⟩
  rcases List.mem_cons.mp member with rfl | earlier
  · exact .inr (paid b held)
  · exact guarded.sent b ⟨sent, earlier, held⟩

theorem recordPreimage {preimage : α} (paid : ∃ slot, s.memory.Used slot ∧ secrets[slot]? = some preimage) :
    (s.recordPreimage preimage).Guarded hashes secrets := by
  refine ⟨guarded.memory, guarded.disk, guarded.saved, ?_, guarded.sent⟩
  intro b member
  rcases List.mem_cons.mp member with rfl | earlier
  · exact paid
  · exact guarded.recorded b earlier

theorem fulfilUpstream {preimage : α}
    (paid : ∃ slot, s.memory.Used slot ∧ secrets[slot]? = some preimage) (taken : Bool) :
    (s.fulfilUpstream preimage taken).Guarded hashes secrets := by
  unfold Settler.fulfilUpstream
  split
  · apply guarded.send
    intro b member
    rw [List.mem_singleton.mp member]
    exact paid
  · exact guarded

theorem proved {proofs : List (Nat × α)}
    (sound : ∀ proof ∈ proofs, s.memory.Used proof.1 ∧ s.memory.preimages[proof.1]? = some proof.2) :
    ∀ b ∈ proofs.map Prod.snd, ∃ slot, s.memory.Used slot ∧ secrets[slot]? = some b := by
  intro b member
  obtain ⟨proof, listed, rfl⟩ := List.mem_map.mp member
  obtain ⟨used, secret⟩ := sound proof listed
  rw [guarded.memory.2.1] at secret
  exact ⟨proof.1, used, secret⟩

theorem answer {answered : EpochRecord.Answer α Upstream}
    (sound : answered.Sound s.memory) {signed : List (Nat × α) → Sent α}
    (carries : ∀ proofs, (signed proofs).strings = proofs.map Prod.snd) (written : Bool) :
    (s.answer answered signed written).Guarded hashes secrets := by
  cases answered with
  | refused f => exact guarded.note sound false
  | replayed proofs => exact guarded.send (guarded.proved (guarded.memory.2.2.closeAck proofs sound))
  | signed f proofs =>
    obtain ⟨noted, paying⟩ := sound
    have proofs_paid := guarded.proved (paying _ (fun _ used => used) guarded.memory.2.2)
    dsimp only [Settler.answer]
    split
    · apply (guarded.note noted true).send
      intro b member
      rw [carries] at member
      obtain ⟨slot, used, secret⟩ := proofs_paid b member
      exact ⟨slot, (noted.used slot).mpr used, secret⟩
    · exact guarded.note noted false

end

section Settle

variable [DecidableEq Upstream] {u : Upstream}

variable (guarded : s.Guarded hashes secrets)
include guarded

theorem markSettled (used : s.memory.Used slot)
    (written : Bool) : (s.markSettled u slot written).Guarded hashes secrets := by
  unfold Settler.markSettled
  split
  · next f marked =>
    apply guarded.note
    rw [fforSetSlot_ok marked]
    refine ⟨rfl, rfl, ?_, fun _ _ backed => { backed with }⟩
    intro other
    by_cases same : other = slot
    · subst same
      simpa [Used] using used
    · simp [Used, Function.update_of_ne same]
  · exact guarded

theorem markSettling {written : Bool}
    {marked : Settler α Upstream} (marks : s.markSettling u slot written = some marked) :
    marked.Guarded hashes secrets ∧ marked.memory.Used slot := by
  unfold Settler.markSettling at marks
  split at marks
  · next used =>
    cases marks
    exact ⟨guarded, used⟩
  · split at marks
    · next f set =>
      split at marks
      · cases marks
        have whole := fforSetSlot_ok set
        refine ⟨guarded.settling whole, ?_⟩
        simp [Used, Settler.adopt, whole]
      · cases marks
    · cases marks

theorem settle {preimage : α}
    (secret : secrets[slot]? = some preimage) (writes : Writes) (stage : Stage) :
    (s.settle u slot preimage writes stage).Guarded hashes secrets := by
  unfold Settler.settle
  split
  · exact guarded
  · next marked marks =>
    obtain ⟨kept, used⟩ := guarded.markSettling marks
    have paid : ∃ slot, marked.memory.Used slot ∧ secrets[slot]? = some preimage := ⟨slot, used, secret⟩
    have fulfilled := (kept.recordPreimage paid).fulfilUpstream paid writes.fulfil
    cases stage with
    | slot => exact kept.restart
    | fulfil => exact fulfilled.restart
    | whole =>
      dsimp only
      split
      · apply fulfilled.markSettled
        unfold Settler.fulfilUpstream
        split <;> exact used
      · exact fulfilled

end Settle

variable [DecidableEq α] {hash : α → α}

theorem fforTrySettleDelegated [DecidableEq Upstream] (guarded : s.Guarded hashes secrets) {u : Upstream} {htlc : DelegatedHtlc α}
    {height delta : Nat} {committed : Bool} {writes : Writes} {stage : Stage} :
    (s.fforTrySettleDelegated u htlc height delta committed writes stage).Guarded hashes secrets := by
  unfold Settler.fforTrySettleDelegated
  split
  · exact guarded
  · next slot found =>
    split
    · next preimage passed stored =>
      rw [guarded.memory.2.1] at stored
      exact guarded.settle stored writes stage
    · exact guarded

theorem redeem (guarded : s.Guarded hashes secrets) {preimage : α}
    (paid : hashes[slot]? = some (hash preimage) → s.memory.Used slot) :
    (s.adopt (s.memory.redeemVoucher hash slot preimage) false).Guarded hashes secrets := by
  unfold EpochRecord.redeemVoucher
  split
  · next fits =>
    rw [guarded.memory.1] at fits
    have used := paid fits
    have marks {shown : Nat → Bool} (backed : ∀ other, shown other = true → s.memory.Used other) :
        ∀ other, Function.update shown slot true other = true → s.memory.Used other := by
      intro other marked
      by_cases same : other = slot
      · rw [same]
        exact used
      · rw [Function.update_of_ne same] at marked
        exact backed other marked
    have backed := guarded.memory.2.2
    refine ⟨⟨guarded.memory.1, guarded.memory.2.1, ?_⟩, guarded.disk, guarded.saved, guarded.recorded, guarded.sent⟩
    refine ⟨?_, marks backed.fulfilled, backed.outcomes, backed.closeAck⟩
    dsimp only [Settler.adopt]
    split
    · exact marks backed.redeemed
    · exact backed.redeemed
  · exact guarded.note (EpochRecord.Noted.refl _) false

theorem step [DecidableEq Upstream] (guarded : s.Guarded hashes secrets) (event : Event α Upstream)
    (paid : ∀ slot preimage, event = .redeem slot preimage → hashes[slot]? = some (hash preimage) →
      s.memory.Used slot) : (s.step hash event).Guarded hashes secrets := by
  cases event with
  | delegated u htlc height delta committed writes stage => exact guarded.fforTrySettleDelegated
  | republish preimage =>
    dsimp only [Settler.step]
    split
    · next held =>
      apply guarded.send
      intro b member
      rw [List.mem_singleton.mp member]
      exact guarded.recorded preimage held
    · exact guarded
  | close same valid canSign written =>
    exact guarded.answer (s.memory.sound_handleFforClose same valid canSign) (fun _ => rfl) written
  | sync valid unsent canSign written =>
    exact guarded.answer (s.memory.sound_handleFforSync hash valid unsent canSign) (fun _ => rfl) written
  | redeem slot preimage => exact guarded.redeem (paid slot preimage rfl)
  | outcome slot => exact guarded.note (s.memory.noted_recordOutcome slot) false
  | lifecycle state activated mismatch hold =>
    apply guarded.note
    exact ⟨rfl, rfl, fun _ => Iff.rfl, fun _ _ backed => { backed with }⟩
  | persist => exact guarded.note (EpochRecord.Noted.refl _) true
  | restart => exact guarded.restart

end Guarded

end Settler

section Secrets

variable {hash : α → α} {randomBytes : Nat → α} {own : Set α} {params : EpochParams}

theorem Fresh.used_of_leads {s : Settler α Upstream} (fresh : Fresh hash randomBytes own)
    (guarded : s.Guarded (((List.range params.maxPayments).map randomBytes).map hash)
      ((List.range params.maxPayments).map randomBytes)) {slot n : Nat} {b : α} (source : s.Published b ∨ b ∈ own)
    (leads : (((List.range params.maxPayments).map randomBytes).map hash)[slot]? = some (hash (hash^[n] b))) :
    s.memory.Used slot := by
  have target : hash (randomBytes slot) = hash (hash^[n] b) := by
    by_cases bound : slot < params.maxPayments
    · simpa [bound] using leads
    · simp [bound] at leads
  rcases source with published | foreign
  · rcases guarded.sent b published with hashed | ⟨other, used, secret⟩
    · obtain ⟨_, listed, rfl⟩ := List.mem_map.mp hashed
      obtain ⟨i, _, rfl⟩ := List.mem_map.mp listed
      rw [← Function.iterate_succ_apply' hash, ← Function.iterate_succ_apply hash] at target
      have far := (fresh.apart i slot _ target.symm).2
      omega
    · have drawn : randomBytes other = b := by
        by_cases bound : other < params.maxPayments
        · simpa [bound] using secret
        · simp [bound] at secret
      rw [← drawn, ← Function.iterate_succ_apply' hash] at target
      rw [← (fresh.apart other slot _ target.symm).1]
      exact used
  · exact absurd target.symm (fresh.foreign b foreign n slot)

theorem isHashChain_chainedPreimages [DecidableEq α] (count : Nat) (x : α) (above : List α)
    (chained : isHashChain hash above = true) (linked : ∀ y ∈ above.head?, hash y = x) :
    isHashChain hash (chainedPreimages hash count x above) = true := by
  -- the loop keeps: what is filled in is a chain whose lowest secret hashes to the next one
  induction count generalizing x above with
  | zero => exact chained
  | succ j ih =>
    apply ih
    · cases above with
      | nil => rfl
      | cons y rest => simp [isHashChain, linked y (by simp), chained]
    · intro y lowest
      rw [← Option.some.inj lowest]

theorem length_chainedPreimages (count : Nat) (x : α) (above : List α) :
    (chainedPreimages hash count x above).length = count + above.length := by
  induction count generalizing x above with
  | zero => simp [chainedPreimages]
  | succ j ih =>
    rw [chainedPreimages, ih]
    simp
    omega

theorem chain_reveals [DecidableEq α] {secrets : List α} (chained : isHashChain hash secrets = true)
    (two : 2 ≤ secrets.length) : ∃ b ∈ secrets.map hash, (secrets.map hash)[0]? = some (hash b) := by
  match secrets with
  | [] => simp at two
  | [_] => simp at two
  | first :: second :: rest =>
    have link : hash second = first := by
      simp [isHashChain] at chained
      exact chained.1
    exact ⟨hash second, by simp, by simp [link]⟩

theorem handleFforInit_ok [DecidableEq α] {ctx : SetupContext}
    {record : EpochRecord α Upstream} (answered : handleFforInit hash randomBytes ctx params = .ok record) :
    record.preimages = voucherPreimages hash randomBytes params ∧
      record.paymentHashes = record.preimages.map hash ∧ (∀ slot, ¬record.Used slot) ∧ record.Backed record.Used := by
  unfold handleFforInit at answered
  split at answered
  · cases answered
  · cases answered
    refine ⟨rfl, rfl, fun _ used => used rfl, ?_⟩
    constructor <;> simp

variable [DecidableEq α] [DecidableEq Upstream]

theorem unpaidSealed_iff (fresh : Fresh hash randomBytes own) {ctx : SetupContext} {params : EpochParams}
    {record : EpochRecord α Upstream} (answered : handleFforInit hash randomBytes ctx params = .ok record) :
    (∀ s, Settler.Reaches hash own (.opened record) s → s.UnpaidSealed hash) ↔
      ¬(params.hashChain = true ∧ 2 ≤ params.maxPayments) := by
  obtain ⟨secrets, hashes, unused, backed⟩ := handleFforInit_ok answered
  constructor
  · -- `ff_accept` alone gives the first voucher of a chain away
    intro always ⟨chained, two⟩
    rw [voucherPreimages, if_pos chained] at secrets
    have chain : isHashChain hash record.preimages = true := by
      rw [secrets]
      exact isHashChain_chainedPreimages _ _ [] rfl (by simp)
    have long : 2 ≤ record.preimages.length := by
      rw [secrets, length_chainedPreimages]
      exact two
    obtain ⟨b, published, leads⟩ := chain_reveals chain long
    rw [← hashes] at published leads
    have free : record.slotStates 0 = .unused := by
      by_contra used
      exact unused 0 used
    exact (always _ .refl 0 free).1 b 0 ⟨_, List.mem_singleton_self _, published⟩ leads
  · intro unchained s run
    have independent : record.preimages = (List.range params.maxPayments).map randomBytes := by
      rw [secrets, voucherPreimages]
      split
      · next chained =>
        have short : params.maxPayments = 0 ∨ params.maxPayments = 1 := by
          have : ¬2 ≤ params.maxPayments := fun two => unchained ⟨chained, two⟩
          omega
        rcases short with none | one
        · simp [none, chainedPreimages]
        · simp [one, chainedPreimages]
      · rfl
    rw [independent] at hashes
    have guarded : s.Guarded (((List.range params.maxPayments).map randomBytes).map hash)
        ((List.range params.maxPayments).map randomBytes) := by
      induction run with
      | refl =>
        refine ⟨⟨hashes, independent, backed⟩, ⟨hashes, independent, backed⟩, fun _ used => used,
          by simp [Settler.opened], ?_⟩
        intro b ⟨message, member, held⟩
        rw [List.mem_singleton.mp member] at held
        rw [← hashes]
        exact .inl held
      | tail _ taken guarded =>
        obtain ⟨event, rfl, knowing⟩ := taken
        apply guarded.step
        intro slot preimage redeems fits
        obtain ⟨b, n, source, rfl⟩ := knowing slot preimage redeems
        exact fresh.used_of_leads guarded source fits
    intro slot free
    constructor
    · intro b n published leads
      rw [guarded.memory.1] at leads
      exact fresh.used_of_leads guarded (.inl published) leads free
    · by_contra redeemed
      exact guarded.memory.2.2.fulfilled slot (by simpa using redeemed) free

end Secrets

section Instances

/-- Strings as a draw and the number of times it was hashed: a hash without collisions. -/
def freeHash (b : Nat × Nat) : Nat × Nat :=
  (b.1, b.2 + 1)

def draw (i : Nat) : Nat × Nat :=
  (i, 0)

theorem freeHash_iterate (n : Nat) (b : Nat × Nat) : freeHash^[n] b = (b.1, b.2 + n) := by
  induction n with
  | zero => rfl
  | succ n ih =>
    rw [Function.iterate_succ_apply', ih]
    simp [freeHash]
    omega

theorem fresh_draw : Fresh freeHash draw ∅ where
  apart i j n same := by
    rw [freeHash_iterate] at same
    simpa [freeHash, draw] using same
  foreign b member := absurd member (by simp)

def roomyContext : SetupContext where
  epochIdUsed := false
  signatureValid := true
  preconditionError := none
  foreignTlvs := false
  settlePolicy := none
  concurrentNegotiated := false
  book := ⟨483, 10 ^ 10, 1, 354, 253, 10 ^ 9, 0, 1000, 1000, true, true⟩
  currentBlockHeight := 100
  canSign := true
  addRefused := none

def twoSlots (hashChain : Bool) : EpochParams :=
  ⟨.d, 2000000, 2, 1, 200, 1300, 0, 0, 0, [], [1000000, 1000000], [], hashChain, none⟩

theorem unpaidSealed_twoSlots :
    ∃ record : EpochRecord (Nat × Nat) Nat, handleFforInit freeHash draw roomyContext (twoSlots false) = .ok record ∧
      ∀ s, Settler.Reaches freeHash ∅ (.opened record) s → s.UnpaidSealed freeHash := by
  have answered : (handleFforInit freeHash draw roomyContext (twoSlots false) :
      Except SetupRefusal (EpochRecord (Nat × Nat) Nat)) = .ok _ := rfl
  exact ⟨_, answered, (unpaidSealed_iff fresh_draw answered).mpr (by decide)⟩

/-- Two vouchers on one chain: the hash of the second, which `ff_accept` carries, is the preimage of the first. -/
theorem chain_gives_first_away :
    ∃ (record : EpochRecord (Nat × Nat) Nat) (s : Settler (Nat × Nat) Nat),
      handleFforInit freeHash draw roomyContext (twoSlots true) = .ok record ∧
        Settler.Reaches freeHash ∅ (.opened record) s ∧ ¬s.UnpaidSealed freeHash := by
  refine ⟨_, _, rfl, .refl, ?_⟩
  intro always
  apply (always 0 rfl).1 (0, 1) 0 _ rfl
  exact ⟨_, List.mem_singleton_self _, by decide⟩

end Instances

end Beignet.Ffor
