import Beignet.Data.Basic

namespace Beignet.Liquidity

open Beignet.Data

/-! The opening fee of a just-in-time receive: what the provider takes off a forward whose onion it
    cannot rewrite, and the shortfall that the wallet lets pass at its final hop. -/

structure Quote where
  flatFeeSat : Int
  feePpm : ℚ

def jitOpeningFeeMsat (totalMsat : Nat) (quote : Quote) : Nat :=
  quote.flatFeeSat.toNat * 1000 + totalMsat * quote.feePpm.floor.toNat / 1000000

inductive JitFeeMode where
  | skim
  | hop
  deriving DecidableEq

structure JitIntent where
  interceptScidHex : String
  acceptsSkimmedFee : Bool
  feeMode : JitFeeMode
  deriving DecidableEq

structure HeldJitPart where
  inChannelId : Bytes
  inHtlcId : Nat
  paymentHash : Bytes
  incomingAmountMsat : Option Nat
  forwardAmountMsat : Nat
  skimmedFeeMsat : Option Nat
  intentScidHex : Option String
  deriving DecidableEq

def HeldJitPart.key (part : HeldJitPart) : Bytes × Nat := (part.inChannelId, part.inHtlcId)

def totalMsat (parts : List HeldJitPart) : Nat := (parts.map (·.forwardAmountMsat)).sum

section Provider

variable (cfg : Quote) (parts : List HeldJitPart) (intents : List JitIntent) (part : HeldJitPart)
  (skim : List HeldJitPart) (hop : List HeldJitPart)

-- A map built from a list keeps the last entry of a key.
def intentOf : Option JitIntent :=
  part.intentScidHex.bind fun scid => intents.reverse.find? (·.interceptScidHex = scid)

structure FeeGroups where
  skim : List HeldJitPart
  hop : List HeldJitPart
  skimAgreed : Bool

def feeGroups : FeeGroups where
  skim := parts.filter fun part => (intentOf intents part).any (·.feeMode = .skim)
  hop := parts.filter fun part => (intentOf intents part).any (·.feeMode = .hop)
  skimAgreed := parts.all fun part =>
    (intentOf intents part).all fun intent => intent.feeMode = .hop || intent.acceptsSkimmedFee

def skimFeeMsat (skimAgreed : Bool) : Nat :=
  if skim = [] ∨ skimAgreed = false then 0 else jitOpeningFeeMsat (totalMsat skim) cfg

def largest : List HeldJitPart → Option HeldJitPart
  | [] => none
  | part :: rest =>
    some (rest.foldl (fun a b => if a.forwardAmountMsat < b.forwardAmountMsat then b else a) part)

def principalError : Option String :=
  match part.incomingAmountMsat, part.forwardAmountMsat with
  | none, _ => some "JIT part has no recorded inbound amount"
  | some arrived, forwards =>
    refuseIf (arrived < forwards) s!"JIT part forwards {forwards} msat but only {arrived} msat arrived"

def hopFeeMsat : Nat :=
  jitOpeningFeeMsat 0 cfg + (hop.map fun part => jitOpeningFeeMsat part.forwardAmountMsat ⟨0, cfg.feePpm⟩).sum

def skimRefusal (skimFee : Nat) : Option String :=
  (largest skim).bind fun part =>
    let held := part.forwardAmountMsat
    refuseIf (0 < skimFee ∧ held ≤ skimFee) s!"JIT fee {skimFee} msat exceeds the largest held part {held} msat"

def hopRefusal : Option String :=
  let owed := hopFeeMsat cfg hop
  let collected := (hop.map fun part => part.incomingAmountMsat.getD 0 - part.forwardAmountMsat).sum
  refuseIf (hop ≠ [] ∧ collected < owed)
    s!"JIT fee {owed} msat is owed as a routing fee on the inbound HTLCs but only {collected} msat arrived"

def pricedFeeMsat : Nat :=
  skimFeeMsat cfg (feeGroups parts intents).skim (feeGroups parts intents).skimAgreed

def validateFee : Option String :=
  firstRefusal (parts.map principalError ++
    [skimRefusal (feeGroups parts intents).skim (pricedFeeMsat cfg parts intents),
      hopRefusal cfg (feeGroups parts intents).hop])

def HeldJitPart.charged (feeMsat : Nat) (part : HeldJitPart) : HeldJitPart :=
  { part with
    forwardAmountMsat := part.forwardAmountMsat - feeMsat
    skimmedFeeMsat := some (part.skimmedFeeMsat.getD 0 + feeMsat) }

-- The source changes the object in place; the part is found again by the HTLC it stands for.
def applyFee : List HeldJitPart :=
  let feeMsat := pricedFeeMsat cfg parts intents
  match largest (feeGroups parts intents).skim with
  | none => parts
  | some target =>
    if feeMsat = 0 then parts
    else parts.map fun part => if part.key = target.key then part.charged feeMsat else part

end Provider

section Wallet

structure FinalHtlc where
  key : Bytes × Nat
  paymentHash : Bytes
  amountMsat : Nat
  amountToForwardMsat : Nat
  declaredTotalMsat : Nat

structure SkimTaken where
  key : Bytes × Nat
  paymentHash : Bytes
  shortfallMsat : Nat
  deriving DecidableEq

variable (jitFee : Bytes → Option Quote) (taken : List SkimTaken) (htlc : FinalHtlc)

def allowanceMsat (quote : Quote) (declaredTotalMsat : Nat) : Nat :=
  jitOpeningFeeMsat declaredTotalMsat ⟨max 0 quote.flatFeeSat, quote.feePpm⟩

def FinalHtlc.shortfallMsat : Nat := htlc.amountToForwardMsat - htlc.amountMsat

def claimedMsat : Nat :=
  htlc.shortfallMsat + ((taken.filter fun other => other.key ≠ htlc.key && other.paymentHash = htlc.paymentHash).map
      (·.shortfallMsat)).sum

def admitJitSkim : Option (List SkimTaken) :=
  match jitFee htlc.paymentHash with
  | none => none
  | some quote =>
    if allowanceMsat quote htlc.declaredTotalMsat = 0 then none
    else if allowanceMsat quote htlc.declaredTotalMsat < claimedMsat taken htlc then none
    else some (taken.filter (·.key ≠ htlc.key) ++ [⟨htlc.key, htlc.paymentHash, htlc.shortfallMsat⟩])

/-- The amount check of `finalHopSafetyFailure`; nothing is refused without a shortfall. -/
def finalHopAmountCheck : Option (List SkimTaken) :=
  if htlc.amountMsat < htlc.amountToForwardMsat then admitJitSkim jitFee taken htlc else some taken

end Wallet

section Served

structure Served (cfg : Quote) (parts : List HeldJitPart) (intents : List JitIntent)
    (declared : Bytes → Nat) : Prop where
  distinct : (parts.map HeldJitPart.key).Nodup
  agreed : ∀ part ∈ parts,
    ∃ intent, intentOf intents part = some intent ∧ intent.feeMode = .skim ∧ intent.acceptsSkimmedFee
  whole : ∀ part ∈ parts, totalMsat (parts.filter (·.paymentHash = part.paymentHash)) = declared part.paymentHash
  valid : validateFee cfg parts intents = none

def arrival (out : Bytes × Nat → Bytes × Nat) (declared : Bytes → Nat) (before after : HeldJitPart) : FinalHtlc where
  key := out before.key
  paymentHash := before.paymentHash
  amountMsat := after.forwardAmountMsat
  amountToForwardMsat := before.forwardAmountMsat
  declaredTotalMsat := declared before.paymentHash

def shortfallOf (hash : Bytes) (pairs : List (HeldJitPart × HeldJitPart)) : Nat :=
  ((pairs.filter (·.1.paymentHash = hash)).map fun pair =>
    pair.1.forwardAmountMsat - pair.2.forwardAmountMsat).sum

structure Accepted (cfg : Quote) (parts : List HeldJitPart) (intents : List JitIntent)
    (declared : Bytes → Nat) (jitFee : Bytes → Option Quote) (out : Bytes × Nat → Bytes × Nat) :
    Prop where
  withinAllowance : ∀ hash,
    shortfallOf hash (parts.zip (applyFee cfg parts intents)) ≤ allowanceMsat cfg (declared hash)
  admitted : ∀ order : List FinalHtlc,
    order.Perm ((parts.zip (applyFee cfg parts intents)).map fun pair => arrival out declared pair.1 pair.2) →
      (order.foldlM (finalHopAmountCheck jitFee) []).isSome
  kept : ((parts.zip (applyFee cfg parts intents)).map fun pair =>
    pair.1.forwardAmountMsat - pair.2.forwardAmountMsat).sum = pricedFeeMsat cfg parts intents
  forwards : ∀ pair ∈ parts.zip (applyFee cfg parts intents),
    0 < pair.2.forwardAmountMsat ∧ ∃ arrived ∈ pair.1.incomingAmountMsat, pair.2.forwardAmountMsat ≤ arrived

variable {cfg : Quote} {parts : List HeldJitPart} {intents : List JitIntent} {declared : Bytes → Nat}
  {part : HeldJitPart}

theorem allowanceMsat_eq (quote : Quote) (total : Nat) :
    allowanceMsat quote total = jitOpeningFeeMsat total quote := by
  unfold allowanceMsat jitOpeningFeeMsat
  rw [show (max 0 quote.flatFeeSat).toNat = quote.flatFeeSat.toNat by omega]

theorem largest_mem (found : largest parts = some part) : part ∈ parts := by
  cases parts with
  | nil => cases found
  | cons first rest =>
    simp only [largest, Option.some.injEq] at found
    subst found
    induction rest generalizing first with
    | nil => simp
    | cons next rest ih =>
      rw [List.foldl_cons]
      have member := ih (if first.forwardAmountMsat < next.forwardAmountMsat then next else first)
      rcases List.mem_cons.mp member with same | member
      · rw [same]
        split <;> simp
      · simp [member]

section

variable (served : Served cfg parts intents declared)
include served

theorem Served.feeGroups_skim : (feeGroups parts intents).skim = parts := by
  apply List.filter_eq_self.mpr
  intro part member
  obtain ⟨intent, found, mode, -⟩ := served.agreed part member
  simp [found, mode]

theorem Served.priced :
    pricedFeeMsat cfg parts intents = if parts = [] then 0 else jitOpeningFeeMsat (totalMsat parts) cfg := by
  have all : (feeGroups parts intents).skimAgreed = true := by
    apply List.all_eq_true.mpr
    intro part member
    obtain ⟨intent, found, -, accepts⟩ := served.agreed part member
    simp [found, accepts]
  unfold pricedFeeMsat skimFeeMsat
  rw [served.feeGroups_skim, all]
  simp

theorem Served.principal (member : part ∈ parts) :
    ∃ arrived ∈ part.incomingAmountMsat, part.forwardAmountMsat ≤ arrived := by
  have silent := firstRefusal_eq_none.mp served.valid (principalError part)
    (List.mem_append_left _ (List.mem_map_of_mem member))
  unfold principalError at silent
  split at silent
  · cases silent
  · rename_i arrived found
    have covers := refuseIf_eq_none.mp silent
    exact ⟨arrived, found, by omega⟩

variable {target : HeldJitPart}

theorem Served.fee_lt_largest (found : largest parts = some target) (charged : pricedFeeMsat cfg parts intents ≠ 0) :
    pricedFeeMsat cfg parts intents < target.forwardAmountMsat := by
  have silent := firstRefusal_eq_none.mp served.valid
    (skimRefusal (feeGroups parts intents).skim (pricedFeeMsat cfg parts intents)) (by simp)
  simp only [skimRefusal, served.feeGroups_skim, found, Option.bind_some] at silent
  have := refuseIf_eq_none.mp silent
  omega

end

def HeldJitPart.afterFee (feeMsat : Nat) (part target : HeldJitPart) : HeldJitPart :=
  if part.key = target.key ∧ feeMsat ≠ 0 then part.charged feeMsat else part

theorem afterFee_free (target part : HeldJitPart) : part.afterFee 0 target = part := by
  simp [HeldJitPart.afterFee]

section

variable (served : Served cfg parts intents declared)
include served

variable (found : largest parts = some target)
include found

theorem Served.pairs : parts.zip (applyFee cfg parts intents) =
      parts.map fun part => (part, part.afterFee (pricedFeeMsat cfg parts intents) target) := by
  have mapped : applyFee cfg parts intents =
      parts.map fun part => part.afterFee (pricedFeeMsat cfg parts intents) target := by
    unfold applyFee
    rw [served.feeGroups_skim, found]
    by_cases free : pricedFeeMsat cfg parts intents = 0
    · simp [free, afterFee_free]
    · simp [free, HeldJitPart.afterFee]
  rw [mapped]
  nth_rewrite 1 [← List.map_id parts]
  rw [List.zip_map']
  rfl

omit found in
theorem Served.kept_eq {target part : HeldJitPart} (found : largest parts = some target) (member : part ∈ parts) :
    part.forwardAmountMsat - (part.afterFee (pricedFeeMsat cfg parts intents) target).forwardAmountMsat =
      if part = target then pricedFeeMsat cfg parts intents else 0 := by
  by_cases free : pricedFeeMsat cfg parts intents = 0
  · simp [free, afterFee_free]
  · by_cases same : part = target
    · have bound := served.fee_lt_largest found free
      subst same
      simp only [HeldJitPart.afterFee, HeldJitPart.charged, free, ne_eq, not_false_eq_true, and_self, if_true]
      omega
    · have apart : part.key ≠ target.key := fun collide =>
        same (List.inj_on_of_nodup_map served.distinct member (largest_mem found) collide)
      simp [HeldJitPart.afterFee, apart, same]

theorem Served.sum_kept {chosen : List HeldJitPart} (among : chosen.Sublist parts) :
    (chosen.map fun part => part.forwardAmountMsat -
        (part.afterFee (pricedFeeMsat cfg parts intents) target).forwardAmountMsat).sum =
      if target ∈ chosen then pricedFeeMsat cfg parts intents else 0 := by
  have once : chosen.Nodup := (List.Nodup.of_map _ served.distinct).sublist among
  rw [List.map_congr_left fun part member => served.kept_eq found (among.subset member),
    List.sum_map_eq_nsmul_single target _ fun other apart _ => if_neg apart]
  by_cases member : target ∈ chosen
  · simp [List.count_eq_one_of_mem once member, member]
  · simp [List.count_eq_zero_of_not_mem member, member]

theorem Served.shortfallOf_eq (hash : Bytes) :
    shortfallOf hash (parts.zip (applyFee cfg parts intents)) =
      if target.paymentHash = hash then pricedFeeMsat cfg parts intents else 0 := by
  have sum := served.sum_kept found (List.filter_sublist (p := fun part => part.paymentHash = hash))
  rw [shortfallOf, served.pairs found, List.filter_map, List.map_map]
  simpa [Function.comp_def, largest_mem found] using sum

end

theorem admits_all {jitFee : Bytes → Option Quote} (key : Bytes × Nat) {order : List FinalHtlc}
    {taken : List SkimTaken} (short : ∀ htlc ∈ order, htlc.amountMsat < htlc.amountToForwardMsat →
      htlc.key = key ∧ ∃ quote, jitFee htlc.paymentHash = some quote ∧
        htlc.shortfallMsat ≤ allowanceMsat quote htlc.declaredTotalMsat) (alone : ∀ other ∈ taken, other.key = key) :
    (order.foldlM (finalHopAmountCheck jitFee) taken).isSome := by
  induction order generalizing taken with
  | nil => rfl
  | cons htlc rest ih =>
    have later := fun other member => short other (List.mem_cons_of_mem _ member)
    rw [List.foldlM_cons]
    by_cases falls : htlc.amountMsat < htlc.amountToForwardMsat
    · obtain ⟨own, quote, quoted, within⟩ := short htlc List.mem_cons_self falls
      have others : taken.filter (fun other =>
          other.key ≠ htlc.key && other.paymentHash = htlc.paymentHash) = [] := by
        apply List.filter_eq_nil_iff.mpr
        intro other member
        simp [alone other member, own]
      have claimed : claimedMsat taken htlc = htlc.shortfallMsat := by
        rw [claimedMsat, others]
        rfl
      have positive : 0 < htlc.shortfallMsat := by
        unfold FinalHtlc.shortfallMsat
        omega
      have admitted : finalHopAmountCheck jitFee taken htlc =
          some (taken.filter (·.key ≠ htlc.key) ++ [⟨htlc.key, htlc.paymentHash, htlc.shortfallMsat⟩]) := by
        rw [finalHopAmountCheck, if_pos falls, admitJitSkim, quoted]
        simp only [claimed]
        rw [if_neg (by omega), if_neg (by omega)]
      rw [admitted]
      apply ih later
      intro other member
      rcases List.mem_append.mp member with kept | new
      · exact alone other (List.mem_of_mem_filter kept)
      · rw [List.mem_singleton.mp new]
        exact own
    · rw [finalHopAmountCheck, if_neg falls]
      exact ih later alone

theorem afterFee_le (feeMsat : Nat) (target part : HeldJitPart) :
    (part.afterFee feeMsat target).forwardAmountMsat ≤ part.forwardAmountMsat := by
  unfold HeldJitPart.afterFee
  split
  · exact Nat.sub_le ..
  · exact le_rfl

def proportionalMsat (quote : Quote) (total : Nat) : Nat := total * quote.feePpm.floor.toNat / 1000000

theorem jitOpeningFeeMsat_le {total other : Nat} : jitOpeningFeeMsat total cfg ≤ jitOpeningFeeMsat other cfg ↔
      proportionalMsat cfg total ≤ proportionalMsat cfg other := by
  unfold jitOpeningFeeMsat proportionalMsat
  omega

/-- The wallet takes what the provider skims exactly if no part is empty and the rate asks no more of the
    whole set than of the one payment that the largest part belongs to. -/
theorem skim_accepted_iff {jitFee : Bytes → Option Quote} {out : Bytes × Nat → Bytes × Nat}
    (served : Served cfg parts intents declared)
    (quoted : ∀ part ∈ parts, jitFee part.paymentHash = some cfg) :
    Accepted cfg parts intents declared jitFee out ↔ (∀ part ∈ parts, 0 < part.forwardAmountMsat) ∧
        ∀ target, largest parts = some target →
          proportionalMsat cfg (totalMsat parts) ≤ proportionalMsat cfg (declared target.paymentHash) := by
  cases found : largest parts with
  | none =>
    have empty : parts = [] := by
      cases parts with
      | nil => rfl
      | cons part rest => cases found
    subst empty
    refine ⟨fun _ => by simp, fun _ => ⟨?_, ?_, ?_, ?_⟩⟩
    · simp [shortfallOf]
    · intro order same
      simp [List.perm_nil.mp same]
    · simp [served.priced]
    · simp
  | some target =>
    have member := largest_mem found
    have priced : pricedFeeMsat cfg parts intents = jitOpeningFeeMsat (totalMsat parts) cfg := by
      rw [served.priced, if_neg (List.ne_nil_of_mem member)]
    have pairs := served.pairs found
    constructor
    · intro accepted
      constructor
      · intro part held
        have positive := (accepted.forwards (part, _) (by rw [pairs]; exact List.mem_map_of_mem held)).1
        exact positive.trans_le (afterFee_le _ _ _)
      · intro other same
        cases same
        have within := accepted.withinAllowance target.paymentHash
        rwa [served.shortfallOf_eq found, if_pos rfl, allowanceMsat_eq, priced, jitOpeningFeeMsat_le] at within
    · rintro ⟨positive, within⟩
      have within := jitOpeningFeeMsat_le.mpr (within target rfl)
      refine ⟨?_, ?_, ?_, ?_⟩
      · intro hash
        rw [served.shortfallOf_eq found, allowanceMsat_eq]
        split
        · rename_i own
          rw [priced, ← own]
          exact within
        · exact Nat.zero_le _
      · intro order same
        refine admits_all (out target.key) (fun htlc ordered falls => ?_) (by simp)
        rw [pairs] at same
        obtain ⟨pair, paired, rfl⟩ := List.mem_map.mp (same.subset ordered)
        obtain ⟨part, held, rfl⟩ := List.mem_map.mp paired
        have kept := served.kept_eq found held
        have own : part = target := by
          by_contra other
          rw [if_neg other] at kept
          have : (part.afterFee (pricedFeeMsat cfg parts intents) target).forwardAmountMsat <
            part.forwardAmountMsat := falls
          omega
        refine ⟨by rw [own]; rfl, cfg, quoted part held, ?_⟩
        rw [if_pos own] at kept
        subst own
        rw [allowanceMsat_eq]
        exact kept.le.trans (priced.le.trans within)
      · rw [pairs, List.map_map]
        exact (served.sum_kept found (List.Sublist.refl _)).trans (if_pos member)
      · intro pair paired
        rw [pairs] at paired
        obtain ⟨part, held, rfl⟩ := List.mem_map.mp paired
        obtain ⟨arrived, recorded, covers⟩ := served.principal held
        have least := afterFee_le (pricedFeeMsat cfg parts intents) target part
        refine ⟨?_, arrived, recorded, least.trans covers⟩
        have kept := served.kept_eq found held
        have some := positive part held
        show 0 < (part.afterFee (pricedFeeMsat cfg parts intents) target).forwardAmountMsat
        by_cases free : pricedFeeMsat cfg parts intents = 0
        · rw [free, afterFee_free]
          exact some
        · by_cases own : part = target
          · rw [if_pos own] at kept
            have bound := served.fee_lt_largest found free
            subst own
            omega
          · rw [if_neg own] at kept
            omega

section Samples

def sampleQuote : Quote := ⟨1, 10000⟩

def sampleIntents : List JitIntent := [⟨"ffffff000001", true, .skim⟩, ⟨"ffffff000002", true, .skim⟩]

def samplePart (htlcId : Nat) (hash : Bytes) (amountMsat : Nat) (scid : String) : HeldJitPart where
  inChannelId := [7]
  inHtlcId := htlcId
  paymentHash := hash
  incomingAmountMsat := some amountMsat
  forwardAmountMsat := amountMsat
  skimmedFeeMsat := none
  intentScidHex := some scid

def twoPayments : List HeldJitPart :=
  [samplePart 0 [1] 2000000 "ffffff000001", samplePart 1 [2] 1500000 "ffffff000002"]

def onePayment : List HeldJitPart :=
  [samplePart 0 [1] 2000000 "ffffff000001", samplePart 1 [1] 1500000 "ffffff000002"]

theorem twoPayments_served :
    Served sampleQuote twoPayments sampleIntents fun hash => if hash = [1] then 2000000 else 1500000 where
  distinct := by decide
  agreed := by decide
  whole := by decide
  valid := by decide

theorem onePayment_served : Served sampleQuote onePayment sampleIntents fun _ => 3500000 where
  distinct := by decide
  agreed := by decide
  whole := by decide
  valid := by decide

end Samples

/-- The largest part falls 36000 msat short, and its wallet lets 21000 pass. -/
theorem skim_over_allowance :
    ∃ parts declared, Served sampleQuote parts sampleIntents declared ∧
      shortfallOf [1] (parts.zip (applyFee sampleQuote parts sampleIntents)) = 36000 ∧
      allowanceMsat sampleQuote (declared [1]) = 21000 ∧
      (applyFee sampleQuote parts sampleIntents).head?.map (·.forwardAmountMsat) = some 1964000 ∧
      finalHopAmountCheck (fun _ => some sampleQuote) [] ⟨([7], 0), [1], 1964000, 2000000, 2000000⟩ = none :=
  ⟨twoPayments, _, twoPayments_served, by decide, by decide, by decide,
    by decide⟩

theorem skim_accepted_onePayment :
    Accepted sampleQuote onePayment sampleIntents (fun _ => 3500000) (fun _ => some sampleQuote) id :=
  (skim_accepted_iff onePayment_served fun _ _ => rfl).mpr ⟨by decide, by decide⟩

end Served

end Beignet.Liquidity
