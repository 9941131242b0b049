import Beignet.Data.RelayFees
import Beignet.Ffor.Amounts

namespace Beignet.Ffor

open Beignet.Data

def IssuerHop.terms (hop : IssuerHop) : FeeTerms := ⟨hop.feeBaseMsat, hop.feeProportionalMillionths⟩

def BlindedPayInfo.terms (info : BlindedPayInfo) : FeeTerms :=
  ⟨info.feeBaseMsat, info.feeProportionalMillionths⟩

def arrivingAmount (ups : List IssuerHop) (sent : Int) : Int :=
  ups.foldl (fun amount up => up.blindedOutAmount amount) sent

section Terms

theorem upstream_terms (info : BlindedPayInfo) (up : IssuerHop) :
    (info.upstream up).terms = FeeTerms.fold 1000000 up.terms info.terms := rfl

theorem foldl_upstream_terms (ups : List IssuerHop) (info : BlindedPayInfo) :
    (ups.foldl BlindedPayInfo.upstream info).terms =
      (ups.reverse.map IssuerHop.terms).foldr (FeeTerms.fold 1000000) info.terms := by
  induction ups generalizing info with
  | nil => rfl
  | cons up rest ih => simp [ih, upstream_terms]

theorem aggregateBlindedPayInfo_terms (ups : List IssuerHop) (s : IssuerHop) :
    ∃ info, aggregateBlindedPayInfo (ups ++ [s]) = .ok info ∧
      info.terms = (ups.map IssuerHop.terms).foldr (FeeTerms.fold 1000000) s.terms := by
  have terms := foldl_upstream_terms ups.reverse (.ofHop s)
  rw [List.reverse_reverse] at terms
  simp only [aggregateBlindedPayInfo, List.reverse_append, List.reverse_singleton, List.singleton_append]
  exact ⟨_, rfl, terms⟩

end Terms

section Drift

variable {d k amount : Nat}

theorem tdiv_roundUp (x prop : Nat) : ((x : Int) * 1000000 + (1000000 + prop) - 1).tdiv (1000000 + prop) =
      ((x * 1000000) ⌈/⌉ (1000000 + prop) : Nat) := by
  have numerator : (x : Int) * 1000000 + (1000000 + prop) - 1 =
      ((x * 1000000 + (1000000 + prop) - 1 : Nat) : Int) := by omega
  have divisor : (1000000 + prop : Int) = ((1000000 + prop : Nat) : Int) := by push_cast; rfl
  rw [Nat.ceilDiv_eq_add_pred_div, numerator, divisor, ← Int.ofNat_tdiv]

theorem blindedOutAmount_eq {up : IssuerHop} (covers : up.feeBaseMsat ≤ amount) :
    up.blindedOutAmount amount = (up.terms.invert 1000000 amount : Nat) := by
  have rest : (amount : Int) - up.feeBaseMsat = ((amount - up.feeBaseMsat : Nat) : Int) := by omega
  simp only [IssuerHop.blindedOutAmount, rest, FeeTerms.invert, IssuerHop.terms]
  exact tdiv_roundUp _ _

theorem inverseAmtToForward_eq {s : IssuerHop} (covers : s.feeBaseMsat ≤ amount) :
    inverseAmtToForward amount s.feeBaseMsat s.feeProportionalMillionths =
      some ((s.terms.invert 1000000 amount : Nat) : Int) := by
  have enough : ¬ (amount : Int) < s.feeBaseMsat := by omega
  have rest : (amount : Int) - s.feeBaseMsat = ((amount - s.feeBaseMsat : Nat) : Int) := by omega
  rw [inverseAmtToForward, if_neg enough, rest, add_assoc _ 1000000, tdiv_roundUp]
  rfl

theorem arrivingAmount_eq {ups : List IssuerHop} {t : FeeTerms}
    (within : FeeTerms.Within 1000000 d ((ups.map IssuerHop.terms).foldr (FeeTerms.fold 1000000) t) k amount) :
    arrivingAmount ups amount =
      ((ups.map IssuerHop.terms).foldl (fun amount up => up.invert 1000000 amount) amount : Nat) := by
  induction ups generalizing k amount with
  | nil => rfl
  | cons up rest ih =>
    have covers : up.feeBaseMsat ≤ amount := by
      refine le_trans ?_ ((Nat.le_add_right _ _).trans within.covers)
      simp only [List.map_cons, List.foldr_cons, FeeTerms.fold, IssuerHop.terms]
      omega
    rw [arrivingAmount, List.foldl_cons, blindedOutAmount_eq covers]
    exact ih (within.invert (by decide))

theorem slack_of_drift {f : Nat} (drift : 1000000 * f ≤ 1000000 * d + (k + 1) * (2 * 1000000 + d))
    (few : k + 1 ≤ blindedHopsN) : f ≤ d + roundingSlackMsat d := by
  have most : (k + 1) * (2 * 1000000 + d) ≤ 8 * (2 * 1000000 + d) := Nat.mul_le_mul_right _ few
  simp only [roundingSlackMsat, blindedHopsN]
  omega

end Drift

/-- A payer that adds the aggregated fee to `d` pays for every relay: the last one derives an amount of at
    least `d` and at most the slack above it, keeps its own fee, and finds nothing wrong. -/
theorem blinded_fees_settle (ups : List IssuerHop) (s : IssuerHop) (d finalCltvExpiry : Nat)
    (few : (ups ++ [s]).length ≤ blindedHopsN) :
    ∃ info f, aggregateBlindedPayInfo (ups ++ [s]) = .ok info ∧
      let arrived := arrivingAmount ups (info.atIntro d finalCltvExpiry).amountMsat
      inverseAmtToForward arrived s.feeBaseMsat s.feeProportionalMillionths = some f ∧
      (d : Int) ≤ f ∧ f ≤ d + roundingSlackMsat d ∧
      ∀ amtToForwardMsat advertisedFee, AmountCheckInput.checkDelegatedAmounts
          { payeeAmountMsat := d
            amountMsat := arrived
            amtToForwardMsat := amtToForwardMsat
            hopKind := .blinded
            feeBaseMsat := s.feeBaseMsat
            feeProportionalMillionths := s.feeProportionalMillionths
            advertisedFee := advertisedFee } = none := by
  obtain ⟨info, aggregated, terms⟩ := aggregateBlindedPayInfo_terms ups s
  have sent : FeeTerms.Within 1000000 d info.terms 0 (info.atIntro d finalCltvExpiry).amountMsat := by
    have paid := FeeTerms.within_sent (m := 1000000) (d := d) (t := info.terms) (by decide)
    rw [add_assoc] at paid
    exact paid
  rw [terms] at sent
  have arrives := arrivingAmount_eq sent
  have within := sent.relay (by decide)
  generalize (ups.map IssuerHop.terms).foldl (fun amount up => up.invert 1000000 amount)
    (info.atIntro d finalCltvExpiry).amountMsat = arrived at arrives within
  obtain ⟨enough, drift, keeps⟩ := within.deliver (by decide)
  have base : s.feeBaseMsat ≤ arrived := by
    have covers := within.covers
    simp only [IssuerHop.terms] at covers
    omega
  have forwards := inverseAmtToForward_eq base
  have slack : s.terms.invert 1000000 arrived ≤ d + roundingSlackMsat d := by
    refine slack_of_drift drift ?_
    simpa [Nat.add_comm] using few
  refine ⟨info, (s.terms.invert 1000000 arrived : Nat), aggregated, ?_⟩
  rw [arrives]
  refine ⟨forwards, by exact_mod_cast enough, by exact_mod_cast slack, ?_⟩
  intro amtToForwardMsat advertisedFee
  generalize s.terms.invert 1000000 arrived = f at *
  have fee : (feeS d s.feeBaseMsat s.feeProportionalMillionths : Int) ≤ arrived - f := by
    have keeps : f + feeS d s.feeBaseMsat s.feeProportionalMillionths ≤ arrived := keeps
    omega
  have under : ¬ (f : Int) < d := by omega
  have exceeds : ¬ (d + roundingSlackMsat d : Int) < f := by omega
  simp only [AmountCheckInput.checkDelegatedAmounts, AmountCheckInput.forwardAmount, forwards, if_neg under,
    if_neg exceeds, if_pos fee]

theorem blinded_fees_settle_three :
    [IssuerHop.mk 7 333 40 0 0, ⟨1001, 2500, 34, 1, 0⟩, ⟨1, 999999, 80, 0, 0⟩].length ≤ blindedHopsN ∧
      ∃ info f, aggregateBlindedPayInfo [⟨7, 333, 40, 0, 0⟩, ⟨1001, 2500, 34, 1, 0⟩, ⟨1, 999999, 80, 0, 0⟩] =
          .ok info ∧
        inverseAmtToForward (arrivingAmount [⟨7, 333, 40, 0, 0⟩, ⟨1001, 2500, 34, 1, 0⟩]
          (info.atIntro 12345 18).amountMsat) 1 999999 = some f ∧ 12345 ≤ f := by
  obtain ⟨info, f, aggregated, forwards, enough, -⟩ :=
    blinded_fees_settle [⟨7, 333, 40, 0, 0⟩, ⟨1001, 2500, 34, 1, 0⟩] ⟨1, 999999, 80, 0, 0⟩ 12345 18 (by decide)
  exact ⟨by decide, info, f, aggregated, forwards, enough⟩

theorem checkDelegatedAmounts_blinded (d base ppm : Nat) (forward : Option Int) (advertised : Option FeePolicy) :
    let gross : Int := grossIntoS d base ppm
    let check (a : Int) := AmountCheckInput.checkDelegatedAmounts ⟨d, a, forward, .blinded, base, ppm, advertised⟩
    (∀ a, check a = none ↔
        gross ≤ a ∧ ∃ f, inverseAmtToForward a base ppm = some f ∧ f ≤ d + roundingSlackMsat d) ∧
      check gross = none ∧ inverseAmtToForward gross base ppm = some (d : Int) ∧ (∀ a < gross, check a ≠ none) ∧
      ∀ a, check a = none → ∃ f, inverseAmtToForward a base ppm = some f ∧ feeS d base ppm ≤ a - f := by
  intro gross check
  have sum : gross = d + feeS d base ppm := Nat.cast_add ..
  have forwards (a : Int) (covers : gross ≤ a) :
      ∃ f, inverseAmtToForward a base ppm = some f ∧ d ≤ f ∧ feeS d base ppm ≤ a - f := by
    obtain ⟨amount, rfl⟩ := Int.eq_ofNat_of_zero_le (covers.trans' (Int.natCast_nonneg _))
    let s : IssuerHop := ⟨base, ppm, 0, 0, 0⟩
    have paid : d + base + d * ppm / 1000000 ≤ amount := by
      rw [add_assoc]
      exact Int.ofNat_le.mp covers
    have least : base ≤ amount := (Nat.le_add_left base d).trans ((Nat.le_add_right ..).trans paid)
    obtain ⟨enough, -, keeps⟩ := (FeeTerms.within_of_covers (t := s.terms) (by decide) paid).deliver (by decide)
    have keeps : s.terms.invert 1000000 amount + feeS d base ppm ≤ amount := keeps
    exact ⟨_, inverseAmtToForward_eq (s := s) least, by exact_mod_cast enough, by omega⟩
  have accepts (a : Int) : check a = none ↔
      gross ≤ a ∧ ∃ f, inverseAmtToForward a base ppm = some f ∧ f ≤ d + roundingSlackMsat d := by
    have covered := forwards a
    simp only [check, AmountCheckInput.checkDelegatedAmounts, AmountCheckInput.forwardAmount, reduceCtorEq, if_false]
    cases out : inverseAmtToForward a base ppm with
    | none => simp
    | some f =>
      simp only [out, Option.some.injEq, exists_eq_left'] at covered ⊢
      split_ifs with below above
      · exact iff_of_false nofun (by omega)
      · exact iff_of_false nofun (by omega)
      · dsimp only
        split_ifs
        · exact iff_of_true rfl (by omega)
        · exact iff_of_false nofun (by omega)
  obtain ⟨f, out, enough, keeps⟩ := forwards gross le_rfl
  obtain rfl : f = d := by omega
  refine ⟨accepts, (accepts gross).mpr ⟨le_rfl, d, out, by omega⟩, out, ?_, ?_⟩
  · intro a short accepted
    exact short.not_ge ((accepts a).mp accepted).1
  · intro a accepted
    obtain ⟨f, out, -, keeps⟩ := forwards a ((accepts a).mp accepted).1
    exact ⟨f, out, keeps⟩

end Beignet.Ffor
