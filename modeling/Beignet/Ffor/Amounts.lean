import Mathlib

namespace Beignet.Ffor

structure IssuerHop where
  feeBaseMsat : Nat
  feeProportionalMillionths : Nat
  cltvExpiryDelta : Nat
  htlcMinimumMsat : Nat
  htlcMaximumMsat : Nat
  deriving DecidableEq, Repr

structure BlindedPayInfo where
  feeBaseMsat : Nat
  feeProportionalMillionths : Nat
  cltvExpiryDelta : Nat
  htlcMinimumMsat : Nat
  htlcMaximumMsat : Nat
  deriving DecidableEq, Repr

section Issuer

/-- One turn of the loop of `aggregateBlindedPayInfo`, with `Math.ceil` as the exact ceiling. -/
def BlindedPayInfo.upstream (info : BlindedPayInfo) (up : IssuerHop) : BlindedPayInfo where
  feeBaseMsat := up.feeBaseMsat + info.feeBaseMsat + (info.feeBaseMsat * up.feeProportionalMillionths) ⌈/⌉ 1000000
  feeProportionalMillionths := up.feeProportionalMillionths + info.feeProportionalMillionths +
    (up.feeProportionalMillionths * info.feeProportionalMillionths) ⌈/⌉ 1000000
  cltvExpiryDelta := up.cltvExpiryDelta + info.cltvExpiryDelta
  htlcMinimumMsat :=
    if info.htlcMinimumMsat < up.htlcMinimumMsat then up.htlcMinimumMsat else info.htlcMinimumMsat
  htlcMaximumMsat :=
    if 0 < up.htlcMaximumMsat ∧ (info.htlcMaximumMsat = 0 ∨ up.htlcMaximumMsat < info.htlcMaximumMsat) then
      up.htlcMaximumMsat
    else info.htlcMaximumMsat

def BlindedPayInfo.ofHop (hop : IssuerHop) : BlindedPayInfo where
  feeBaseMsat := hop.feeBaseMsat
  feeProportionalMillionths := hop.feeProportionalMillionths
  cltvExpiryDelta := hop.cltvExpiryDelta
  htlcMinimumMsat := hop.htlcMinimumMsat
  htlcMaximumMsat := hop.htlcMaximumMsat

def aggregateBlindedPayInfo (relayHops : List IssuerHop) : Except String BlindedPayInfo :=
  match relayHops.reverse with
  | [] => .error "a payment path needs at least one relay hop"
  | last :: ups =>
    let info := ups.foldl BlindedPayInfo.upstream (.ofHop last)
    .ok { info with
      htlcMaximumMsat := if 0 < info.htlcMaximumMsat then info.htlcMaximumMsat
        else 21000000 * 100000000 * 1000 }

end Issuer

section Payer

structure AtIntro where
  amountMsat : Nat
  cltvExpiry : Nat
  blindedFeeMsat : Nat
  deriving DecidableEq, Repr

def BlindedPayInfo.atIntro (info : BlindedPayInfo) (amountMsat finalCltvExpiry : Nat) : AtIntro :=
  let blindedFeeMsat := info.feeBaseMsat + amountMsat * info.feeProportionalMillionths / 1000000
  { amountMsat := amountMsat + blindedFeeMsat
    cltvExpiry := finalCltvExpiry + info.cltvExpiryDelta
    blindedFeeMsat := blindedFeeMsat }

end Payer

section Relay

/-- What a blinded relay passes on; the quotient is that of the source, which rounds towards zero. -/
def IssuerHop.blindedOutAmount (relay : IssuerHop) (incomingAmountMsat : Int) : Int :=
  let propPlusOne : Int := 1000000 + relay.feeProportionalMillionths
  ((incomingAmountMsat - relay.feeBaseMsat) * 1000000 + propPlusOne - 1).tdiv propPlusOne

end Relay

section Delegate

def feeS (amountMsat feeBaseMsat feeProportionalMillionths : Nat) : Nat :=
  feeBaseMsat + amountMsat * feeProportionalMillionths / 1000000

def grossIntoS (amountMsat feeBaseMsat feeProportionalMillionths : Nat) : Nat :=
  amountMsat + feeS amountMsat feeBaseMsat feeProportionalMillionths

def inverseAmtToForward (amountMsat : Int) (feeBaseMsat feeProportionalMillionths : Nat) : Option Int :=
  if amountMsat < feeBaseMsat then none
  else
    some (((amountMsat - feeBaseMsat) * 1000000 + 1000000 + feeProportionalMillionths - 1).tdiv
      (1000000 + feeProportionalMillionths))

def blindedHopsN : Nat := 8

def roundingSlackMsat (amountMsat : Nat) : Nat :=
  2 * blindedHopsN + 1 + (blindedHopsN * amountMsat + 1000000 - 1) / 1000000

inductive HopKind where
  | plaintext
  | blinded
  deriving DecidableEq, Repr

structure FeePolicy where
  feeBaseMsat : Nat
  feeProportionalMillionths : Nat
  deriving DecidableEq, Repr

structure AmountCheckInput where
  payeeAmountMsat : Nat
  amountMsat : Int
  amtToForwardMsat : Option Int
  hopKind : HopKind
  feeBaseMsat : Nat
  feeProportionalMillionths : Nat
  advertisedFee : Option FeePolicy
  deriving DecidableEq, Repr

inductive AmountReason where
  | underpay
  | overpay
  | missingAmount
  | feeInsufficient
  deriving DecidableEq, Repr

structure AmountRefusal where
  check : Nat
  reason : AmountReason
  deriving DecidableEq, Repr

namespace AmountCheckInput

variable (input : AmountCheckInput)

def forwardAmount : Except AmountRefusal Int :=
  let d := input.payeeAmountMsat
  match input.hopKind with
  | .blinded =>
    match inverseAmtToForward input.amountMsat input.feeBaseMsat input.feeProportionalMillionths with
    | none => .error ⟨1, .underpay⟩
    | some forward =>
      if forward < d then .error ⟨1, .underpay⟩
      else if d + roundingSlackMsat d < forward then .error ⟨1, .overpay⟩
      else .ok forward
  | .plaintext =>
    match input.amtToForwardMsat with
    | none => .error ⟨1, .missingAmount⟩
    | some forward =>
      if forward < d then .error ⟨1, .underpay⟩
      else if d < forward then .error ⟨1, .overpay⟩
      else .ok forward

def checkDelegatedAmounts : Option AmountRefusal :=
  let d := input.payeeAmountMsat
  match input.forwardAmount with
  | .error refusal => some refusal
  | .ok forward =>
    let paid := input.amountMsat - forward
    if feeS d input.feeBaseMsat input.feeProportionalMillionths ≤ paid then none
    else
      let advertised := if input.hopKind = .plaintext then input.advertisedFee else none
      match advertised with
      | some fee =>
        if feeS d fee.feeBaseMsat fee.feeProportionalMillionths ≤ paid then none
        else some ⟨2, .feeInsufficient⟩
      | none => some ⟨2, .feeInsufficient⟩

end AmountCheckInput

end Delegate

end Beignet.Ffor
