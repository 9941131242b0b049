import Mathlib

namespace Beignet.Invoice

inductive Network
  | mainnet
  | testnet
  | regtest
  | signet
  deriving DecidableEq, Repr

def Network.text : Network → List Char
  | .mainnet => ['b', 'c']
  | .testnet => ['t', 'b']
  | .regtest => ['b', 'c', 'r', 't']
  | .signet => ['t', 'b', 's']

section Amounts

inductive Multiplier
  | milli
  | micro
  | nano
  | pico
  deriving DecidableEq, Repr

def Multiplier.suffix : Multiplier → Char
  | .milli => 'm'
  | .micro => 'u'
  | .nano => 'n'
  | .pico => 'p'

/-- Millisatoshis per unit; a pico is a tenth of one and has a case of its own. -/
def Multiplier.msatPerUnit : Multiplier → Nat
  | .milli => 100000000
  | .micro => 100000
  | .nano => 100
  | .pico => 1

def btcToMsat : Nat := 100000000000

def msatToHrpAmount (amountMsat : Int) : Except String (List Char) :=
  let amount := amountMsat.toNat
  if amountMsat ≤ 0 then .error "Amount must be positive"
  else if amount % btcToMsat = 0 then .ok (Nat.toDigits 10 (amount / btcToMsat))
  else if amount % Multiplier.milli.msatPerUnit = 0 then
    .ok (Nat.toDigits 10 (amount / Multiplier.milli.msatPerUnit) ++ [Multiplier.milli.suffix])
  else if amount % Multiplier.micro.msatPerUnit = 0 then
    .ok (Nat.toDigits 10 (amount / Multiplier.micro.msatPerUnit) ++ [Multiplier.micro.suffix])
  else if amount % Multiplier.nano.msatPerUnit = 0 then
    .ok (Nat.toDigits 10 (amount / Multiplier.nano.msatPerUnit) ++ [Multiplier.nano.suffix])
  else .ok (Nat.toDigits 10 (amount * 10) ++ [Multiplier.pico.suffix])

def multiplierOf (c : Char) : Option Multiplier :=
  [Multiplier.milli, .micro, .nano, .pico].find? fun multiplier => multiplier.suffix = c

def digitsProblem (digits : List Char) (message : String) : Option String :=
  if digits = [] ∨ digits.all Char.isDigit = false then some message
  else if digits.length > 1 ∧ digits.head? = some '0' then some "Leading zeros in amount"
  else none

def parseHrpAmount (amountStr : List Char) : Except String Nat :=
  match amountStr.getLast? with
  | none => .error "Empty amount string"
  | some lastChar =>
    match multiplierOf lastChar with
    | some multiplier =>
      let digits := amountStr.dropLast
      let text := String.ofList digits
      match digitsProblem digits s!"Invalid amount digits: \"{text}\"" with
      | some problem => .error problem
      | none =>
        let coefficient := Nat.ofDigitChars 10 digits 0
        if multiplier = .pico then
          if coefficient % 10 ≠ 0 then .error "Pico amount not divisible by 10 (sub-millisatoshi)"
          else .ok (coefficient / 10)
        else .ok (coefficient * multiplier.msatPerUnit)
    | none =>
      let text := String.ofList amountStr
      match digitsProblem amountStr s!"Invalid amount: \"{text}\"" with
      | some problem => .error problem
      | none => .ok (Nat.ofDigitChars 10 amountStr 0 * btcToMsat)

def hrpAmountToMsat (amountStr : List Char) : Except String Nat :=
  match parseHrpAmount amountStr with
  | .error problem => .error problem
  | .ok amountMsat => if amountMsat = 0 then .error "Amount must be positive" else .ok amountMsat

variable {value : Nat} {c : Char} {text : List Char}

theorem head?_toDigits_ne_zero (positive : 0 < value) : (Nat.toDigits 10 value).head? ≠ some '0' := by
  induction value using Nat.strong_induction_on with
  | _ value ih =>
    by_cases small : value < 10
    · rw [Nat.toDigits_of_lt_base small]
      have cases : value = 1 ∨ value = 2 ∨ value = 3 ∨ value = 4 ∨ value = 5 ∨ value = 6 ∨ value = 7 ∨ value = 8 ∨
          value = 9 := by omega
      rcases cases with rfl | rfl | rfl | rfl | rfl | rfl | rfl | rfl | rfl <;> decide
    · rw [Nat.toDigits_of_base_le (by decide) (by omega), List.head?_append_of_ne_nil _ Nat.toDigits_ne_nil]
      exact ih (value / 10) (by omega) (by omega)

theorem digitsProblem_toDigits (value : Nat) (message : String) : digitsProblem (Nat.toDigits 10 value) message = none := by
  have digits : (Nat.toDigits 10 value).all Char.isDigit = true := by
    rw [List.all_eq_true]
    intro c member
    exact Nat.isDigit_of_mem_toDigits (by decide) (by decide) member
  unfold digitsProblem
  rw [if_neg (by simp [Nat.toDigits_ne_nil, digits]), if_neg]
  rintro ⟨long, zero⟩
  rcases Nat.eq_zero_or_pos value with rfl | positive
  · rw [Nat.toDigits_zero] at long
    exact absurd long (by decide)
  · exact head?_toDigits_ne_zero positive zero

theorem getLast?_toDigits_isDigit (last : (Nat.toDigits 10 value).getLast? = some c) : c.isDigit = true :=
  Nat.isDigit_of_mem_toDigits (by decide) (by decide) (List.mem_of_getLast? last)

theorem multiplierOf_eq_none_of_isDigit (digit : c.isDigit = true) : multiplierOf c = none := by
  unfold multiplierOf
  rw [List.find?_eq_none]
  intro multiplier _ same
  rw [decide_eq_true_eq] at same
  rw [← same] at digit
  revert digit
  cases multiplier <;> decide

theorem multiplierOf_suffix (multiplier : Multiplier) : multiplierOf multiplier.suffix = some multiplier := by
  cases multiplier <;> decide

theorem parseHrpAmount_toDigits (value : Nat) : parseHrpAmount (Nat.toDigits 10 value) = .ok (value * btcToMsat) := by
  unfold parseHrpAmount
  cases last : (Nat.toDigits 10 value).getLast? with
  | none => exact absurd (List.getLast?_eq_none_iff.mp last) Nat.toDigits_ne_nil
  | some c =>
    dsimp only
    rw [multiplierOf_eq_none_of_isDigit (getLast?_toDigits_isDigit last)]
    dsimp only
    rw [digitsProblem_toDigits, Nat.ofDigitChars_ten_toDigits]

theorem parseHrpAmount_suffixed (value : Nat) (multiplier : Multiplier) :
    parseHrpAmount (Nat.toDigits 10 value ++ [multiplier.suffix]) =
      if multiplier = .pico then
        if value % 10 ≠ 0 then .error "Pico amount not divisible by 10 (sub-millisatoshi)" else .ok (value / 10)
      else .ok (value * multiplier.msatPerUnit) := by
  unfold parseHrpAmount
  rw [List.getLast?_concat]
  dsimp only
  rw [multiplierOf_suffix, List.dropLast_concat]
  dsimp only
  rw [digitsProblem_toDigits, Nat.ofDigitChars_ten_toDigits]

theorem hrpAmountToMsat_of_parse {amount : Nat} (parsed : parseHrpAmount text = .ok amount)
    (positive : 0 < amount) : hrpAmountToMsat text = .ok amount := by
  unfold hrpAmountToMsat
  rw [parsed]
  dsimp only
  rw [if_neg (by omega)]

def StartsWithDigit (text : List Char) : Prop := ∃ c rest, text = c :: rest ∧ c.isDigit = true

theorem startsWithDigit_toDigits (value : Nat) (rest : List Char) : StartsWithDigit (Nat.toDigits 10 value ++ rest) := by
  cases digits : Nat.toDigits 10 value with
  | nil => exact absurd digits Nat.toDigits_ne_nil
  | cons c tail =>
    refine ⟨c, tail ++ rest, rfl, Nat.isDigit_of_mem_toDigits (by decide) (by decide) (?_ : c ∈ Nat.toDigits 10 value)⟩
    rw [digits]
    exact List.mem_cons_self

theorem hrpAmountToMsat_msatToHrpAmount {amountMsat : Int} (written : msatToHrpAmount amountMsat = .ok text) :
    StartsWithDigit text ∧ hrpAmountToMsat text = .ok amountMsat.toNat := by
  unfold msatToHrpAmount at written
  dsimp only at written
  split at written
  · cases written
  · have positive : 0 < amountMsat.toNat := by omega
    split at written
    · rename_i whole
      cases written
      have amount := Nat.div_mul_cancel (Nat.dvd_of_mod_eq_zero whole)
      refine ⟨by simpa using startsWithDigit_toDigits (amountMsat.toNat / btcToMsat) [], ?_⟩
      exact hrpAmountToMsat_of_parse ((parseHrpAmount_toDigits _).trans (by rw [amount])) positive
    · have suffixed : ∀ multiplier : Multiplier, multiplier ≠ .pico → amountMsat.toNat % multiplier.msatPerUnit = 0 →
          hrpAmountToMsat (Nat.toDigits 10 (amountMsat.toNat / multiplier.msatPerUnit) ++ [multiplier.suffix]) =
            .ok amountMsat.toNat := by
        intro multiplier larger divides
        have amount := Nat.div_mul_cancel (Nat.dvd_of_mod_eq_zero divides)
        apply hrpAmountToMsat_of_parse _ positive
        rw [parseHrpAmount_suffixed, if_neg larger, amount]
      split at written
      · rename_i divides
        cases written
        exact ⟨startsWithDigit_toDigits _ _, suffixed .milli (by decide) divides⟩
      · split at written
        · rename_i divides
          cases written
          exact ⟨startsWithDigit_toDigits _ _, suffixed .micro (by decide) divides⟩
        · split at written
          · rename_i divides
            cases written
            exact ⟨startsWithDigit_toDigits _ _, suffixed .nano (by decide) divides⟩
          · cases written
            refine ⟨startsWithDigit_toDigits _ _, hrpAmountToMsat_of_parse ?_ positive⟩
            rw [parseHrpAmount_suffixed, if_pos rfl, if_neg (by omega), Nat.mul_div_cancel _ (by decide)]

end Amounts

section HumanReadablePart

def networksByLength : List Network := [.regtest, .signet, .mainnet, .testnet]

def parseHrp (hrp : List Char) : Except String (Network × Option Nat) :=
  let text := String.ofList hrp
  if ['l', 'n'].isPrefixOf hrp = false then .error s!"Invalid HRP: must start with \"ln\", got \"{text}\""
  else
    let afterLn := hrp.drop 2
    match networksByLength.find? fun network => network.text.isPrefixOf afterLn with
    | none => .error s!"Unknown network prefix in HRP: \"{text}\""
    | some network =>
      let amountPart := afterLn.drop network.text.length
      if amountPart = [] then .ok (network, none)
      else (hrpAmountToMsat amountPart).map fun amountMsat => (network, some amountMsat)

variable (network : Network) {text : List Char}

def buildHrp (amountMsat : Option Int) : Except String (List Char) :=
  match amountMsat with
  | none => .ok (['l', 'n'] ++ network.text)
  | some amountMsat => (msatToHrpAmount amountMsat).map fun text => ['l', 'n'] ++ network.text ++ text

theorem find?_network (digits : text = [] ∨ StartsWithDigit text) :
    (networksByLength.find? fun other => other.text.isPrefixOf (network.text ++ text)) = some network := by
  rcases digits with rfl | ⟨c, rest, rfl, digit⟩
  · cases network <;> decide
  · have notR : ('r' == c) = false := by
      rw [beq_eq_false_iff_ne]
      rintro rfl
      exact absurd digit (by decide)
    have notS : ('s' == c) = false := by
      rw [beq_eq_false_iff_ne]
      rintro rfl
      exact absurd digit (by decide)
    cases network <;> simp [networksByLength, Network.text, List.isPrefixOf, List.find?, notR, notS]

theorem parseHrp_append (digits : text = [] ∨ StartsWithDigit text) : parseHrp (['l', 'n'] ++ network.text ++ text) =
      if text = [] then .ok (network, none)
      else (hrpAmountToMsat text).map fun amountMsat => (network, some amountMsat) := by
  unfold parseHrp
  dsimp only
  rw [if_neg (by simp [List.isPrefixOf])]
  have after : (['l', 'n'] ++ network.text ++ text).drop 2 = network.text ++ text := rfl
  rw [after, find?_network network digits]
  dsimp only
  rw [List.drop_left]

theorem parseHrp_buildHrp {network : Network} {amountMsat : Option Int} {hrp : List Char}
    (built : buildHrp network amountMsat = .ok hrp) : parseHrp hrp = .ok (network, amountMsat.map Int.toNat) := by
  cases amountMsat with
  | none =>
    cases built
    have parsed : parseHrp (['l', 'n'] ++ network.text ++ []) = _ := parseHrp_append network (.inl rfl)
    rwa [List.append_nil, if_pos rfl] at parsed
  | some amount =>
    unfold buildHrp at built
    dsimp only at built
    cases written : msatToHrpAmount amount with
    | error problem =>
      rw [written] at built
      cases built
    | ok text =>
      rw [written] at built
      cases built
      obtain ⟨digits, read⟩ := hrpAmountToMsat_msatToHrpAmount written
      have nonempty : text ≠ [] := by
        obtain ⟨c, rest, rfl, -⟩ := digits
        exact List.cons_ne_nil c rest
      rw [parseHrp_append network (.inr digits), if_neg nonempty, read]
      rfl

end HumanReadablePart

end Beignet.Invoice
