import Mathlib

namespace Beignet.TwoLogs

/-! Two sides that keep a log each and vouch for prefixes of both.

A side sends every update of its log to the other over a queue that keeps the order. A signature
vouches for all of the signer's own log and for as much of the other log as the signer has revoked
for. Whoever gets a signature revokes for everything that has arrived, and the revocation, on its way
back, acknowledges the signature. A side has one signature out at a time. -/

inductive Side where
  | left
  | right
  deriving DecidableEq, Repr

namespace Side

def other : Side → Side
  | left => right
  | right => left

@[simp] theorem other_other (x : Side) : x.other.other = x := by cases x <;> rfl

@[simp] theorem other_ne (x : Side) : x.other ≠ x := by cases x <;> decide

@[simp] theorem ne_other (x : Side) : x ≠ x.other := by cases x <;> decide

theorem eq_or_other (x y : Side) : y = x ∨ y = x.other := by
  cases x <;> cases y <;> simp [other]

end Side

/-- How far a side is in both logs: what of its own log the other side has revoked for, what of the
    other log has arrived, what it has revoked for, what of that an acknowledged signature of its own
    vouches for, and what its last signature vouches for in either log. -/
structure View where
  acked : Nat := 0
  received : Nat := 0
  revoked : Nat := 0
  settled : Nat := 0
  signedOwn : Nat := 0
  signedOther : Nat := 0
  awaiting : Bool := false

inductive Token (U : Type*) where
  | update (u : U)
  | signature
  | revocation
  deriving DecidableEq

variable {U : Type*} (v : View)

def View.sign (length : Nat) : View :=
  { v with signedOwn := length, signedOther := v.revoked, awaiting := true }

def View.advance : View := { v with received := v.received + 1 }

def View.revoke : View := { v with revoked := v.received }

def View.settle : View :=
  { v with acked := v.signedOwn, settled := v.signedOther, awaiting := false }

def View.receive : Token U → View
  | .update _ => v.advance
  | .signature => v.revoke
  | .revocation => v.settle

def Token.answer : Token U → List (Token U)
  | .signature => [.revocation]
  | _ => []

structure Net (U : Type*) where
  log : Side → List U
  view : Side → View
  inbox : Side → List (Token U)
  dead : Side → Bool

namespace Net

def start : Net U := ⟨fun _ => [], fun _ => {}, fun _ => [], fun _ => false⟩

def append (net : Net U) (x : Side) (u : U) : Net U :=
  { net with
    log := Function.update net.log x (net.log x ++ [u])
    inbox := Function.update net.inbox x.other (net.inbox x.other ++ [.update u]) }

def sign (net : Net U) (x : Side) : Net U :=
  { net with
    view := Function.update net.view x ((net.view x).sign (net.log x).length)
    inbox := Function.update net.inbox x.other (net.inbox x.other ++ [.signature]) }

def receive (net : Net U) (x : Side) (token : Token U) (rest : List (Token U)) : Net U :=
  { net with
    view := Function.update net.view x ((net.view x).receive token)
    inbox := Function.update (Function.update net.inbox x rest) x.other
      (net.inbox x.other ++ token.answer) }

def drop (net : Net U) (x : Side) (rest : List (Token U)) : Net U :=
  { net with
    inbox := Function.update net.inbox x rest
    dead := Function.update net.dead x true }

end Net

def Arrives (log : List U) (revoked signedOwn signedOther own : Nat) : List (Token U) → Nat → Nat → Prop
  | [], received, acked => received = log.length ∧ acked = revoked
  | .update u :: rest, received, acked =>
    log[received]? = some u ∧ Arrives log revoked signedOwn signedOther own rest (received + 1) acked
  | .signature :: rest, received, acked =>
    (signedOwn = received ∧ signedOther = acked) ∧ Arrives log revoked signedOwn signedOther own rest received acked
  | .revocation :: rest, received, _ =>
    Arrives log revoked signedOwn signedOther own rest received own

namespace Arrives

variable {log : List U} {revoked signedOwn signedOther own received acked : Nat} {q : List (Token U)}

section

variable (arrives : Arrives log revoked signedOwn signedOther own q received acked)
include arrives

theorem append_update (u : U) :
    Arrives (log ++ [u]) revoked signedOwn signedOther own (q ++ [.update u]) received acked := by
  induction q generalizing received acked with
  | nil =>
    obtain ⟨rfl, rfl⟩ := arrives
    exact ⟨by simp, by simp, rfl⟩
  | cons token rest ih =>
    cases token with
    | update u' =>
      refine ⟨?_, ih arrives.2⟩
      rw [List.getElem?_append_left (List.getElem?_eq_some_iff.mp arrives.1).1]
      exact arrives.1
    | signature => exact ⟨arrives.1, ih arrives.2⟩
    | revocation => exact ih arrives

theorem append_signature (gone : .signature ∉ q) :
    Arrives log revoked log.length revoked own (q ++ [.signature]) received acked := by
  induction q generalizing received acked with
  | nil =>
    obtain ⟨rfl, rfl⟩ := arrives
    exact ⟨⟨rfl, rfl⟩, rfl, rfl⟩
  | cons token rest ih =>
    rw [List.mem_cons, not_or] at gone
    cases token with
    | update u' => exact ⟨arrives.1, ih arrives.2 gone.2⟩
    | signature => exact absurd rfl gone.1
    | revocation =>
      have onward : Arrives log revoked signedOwn signedOther own rest received own := arrives
      exact ih onward gone.2

theorem append_revocation : Arrives log own signedOwn signedOther own (q ++ [.revocation]) received acked := by
  induction q generalizing received acked with
  | nil => exact ⟨arrives.1, rfl⟩
  | cons token rest ih =>
    cases token with
    | update u' => exact ⟨arrives.1, ih arrives.2⟩
    | signature => exact ⟨arrives.1, ih arrives.2⟩
    | revocation =>
      have onward : Arrives log revoked signedOwn signedOther own rest received own := arrives
      exact ih onward

theorem resign (gone : .revocation ∉ q) (own' : Nat) :
    Arrives log revoked signedOwn signedOther own' q received acked := by
  induction q generalizing received acked with
  | nil => exact arrives
  | cons token rest ih =>
    rw [List.mem_cons, not_or] at gone
    cases token with
    | update u' => exact ⟨arrives.1, ih arrives.2 gone.2⟩
    | signature => exact ⟨arrives.1, ih arrives.2 gone.2⟩
    | revocation => exact absurd rfl gone.1

end

end Arrives

def Token.isSignature : Token U → Bool
  | .signature => true
  | _ => false

def Token.isRevocation : Token U → Bool
  | .revocation => true
  | _ => false

structure View.Bounded (v : View) (own other : Nat) : Prop where
  acked : v.acked ≤ v.signedOwn
  signedOwn : v.signedOwn ≤ own
  settled : v.settled ≤ v.signedOther
  signedOther : v.signedOther ≤ v.revoked
  revoked : v.revoked ≤ v.received
  received : v.received ≤ other
  idle : v.awaiting = false → v.signedOwn = v.acked ∧ v.signedOther = v.settled

namespace View.Bounded

variable {v : View} {own other : Nat} (bounded : v.Bounded own other)
include bounded

theorem acked_le : v.acked ≤ own := Nat.le_trans bounded.acked bounded.signedOwn

theorem settled_le_revoked : v.settled ≤ v.revoked := Nat.le_trans bounded.settled bounded.signedOther

theorem settled_le_received : v.settled ≤ v.received :=
  Nat.le_trans bounded.settled_le_revoked bounded.revoked

theorem sign : (v.sign own).Bounded own other :=
  { bounded with
    acked := bounded.acked_le
    signedOwn := Nat.le_refl _
    settled := bounded.settled_le_revoked
    signedOther := Nat.le_refl _
    idle := nofun }

theorem advance (next : v.received < other) : v.advance.Bounded own other :=
  { bounded with revoked := Nat.le_succ_of_le bounded.revoked, received := next }

theorem revoke : v.revoke.Bounded own other :=
  { bounded with
    signedOther := Nat.le_trans bounded.signedOther bounded.revoked
    revoked := Nat.le_refl _ }

theorem settle : v.settle.Bounded own other :=
  { bounded with acked := Nat.le_refl _, settled := Nat.le_refl _, idle := fun _ => ⟨rfl, rfl⟩ }

end View.Bounded

namespace Net

/-- The counts are in order, a side awaits an answer while a signature or its revocation is on the
    way, and each queue leads a side that is alive to where the other side is. -/
structure Ordered (net : Net U) : Prop where
  bounds : ∀ x, (net.view x).Bounded (net.log x).length (net.log x.other).length
  outstanding : ∀ x, (net.inbox x.other).countP Token.isSignature + (net.inbox x).countP Token.isRevocation ≤
    (net.view x).awaiting.toNat
  arrives : ∀ x, net.dead x = false →
    Arrives (net.log x.other) (net.view x.other).revoked (net.view x.other).signedOwn
      (net.view x.other).signedOther (net.view x).signedOwn (net.inbox x) (net.view x).received
      (net.view x).acked

theorem start_ordered : (start : Net U).Ordered where
  bounds _ := by constructor <;> simp [start]
  outstanding _ := Nat.le_refl 0
  arrives _ _ := ⟨rfl, rfl⟩

namespace Ordered

variable {net : Net U} (ordered : net.Ordered)
include ordered

theorem of_idle {x : Side} (idle : (net.view x).awaiting = false) :
    .signature ∉ net.inbox x.other ∧ .revocation ∉ net.inbox x := by
  have none := ordered.outstanding x
  rw [idle, Bool.toNat_false, Nat.le_zero, Nat.add_eq_zero_iff, List.countP_eq_zero, List.countP_eq_zero] at none
  exact ⟨fun inside => none.1 _ inside rfl, fun inside => none.2 _ inside rfl⟩

theorem append (x : Side) (u : U) : (net.append x u).Ordered where
  bounds y := by
    have bounds := ordered.bounds y
    rcases x.eq_or_other y with rfl | rfl
    · exact { bounds with
        signedOwn := by simpa [Net.append] using Nat.le_succ_of_le bounds.signedOwn
        received := by simpa [Net.append] using bounds.received }
    · exact { bounds with
        signedOwn := by simpa [Net.append] using bounds.signedOwn
        received := by simpa [Net.append] using Nat.le_succ_of_le bounds.received }
  outstanding y := by
    have outstanding := ordered.outstanding y
    rcases x.eq_or_other y with rfl | rfl
    · simpa [Net.append, Token.isSignature] using outstanding
    · simpa [Net.append, Token.isRevocation] using outstanding
  arrives y alive := by
    have arrives := ordered.arrives y alive
    rcases x.eq_or_other y with rfl | rfl
    · simpa [Net.append] using arrives
    · simpa [Net.append] using arrives.append_update u

theorem sign {x : Side} (idle : (net.view x).awaiting = false) : (net.sign x).Ordered where
  bounds y := by
    have bounds := ordered.bounds y
    rcases x.eq_or_other y with rfl | rfl
    · simpa [Net.sign] using bounds.sign
    · simpa [Net.sign] using bounds
  outstanding y := by
    have outstanding := ordered.outstanding y
    rcases x.eq_or_other y with rfl | rfl
    · rw [idle, Bool.toNat_false, Nat.le_zero, Nat.add_eq_zero_iff] at outstanding
      simp [Net.sign, View.sign, outstanding, Token.isSignature]
    · simpa [Net.sign, Token.isRevocation] using outstanding
  arrives y alive := by
    have arrives := ordered.arrives y alive
    obtain ⟨unsigned, unrevoked⟩ := ordered.of_idle idle
    rcases x.eq_or_other y with rfl | rfl
    · simpa [Net.sign, View.sign] using arrives.resign unrevoked _
    · simp only [Side.other_other] at arrives
      simpa [Net.sign, View.sign] using arrives.append_signature unsigned

section Delivery

variable {x : Side} {rest : List (Token U)} (alive : net.dead x = false)
include alive

theorem of_update {u : U} (head : net.inbox x = .update u :: rest) :
    (net.log x.other)[(net.view x).received]? = some u := by
  have arrives := ordered.arrives x alive
  rw [head] at arrives
  exact arrives.1

/-- A signature that arrives vouches for just what the receiver has: all that has arrived of the
    signer's log, and of its own log what is acknowledged. -/
theorem of_signature (head : net.inbox x = .signature :: rest) :
    (net.view x.other).signedOwn = (net.view x).received ∧ (net.view x.other).signedOther = (net.view x).acked := by
  have arrives := ordered.arrives x alive
  rw [head] at arrives
  exact arrives.1

omit alive in
theorem of_revocation (head : net.inbox x = .revocation :: rest) : (net.view x).awaiting = true := by
  cases awaiting : (net.view x).awaiting with
  | true => rfl
  | false =>
    have gone := (ordered.of_idle awaiting).2
    rw [head] at gone
    exact absurd List.mem_cons_self gone

theorem receive {token : Token U} (head : net.inbox x = token :: rest) : (net.receive x token rest).Ordered where
  bounds y := by
    have bounds := ordered.bounds y
    rcases x.eq_or_other y with rfl | rfl
    · cases token with
      | update u =>
        have next := (List.getElem?_eq_some_iff.mp (ordered.of_update alive head)).1
        simpa [Net.receive, View.receive] using bounds.advance next
      | signature => simpa [Net.receive, View.receive] using bounds.revoke
      | revocation => simpa [Net.receive, View.receive] using bounds.settle
    · simpa [Net.receive] using bounds
  outstanding y := by
    have outstanding := ordered.outstanding y
    rcases x.eq_or_other y with rfl | rfl
    · cases token with
      | update u =>
        simpa [Net.receive, View.receive, View.advance, Token.answer, head, Token.isRevocation] using outstanding
      | signature =>
        simpa [Net.receive, View.receive, View.revoke, Token.answer, head, Token.isRevocation, Token.isSignature]
          using outstanding
      | revocation =>
        have awaiting := ordered.of_revocation head
        simp only [awaiting, head, Bool.toNat_true, List.countP_cons, Token.isRevocation, ↓reduceIte]
          at outstanding
        have none : (net.inbox y.other).countP Token.isSignature + rest.countP Token.isRevocation = 0 := by
          omega
        simpa [Net.receive, View.receive, View.settle, Token.answer] using none
    · cases token with
      | update u =>
        simpa [Net.receive, Token.answer, head, Token.isSignature] using outstanding
      | signature =>
        simp only [Side.other_other, head, List.countP_cons, Token.isSignature, ↓reduceIte] at outstanding
        simp only [Net.receive, Token.answer, Side.other_other, Function.update_self, Side.ne_other,
          Function.update_of_ne, ne_eq, not_false_eq_true, List.countP_append, List.countP_cons,
          Token.isRevocation, ↓reduceIte, List.countP_nil, Side.other_ne]
        omega
      | revocation =>
        simpa [Net.receive, Token.answer, head, Token.isSignature] using outstanding
  arrives y alive' := by
    have arrives := ordered.arrives y alive'
    rcases x.eq_or_other y with rfl | rfl
    · rw [head] at arrives
      cases token with
      | update u => simpa [Net.receive, View.receive, View.advance] using arrives.2
      | signature => simpa [Net.receive, View.receive, View.revoke] using arrives.2
      | revocation => simpa [Net.receive, View.receive, View.settle, Arrives] using arrives
    · simp only [Side.other_other] at arrives
      cases token with
      | update u => simpa [Net.receive, View.receive, View.advance, Token.answer] using arrives
      | signature =>
        have signed := (ordered.of_signature alive head).1
        have revoked := arrives.append_revocation
        rw [signed] at revoked
        simpa [Net.receive, View.receive, View.revoke, Token.answer, signed] using revoked
      | revocation => simpa [Net.receive, View.receive, View.settle, Token.answer] using arrives

end Delivery

theorem drop {x : Side} {rest : List (Token U)} (short : rest <:+ net.inbox x) : (net.drop x rest).Ordered where
  bounds y := ordered.bounds y
  outstanding y := by
    have outstanding := ordered.outstanding y
    have signatures := short.sublist.countP_le (p := Token.isSignature)
    have revocations := short.sublist.countP_le (p := Token.isRevocation)
    rcases x.eq_or_other y with rfl | rfl
    · simp only [Net.drop, Side.other_ne, Function.update_of_ne, ne_eq, not_false_eq_true, Function.update_self]
      omega
    · simp only [Net.drop, Side.other_other, Side.other_ne, Function.update_of_ne, ne_eq,
        not_false_eq_true, Function.update_self] at outstanding ⊢
      omega
  arrives y alive := by
    rcases x.eq_or_other y with rfl | rfl
    · simp [Net.drop] at alive
    · have alive' : net.dead x.other = false := by simpa [Net.drop] using alive
      simpa [Net.drop] using ordered.arrives x.other alive'

end Ordered

end Net

end Beignet.TwoLogs
