import Mathlib

namespace Beignet.Data

abbrev Bytes := List (Fin 256)

instance neZeroByte : NeZero 256 := ⟨by decide⟩

def hex (bytes : Bytes) : String :=
  String.join (bytes.map fun byte =>
    String.ofList [Nat.digitChar (byte.val / 16), Nat.digitChar (byte.val % 16)])

section Checks

variable {α : Type} {p : Prop} {reason : α} {checks : List (Option α)}

def refuseIf (p : Prop) [Decidable p] (reason : α) : Option α := if p then some reason else none

def firstRefusal (checks : List (Option α)) : Option α := checks.findSome? id

theorem refuseIf_eq_none [Decidable p] : refuseIf p reason = none ↔ ¬ p := by
  unfold refuseIf
  split <;> simp_all

theorem refuseIf_eq_some [Decidable p] {reason given : α} : refuseIf p reason = some given ↔ p ∧ reason = given := by
  unfold refuseIf
  split <;> simp_all

theorem firstRefusal_eq_some (refused : firstRefusal checks = some reason) : some reason ∈ checks := by
  obtain ⟨check, member, spoken⟩ := List.exists_of_findSome?_eq_some refused
  rw [id] at spoken
  exact spoken ▸ member

theorem firstRefusal_eq_none : firstRefusal checks = none ↔ ∀ check ∈ checks, check = none := by
  simp [firstRefusal, List.findSome?_eq_none_iff]

end Checks

theorem isSome_bind_some {α β : Type} (x : Option α) (f : α → β) : (x >>= fun a => some (f a)).isSome = x.isSome := by
  cases x <;> rfl

theorem rel_bind {α β γ δ : Type} {r : α → β → Prop} {q : γ → δ → Prop} {x : Option α}
    {y : Option β} {f : α → Option γ} {g : β → Option δ} (related : Option.Rel r x y)
    (step : ∀ a b, r a b → Option.Rel q (f a) (g b)) : Option.Rel q (x >>= f) (y >>= g) := by
  cases related with
  | some same => exact step _ _ same
  | none => exact .none

theorem bind_eq_ok_iff {ε α β : Type} {x : Except ε α} {f : α → Except ε β} {b : β} :
    (x >>= f) = .ok b ↔ ∃ a, x = .ok a ∧ f a = .ok b := by
  cases x with
  | error e => simp [bind, Except.bind]
  | ok a => simp [bind, Except.bind]

end Beignet.Data
