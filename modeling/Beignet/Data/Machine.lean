import Mathlib

namespace Beignet.Data

/-! Runs of a deterministic machine in which every step meets a condition on the state it is taken in. -/

variable {S I : Type*} (step : S → I → S)

def Along (ok : S → I → Prop) : S → List I → Prop
  | _, [] => True
  | s, input :: rest => ok s input ∧ Along ok (step s input) rest

variable {step} {ok : S → I → Prop} {P : S → Prop} {s : S}

theorem Along.append {before after : List I} : Along step ok s (before ++ after) ↔
      Along step ok s before ∧ Along step ok (before.foldl step s) after := by
  induction before generalizing s with
  | nil => simp [Along]
  | cons input rest ih => simp [Along, ih, and_assoc]

theorem Along.invariant (keeps : ∀ s input, ok s input → P s → P (step s input)) {inputs : List I}
    (along : Along step ok s inputs) (start : P s) : P (inputs.foldl step s) := by
  induction inputs generalizing s with
  | nil => exact start
  | cons input rest ih => exact ih along.2 (keeps s input along.1 start)

end Beignet.Data
