import Mathlib.Tactic.Common

/-!
Results side by side. Two results match by a relation if both fail with the same error or both
succeed with values that are related. What is made of results that match matches too, if it does so
for all values that are related.
-/
namespace CleanupCourier

/-- Holds of two results that fail alike or succeed with values that are related. -/
inductive Matches {ε α β : Type} (V : α → β → Prop) : Except ε α → Except ε β → Prop
  | ok {a : α} {b : β} : V a b → Matches V (.ok a) (.ok b)
  | error (error : ε) : Matches V (.error error) (.error error)

namespace Matches

variable {ε ε' α β α' β' : Type} {V : α → β → Prop} {V' : α' → β' → Prop}

theorem refl (result : Except ε α) : Matches Eq result result := by
  cases result with
  | error error => exact .error error
  | ok a => exact .ok rfl

theorem eq {result result' : Except ε α} (h : Matches Eq result result') : result = result' := by
  cases h with
  | ok same => rw [same]
  | error error => rfl

theorem bind {result : Except ε α} {result' : Except ε β} {next : α → Except ε α'}
    {next' : β → Except ε β'} (first : Matches V result result')
    (rest : ∀ a b, V a b → Matches V' (next a) (next' b)) :
    Matches V' (result >>= next) (result' >>= next') := by
  cases first with
  | ok related => exact rest _ _ related
  | error error => exact .error error

theorem bind_same (result : Except ε α) {next : α → Except ε α'} {next' : α → Except ε β'}
    (rest : ∀ a, Matches V' (next a) (next' a)) : Matches V' (result >>= next) (result >>= next') :=
  (refl result).bind fun a _ same => same ▸ rest a

/-- Two checks of one condition. -/
theorem guard {c : Prop} [Decidable c] {error : ε} {γ : Type} {next : γ → Except ε α}
    {next' : γ → Except ε β} {rest : Except ε α} {rest' : Except ε β} (h : Matches V rest rest') :
    Matches V (if c then throw error >>= next else rest)
      (if c then throw error >>= next' else rest') := by
  by_cases holds : c
  · rw [if_pos holds, if_pos holds]
    exact .error error
  · rw [if_neg holds, if_neg holds]
    exact h

theorem mapError {result : Except ε α} {result' : Except ε β} (h : Matches V result result')
    (f : ε → ε') : Matches V (result.mapError f) (result'.mapError f) := by
  cases h with
  | ok related => exact .ok related
  | error error => exact .error (f error)

end Matches

end CleanupCourier
