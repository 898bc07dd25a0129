import CleanupCourier.Proofs.Work.Frame

/-!
Failures that can be foreseen. One attempt foretells such failures of another if they are failures
of the other as well, in the same world, and come before anything is sent. Two attempts that start
with the same quiet work foretell each other as soon as what is left of them has no such failure.
-/
namespace CleanupCourier

namespace Attempt

variable {σ ε ε' α β : Type} {P : ε → Prop}

/-- Holds if each failure of one attempt that `P` holds of is one of the other attempt, and nothing
was sent before it. -/
def Foretells (P : ε → Prop) (attempt attempt' : Attempt σ ε α) : Prop :=
  ∀ spans w error v, attempt.run spans w = (.error error, v) → P error →
    attempt'.run spans w = (.error error, v) ∧ v.traffic = w.traffic

/-- Holds of an attempt that has no failure that `P` holds of. -/
def Avoids (P : ε → Prop) (attempt : Attempt σ ε α) : Prop :=
  ∀ spans w error v, attempt.run spans w = (.error error, v) → ¬ P error

section Avoids

theorem avoids_ofExcept {result : Except ε α} (h : ∀ error, result = .error error → ¬ P error) :
    (ofExcept result : Attempt σ ε α).Avoids P := by
  intro spans w error v ran
  exact h error (congrArg Prod.fst ran)

theorem avoids_pure (a : α) : (pure a : Attempt σ ε α).Avoids P :=
  fun _ _ _ _ ran => nomatch ran

theorem avoids_log (level : Level) (target message : String) :
    (log level target message : Attempt σ ε Unit).Avoids P :=
  fun _ _ _ _ ran => nomatch ran

theorem avoids_bind {attempt : Attempt σ ε α} {next : α → Attempt σ ε β}
    (first : attempt.Avoids P) (rest : ∀ a, (next a).Avoids P) : (attempt >>= next).Avoids P := by
  intro spans w error v ran
  obtain failed | ⟨a, u, -, failed⟩ := run_eq_error_of_bind ran
  · exact first spans w error v failed
  · exact rest a spans u error v failed

theorem avoids_mapError (attempt : Attempt σ ε α) {P : ε' → Prop} {f : ε → ε'}
    (h : ∀ error, ¬ P (f error)) : (attempt.mapError f).Avoids P := by
  intro spans w error v ran
  rw [run_mapError] at ran
  generalize attempt.run spans w = ended at ran
  obtain ⟨failed | a, u⟩ := ended
  · cases ran
    exact h failed
  · exact nomatch ran

end Avoids

section Foretells

/-- Nothing is sent in quiet work, so it foretells itself. -/
theorem foretells_of_quiet {attempt : Attempt σ ε α} (h : attempt.Respects .quiet) :
    Foretells P attempt attempt := by
  intro spans w error v ran _
  have quiet := h spans w
  rw [ran] at quiet
  exact ⟨ran, quiet⟩

/-- What has no failure to foresee foretells everything. -/
theorem Avoids.foretells {attempt attempt' : Attempt σ ε α} (h : attempt.Avoids P) :
    Foretells P attempt attempt' :=
  fun spans w error v ran foreseen => absurd foreseen (h spans w error v ran)

/-- Quiet work that comes first makes no difference. -/
theorem foretells_bind {attempt : Attempt σ ε α} {next next' : α → Attempt σ ε β}
    (first : attempt.Respects .quiet) (rest : ∀ a, Foretells P (next a) (next' a)) :
    Foretells P (attempt >>= next) (attempt >>= next') := by
  intro spans w error v ran foreseen
  obtain failed | ⟨a, u, done, failed⟩ := run_eq_error_of_bind ran
  · obtain ⟨same, quiet⟩ := foretells_of_quiet first spans w error v failed foreseen
    exact ⟨by rw [run_bind, same], quiet⟩
  · have quiet := first spans w
    rw [done] at quiet
    obtain ⟨same, still⟩ := rest a spans u error v failed foreseen
    refine ⟨?_, still.trans quiet⟩
    rw [run_bind, done]
    exact same

/-- What comes last makes no difference if it has no failure to foresee. -/
theorem foretells_bind_of_avoids {attempt attempt' : Attempt σ ε α} {next next' : α → Attempt σ ε β}
    (first : Foretells P attempt attempt') (rest : ∀ a, (next a).Avoids P) :
    Foretells P (attempt >>= next) (attempt' >>= next') := by
  intro spans w error v ran foreseen
  obtain failed | ⟨a, u, -, failed⟩ := run_eq_error_of_bind ran
  · obtain ⟨same, quiet⟩ := first spans w error v failed foreseen
    exact ⟨by rw [run_bind, same], quiet⟩
  · exact absurd foreseen (rest a spans u error v failed)

theorem foretells_within {attempt attempt' : Attempt σ ε α} (h : Foretells P attempt attempt')
    (span : Span) : Foretells P (within span attempt) (within span attempt') :=
  fun spans w => h (spans ++ [span]) w

end Foretells

end Attempt

end CleanupCourier
