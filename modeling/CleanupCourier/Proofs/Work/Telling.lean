import Mathlib.Tactic.Common
import CleanupCourier.Proofs.Work.Frame

/-!
What work tells in the log. Work that goes on inside some spans has every event of its own happen
inside them, and possibly inside further ones; this and what its messages are like is known of a
whole once it is known of its steps. Most steps tell nothing.
-/
namespace CleanupCourier

variable {σ : Type}

/-- The log of one world has more in it than that of another: events inside some spans, with
messages that `P` holds of. -/
def TellsMore (P : String → Prop) (spans : List Span) (w w' : World σ) : Prop :=
  ∃ said, w'.journal.events = w.journal.events ++ said ∧
    ∀ e ∈ said, spans <+: e.spans ∧ P e.message

namespace TellsMore

variable {P : String → Prop} {spans : List Span} {u v w : World σ}

theorem of_eq (h : v.journal.events = w.journal.events) : TellsMore P spans w v :=
  ⟨[], by rw [h, List.append_nil], nofun⟩

theorem trans (h : TellsMore P spans u v) (h' : TellsMore P spans v w) :
    TellsMore P spans u w := by
  obtain ⟨said, eq, all⟩ := h
  obtain ⟨more, eq', all'⟩ := h'
  refine ⟨said ++ more, by rw [eq', eq, List.append_assoc], fun e mem => ?_⟩
  exact (List.mem_append.mp mem).elim (all e) (all' e)

theorem outer {inner : List Span} (h : TellsMore P (spans ++ inner) v w) :
    TellsMore P spans v w := by
  obtain ⟨said, eq, all⟩ := h
  exact ⟨said, eq, fun e mem => ⟨(List.prefix_append _ _).trans (all e mem).1, (all e mem).2⟩⟩

end TellsMore

namespace Attempt

variable {ε ε' α β : Type} {P : String → Prop}

/-- Holds of work that tells only messages that `P` holds of, and these inside its spans. -/
def Tells (P : String → Prop) (attempt : Attempt σ ε α) : Prop :=
  ∀ spans w, TellsMore P spans w (attempt.run spans w).2

theorem tells_of_events {attempt : Attempt σ ε α}
    (h : ∀ spans w, (attempt.run spans w).2.journal.events = w.journal.events) :
    attempt.Tells P :=
  fun spans w => .of_eq (h spans w)

theorem tells_pure (a : α) : (pure a : Attempt σ ε α).Tells P :=
  tells_of_events fun _ _ => rfl

theorem tells_throw (error : ε) : (throw error : Attempt σ ε α).Tells P :=
  tells_of_events fun _ _ => rfl

theorem tells_ofExcept (result : Except ε α) : (ofExcept result : Attempt σ ε α).Tells P :=
  tells_of_events fun _ _ => rfl

theorem tells_observe (observation : Observation) :
    (observe observation : Attempt σ ε Unit).Tells P :=
  tells_of_events fun _ _ => rfl

theorem tells_log {message : String} (h : P message) (level : Level) (target : String) :
    (log level target message : Attempt σ ε Unit).Tells P := by
  intro spans w
  refine ⟨[⟨level, target, spans, message⟩], rfl, fun e mem => ?_⟩
  rw [List.mem_singleton.mp mem]
  exact ⟨List.prefix_refl _, h⟩

theorem tells_bind {attempt : Attempt σ ε α} {next : α → Attempt σ ε β} (first : attempt.Tells P)
    (rest : ∀ a, (next a).Tells P) : (attempt >>= next).Tells P := by
  intro spans w
  have told := first spans w
  rw [run_bind]
  generalize attempt.run spans w = middle at told ⊢
  obtain ⟨error | a, v⟩ := middle
  · exact told
  · exact told.trans (rest a spans v)

/-- Work that follows a result which needed no effects. -/
theorem tells_bind_ofExcept {result : Except ε α} {next : α → Attempt σ ε β}
    (h : ∀ a, result = .ok a → (next a).Tells P) : (ofExcept result >>= next).Tells P := by
  cases result with
  | error error => exact tells_throw error
  | ok a => exact h a rfl

theorem tells_within {attempt : Attempt σ ε α} (h : attempt.Tells P) (span : Span) :
    (within span attempt).Tells P :=
  fun spans w => (h (spans ++ [span]) w).outer

theorem tells_mapError {attempt : Attempt σ ε α} (h : attempt.Tells P) (f : ε → ε') :
    (attempt.mapError f).Tells P :=
  fun spans w => h spans w

theorem tells_map {attempt : Attempt σ ε α} (h : attempt.Tells P) (f : α → β) :
    (f <$> attempt).Tells P := by
  intro spans w
  rw [run_map]
  exact h spans w

theorem tells_tryCatch {attempt : Attempt σ ε α} {handle : ε → Attempt σ ε α}
    (h : attempt.Tells P) (handles : ∀ error, (handle error).Tells P) :
    (tryCatch attempt handle).Tells P := by
  intro spans w
  have told := h spans w
  rw [run_tryCatch]
  generalize attempt.run spans w = middle at told ⊢
  obtain ⟨error | a, v⟩ := middle
  · exact told.trans (handles error spans v)
  · exact told

end Attempt

end CleanupCourier
