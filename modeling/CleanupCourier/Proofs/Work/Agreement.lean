import CleanupCourier.Proofs.Network.Veil
import CleanupCourier.Proofs.Work.Frame
import CleanupCourier.Proofs.Work.Matches

/-!
Two runs side by side. Two pieces of work are paired by a relation of worlds if from worlds that are
related they come to worlds that are, with the same failure or with values that are related; wholes
are paired whose steps are. A bond is such a relation: the journals are equal, the objects related,
and an onlooker who does not see all of the traffic cannot tell the worlds apart.
-/
namespace CleanupCourier

/-- Holds of two ends of runs: results that match, in states that are related. -/
structure Alike {S ε α β : Type} (R : S → S → Prop) (V : α → β → Prop)
    (ended : Except ε α × S) (ended' : Except ε β × S) : Prop where
  result : Matches V ended.1 ended'.1
  state : R ended.2 ended'.2

/-- What comes after a run if it succeeded, in the state that it left. -/
def onward {S ε α β : Type} (next : α → S → Except ε β × S) : Except ε α × S → Except ε β × S
  | (.ok a, s) => next a s
  | (.error error, s) => (.error error, s)

/-- What comes after runs that end alike ends alike if it does so from every two ends there are. -/
theorem Alike.onward {S ε α β α' β' : Type} {R : S → S → Prop} {V : α → β → Prop}
    {V' : α' → β' → Prop} {ended : Except ε α × S} {ended' : Except ε β × S}
    {next : α → S → Except ε α' × S} {next' : β → S → Except ε β' × S}
    (first : Alike R V ended ended')
    (rest : ∀ a b s s', V a b → R s s' → Alike R V' (next a s) (next' b s')) :
    Alike R V' (onward next ended) (onward next' ended') := by
  obtain ⟨result, s⟩ := ended
  obtain ⟨result', s'⟩ := ended'
  obtain ⟨result, state⟩ := first
  cases result with
  | ok related => exact rest _ _ s s' related state
  | error error => exact ⟨.error error, state⟩

/-- What two worlds have in common: related objects, and what is seen of the traffic. -/
structure Bond (σ : Type) where
  objects : σ → σ → Prop
  veil : Veil

structure Bond.Holds {σ : Type} (bond : Bond σ) (w v : World σ) : Prop where
  objects : bond.objects w.objects v.objects
  traffic : bond.veil.traffic w.traffic = bond.veil.traffic v.traffic
  journal : w.journal = v.journal

namespace Bond.Holds

variable {σ : Type} {bond : Bond σ} {w v : World σ}

theorem noting (h : bond.Holds w v) (j : Journal) : bond.Holds (w.noting j) (v.noting j) where
  objects := h.objects
  traffic := h.traffic
  journal := by rw [World.noting, World.noting, h.journal]

theorem requested (h : bond.Holds w v) {r r' : HttpRequest}
    (seen : bond.veil.request r = bond.veil.request r') :
    bond.Holds (w.requested r) (v.requested r') where
  objects := h.objects
  traffic := by
    obtain ⟨requests, talks⟩ := Traffic.mk.inj h.traffic
    simp only [Veil.traffic, World.requested, List.map_append, List.map_cons, List.map_nil,
      requests, talks, seen]
  journal := h.journal

theorem talked (h : bond.Holds w v) {talks talks' : List SmtpTalk}
    (seen : talks.map bond.veil.talk = talks'.map bond.veil.talk) :
    bond.Holds (w.talked talks) (v.talked talks') where
  objects := h.objects
  traffic := by
    obtain ⟨requests, before⟩ := Traffic.mk.inj h.traffic
    simp only [Veil.traffic, World.talked, List.map_append, requests, before, seen]
  journal := h.journal

end Bond.Holds

namespace Attempt

variable {σ ε ε' α β α' β' : Type} {R : World σ → World σ → Prop} {bond : Bond σ}
  {V : α → β → Prop} {V' : α' → β' → Prop}

/-- Holds of work that leads from worlds that are related to worlds that are, with results that
match. -/
def Paired (R : World σ → World σ → Prop) (V : α → β → Prop) (attempt : Attempt σ ε α)
    (attempt' : Attempt σ ε β) : Prop :=
  ∀ spans w v, R w v → Alike R V (attempt.run spans w) (attempt'.run spans v)

theorem paired_throw (error : ε) :
    Paired R V (throw error : Attempt σ ε α) (throw error : Attempt σ ε β) :=
  fun _ _ _ h => ⟨.error error, h⟩

theorem paired_ofExcept {result : Except ε α} {result' : Except ε β}
    (h : Matches V result result') : Paired R V (ofExcept result) (ofExcept result') :=
  fun _ _ _ holds => ⟨h, holds⟩

theorem paired_pure {a : α} {b : β} (h : V a b) :
    Paired R V (pure a : Attempt σ ε α) (pure b : Attempt σ ε β) :=
  paired_ofExcept (.ok h)

theorem run_bind_onward (attempt : Attempt σ ε α) (next : α → Attempt σ ε β) (spans : List Span)
    (w : World σ) :
    (attempt >>= next).run spans w =
      onward (fun a v => (next a).run spans v) (attempt.run spans w) := by
  rw [run_bind]
  obtain ⟨_ | _, _⟩ := attempt.run spans w <;> rfl

theorem paired_bind {attempt : Attempt σ ε α} {attempt' : Attempt σ ε β}
    {next : α → Attempt σ ε α'} {next' : β → Attempt σ ε β'} (first : Paired R V attempt attempt')
    (rest : ∀ a b, V a b → Paired R V' (next a) (next' b)) :
    Paired R V' (attempt >>= next) (attempt' >>= next') := by
  intro spans w v h
  rw [run_bind_onward, run_bind_onward]
  exact (first spans w v h).onward fun a b w' v' related holds =>
    rest a b related spans w' v' holds

/-- Work that follows equal values. -/
theorem paired_bind_eq {attempt attempt' : Attempt σ ε α} {next : α → Attempt σ ε α'}
    {next' : α → Attempt σ ε β'} (first : Paired R Eq attempt attempt')
    (rest : ∀ a, Paired R V' (next a) (next' a)) :
    Paired R V' (attempt >>= next) (attempt' >>= next') :=
  paired_bind first fun a _ same => same ▸ rest a

theorem paired_within {attempt : Attempt σ ε α} {attempt' : Attempt σ ε β}
    (h : Paired R V attempt attempt') (span : Span) :
    Paired R V (within span attempt) (within span attempt') :=
  fun spans w v holds => h (spans ++ [span]) w v holds

theorem paired_mapError {attempt : Attempt σ ε α} {attempt' : Attempt σ ε β}
    (h : Paired R V attempt attempt') (f : ε → ε') :
    Paired R V (attempt.mapError f) (attempt'.mapError f) := by
  intro spans w v holds
  rw [run_mapError, run_mapError]
  obtain ⟨result, state⟩ := h spans w v holds
  exact ⟨result.mapError f, state⟩

/-! Work that agrees is paired by a bond. -/

def Agree (bond : Bond σ) (V : α → β → Prop) (attempt : Attempt σ ε α) (attempt' : Attempt σ ε β) :
    Prop :=
  ∀ spans w v, bond.Holds w v → Alike bond.Holds V (attempt.run spans w) (attempt'.run spans v)

theorem agree_throw (error : ε) :
    Agree bond V (throw error : Attempt σ ε α) (throw error : Attempt σ ε β) :=
  paired_throw error

theorem agree_ofExcept {result : Except ε α} {result' : Except ε β} (h : Matches V result result') :
    Agree bond V (ofExcept result) (ofExcept result') :=
  paired_ofExcept h

theorem agree_pure {a : α} {b : β} (h : V a b) :
    Agree bond V (pure a : Attempt σ ε α) (pure b : Attempt σ ε β) :=
  paired_pure h

theorem agree_log (level : Level) (target message : String) :
    Agree bond Eq (log level target message : Attempt σ ε Unit) (log level target message) := by
  intro spans w v h
  refine ⟨.ok rfl, h.objects, h.traffic, ?_⟩
  rw [run_log, run_log, h.journal]

theorem agree_observe (observation : Observation) :
    Agree bond Eq (observe observation : Attempt σ ε Unit) (observe observation) := by
  intro spans w v h
  refine ⟨.ok rfl, h.objects, h.traffic, ?_⟩
  rw [run_observe, run_observe, h.journal]

theorem agree_bind {attempt : Attempt σ ε α} {attempt' : Attempt σ ε β}
    {next : α → Attempt σ ε α'} {next' : β → Attempt σ ε β'} (first : Agree bond V attempt attempt')
    (rest : ∀ a b, V a b → Agree bond V' (next a) (next' b)) :
    Agree bond V' (attempt >>= next) (attempt' >>= next') :=
  paired_bind first rest

theorem agree_bind_eq {attempt attempt' : Attempt σ ε α} {next : α → Attempt σ ε α'}
    {next' : α → Attempt σ ε β'} (first : Agree bond Eq attempt attempt')
    (rest : ∀ a, Agree bond V' (next a) (next' a)) :
    Agree bond V' (attempt >>= next) (attempt' >>= next') :=
  paired_bind_eq first rest

theorem agree_within {attempt : Attempt σ ε α} {attempt' : Attempt σ ε β}
    (h : Agree bond V attempt attempt') (span : Span) :
    Agree bond V (within span attempt) (within span attempt') :=
  paired_within h span

theorem agree_mapError {attempt : Attempt σ ε α} {attempt' : Attempt σ ε β}
    (h : Agree bond V attempt attempt') (f : ε → ε') :
    Agree bond V (attempt.mapError f) (attempt'.mapError f) :=
  paired_mapError h f

theorem agree_map {attempt attempt' : Attempt σ ε α} (h : Agree bond Eq attempt attempt')
    (f : α → β) : Agree bond Eq (f <$> attempt) (f <$> attempt') := by
  intro spans w v holds
  rw [run_map, run_map]
  obtain ⟨result, state⟩ := h spans w v holds
  exact ⟨result.eq ▸ .refl _, state⟩

theorem agree_tryCatch {attempt attempt' : Attempt σ ε α} {handle handle' : ε → Attempt σ ε α}
    (h : Agree bond Eq attempt attempt') (handles : ∀ error, Agree bond Eq (handle error)
      (handle' error)) :
    Agree bond Eq (tryCatch attempt handle) (tryCatch attempt' handle') := by
  intro spans w v holds
  rw [run_tryCatch, run_tryCatch]
  obtain ⟨result, state⟩ := h spans w v holds
  generalize attempt.run spans w = ended at result state ⊢
  generalize attempt'.run spans v = ended' at result state ⊢
  obtain ⟨first, w'⟩ := ended
  obtain ⟨first', v'⟩ := ended'
  cases result with
  | ok same => exact ⟨.ok same, state⟩
  | error error => exact handles error spans w' v' state

end Attempt

end CleanupCourier
