import CleanupCourier.Journal.Event
import CleanupCourier.Metrics.Observation
import CleanupCourier.Network

/-!
Work with effects. Work goes on inside spans, and changes a world: the objects it keeps, which may
be of any type, the traffic on the network, and a journal of log events and observations. Nothing
else is read or written, so what work does is a function of the spans and the world it starts with.
-/
namespace CleanupCourier

structure Journal where
  events : List Event := []
  observations : List Observation := []
deriving Repr

structure World (σ : Type) where
  objects : σ
  traffic : Traffic := {}
  journal : Journal := {}

abbrev Work (σ : Type) : Type → Type :=
  ReaderT (List Span) (StateM (World σ))

/-- Work that may fail with an error of type `ε`. What it did before it failed stays done. -/
abbrev Attempt (σ ε : Type) : Type → Type :=
  ExceptT ε (Work σ)

namespace Work

variable {σ ε α : Type}

/-- Writes an event into the journal, with the spans it happens in. -/
def log (level : Level) (target message : String) : Work σ Unit := fun spans =>
  modify fun w => { w with
    journal := { w.journal with events := w.journal.events ++ [⟨level, target, spans, message⟩] } }

def observe (observation : Observation) : Work σ Unit := fun _ =>
  modify fun w => { w with
    journal := { w.journal with observations := w.journal.observations ++ [observation] } }

/-- Does work inside one more span. -/
def within (span : Span) (work : Work σ α) : Work σ α := fun spans =>
  work (spans ++ [span])

/-- Runs work outside all spans. -/
def start (work : Work σ α) (w : World σ) : α × World σ :=
  (work []).run w

@[simp]
theorem pure_apply (a : α) (spans : List Span) (w : World σ) :
    (pure a : Work σ α) spans w = (a, w) := rfl

@[simp]
theorem bind_apply {β : Type} (work : Work σ α) (next : α → Work σ β) (spans : List Span)
    (w : World σ) :
    (work >>= next) spans w = next (work spans w).1 spans (work spans w).2 := rfl

@[simp]
theorem log_apply (level : Level) (target message : String) (spans : List Span) (w : World σ) :
    (log level target message : Work σ Unit) spans w =
      ((), { w with journal :=
        { w.journal with events := w.journal.events ++ [⟨level, target, spans, message⟩] } }) := rfl

@[simp]
theorem observe_apply (observation : Observation) (spans : List Span) (w : World σ) :
    (observe observation : Work σ Unit) spans w =
      ((), { w with journal :=
        { w.journal with observations := w.journal.observations ++ [observation] } }) := rfl

@[simp]
theorem within_apply (span : Span) (work : Work σ α) (spans : List Span) (w : World σ) :
    within span work spans w = work (spans ++ [span]) w := rfl

end Work

namespace Attempt

variable {σ ε α : Type}

def within (span : Span) (attempt : Attempt σ ε α) : Attempt σ ε α :=
  ExceptT.mk (Work.within span attempt.run)

def log (level : Level) (target message : String) : Attempt σ ε Unit :=
  ExceptT.lift (Work.log level target message)

def observe (observation : Observation) : Attempt σ ε Unit :=
  ExceptT.lift (Work.observe observation)

/-- Takes a result that needed no effects. -/
def ofExcept (result : Except ε α) : Attempt σ ε α :=
  ExceptT.mk (pure result)

def mapError {ε' : Type} (attempt : Attempt σ ε α) (f : ε → ε') : Attempt σ ε' α :=
  ExceptT.adapt f attempt

def start (attempt : Attempt σ ε α) (w : World σ) : Except ε α × World σ :=
  Work.start attempt.run w

theorem run_pure (a : α) (spans : List Span) (w : World σ) :
    (pure a : Attempt σ ε α).run spans w = (.ok a, w) := rfl

theorem run_bind {β : Type} (attempt : Attempt σ ε α) (next : α → Attempt σ ε β)
    (spans : List Span) (w : World σ) :
    (attempt >>= next).run spans w =
      match attempt.run spans w with
      | (.ok a, w) => (next a).run spans w
      | (.error error, w) => (.error error, w) := by
  change (ExceptT.run (attempt >>= next)) spans w = _
  rw [ExceptT.run_bind]
  simp only [Work.bind_apply]
  obtain ⟨_ | _, _⟩ := attempt.run spans w <;> rfl

theorem run_map {β : Type} (f : α → β) (attempt : Attempt σ ε α) (spans : List Span)
    (w : World σ) :
    (f <$> attempt).run spans w =
      ((attempt.run spans w).1.map f, (attempt.run spans w).2) := by
  change (ExceptT.run (f <$> attempt)) spans w = _
  rw [ExceptT.run_map]
  rfl

theorem run_tryCatch (attempt : Attempt σ ε α) (handle : ε → Attempt σ ε α) (spans : List Span)
    (w : World σ) :
    (tryCatch attempt handle).run spans w =
      match attempt.run spans w with
      | (.ok a, w) => (.ok a, w)
      | (.error error, w) => (handle error).run spans w := by
  change (ExceptT.run (tryCatch attempt handle)) spans w = _
  rw [ExceptT.run_tryCatch]
  simp only [Work.bind_apply]
  obtain ⟨_ | _, _⟩ := attempt.run spans w <;> rfl

theorem run_log (level : Level) (target message : String) (spans : List Span) (w : World σ) :
    (log level target message : Attempt σ ε Unit).run spans w =
      (.ok (), { w with journal :=
        { w.journal with events := w.journal.events ++ [⟨level, target, spans, message⟩] } }) := rfl

theorem run_observe (observation : Observation) (spans : List Span) (w : World σ) :
    (observe observation : Attempt σ ε Unit).run spans w =
      (.ok (), { w with journal :=
        { w.journal with observations := w.journal.observations ++ [observation] } }) := rfl

theorem run_get (spans : List Span) (w : World σ) :
    (get : Attempt σ ε (World σ)).run spans w = (.ok w, w) := rfl

theorem run_modify (f : World σ → World σ) (spans : List Span) (w : World σ) :
    (modify f : Attempt σ ε PUnit).run spans w = (.ok (), f w) := rfl

theorem run_within (span : Span) (attempt : Attempt σ ε α) (spans : List Span) (w : World σ) :
    (within span attempt).run spans w = attempt.run (spans ++ [span]) w := rfl

theorem run_ofExcept (result : Except ε α) (spans : List Span) (w : World σ) :
    (ofExcept result : Attempt σ ε α).run spans w = (result, w) := rfl

theorem run_mapError {ε' : Type} (attempt : Attempt σ ε α) (f : ε → ε') (spans : List Span)
    (w : World σ) :
    (attempt.mapError f).run spans w =
      ((attempt.run spans w).1.mapError f, (attempt.run spans w).2) := by
  change (Except.mapError f <$> attempt.run) spans w = _
  rfl

/-! What is known once a result is a success. -/

theorem eq_ok_of_bind {β : Type} {result : Except ε α} {next : α → Except ε β} {b : β}
    (h : result >>= next = .ok b) : ∃ a, result = .ok a ∧ next a = .ok b := by
  cases result with
  | error error => exact nomatch h
  | ok a => exact ⟨a, rfl, h⟩

theorem run_eq_ok_of_bind {β : Type} {attempt : Attempt σ ε α} {next : α → Attempt σ ε β}
    {spans : List Span} {w v : World σ} {b : β} (h : (attempt >>= next).run spans w = (.ok b, v)) :
    ∃ a u, attempt.run spans w = (.ok a, u) ∧ (next a).run spans u = (.ok b, v) := by
  rw [run_bind] at h
  generalize attempt.run spans w = middle at h ⊢
  obtain ⟨error | a, u⟩ := middle
  · exact nomatch h
  · exact ⟨a, u, rfl, h⟩

theorem eq_ok_of_guard {β : Type} {c : Prop} [Decidable c] {error : ε} {a : α}
    {next : β → Except ε α} {rest : Except ε α}
    (h : (if c then throw error >>= next else rest) = .ok a) : ¬ c ∧ rest = .ok a := by
  by_cases holds : c
  · rw [if_pos holds] at h
    exact nomatch h
  · rw [if_neg holds] at h
    exact ⟨holds, h⟩

/-! What is known once a result is a failure: it is one of the first part, or of the rest after
the first part succeeded. -/

theorem eq_error_of_bind {β : Type} {result : Except ε α} {next : α → Except ε β} {error : ε}
    (h : result >>= next = .error error) :
    result = .error error ∨ ∃ a, result = .ok a ∧ next a = .error error := by
  cases result with
  | error _ =>
    cases h
    exact .inl rfl
  | ok a => exact .inr ⟨a, rfl, h⟩

theorem run_eq_error_of_bind {β : Type} {attempt : Attempt σ ε α} {next : α → Attempt σ ε β}
    {spans : List Span} {w v : World σ} {error : ε}
    (h : (attempt >>= next).run spans w = (.error error, v)) :
    attempt.run spans w = (.error error, v) ∨
      ∃ a u, attempt.run spans w = (.ok a, u) ∧ (next a).run spans u = (.error error, v) := by
  rw [run_bind] at h
  generalize attempt.run spans w = middle at h ⊢
  obtain ⟨failed | a, u⟩ := middle
  · cases h
    exact .inl rfl
  · exact .inr ⟨a, u, rfl, h⟩

end Attempt

end CleanupCourier
