import Mathlib.Tactic.Common
import CleanupCourier.Work

/-!
What work may do to its world, and what it has done once it succeeds. A frame relates a world to the
ones that may come after it; what is written into the journal never counts. Work respects a frame if
it ends in a world that is related to the one it started in, whether it fails or not. A whole
respects the frame that its steps respect, and achieves on the network what one of them achieves.
-/
namespace CleanupCourier

namespace World

variable {σ : Type}

/-- The world with more in its journal. -/
def noting (w : World σ) (j : Journal) : World σ :=
  { w with journal := ⟨w.journal.events ++ j.events, w.journal.observations ++ j.observations⟩ }

/-- The world after a request. -/
def requested (w : World σ) (request : HttpRequest) : World σ :=
  { w with traffic := { w.traffic with requests := w.traffic.requests ++ [request] } }

/-- The world after talks with relays. -/
def talked (w : World σ) (talks : List SmtpTalk) : World σ :=
  { w with traffic := { w.traffic with talks := w.traffic.talks ++ talks } }

end World

theorem Attempt.run_log_noting {σ ε : Type} (level : Level) (target message : String)
    (spans : List Span) (w : World σ) :
    (log level target message : Attempt σ ε Unit).run spans w =
      (.ok (), w.noting { events := [⟨level, target, spans, message⟩] }) := by
  simp only [run_log, World.noting, List.append_nil]

namespace Traffic

/-- Holds if requests were added and `P` holds of the first of them. -/
def Asked (P : HttpRequest → Prop) (t t' : Traffic) : Prop :=
  ∃ first more, P first ∧ t'.requests = t.requests ++ first :: more

/-- Holds if a talk with a relay was added and `P` holds of it. -/
def Told (P : SmtpTalk → Prop) (t t' : Traffic) : Prop :=
  ∃ talk, P talk ∧ t'.talks = t.talks ++ [talk]

end Traffic

structure Frame (σ : Type) where
  Rel : World σ → World σ → Prop
  refl (w : World σ) : Rel w w
  trans {u v w : World σ} : Rel u v → Rel v w → Rel u w
  journal (w : World σ) (journal : Journal) : Rel w { w with journal }

namespace Frame

variable {σ : Type}

/-- The objects stay as they are. -/
def objects : Frame σ where
  Rel w w' := w'.objects = w.objects
  refl _ := rfl
  trans h h' := h'.trans h
  journal _ _ := rfl

/-- Nothing is sent. -/
def quiet : Frame σ where
  Rel w w' := w'.traffic = w.traffic
  refl _ := rfl
  trans h h' := h'.trans h
  journal _ _ := rfl

/-- What was sent stays sent. -/
def growing : Frame σ where
  Rel w w' := w.traffic.requests <+: w'.traffic.requests ∧ w.traffic.talks <+: w'.traffic.talks
  refl _ := ⟨List.prefix_refl _, List.prefix_refl _⟩
  trans h h' := ⟨h.1.trans h'.1, h.2.trans h'.2⟩
  journal _ _ := ⟨List.prefix_refl _, List.prefix_refl _⟩

/-- If any request is sent, the first is one that `P` holds of. -/
def beginning (P : HttpRequest → Prop) : Frame σ where
  Rel w w' := w'.traffic.requests = w.traffic.requests ∨
    ∃ first more, P first ∧ w'.traffic.requests = w.traffic.requests ++ first :: more
  refl _ := .inl rfl
  trans := by
    intro u v w h h'
    obtain same | ⟨first, more, holds, eq⟩ := h
    · rw [same] at h'
      exact h'
    · refine .inr ⟨first, ?_⟩
      obtain same' | ⟨first', more', -, eq'⟩ := h'
      · exact ⟨more, holds, same'.trans eq⟩
      · exact ⟨more ++ first' :: more', holds, by rw [eq', eq, List.append_assoc]; rfl⟩
  journal _ _ := .inl rfl

/-- Of every talk with a relay `P` holds. -/
def talking (P : SmtpTalk → Prop) : Frame σ where
  Rel w w' := ∃ more, w'.traffic.talks = w.traffic.talks ++ more ∧ ∀ talk ∈ more, P talk
  refl w := ⟨[], (List.append_nil _).symm, fun _ mem => nomatch mem⟩
  trans := by
    rintro u v w ⟨more, eq, holds⟩ ⟨more', eq', holds'⟩
    refine ⟨more ++ more', by rw [eq', eq, List.append_assoc], fun talk mem => ?_⟩
    exact (List.mem_append.mp mem).elim (holds talk) (holds' talk)
  journal w _ := ⟨[], (List.append_nil _).symm, fun _ mem => nomatch mem⟩

theorem beginning_of_quiet {P : HttpRequest → Prop} {w w' : World σ} (h : quiet.Rel w w') :
    (beginning P).Rel w w' :=
  .inl (congrArg _ h)

theorem talking_of_quiet {P : SmtpTalk → Prop} {w w' : World σ} (h : quiet.Rel w w') :
    (talking P).Rel w w' :=
  ⟨[], (congrArg _ h).trans (List.append_nil _).symm, fun _ mem => nomatch mem⟩

/-- Holds if requests may be sent at any time. -/
def AllowsRequests (frame : Frame σ) : Prop :=
  ∀ (w : World σ) (request : HttpRequest), frame.Rel w (w.requested request)

/-- Holds if relays may be talked to at any time. -/
def AllowsTalks (frame : Frame σ) : Prop :=
  ∀ (w : World σ) (talks : List SmtpTalk), frame.Rel w (w.talked talks)

theorem objects_allowsRequests : (objects : Frame σ).AllowsRequests :=
  fun _ _ => rfl

theorem objects_allowsTalks : (objects : Frame σ).AllowsTalks :=
  fun _ _ => rfl

theorem growing_allowsRequests : (growing : Frame σ).AllowsRequests :=
  fun _ _ => ⟨List.prefix_append _ _, List.prefix_refl _⟩

end Frame

namespace Attempt

variable {σ ε ε' α β : Type} {frame : Frame σ}

def Respects (frame : Frame σ) (attempt : Attempt σ ε α) : Prop :=
  ∀ spans w, frame.Rel w (attempt.run spans w).2

/-- What respects a frame respects every wider one. -/
theorem Respects.mono {wider : Frame σ} {attempt : Attempt σ ε α} (h : attempt.Respects frame)
    (le : ∀ w w', frame.Rel w w' → wider.Rel w w') : attempt.Respects wider :=
  fun spans w => le w _ (h spans w)

theorem respects_pure (a : α) : (pure a : Attempt σ ε α).Respects frame :=
  fun _ w => frame.refl w

theorem respects_throw (error : ε) : (throw error : Attempt σ ε α).Respects frame :=
  fun _ w => frame.refl w

theorem respects_ofExcept (result : Except ε α) :
    (ofExcept result : Attempt σ ε α).Respects frame :=
  fun _ w => frame.refl w

theorem respects_log (level : Level) (target message : String) :
    (log level target message : Attempt σ ε Unit).Respects frame :=
  fun _ w => frame.journal w _

theorem respects_observe (observation : Observation) :
    (observe observation : Attempt σ ε Unit).Respects frame :=
  fun _ w => frame.journal w _

theorem respects_get : (get : Attempt σ ε (World σ)).Respects frame :=
  fun _ w => frame.refl w

theorem respects_modify {f : World σ → World σ} (h : ∀ w, frame.Rel w (f w)) :
    (modify f : Attempt σ ε PUnit).Respects frame :=
  fun _ w => h w

theorem respects_bind {attempt : Attempt σ ε α} {next : α → Attempt σ ε β}
    (first : attempt.Respects frame) (rest : ∀ a, (next a).Respects frame) :
    (attempt >>= next).Respects frame := by
  intro spans w
  have h := first spans w
  rw [run_bind]
  generalize attempt.run spans w = middle at h ⊢
  obtain ⟨error | a, w'⟩ := middle
  · exact h
  · exact frame.trans h (rest a spans w')

theorem respects_within {attempt : Attempt σ ε α} (h : attempt.Respects frame) (span : Span) :
    (within span attempt).Respects frame :=
  fun spans w => h (spans ++ [span]) w

theorem respects_mapError {attempt : Attempt σ ε α} (h : attempt.Respects frame) (f : ε → ε') :
    (attempt.mapError f).Respects frame :=
  fun spans w => h spans w

theorem respects_map {attempt : Attempt σ ε α} (h : attempt.Respects frame) (f : α → β) :
    (f <$> attempt).Respects frame := by
  intro spans w
  rw [run_map]
  exact h spans w

theorem respects_tryCatch {attempt : Attempt σ ε α} {handle : ε → Attempt σ ε α}
    (h : attempt.Respects frame) (handles : ∀ error, (handle error).Respects frame) :
    (tryCatch attempt handle).Respects frame := by
  intro spans w
  have first := h spans w
  rw [run_tryCatch]
  generalize attempt.run spans w = middle at first ⊢
  obtain ⟨error | a, w'⟩ := middle
  · exact frame.trans first (handles error spans w')
  · exact first

/-! What work has sent once it succeeds. Nothing is said of work that fails. -/

def Achieves (goal : Traffic → Traffic → Prop) (attempt : Attempt σ ε α) : Prop :=
  ∀ spans w a v, attempt.run spans w = (.ok a, v) → goal w.traffic v.traffic

section Achieves

variable {goal : Traffic → Traffic → Prop}

theorem achieves_throw (error : ε) : (throw error : Attempt σ ε α).Achieves goal :=
  fun _ _ _ _ h => nomatch h

/-- What achieves a goal achieves it behind work that sends nothing. -/
theorem achieves_last {attempt : Attempt σ ε α} {next : α → Attempt σ ε β}
    (first : attempt.Respects .quiet) (rest : ∀ a, (next a).Achieves goal) :
    (attempt >>= next).Achieves goal := by
  intro spans w b v h
  obtain ⟨a, u, ran, h⟩ := run_eq_ok_of_bind h
  have same : u.traffic = w.traffic := by
    have kept := first spans w
    rw [ran] at kept
    exact kept
  rw [← same]
  exact rest a spans u b v h

/-- What achieves a goal has achieved it when only work that sends nothing follows. -/
theorem achieves_first {attempt : Attempt σ ε α} {next : α → Attempt σ ε β}
    (first : attempt.Achieves goal) (rest : ∀ a, (next a).Respects .quiet) :
    (attempt >>= next).Achieves goal := by
  intro spans w b v h
  obtain ⟨a, u, ran, h⟩ := run_eq_ok_of_bind h
  have same : v.traffic = u.traffic := by
    have kept := rest a spans u
    rw [h] at kept
    exact kept
  rw [same]
  exact first spans w a u ran

theorem achieves_within {attempt : Attempt σ ε α} (h : attempt.Achieves goal) (span : Span) :
    (within span attempt).Achieves goal :=
  fun spans w => h (spans ++ [span]) w

theorem achieves_mapError {attempt : Attempt σ ε α} (h : attempt.Achieves goal) (f : ε → ε') :
    (attempt.mapError f).Achieves goal := by
  intro spans w a v ran
  rw [run_mapError] at ran
  generalize result : attempt.run spans w = state at ran
  obtain ⟨error | a', u⟩ := state
  · exact nomatch ran
  · cases ran
    exact h spans w a u result

end Achieves

end Attempt

end CleanupCourier
