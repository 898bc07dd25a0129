import CleanupCourier.Proofs.Destination.Agreement
import CleanupCourier.Proofs.Dispatch.Pass

/-!
Passes side by side. If whatever is in charge of an entry ends alike in two dispatchers, as far as
it does what is asked of an attempt, then passes over the same entries attempt the same ones, note
the same about them and end alike.
-/
namespace CleanupCourier

namespace Dispatcher

variable {σ : Type}

/-- Holds if `P` holds of each attempt of a pass: of the entry, of the world that it finds and of
what comes of it there. -/
def EachAttempt (dispatcher : Dispatcher σ)
    (P : Notification → World σ → Except DeliveryError Unit × World σ → Prop) (run : Run)
    (spans : List Span) : List Notification → World σ → Prop
  | [], _ => True
  | n :: rest, w =>
    P n w (dispatcher.outcome run spans w n) ∧
      ((dispatcher.outcome run spans w n).1 = .ok () →
        dispatcher.EachAttempt P run spans rest (dispatcher.after run spans w n))

theorem eachAttempt_of_forall {dispatcher : Dispatcher σ}
    {P : Notification → World σ → Except DeliveryError Unit × World σ → Prop}
    (h : ∀ n w ended, P n w ended) (run : Run) (spans : List Span) (entries : List Notification)
    (w : World σ) : dispatcher.EachAttempt P run spans entries w := by
  induction entries generalizing w with
  | nil => trivial
  | cons n rest ih => exact ⟨h _ _ _, fun _ => ih _⟩

section Pass

variable {R : World σ → World σ → Prop}
  {P : Notification → World σ → Except DeliveryError Unit × World σ → Prop}
  {dispatcher dispatcher' : Dispatcher σ} {run : Run} {spans : List Span}
  (noting : ∀ w v j, R w v → R (w.noting j) (v.noting j))

include noting

/-- Worlds that are related stay so, as the same is noted about ends that are alike. -/
theorem related_after {n : Notification} {w v : World σ}
    (h : Alike R Eq (dispatcher.outcome run spans w n) (dispatcher'.outcome run spans v n)) :
    R (dispatcher.after run spans w n) (dispatcher'.after run spans v n) := by
  rw [after, after, h.result.eq]
  exact noting _ _ _ h.state

/-- By induction on the entries. -/
theorem alike_attemptAll {entries : List Notification}
    (step : ∀ n ∈ entries, ∀ w v, R w v → P n w (dispatcher.outcome run spans w n) →
      P n v (dispatcher'.outcome run spans v n) →
      Alike R Eq (dispatcher.outcome run spans w n) (dispatcher'.outcome run spans v n))
    {kept kept' : Option String} (keeps : Keeps run.report kept)
    (keeps' : Keeps run.report kept') {w v : World σ} (related : R w v)
    (each : dispatcher.EachAttempt P run spans entries w)
    (each' : dispatcher'.EachAttempt P run spans entries v) :
    Alike R Eq
      ((dispatcher.attemptAll run.name run.report kept entries).run spans w)
      ((dispatcher'.attemptAll run.name run.report kept' entries).run spans v) := by
  induction entries generalizing kept kept' w v with
  | nil => exact ⟨.ok rfl, related⟩
  | cons n rest ih =>
    have ended := step n List.mem_cons_self w v related each.1 each'.1
    have after := related_after noting ended
    have same := ended.result.eq
    obtain ⟨next, keepsNext, attempted⟩ := run_attempt dispatcher keeps n spans w
    obtain ⟨next', keepsNext', attempted'⟩ := run_attempt dispatcher' keeps' n spans v
    rw [attemptAll, attemptAll, Attempt.run_bind, Attempt.run_bind, ExceptT.run_mk, ExceptT.run_mk,
      attempted, attempted', ← same]
    cases result : (dispatcher.outcome run spans w n).1 with
    | error error => exact ⟨.error error, after⟩
    | ok done =>
      exact ih (fun m mem => step m (List.mem_cons_of_mem _ mem)) keepsNext keepsNext' after
        (each.2 result) (each'.2 (same.symm.trans result))

/-- Runs end alike whose entries do. -/
theorem alike_perform
    (step : ∀ n ∈ run.entries, ∀ w v, R w v → P n w (dispatcher.outcome run spans w n) →
      P n v (dispatcher'.outcome run spans v n) →
      Alike R Eq (dispatcher.outcome run spans w n) (dispatcher'.outcome run spans v n))
    {w v : World σ} (related : R w v) (each : dispatcher.EachAttempt P run spans run.entries w)
    (each' : dispatcher'.EachAttempt P run spans run.entries v) :
    Alike R Eq ((dispatcher.perform run).run spans w) ((dispatcher'.perform run).run spans v) := by
  by_cases none : run.entries = []
  · rw [perform_of_nil _ none, perform_of_nil _ none]
    refine ⟨.ok rfl, ?_⟩
    rw [Attempt.run_log_noting, Attempt.run_log_noting]
    exact noting _ _ _ related
  · rw [perform_of_ne_nil _ none, perform_of_ne_nil _ none]
    exact alike_attemptAll noting step (keeps_none _) (keeps_none _) related each each'

end Pass

/-- Holds of an entry that ends alike in two dispatchers if `P` holds of both attempts. -/
def EndsAlike (bond : Bond σ)
    (P : Notification → World σ → Except DeliveryError Unit × World σ → Prop)
    (dispatcher dispatcher' : Dispatcher σ) (run : Run) (n : Notification) : Prop :=
  ∀ spans w v, bond.Holds w v → P n w (dispatcher.outcome run spans w n) →
    P n v (dispatcher'.outcome run spans v n) →
    Alike bond.Holds Eq (dispatcher.outcome run spans w n) (dispatcher'.outcome run spans v n)

/-- Runs agree whose entries end alike. -/
theorem agree_perform {bond : Bond σ}
    {P : Notification → World σ → Except DeliveryError Unit × World σ → Prop}
    {dispatcher dispatcher' : Dispatcher σ} {run : Run} {spans : List Span}
    (step : ∀ n, EndsAlike bond P dispatcher dispatcher' run n) {w v : World σ}
    (holds : bond.Holds w v) (each : dispatcher.EachAttempt P run spans run.entries w)
    (each' : dispatcher'.EachAttempt P run spans run.entries v) :
    Alike bond.Holds Eq ((dispatcher.perform run).run spans w)
      ((dispatcher'.perform run).run spans v) :=
  alike_perform (fun _ _ j h => h.noting j) (fun n _ => step n spans) holds each each'

section Make

variable {T : Tolerance} {network : Network} {objects : σ → σ → Prop}
  {store store' : ObjectStore σ} (overlooks : network.Overlooks T.veil)
  (agree : store.Agree T objects store') (settings : Settings) (validator : WebhookValidator)

include overlooks agree

/-- Whatever is in charge of an entry agrees with its counterpart if the sink for Teams does. -/
theorem agree_handler (run : Run) (n : Notification)
    (teams : n.type = .teams → Attempt.Agree ⟨objects, T.veil⟩ Eq
      ((Sinks.make store network settings validator).teams run.delivery n)
      ((Sinks.make store' network settings validator).teams run.delivery n)) :
    Attempt.Agree ⟨objects, T.veil⟩ Eq
      (handler ⟨store, Sinks.make store network settings validator⟩ run n)
      (handler ⟨store', Sinks.make store' network settings validator⟩ run n) := by
  obtain ⟨slack, discord, webex, smtp⟩ :=
    Sink.agree_make overlooks agree settings validator run.delivery n
  unfold handler
  cases type : n.type with
  | cleanerReport =>
    refine Attempt.agree_bind_eq ?_ fun _ => Attempt.agree_pure rfl
    exact Attempt.agree_mapError (Report.agree_upsert agree run.name run.report) _
  | slack => exact slack
  | teams => exact teams type
  | discord => exact discord
  | webex => exact webex
  | smtp => exact smtp
  | unsupported name => exact Attempt.agree_throw _

end Make

end Dispatcher

end CleanupCourier
