import Mathlib.Tactic.Common
import CleanupCourier.Dispatch
import CleanupCourier.Proofs.Destination.Effects

/-!
What a pass over the notifications of a Cleaner does, told by what the ones in charge of the entries
do. An entry in its turn has its handler work once, in the world that the entries before it left;
the pass ends behind the first entry that fails. Nothing is assumed of the store and of the sinks,
each of which may do anything in view of the whole world so far.
-/
namespace CleanupCourier

/-- A run of a Cleaner, as a dispatcher gets it. -/
structure Run where
  now : Instant
  results : List ResourceResult
  cleaner : Cleaner

namespace Run

def name (run : Run) : String :=
  run.cleaner.anyName

def entries (run : Run) : List Notification :=
  run.cleaner.spec.notifications

def report (run : Run) : ReportSpec :=
  .generate run.results run.cleaner.spec.action run.now

/-- What every sink gets. -/
def delivery (run : Run) : Delivery :=
  ⟨run.report.payload, reportMessage run.name⟩

end Run

namespace Dispatcher

variable {σ : Type}

/-- Sends the notifications of a run. -/
def perform (dispatcher : Dispatcher σ) (run : Run) : Attempt σ DeliveryError Unit :=
  dispatcher.sendNotifications run.now run.results run.cleaner

/-- The one in charge of an entry: for a Report the store, which gets it under the name of the
Cleaner, for other known types the sink of the type, and for an unknown type nobody. -/
def handler (dispatcher : Dispatcher σ) (run : Run) (n : Notification) :
    Attempt σ DeliveryError Unit :=
  match n.type with
  | .cleanerReport => do
    let _ ← (Report.upsert dispatcher.store run.name run.report).mapError DeliveryError.store
  | .slack => dispatcher.sinks.slack run.delivery n
  | .teams => dispatcher.sinks.teams run.delivery n
  | .discord => dispatcher.sinks.discord run.delivery n
  | .webex => dispatcher.sinks.webex run.delivery n
  | .smtp => dispatcher.sinks.smtp run.delivery n
  | .unsupported name => throw (.unsupportedType (.unsupported name))

/-- What holds of all sinks, and of nobody's work, holds of the one in charge of an entry that is
not for the store. -/
theorem handler_of_each {dispatcher : Dispatcher σ} {run : Run} {n : Notification}
    {P : NotificationType → Attempt σ DeliveryError Unit → Prop}
    (sinks : dispatcher.sinks.Each run.delivery P)
    (nobody : ∀ name error, P (.unsupported name) (throw error))
    (other : n.type ≠ .cleanerReport) : P n.type (dispatcher.handler run n) := by
  unfold handler
  cases type : n.type with
  | cleanerReport => exact absurd type other
  | slack => exact sinks.slack n
  | teams => exact sinks.teams n
  | discord => exact sinks.discord n
  | webex => exact sinks.webex n
  | smtp => exact sinks.smtp n
  | unsupported name => exact nobody name _

/-- What is taken down about an entry when its handler is done. -/
def note (spans : List Span) (n : Notification) : Except DeliveryError Unit → Journal
  | .ok () => { observations := [.attempted n.type.label true] }
  | .error error =>
    { events := [⟨.info, target, spans ++ [span n],
        "failed to send notification: " ++ error.message⟩]
      observations := [.attempted n.type.label false, .aborted] }

section Reference

variable (dispatcher : Dispatcher σ) (run : Run) (spans : List Span)

/-- What comes of an entry, and the world that its handler leaves. -/
def outcome (w : World σ) (n : Notification) : Except DeliveryError Unit × World σ :=
  (dispatcher.handler run n).run (spans ++ [span n]) w

/-- The world after an entry. -/
def after (w : World σ) (n : Notification) : World σ :=
  (dispatcher.outcome run spans w n).2.noting (note spans n (dispatcher.outcome run spans w n).1)

/-- The world after several entries, whatever comes of each. -/
def afterAll (entries : List Notification) (w : World σ) : World σ :=
  entries.foldl (dispatcher.after run spans) w

/-- Holds where every entry succeeds in the world that those before it leave. -/
def AllSucceed : List Notification → World σ → Prop
  | [], _ => True
  | n :: rest, w =>
    (dispatcher.outcome run spans w n).1 = .ok () ∧ AllSucceed rest (dispatcher.after run spans w n)

/-- Holds where the entries before one succeed and this one fails. -/
def FailsFirst (before : List Notification) (n : Notification) (error : DeliveryError)
    (w : World σ) : Prop :=
  dispatcher.AllSucceed run spans before w ∧
    (dispatcher.outcome run spans (dispatcher.afterAll run spans before w) n).1 = .error error

/-- The entries that are attempted: those up to the first that fails. -/
def attempted : List Notification → World σ → List Notification
  | [], _ => []
  | n :: rest, w =>
    match (dispatcher.outcome run spans w n).1 with
    | .ok () => n :: attempted rest (dispatcher.after run spans w n)
    | .error _ => [n]

/-- What is kept of the report for later sinks is its text. -/
def Keeps (report : ReportSpec) (kept : Option String) : Prop :=
  ∀ payload ∈ kept, payload = report.payload

end Reference

variable {run : Run} {kept : Option String}

/-- What a result comes to where the text of the report is handed on with it. -/
def withKept (kept : Option String) : Except DeliveryError Unit × World σ →
    Except DeliveryError (Option String) × World σ
  | (.ok (), w) => (.ok kept, w)
  | (.error error, w) => (.error error, w)

theorem run_bring (h : Keeps run.report kept) (sink : Sink σ) (n : Notification)
    (spans : List Span) (w : World σ) :
    (bring run.name run.report kept sink n).run spans w =
      withKept (some run.report.payload) ((sink run.delivery n).run spans w) := by
  have payload : kept.getD run.report.payload = run.report.payload := by
    cases kept with
    | none => rfl
    | some payload => exact h payload rfl
  rw [bring, payload, Attempt.run_bind]
  change _ = withKept _ ((sink ⟨run.report.payload, reportMessage run.name⟩ n).run spans w)
  obtain ⟨_ | _, _⟩ := (sink ⟨run.report.payload, reportMessage run.name⟩ n).run spans w <;> rfl

theorem run_deliver (dispatcher : Dispatcher σ) (h : Keeps run.report kept) (n : Notification)
    (spans : List Span) (w : World σ) :
    ∃ kept', Keeps run.report kept' ∧
      (dispatcher.deliver run.name run.report kept n).run spans w =
        withKept kept' ((dispatcher.handler run n).run spans w) := by
  have made : Keeps run.report (some run.report.payload) := fun _ eq => (Option.some.inj eq).symm
  unfold deliver handler
  cases n.type with
  | cleanerReport =>
    refine ⟨kept, h, ?_⟩
    simp only [Attempt.run_bind]
    obtain ⟨_ | _, _⟩ :=
      ((Report.upsert dispatcher.store run.name run.report).mapError DeliveryError.store).run
        spans w <;> rfl
  | slack => exact ⟨_, made, run_bring h _ n spans w⟩
  | teams => exact ⟨_, made, run_bring h _ n spans w⟩
  | discord => exact ⟨_, made, run_bring h _ n spans w⟩
  | webex => exact ⟨_, made, run_bring h _ n spans w⟩
  | smtp => exact ⟨_, made, run_bring h _ n spans w⟩
  | unsupported name => exact ⟨kept, h, rfl⟩

/-- The step of a pass: an attempt comes to the outcome of the entry, in the world after it. -/
theorem run_attempt (dispatcher : Dispatcher σ) (h : Keeps run.report kept) (n : Notification)
    (spans : List Span) (w : World σ) :
    ∃ kept', Keeps run.report kept' ∧
      dispatcher.attempt run.name run.report kept n spans w =
        withKept kept' ((dispatcher.outcome run spans w n).1, dispatcher.after run spans w n) := by
  obtain ⟨kept', keeps, eq⟩ := run_deliver dispatcher h n (spans ++ [span n]) w
  refine ⟨kept', keeps, ?_⟩
  change _ = withKept kept' (dispatcher.outcome run spans w n) at eq
  simp only [attempt, Work.bind_apply, Work.within_apply, eq, after]
  obtain ⟨error | ⟨⟩, w'⟩ := dispatcher.outcome run spans w n
  · simp only [withKept, note, World.noting, Work.bind_apply, Work.within_apply, Work.log_apply,
      Work.observe_apply, Work.pure_apply, List.append_assoc]
    rfl
  · simp only [withKept, note, World.noting, Work.observe_apply, Work.pure_apply, List.append_nil]
    rfl

/-- The run of a pass, by induction on its entries: the world that the step leaves is the one that
the rest of the pass starts in. -/
theorem run_attemptAll (dispatcher : Dispatcher σ) (entries : List Notification)
    (h : Keeps run.report kept) (spans : List Span) (w : World σ) :
    (dispatcher.AllSucceed run spans entries w ∧
      (dispatcher.attemptAll run.name run.report kept entries).run spans w =
        (.ok (), dispatcher.afterAll run spans entries w)) ∨
    ∃ before n later error, entries = before ++ n :: later ∧
      dispatcher.FailsFirst run spans before n error w ∧
      (dispatcher.attemptAll run.name run.report kept entries).run spans w =
        (.error error, dispatcher.afterAll run spans (before ++ [n]) w) := by
  induction entries generalizing kept w with
  | nil => exact .inl ⟨trivial, rfl⟩
  | cons n rest ih =>
    obtain ⟨kept', keeps, step⟩ := run_attempt dispatcher h n spans w
    rw [attemptAll, Attempt.run_bind, ExceptT.run_mk, step]
    cases result : (dispatcher.outcome run spans w n).1 with
    | error error =>
      exact .inr ⟨[], n, rest, error, rfl, ⟨trivial, result⟩, rfl⟩
    | ok done =>
      obtain ⟨succeed, eq⟩ | ⟨before, m, later, error, split, ⟨succeed, fails⟩, eq⟩ :=
        ih keeps (dispatcher.after run spans w n)
      · exact .inl ⟨⟨result, succeed⟩, eq⟩
      · subst split
        exact .inr ⟨n :: before, m, later, error, rfl, ⟨⟨result, succeed⟩, fails⟩, eq⟩

theorem attempted_of_allSucceed {dispatcher : Dispatcher σ} {spans : List Span}
    {entries : List Notification} {w : World σ} (h : dispatcher.AllSucceed run spans entries w) :
    dispatcher.attempted run spans entries w = entries := by
  induction entries generalizing w with
  | nil => rfl
  | cons n rest ih =>
    rw [attempted, h.1]
    exact congrArg _ (ih h.2)

theorem attempted_of_failsFirst {dispatcher : Dispatcher σ} {spans : List Span}
    {before later : List Notification} {n : Notification} {error : DeliveryError} {w : World σ}
    (h : dispatcher.FailsFirst run spans before n error w) :
    dispatcher.attempted run spans (before ++ n :: later) w = before ++ [n] := by
  obtain ⟨succeed, fails⟩ := h
  induction before generalizing w with
  | nil =>
    change (dispatcher.outcome run spans w n).1 = .error error at fails
    rw [List.nil_append, attempted, fails]
    rfl
  | cons m rest ih =>
    rw [List.cons_append, attempted, succeed.1]
    exact congrArg _ (ih succeed.2 fails)

/-- An entry is attempted if and only if all the entries before it succeed. -/
theorem mem_attempted {dispatcher : Dispatcher σ} {spans : List Span}
    {entries : List Notification} {n : Notification} {w : World σ} :
    n ∈ dispatcher.attempted run spans entries w ↔
      ∃ before later, entries = before ++ n :: later ∧
        dispatcher.AllSucceed run spans before w := by
  induction entries generalizing w with
  | nil => simp [attempted]
  | cons m rest ih =>
    rw [attempted]
    constructor
    · intro mem
      cases result : (dispatcher.outcome run spans w m).1 with
      | error error =>
        rw [result] at mem
        exact ⟨[], rest, by rw [List.mem_singleton.mp mem]; rfl, trivial⟩
      | ok done =>
        rw [result] at mem
        obtain rfl | mem := List.mem_cons.mp mem
        · exact ⟨[], rest, rfl, trivial⟩
        · obtain ⟨before, later, split, succeed⟩ := ih.mp mem
          exact ⟨m :: before, later, by rw [split]; rfl, result, succeed⟩
    · rintro ⟨before, later, split, succeed⟩
      cases before with
      | nil =>
        cases split
        obtain _ | _ := (dispatcher.outcome run spans w n).1 <;> exact List.mem_cons_self
      | cons head before =>
        cases split
        rw [succeed.1]
        exact List.mem_cons_of_mem _ (ih.mpr ⟨before, later, rfl, succeed.2⟩)

/-- The world after a pass is the one that the attempted entries leave. -/
theorem world_attemptAll (dispatcher : Dispatcher σ) (entries : List Notification)
    (h : Keeps run.report kept) (spans : List Span) (w : World σ) :
    ((dispatcher.attemptAll run.name run.report kept entries).run spans w).2 =
      dispatcher.afterAll run spans (dispatcher.attempted run spans entries w) w := by
  obtain ⟨succeed, eq⟩ | ⟨before, n, later, error, split, fails, eq⟩ :=
    run_attemptAll dispatcher entries h spans w
  · rw [eq, attempted_of_allSucceed succeed]
  · rw [eq, split, attempted_of_failsFirst fails]

theorem perform_of_nil (dispatcher : Dispatcher σ) (h : run.entries = []) :
    dispatcher.perform run = Attempt.log .debug target "no notifications configured" :=
  if_pos (List.isEmpty_iff.mpr h)

theorem perform_of_ne_nil (dispatcher : Dispatcher σ) (h : run.entries ≠ []) :
    dispatcher.perform run = dispatcher.attemptAll run.name run.report none run.entries :=
  if_neg (mt List.isEmpty_iff.mp h)

theorem keeps_none (report : ReportSpec) : Keeps report none :=
  fun _ h => nomatch h

/-- The world after a run is the one that the attempted entries leave; a run without entries has
something to say about it. -/
theorem world_perform (dispatcher : Dispatcher σ) (run : Run) (spans : List Span) (w : World σ) :
    ∃ said : Journal, ((dispatcher.perform run).run spans w).2 =
      (dispatcher.afterAll run spans (dispatcher.attempted run spans run.entries w) w).noting
        said := by
  by_cases none : run.entries = []
  · refine ⟨{ events := [⟨.debug, target, spans, "no notifications configured"⟩] }, ?_⟩
    rw [perform_of_nil dispatcher none, Attempt.run_log, none]
    simp only [attempted, afterAll, List.foldl_nil, World.noting, List.append_nil]
  · refine ⟨{}, ?_⟩
    rw [perform_of_ne_nil dispatcher none, world_attemptAll dispatcher _ (keeps_none _)]
    simp only [World.noting, List.append_nil]

/-- A run equals its reference. Without entries there is one line in the log and nothing else. With
entries, the ones in charge of them have worked once for each in order, up to the first entry that
fails, whose error is the result; if none fails they have worked for all. The world is the one they
leave, with the notes about the attempts in its journal. -/
theorem sendNotifications_reference (dispatcher : Dispatcher σ) (now : Instant)
    (results : List ResourceResult) (cleaner : Cleaner) (spans : List Span) (w : World σ) :
    let run : Run := ⟨now, results, cleaner⟩
    let sent := (dispatcher.sendNotifications now results cleaner).run spans w
    (run.entries = [] ∧ sent = (.ok (), w.noting
      { events := [⟨.debug, target, spans, "no notifications configured"⟩] })) ∨
    (run.entries ≠ [] ∧ dispatcher.AllSucceed run spans run.entries w ∧
      sent = (.ok (), dispatcher.afterAll run spans run.entries w)) ∨
    ∃ before n later error, run.entries = before ++ n :: later ∧
      dispatcher.FailsFirst run spans before n error w ∧
      sent = (.error error, dispatcher.afterAll run spans (before ++ [n]) w) := by
  intro run sent
  have sent_eq : sent = (dispatcher.perform run).run spans w := rfl
  by_cases none : run.entries = []
  · refine .inl ⟨none, ?_⟩
    rw [sent_eq, perform_of_nil dispatcher none, Attempt.run_log]
    simp only [World.noting, List.append_nil]
  · rw [sent_eq, perform_of_ne_nil dispatcher none]
    exact .inr ((run_attemptAll dispatcher run.entries (keeps_none _) spans w).imp_left (⟨none, ·⟩))

end Dispatcher

end CleanupCourier
