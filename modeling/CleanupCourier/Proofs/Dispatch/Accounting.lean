import CleanupCourier.Proofs.Destination.Pairing
import CleanupCourier.Proofs.Dispatch.History
import CleanupCourier.Proofs.Metrics.Counters

/-!
The metrics after many runs over the store in memory. What an entry adds to them balances by itself:
an attempt is counted once with its end and once with its duration, a failure once more as the end
of its run, and the success of an entry for a Report once more as a Report that was created or
updated. So the metrics balance after every run, however it ended, and after all of them.
-/
namespace CleanupCourier

namespace NotificationType

/-- All labels there are in the metrics. -/
def labels : List String :=
  known.map name ++ ["Unsupported"]

theorem label_mem (t : NotificationType) : t.label ∈ labels := by
  cases t with
  | unsupported name => exact List.mem_append_right _ List.mem_cons_self
  | _ => decide

/-- Only the type of entries for Reports has their label. -/
theorem label_ne_report {t : NotificationType} (h : t ≠ .cleanerReport) :
    t.label ≠ "CleanerReport" := by
  cases t with
  | cleanerReport => exact absurd rfl h
  | _ => simp [label, name]

/-- Only unknown types have their label. -/
theorem label_ne_unsupported {t : NotificationType} (h : ∀ name, t ≠ .unsupported name) :
    t.label ≠ "Unsupported" := by
  cases t with
  | unsupported name => exact absurd rfl (h name)
  | _ => simp [label, name]

end NotificationType

open Metrics NotificationType

/-- Holds of observations about some attempted entries, and about a number of runs that failed, if
the counters that they raise balance. -/
structure Balanced (observations : List Observation) (attempted : List Notification)
    (failed : Nat) : Prop where
  ended (label : String) :
    raised observations (.attempts label true) + raised observations (.attempts label false) =
      attempted.countP (·.type.label = label)
  measured (label : String) :
    raised observations (.durations label) = attempted.countP (·.type.label = label)
  failures : raisedTogether observations (labels.map (.attempts · false)) =
    raised observations .aborts
  aborted : raised observations .aborts = failed
  written : raised observations (.attempts "CleanerReport" true) =
    raised observations (.writes .create) + raised observations (.writes .update)
  unsupported : raised observations (.attempts "Unsupported" true) = 0

namespace Balanced

theorem nil : Balanced [] [] 0 where
  ended _ := rfl
  measured _ := rfl
  failures := rfl
  aborted := rfl
  written := rfl
  unsupported := rfl

theorem append {before more : List Observation} {attempted further : List Notification}
    {failed fails : Nat} (h : Balanced before attempted failed)
    (h' : Balanced more further fails) :
    Balanced (before ++ more) (attempted ++ further) (failed + fails) where
  ended label := by
    rw [raised_append, raised_append, List.countP_append, ← h.ended, ← h'.ended]
    omega
  measured label := by rw [raised_append, List.countP_append, h.measured, h'.measured]
  failures := by rw [raisedTogether_append, raised_append, h.failures, h'.failures]
  aborted := by rw [raised_append, h.aborted, h'.aborted]
  written := by
    rw [raised_append, raised_append, raised_append, h.written, h'.written]
    omega
  unsupported := by rw [raised_append, h.unsupported, h'.unsupported]

theorem failures_of_none {observations : List Observation}
    (failures : ∀ label, raised observations (.attempts label false) = 0)
    (aborts : raised observations .aborts = 0) :
    raisedTogether observations (labels.map (.attempts · false)) = raised observations .aborts := by
  rw [aborts]
  exact raisedTogether_eq_zero (List.forall_mem_map.mpr fun label _ => failures label)

/-- An entry for a sink that succeeds. -/
theorem success {n : Notification} (report : n.type.label ≠ "CleanerReport")
    (known : n.type.label ≠ "Unsupported") :
    Balanced [.attempted n.type.label true] [n] 0 where
  ended label := by
    by_cases same : n.type.label = label <;>
      simp [raised_singleton, Observation.counters, same]
  measured label := by
    by_cases same : n.type.label = label <;>
      simp [raised_singleton, Observation.counters, same]
  failures := failures_of_none (fun label => by simp [raised_singleton, Observation.counters])
    (by simp [raised_singleton, Observation.counters])
  aborted := by simp [raised_singleton, Observation.counters]
  written := by simp [raised_singleton, Observation.counters, report]
  unsupported := by simp [raised_singleton, Observation.counters, known]

/-- An entry for a Report, which is created or updated. -/
theorem report {n : Notification} (type : n.type = .cleanerReport) (operation : WriteOperation) :
    Balanced [.reportWritten operation, .attempted n.type.label true] [n] 0 where
  ended label := by
    by_cases same : n.type.label = label <;>
      simp [raised_eq_count, Observation.counters, same]
  measured label := by
    by_cases same : n.type.label = label <;>
      simp [raised_eq_count, Observation.counters, same]
  failures := failures_of_none (fun label => by simp [raised_eq_count, Observation.counters])
    (by simp [raised_eq_count, Observation.counters])
  aborted := by simp [raised_eq_count, Observation.counters]
  written := by
    rw [type]
    cases operation <;> simp [raised_eq_count, Observation.counters, label, name]
  unsupported := by
    rw [type]
    simp [raised_eq_count, Observation.counters, label, name]

theorem failure (n : Notification) :
    Balanced [.attempted n.type.label false, .aborted] [n] 1 where
  ended label := by
    by_cases same : n.type.label = label <;>
      simp [raised_eq_count, Observation.counters, same]
  measured label := by
    by_cases same : n.type.label = label <;>
      simp [raised_eq_count, Observation.counters, same]
  failures := by
    have counted (some : List String) :
        raisedTogether [.attempted n.type.label false, .aborted] (some.map (.attempts · false)) =
          some.count n.type.label := by
      induction some with
      | nil => rfl
      | cons label rest ih =>
        rw [List.map_cons, raisedTogether, ih, List.count_cons, Nat.add_comm]
        by_cases same : label = n.type.label <;>
          simp [raised_eq_count, Observation.counters, same, Ne.symm]
    have once : ∀ label ∈ labels, labels.count label = 1 := by decide
    rw [counted, once _ n.type.label_mem]
    simp [raised_eq_count, Observation.counters]
  aborted := by simp [raised_eq_count, Observation.counters]
  written := by simp [raised_eq_count, Observation.counters]
  unsupported := by simp [raised_eq_count, Observation.counters]

end Balanced

namespace Dispatcher

/-- Holds of sinks that leave what was observed as it is. -/
def Uncounted {σ : Type} (sinks : Sinks σ) : Prop :=
  ∀ d, sinks.Each d fun _ attempt => ∀ spans w,
    (attempt.run spans w).2.journal.observations = w.journal.observations

/-- Relates a world to itself if it has some observations. What is paired with itself by this
relation adds none. -/
def Observing {σ : Type} (observations : List Observation) (w v : World σ) : Prop :=
  w = v ∧ v.journal.observations = observations

theorem parallel_observing {σ : Type} (network : Network) (observations : List Observation) :
    Parallel (σ := σ) network network (Observing observations) where
  reach := rfl
  reply h := by rw [h.1]
  relay h := by rw [h.1]
  logged h events := ⟨by rw [h.1], by rw [World.noting, List.append_nil, h.2]⟩
  requested h request := ⟨by rw [h.1], h.2⟩
  talked h talks := ⟨by rw [h.1], h.2⟩

theorem paired_getSecret_observing (observations : List Observation)
    (namespaceName name : String) :
    Attempt.Paired (Observing observations) Eq (ObjectStore.memory.getSecret namespaceName name)
      (ObjectStore.memory.getSecret namespaceName name) := by
  intro spans w v h
  rw [ObjectStore.run_getSecret_memory, ObjectStore.run_getSecret_memory, h.1]
  exact ⟨.refl _, rfl, h.2⟩

/-- The sinks of the program count nothing. -/
theorem uncounted_make (network : Network) (settings : Settings) (validator : WebhookValidator) :
    Uncounted (Sinks.make .memory network settings validator) := by
  intro d
  have counts {attempt : Attempt MemoryStore DeliveryError Unit}
      (h : ∀ observations, Attempt.Paired (Observing observations) Eq attempt attempt)
      (spans : List Span) (w : World MemoryStore) :
      (attempt.run spans w).2.journal.observations = w.journal.observations :=
    (h _ spans w w ⟨rfl, rfl⟩).state.2
  have pairs (n : Notification) (observations : List Observation) :=
    Sinks.paired_make (parallel_observing network observations)
      (fun ref (_ : n.secretRef = .ok ref) =>
        paired_getSecret_observing observations ref.namespaceName ref.name) settings validator d
  exact {
    slack := fun n => counts fun observations => (pairs n observations).1
    teams := fun n => counts fun observations => (pairs n observations).2.1
    discord := fun n => counts fun observations => (pairs n observations).2.2.1
    webex := fun n => counts fun observations => (pairs n observations).2.2.2.1
    smtp := fun n => counts fun observations => (pairs n observations).2.2.2.2 }

section Histories

variable {σ : Type} (dispatcher : Dispatcher σ) (spans : List Span)

/-- The entries that the runs of a history attempt. -/
def attemptedIn : List Run → World σ → List Notification
  | [], _ => []
  | run :: rest, w =>
    dispatcher.attempted run spans run.entries w ++
      attemptedIn rest (dispatcher.afterRun spans w run)

/-- What the runs of a history return. -/
def resultsIn : List Run → World σ → List (Except DeliveryError Unit)
  | [], _ => []
  | run :: rest, w =>
    ((dispatcher.perform run).run spans w).1 :: resultsIn rest (dispatcher.afterRun spans w run)

end Histories

/-- What the metrics tell of the way from one world to another: observations were added that
balance, and as many Reports as were created. -/
structure Accounted (attempted : List Notification) (failed : Nat) (w w' : World MemoryStore) :
    Prop where
  keyed : w'.objects.Keyed
  added : ∃ observations, w'.journal.observations = w.journal.observations ++ observations ∧
    Balanced observations attempted failed ∧
    w'.objects.reportCount = w.objects.reportCount + raised observations (.writes .create)

namespace Accounted

theorem refl {w : World MemoryStore} (keyed : w.objects.Keyed) : Accounted [] 0 w w :=
  ⟨keyed, [], (List.append_nil _).symm, .nil, rfl⟩

theorem trans {attempted further : List Notification} {failed fails : Nat}
    {u v w : World MemoryStore} (h : Accounted attempted failed u v)
    (h' : Accounted further fails v w) :
    Accounted (attempted ++ further) (failed + fails) u w := by
  obtain ⟨-, before, observed, balanced, count⟩ := h
  obtain ⟨keyed, more, observed', balanced', count'⟩ := h'
  refine ⟨keyed, before ++ more, ?_, balanced.append balanced', ?_⟩
  · rw [observed', observed, List.append_assoc]
  · rw [count', count, raised_append, Nat.add_assoc]

end Accounted

section Memory

variable {sinks : Sinks MemoryStore} {w : World MemoryStore} {n : Notification}

/-- An entry for a Report. -/
theorem accounted_report (keyed : w.objects.Keyed) (type : n.type = .cleanerReport) (run : Run)
    (spans : List Span) :
    Accounted [n] 0 w ((inMemory sinks).after run spans w n) := by
  refine ⟨(after_report sinks keyed type run spans).keyed keyed, ?_⟩
  rw [after, outcome_report keyed type]
  have count := w.objects.reportCount_put (w.objects.revised run.name run.report)
  rw [MemoryStore.anyName_revised (keyed run.name)] at count
  cases found : w.objects.report? run.name with
  | none =>
    refine ⟨[.reportWritten .create, .attempted n.type.label true], ?_, .report type .create, ?_⟩
    · simp only [World.noting, Report.writeNote, note, List.append_assoc, List.cons_append,
        List.nil_append]
    · rw [found] at count
      exact count.trans (by simp [raised_eq_count, Observation.counters])
  | some report =>
    refine ⟨[.reportWritten .update, .attempted n.type.label true], ?_, .report type .update, ?_⟩
    · simp only [World.noting, Report.writeNote, note, List.append_assoc, List.cons_append,
        List.nil_append]
    · rw [found] at count
      exact count.trans (by simp [raised_eq_count, Observation.counters])

variable (reads : OnlyRead sinks) (uncounted : Uncounted sinks)

include reads uncounted

/-- Any other entry: whoever is in charge of it has observed nothing. -/
theorem accounted_other (keyed : w.objects.Keyed) (other : n.type ≠ .cleanerReport) (run : Run)
    (spans : List Span) :
    Accounted [n] (if ((inMemory sinks).outcome run spans w n).1.toBool then 0 else 1) w
      ((inMemory sinks).after run spans w n) := by
  have objects := after_other reads other run spans w
  have each : (inMemory sinks).sinks.Each run.delivery fun _ attempt => ∀ spans w,
      (attempt.run spans w).2.journal.observations = w.journal.observations :=
    uncounted run.delivery
  have silent : ((inMemory sinks).outcome run spans w n).2.journal.observations =
      w.journal.observations :=
    handler_of_each each (fun _ _ _ _ => rfl) other (spans ++ [span n]) w
  refine ⟨objects ▸ keyed, ?_⟩
  rw [objects, after, World.noting, silent]
  cases result : ((inMemory sinks).outcome run spans w n).1 with
  | error error =>
    refine ⟨_, rfl, .failure n, ?_⟩
    simp [raised_eq_count, Observation.counters, note]
  | ok done =>
    have known (name : String) (type : n.type = .unsupported name) : False := by
      rw [outcome, handler, type] at result
      cases result
    refine ⟨_, rfl, .success (label_ne_report other) (label_ne_unsupported known), ?_⟩
    simp [raised_eq_count, Observation.counters, note]

/-- The step of a run. -/
theorem accounted_after (keyed : w.objects.Keyed) (run : Run) (n : Notification)
    (spans : List Span) :
    Accounted [n] (if ((inMemory sinks).outcome run spans w n).1.toBool then 0 else 1) w
      ((inMemory sinks).after run spans w n) := by
  by_cases type : n.type = .cleanerReport
  · rw [outcome_report keyed type]
    exact accounted_report keyed type run spans
  · exact accounted_other reads uncounted keyed type run spans

/-- By induction on entries that all succeed. -/
theorem accounted_afterAll (run : Run) (spans : List Span) {entries : List Notification}
    (keyed : w.objects.Keyed) (succeed : (inMemory sinks).AllSucceed run spans entries w) :
    Accounted entries 0 w ((inMemory sinks).afterAll run spans entries w) := by
  induction entries generalizing w with
  | nil => exact .refl keyed
  | cons n rest ih =>
    have first := accounted_after reads uncounted keyed run n spans
    rw [succeed.1] at first
    exact first.trans (ih first.keyed succeed.2)

/-- A run, however it ends. -/
theorem accounted_afterRun (keyed : w.objects.Keyed) (run : Run) (spans : List Span) :
    Accounted ((inMemory sinks).attempted run spans run.entries w)
      (if (((inMemory sinks).perform run).run spans w).1.toBool then 0 else 1) w
      ((inMemory sinks).afterRun spans w run) := by
  rw [afterRun]
  obtain ⟨none, sent⟩ | ⟨-, succeed, sent⟩ | ⟨before, n, later, error, split, fails, sent⟩ :=
    (inMemory sinks).sendNotifications_reference run.now run.results run.cleaner spans w
  · rw [show ((inMemory sinks).perform run).run spans w = _ from sent]
    rw [show run.entries = [] from none]
    exact ⟨keyed, [], rfl, .nil, rfl⟩
  · rw [show ((inMemory sinks).perform run).run spans w = _ from sent,
      attempted_of_allSucceed succeed]
    exact accounted_afterAll reads uncounted run spans keyed succeed
  · rw [show ((inMemory sinks).perform run).run spans w = _ from sent,
      show run.entries = _ from split, attempted_of_failsFirst fails]
    have before := accounted_afterAll reads uncounted run spans keyed fails.1
    have last := accounted_after reads uncounted before.keyed run n spans
    rw [fails.2] at last
    have both := before.trans last
    rw [afterAll, List.foldl_append]
    exact both

/-- By induction on the history. -/
theorem accounted_afterRuns (history : List Run) (keyed : w.objects.Keyed) (spans : List Span) :
    Accounted ((inMemory sinks).attemptedIn spans history w)
      (((inMemory sinks).resultsIn spans history w).countP fun result => !result.toBool) w
      ((inMemory sinks).afterRuns spans history w) := by
  induction history generalizing w with
  | nil => exact .refl keyed
  | cons run rest ih =>
    have first := accounted_afterRun reads uncounted keyed run spans
    have both := first.trans (ih first.keyed)
    rw [attemptedIn, resultsIn, List.countP_cons, Nat.add_comm]
    cases result : (((inMemory sinks).perform run).run spans w).1 with
    | error error =>
      rw [result] at both
      exact both
    | ok done =>
      rw [result] at both
      exact both

end Memory

/-- The metrics balance over every history of runs over a store in memory that had no Report. For
each label the attempts that succeeded and those that failed are those that there were, as many as
durations were measured. The failures of all labels are the runs that failed, each counted once as
ended early. The successes of entries for Reports are the Reports that were created or updated, and
as many were created as are in the store. No entry of an unknown type succeeded, and whatever types
the Cleaners asked for, there are no labels but those of the known types and the one of all others.
-/
theorem counters_balance (sinks : Sinks MemoryStore) (reads : OnlyRead sinks)
    (uncounted : Uncounted sinks) (spans : List Span) (w : World MemoryStore)
    (empty : w.objects.reports = .empty) (history : List Run) :
    let dispatcher := inMemory sinks
    let w' := dispatcher.afterRuns spans history w
    let attempted := dispatcher.attemptedIn spans history w
    let failed := (dispatcher.resultsIn spans history w).countP fun result => !result.toBool
    ∃ observations, w'.journal.observations = w.journal.observations ++ observations ∧
      (∀ label, raised observations (.attempts label true) +
          raised observations (.attempts label false) = attempted.countP (·.type.label = label) ∧
        raised observations (.durations label) = attempted.countP (·.type.label = label)) ∧
      raisedTogether observations (labels.map (.attempts · false)) =
        raised observations .aborts ∧
      raised observations .aborts = failed ∧
      raised observations (.attempts "CleanerReport" true) =
        raised observations (.writes .create) + raised observations (.writes .update) ∧
      raised observations (.writes .create) = w'.objects.reportCount ∧
      raised observations (.attempts "Unsupported" true) = 0 ∧
      ∀ label ∉ labels, raised observations (.durations label) = 0 ∧
        ∀ isSuccess, raised observations (.attempts label isSuccess) = 0 := by
  intro dispatcher w' attempted failed
  have keyed : w.objects.Keyed := by
    intro name report found
    rw [MemoryStore.report?, empty] at found
    exact nomatch found
  obtain ⟨-, observations, added, balanced, count⟩ :=
    accounted_afterRuns reads uncounted history keyed spans
  have none : w.objects.reportCount = 0 := by
    rw [MemoryStore.reportCount, empty]
    rfl
  rw [none, Nat.zero_add] at count
  refine ⟨observations, added, fun label => ⟨balanced.ended label, balanced.measured label⟩,
    balanced.failures, balanced.aborted, balanced.written, count.symm, balanced.unsupported,
    fun label unknown => ?_⟩
  have absent : attempted.countP (·.type.label = label) = 0 := by
    refine List.countP_eq_zero.mpr fun n _ same => unknown ?_
    exact of_decide_eq_true same ▸ n.type.label_mem
  have ended := balanced.ended label
  have measured := balanced.measured label
  rw [absent] at ended measured
  refine ⟨measured, fun isSuccess => ?_⟩
  cases isSuccess <;> omega

/-- Two runs that write a Report and then fail, one at an unknown type and one for want of a
reference: one Report was created, and two runs were ended early. -/
theorem counters_balance_nightly :
    let sinks := Sinks.make .memory (Network.scripted [] {}) {} {}
    let nightly (last : Notification) : Run := ⟨⟨0, 0⟩, [], ⟨.named "nightly",
      ⟨"0 3 * * *", .delete, [⟨"keep", .cleanerReport, none⟩, last]⟩⟩⟩
    let history := [nightly ⟨"page", .unsupported "Pager", none⟩, nightly ⟨"chat", .slack, none⟩]
    let w : World MemoryStore := ⟨.empty, {}, {}⟩
    OnlyRead sinks ∧ Uncounted sinks ∧ w.objects.reports = .empty ∧
      ∃ observations,
        ((inMemory sinks).afterRuns [] history w).journal.observations = observations ∧
        raised observations .aborts = 2 ∧ raised observations (.writes .create) = 1 := by
  intro sinks nightly history w
  have reads : OnlyRead sinks := onlyRead_make _ _ _
  have uncounted : Uncounted sinks := uncounted_make _ _ _
  obtain ⟨observations, added, -, -, aborted, -, created, -, -⟩ :=
    counters_balance sinks reads uncounted [] w rfl history
  refine ⟨reads, uncounted, rfl, observations, added, aborted.trans ?_, created.trans ?_⟩
  · decide +kernel
  · decide +kernel

end Dispatcher

end CleanupCourier
