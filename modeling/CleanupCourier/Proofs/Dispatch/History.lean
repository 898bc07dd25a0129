import CleanupCourier.Network.Scripted
import CleanupCourier.Proofs.Dispatch.Pass
import CleanupCourier.Proofs.Store.Memory

/-!
Reports after many runs over the store in memory. A run that comes to an entry for a Report puts its
own report under the name of its Cleaner, and nothing that follows in the run takes it back; any
other run leaves the objects alone. So the store holds for each name what the last run put there.
-/
namespace CleanupCourier

namespace Dispatcher

section Runs

variable {σ : Type} (dispatcher : Dispatcher σ) (spans : List Span)

def afterRun (w : World σ) (run : Run) : World σ :=
  ((dispatcher.perform run).run spans w).2

/-- The world after runs one after the other, whatever comes of each. -/
def afterRuns (history : List Run) (w : World σ) : World σ :=
  history.foldl (dispatcher.afterRun spans) w

/-- Holds if a run comes to an entry for a Report: the entries before it succeed. -/
def Reaches (run : Run) (w : World σ) : Prop :=
  ∃ before n later, run.entries = before ++ n :: later ∧
    dispatcher.AllSucceed run spans before w ∧ n.type = .cleanerReport

/-- Holds if a run of a history has a name and comes to an entry for a Report. -/
def ReachedBy (history : List Run) (w : World σ) (name : String) (run : Run) : Prop :=
  ∃ earlier later, history = earlier ++ run :: later ∧ run.name = name ∧
    dispatcher.Reaches spans run (dispatcher.afterRuns spans earlier w)

/-- Holds for the last run of a history that has a name and comes to an entry for a Report. -/
def LastReachedBy (history : List Run) (w : World σ) (name : String) (run : Run) : Prop :=
  ∃ earlier later, history = earlier ++ run :: later ∧ run.name = name ∧
    dispatcher.Reaches spans run (dispatcher.afterRuns spans earlier w) ∧
    ∀ between next rest, later = between ++ next :: rest → next.name = name →
      ¬ dispatcher.Reaches spans next (dispatcher.afterRuns spans (earlier ++ run :: between) w)

end Runs

section Histories

variable {σ : Type} {dispatcher : Dispatcher σ} {spans : List Span} {history : List Run}
  {w : World σ} {name : String} {run last : Run}

theorem afterRuns_snoc (dispatcher : Dispatcher σ) (spans : List Span) (history : List Run)
    (last : Run) (w : World σ) :
    dispatcher.afterRuns spans (history ++ [last]) w =
      dispatcher.afterRun spans (dispatcher.afterRuns spans history w) last := by
  rw [afterRuns, List.foldl_append]
  rfl

theorem reaches_iff : dispatcher.Reaches spans run w ↔
    ∃ n ∈ dispatcher.attempted run spans run.entries w, n.type = .cleanerReport := by
  constructor
  · rintro ⟨before, n, later, split, succeed, type⟩
    exact ⟨n, mem_attempted.mpr ⟨before, later, split, succeed⟩, type⟩
  · rintro ⟨n, mem, type⟩
    obtain ⟨before, later, split, succeed⟩ := mem_attempted.mp mem
    exact ⟨before, n, later, split, succeed, type⟩

/-- A history with one more run is split at that run or before it. -/
theorem snoc_eq_append_cons {earlier later : List Run} :
    history ++ [last] = earlier ++ run :: later ↔
      (history = earlier ∧ last = run ∧ later = []) ∨
        ∃ rest, later = rest ++ [last] ∧ history = earlier ++ run :: rest := by
  constructor
  · intro split
    obtain rfl | ⟨rest, final, rfl⟩ := List.eq_nil_or_concat later
    · obtain ⟨front, back⟩ := List.append_inj' split rfl
      exact .inl ⟨front, List.singleton_inj.mp back, rfl⟩
    · have regrouped : history ++ [last] = (earlier ++ run :: rest) ++ [final] := by
        rw [split, List.concat_eq_append, List.append_assoc, List.cons_append]
      obtain ⟨front, back⟩ := List.append_inj' regrouped rfl
      exact .inr ⟨rest, by rw [List.concat_eq_append, back], front⟩
  · rintro (⟨rfl, rfl, rfl⟩ | ⟨rest, rfl, rfl⟩)
    · rfl
    · rw [List.append_assoc, List.cons_append]

theorem reachedBy_snoc : dispatcher.ReachedBy spans (history ++ [last]) w name run ↔
    (last = run ∧ run.name = name ∧
        dispatcher.Reaches spans run (dispatcher.afterRuns spans history w)) ∨
      dispatcher.ReachedBy spans history w name run := by
  constructor
  · rintro ⟨earlier, later, split, named, reaches⟩
    obtain ⟨rfl, eq, -⟩ | ⟨rest, -, split⟩ := snoc_eq_append_cons.mp split
    · exact .inl ⟨eq, named, reaches⟩
    · exact .inr ⟨earlier, rest, split, named, reaches⟩
  · rintro (⟨rfl, named, reaches⟩ | ⟨earlier, later, split, named, reaches⟩)
    · exact ⟨history, [], rfl, named, reaches⟩
    · exact ⟨earlier, later ++ [last], by simp [split], named, reaches⟩

theorem lastReachedBy_snoc : dispatcher.LastReachedBy spans (history ++ [last]) w name run ↔
    (last = run ∧ run.name = name ∧
        dispatcher.Reaches spans run (dispatcher.afterRuns spans history w)) ∨
      (dispatcher.LastReachedBy spans history w name run ∧
        (last.name = name →
          ¬ dispatcher.Reaches spans last (dispatcher.afterRuns spans history w))) := by
  constructor
  · rintro ⟨earlier, later, split, named, reaches, none⟩
    obtain ⟨rfl, eq, -⟩ | ⟨rest, rfl, rfl⟩ := snoc_eq_append_cons.mp split
    · exact .inl ⟨eq, named, reaches⟩
    · refine .inr ⟨⟨earlier, rest, rfl, named, reaches, ?_⟩, ?_⟩
      · intro between next more split
        exact none between next (more ++ [last]) (by simp [split])
      · exact none rest last [] rfl
  · rintro (⟨rfl, named, reaches⟩ | ⟨⟨earlier, later, rfl, named, reaches, none⟩, notLast⟩)
    · exact ⟨history, [], rfl, named, reaches, fun _ _ _ split => by simp at split⟩
    · refine ⟨earlier, later ++ [last], by simp, named, reaches, ?_⟩
      intro between next more split
      obtain ⟨rfl, rfl, -⟩ | ⟨rest, -, split⟩ := snoc_eq_append_cons.mp split
      · exact notLast
      · exact none between next rest split

/-- Some run reached an entry for a Report if and only if there is a last one that did. -/
theorem exists_reachedBy_iff (history : List Run) :
    (∃ run, dispatcher.ReachedBy spans history w name run) ↔
      ∃ run, dispatcher.LastReachedBy spans history w name run := by
  constructor
  · induction history using List.reverseRecOn with
    | nil =>
      rintro ⟨run, earlier, later, split, -⟩
      exact absurd split (List.append_ne_nil_of_right_ne_nil _ (List.cons_ne_nil _ _)).symm
    | append_singleton history last ih =>
      simp only [reachedBy_snoc, lastReachedBy_snoc]
      rintro ⟨run, reached⟩
      by_cases final : last.name = name ∧
          dispatcher.Reaches spans last (dispatcher.afterRuns spans history w)
      · exact ⟨last, .inl ⟨rfl, final⟩⟩
      · obtain ⟨rfl, here⟩ | before := reached
        · exact absurd here final
        · obtain ⟨run, lastReached⟩ := ih ⟨run, before⟩
          exact ⟨run, .inr ⟨lastReached, fun named reaches => final ⟨named, reaches⟩⟩⟩
  · rintro ⟨run, earlier, later, split, named, reaches, -⟩
    exact ⟨run, earlier, later, split, named, reaches⟩

end Histories

/-- Holds of sinks that leave the objects of the store as they are. -/
def OnlyRead {σ : Type} (sinks : Sinks σ) : Prop :=
  ∀ d, sinks.Respect d fun _ => .objects

/-- All that a sink of the program does to the store in memory is to read Secrets in it. -/
theorem onlyRead_make (network : Network) (settings : Settings) (validator : WebhookValidator) :
    OnlyRead (Sinks.make .memory network settings validator) :=
  Sinks.respect_make (ObjectStore.memory_readsWithin _) Frame.objects_allowsRequests
    Frame.objects_allowsTalks network settings validator

/-- The dispatcher of some sinks over the store in memory. -/
abbrev inMemory (sinks : Sinks MemoryStore) : Dispatcher MemoryStore :=
  ⟨.memory, sinks⟩

section Memory

variable {sinks : Sinks MemoryStore} {w : World MemoryStore} {n : Notification}

theorem outcome_report (keyed : w.objects.Keyed) (type : n.type = .cleanerReport) (run : Run)
    (spans : List Span) :
    (inMemory sinks).outcome run spans w n =
      (.ok (), ({ w with
          objects := w.objects.put (w.objects.revised run.name run.report) } : World _).noting
        (Report.writeNote (spans ++ [span n]) (w.objects.report? run.name))) := by
  rw [outcome, handler, type]
  simp only [Attempt.run_bind, Attempt.run_mapError]
  rw [Report.run_upsert_memory (keyed run.name)]
  rfl

/-- An entry for a Report writes the report of the run. -/
theorem after_report (sinks : Sinks MemoryStore) (keyed : w.objects.Keyed)
    (type : n.type = .cleanerReport) (run : Run) (spans : List Span) :
    w.objects.Wrote run.name run.report ((inMemory sinks).after run spans w n).objects := by
  rw [after, outcome_report keyed type]
  exact MemoryStore.wrote_put (keyed run.name) run.report

/-- Any other entry leaves the objects alone. -/
theorem after_other (reads : OnlyRead sinks) (other : n.type ≠ .cleanerReport) (run : Run)
    (spans : List Span) (w : World MemoryStore) :
    ((inMemory sinks).after run spans w n).objects = w.objects := by
  have keep : (inMemory sinks).sinks.Respect run.delivery fun _ => .objects := reads run.delivery
  exact handler_of_each keep (fun _ => Attempt.respects_throw) other (spans ++ [span n]) w

/-- What entries do to the objects, by induction on them: the first entry for a Report writes, and
every further one writes the same once more. -/
theorem afterAll_objects (reads : OnlyRead sinks) (run : Run) (spans : List Span)
    (entries : List Notification) (keyed : w.objects.Keyed) :
    ((∃ n ∈ entries, n.type = .cleanerReport) → w.objects.Wrote run.name run.report
      ((inMemory sinks).afterAll run spans entries w).objects) ∧
    ((∀ n ∈ entries, n.type ≠ .cleanerReport) →
      ((inMemory sinks).afterAll run spans entries w).objects = w.objects) := by
  induction entries generalizing w with
  | nil => exact ⟨fun ⟨_, mem, _⟩ => (nomatch mem), fun _ => rfl⟩
  | cons n rest ih =>
    by_cases type : n.type = .cleanerReport
    · have wrote := after_report sinks keyed type run spans
      obtain ⟨writes, keeps⟩ := ih (wrote.keyed keyed)
      refine ⟨fun _ => ?_, fun none => absurd type (none n List.mem_cons_self)⟩
      by_cases more : ∃ m ∈ rest, m.type = .cleanerReport
      · exact wrote.trans (writes more)
      · have eq := keeps fun m mem type => more ⟨m, mem, type⟩
        rw [← eq] at wrote
        exact wrote
    · have same := after_other reads type run spans w
      have stillKeyed : ((inMemory sinks).after run spans w n).objects.Keyed := same ▸ keyed
      obtain ⟨writes, keeps⟩ := ih stillKeyed
      rw [same] at writes keeps
      refine ⟨?_, fun none => keeps fun m mem => none m (List.mem_cons_of_mem _ mem)⟩
      rintro ⟨m, mem, report⟩
      obtain rfl | mem := List.mem_cons.mp mem
      · exact absurd report type
      · exact writes ⟨m, mem, report⟩

/-- The step of a history. -/
theorem afterRun_objects (reads : OnlyRead sinks) (run : Run) (spans : List Span)
    (keyed : w.objects.Keyed) :
    ((inMemory sinks).Reaches spans run w → w.objects.Wrote run.name run.report
      ((inMemory sinks).afterRun spans w run).objects) ∧
    (¬ (inMemory sinks).Reaches spans run w →
      ((inMemory sinks).afterRun spans w run).objects = w.objects) := by
  obtain ⟨said, eq⟩ := world_perform (inMemory sinks) run spans w
  have objects : ((inMemory sinks).afterRun spans w run).objects =
      ((inMemory sinks).afterAll run spans
        ((inMemory sinks).attempted run spans run.entries w) w).objects := by
    rw [afterRun, eq]
    rfl
  obtain ⟨writes, keeps⟩ := afterAll_objects reads run spans
    ((inMemory sinks).attempted run spans run.entries w) keyed
  rw [objects, reaches_iff]
  exact ⟨writes, fun none => keeps fun n mem type => none ⟨n, mem, type⟩⟩

/-- What holds of the objects after every history: each name has the report that was last put there,
and nothing else. -/
structure Holds (sinks : Sinks MemoryStore) (spans : List Span) (w : World MemoryStore)
    (history : List Run) : Prop where
  reports (name : String) (report : Report) :
    ((inMemory sinks).afterRuns spans history w).objects.report? name = some report ↔
      ∃ run, (inMemory sinks).LastReachedBy spans history w name run ∧
        report = .new name run.report
  secrets : ((inMemory sinks).afterRuns spans history w).objects.secrets = w.objects.secrets

theorem Holds.keyed {spans : List Span} {history : List Run} (h : Holds sinks spans w history) :
    ((inMemory sinks).afterRuns spans history w).objects.Keyed := by
  intro name report found
  obtain ⟨run, -, rfl⟩ := (h.reports name report).mp found
  rfl

/-- So an upsert has no metadata to keep but the name. -/
theorem Holds.revised_eq {spans : List Span} {history : List Run} (h : Holds sinks spans w history)
    (name : String) (spec : ReportSpec) :
    ((inMemory sinks).afterRuns spans history w).objects.revised name spec = .new name spec := by
  cases found : ((inMemory sinks).afterRuns spans history w).objects.report? name with
  | none => exact MemoryStore.revised_of_none found spec
  | some report =>
    obtain ⟨run, -, rfl⟩ := (h.reports name report).mp found
    exact MemoryStore.revised_of_some found spec

/-- By induction on the history from its end. -/
theorem holds_afterRuns (reads : OnlyRead sinks) (spans : List Span)
    (empty : w.objects.reports = .empty) (history : List Run) : Holds sinks spans w history := by
  induction history using List.reverseRecOn with
  | nil =>
    refine ⟨fun name report => ⟨fun found => ?_, ?_⟩, rfl⟩
    · change w.objects.reports.find? name = some report at found
      rw [empty] at found
      exact nomatch found
    · rintro ⟨run, ⟨earlier, later, split, -⟩, -⟩
      exact absurd split (List.append_ne_nil_of_right_ne_nil _ (List.cons_ne_nil _ _)).symm
  | append_singleton history last ih =>
    obtain ⟨writes, keeps⟩ := afterRun_objects reads last spans ih.keyed
    have step := afterRuns_snoc (inMemory sinks) spans history last w
    by_cases reaches :
      (inMemory sinks).Reaches spans last ((inMemory sinks).afterRuns spans history w)
    · have wrote := writes reaches
      refine ⟨fun name report => ?_, by rw [step, wrote.secrets, ih.secrets]⟩
      simp only [lastReachedBy_snoc]
      rw [step]
      by_cases named : last.name = name
      · subst named
        rw [wrote.here, ih.revised_eq, Option.some_inj]
        constructor
        · rintro rfl
          exact ⟨last, .inl ⟨rfl, rfl, reaches⟩, rfl⟩
        · rintro ⟨run, ⟨rfl, -, -⟩ | ⟨-, none⟩, rfl⟩
          · rfl
          · exact absurd reaches (none rfl)
      · rw [wrote.elsewhere name (Ne.symm named), ih.reports]
        constructor
        · rintro ⟨run, lastReached, eq⟩
          exact ⟨run, .inr ⟨lastReached, fun eq => absurd eq named⟩, eq⟩
        · rintro ⟨run, ⟨rfl, eq, -⟩ | ⟨lastReached, -⟩, eq'⟩
          · exact absurd eq named
          · exact ⟨run, lastReached, eq'⟩
    · have same := keeps reaches
      refine ⟨fun name report => ?_, by rw [step, same, ih.secrets]⟩
      simp only [lastReachedBy_snoc]
      rw [step, same, ih.reports]
      constructor
      · rintro ⟨run, lastReached, eq⟩
        exact ⟨run, .inr ⟨lastReached, fun _ => reaches⟩, eq⟩
      · rintro ⟨run, ⟨rfl, -, reached⟩ | ⟨lastReached, -⟩, eq⟩
        · exact absurd reached reaches
        · exact ⟨run, lastReached, eq⟩

/-- After any history of runs over a store in memory that had no Report, a Report stands under a
name if and only if a run of a Cleaner with that name came to an entry for one; it is the report of
the last such run, with the name for its only metadata. The Secrets are as they were. -/
theorem reports_afterRuns (sinks : Sinks MemoryStore) (reads : OnlyRead sinks)
    (spans : List Span) (w : World MemoryStore) (empty : w.objects.reports = .empty)
    (history : List Run) :
    let dispatcher := inMemory sinks
    let objects := (dispatcher.afterRuns spans history w).objects
    (∀ name, (objects.report? name).isSome ↔
      ∃ run, dispatcher.ReachedBy spans history w name run) ∧
    (∀ name run, dispatcher.LastReachedBy spans history w name run →
      objects.report? name = some (.new name run.report)) ∧
    (∃ names : Finset String, objects.reportCount = names.card ∧
      ∀ name, name ∈ names ↔ ∃ run, dispatcher.ReachedBy spans history w name run) ∧
    objects.secrets = w.objects.secrets := by
  intro dispatcher objects
  have holds := holds_afterRuns reads spans empty history
  have isSome (name : String) : (objects.report? name).isSome ↔
      ∃ run, dispatcher.ReachedBy spans history w name run := by
    rw [exists_reachedBy_iff, Option.isSome_iff_exists]
    constructor
    · rintro ⟨report, found⟩
      obtain ⟨run, lastReached, -⟩ := (holds.reports name report).mp found
      exact ⟨run, lastReached⟩
    · rintro ⟨run, lastReached⟩
      exact ⟨_, (holds.reports name _).mpr ⟨run, lastReached, rfl⟩⟩
  refine ⟨isSome, fun name run lastReached => ?_, ?_, holds.secrets⟩
  · exact (holds.reports name _).mpr ⟨run, lastReached, rfl⟩
  · refine ⟨objects.reports.keys, objects.reports.card_keys.symm, fun name => ?_⟩
    rw [KeyMap.mem_keys]
    exact isSome name

/-- Two runs of one Cleaner, each of which fails behind its entry for a Report: the second report
stays. -/
theorem reports_afterRuns_nightly :
    let sinks := Sinks.make .memory (Network.scripted [] {}) {} {}
    let nightly : Cleaner := ⟨.named "nightly", ⟨"0 3 * * *", .delete,
      [⟨"keep", .cleanerReport, none⟩, ⟨"page", .unsupported "Pager", none⟩]⟩⟩
    let first : Run := ⟨⟨0, 0⟩, [], nightly⟩
    let second : Run := ⟨⟨86400, 0⟩, [⟨⟨"default", "old", "ConfigMap", "v1"⟩, "deleted"⟩], nightly⟩
    let w : World MemoryStore := ⟨.empty, {}, {}⟩
    OnlyRead sinks ∧ w.objects.reports = .empty ∧
      ((inMemory sinks).afterRuns [] [first, second] w).objects.report? "nightly" =
        some (.new "nightly" second.report) := by
  intro sinks nightly first second w
  have reads : OnlyRead sinks := onlyRead_make _ _ _
  obtain ⟨-, last, -, -⟩ := reports_afterRuns sinks reads [] w rfl [first, second]
  refine ⟨reads, rfl, last "nightly" second ⟨[first], [], rfl, rfl, ?_, ?_⟩⟩
  · exact ⟨[], ⟨"keep", .cleanerReport, none⟩, _, rfl, trivial, rfl⟩
  · intro between next rest split
    exact absurd split (List.append_ne_nil_of_right_ne_nil _ (List.cons_ne_nil _ _)).symm

end Memory

end Dispatcher

end CleanupCourier
