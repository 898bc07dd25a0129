import Mathlib.Data.List.Sort
import CleanupCourier.Proofs.KeyMap
import CleanupCourier.Proofs.Store.Memory

/-!
What an upsert makes of a store in memory. Whatever was written there before, everything is under
its own name, and so an upsert never fails: it gives one Report a new content and leaves the rest
alone. Upserts are like assignments: of two under one name the later one counts, and two under
different names may change places.
-/
namespace CleanupCourier

/-- Two maps in which the same is found are the same, since both are in ascending order. -/
theorem KeyMap.eq_of_find? {α : Type} {m n : KeyMap α} (same : ∀ key, m.find? key = n.find? key) :
    m = n := by
  have irrefl : Std.Irrefl fun d e : String × α => d.1 < e.1 := ⟨fun e => String.lt_irrefl e.1⟩
  refine eq_of_entries (m.ascending.eq_of_mem_iff n.ascending fun e => ?_)
  refine ⟨fun mem => ?_, fun mem => ?_⟩
  · exact mem_of_find? ((same e.1).symm.trans (find?_of_mem mem))
  · exact mem_of_find? ((same e.1).trans (find?_of_mem mem))

/-- A call that writes a Report. -/
inductive ReportWrite where
  | create (report : Report)
  | replace (report : Report)
  | upsert (name : String) (spec : ReportSpec)

namespace ReportWrite

def perform : ReportWrite → Attempt MemoryStore StoreError Report
  | .create report => ObjectStore.memory.createReport report
  | .replace report => ObjectStore.memory.replaceReport report
  | .upsert name spec => Report.upsert .memory name spec

/-- Holds of a world that writes lead to, from one whose store has no Reports. Some of them may have
failed. -/
inductive Reaches : World MemoryStore → Prop
  | start (secrets : KeyMap (KeyMap Secret)) (traffic : Traffic) (journal : Journal) :
    Reaches ⟨{ secrets }, traffic, journal⟩
  | after {w : World MemoryStore} (reached : Reaches w) (write : ReportWrite) (spans : List Span) :
    Reaches (write.perform.run spans w).2

end ReportWrite

namespace MemoryStore

variable {store a b : MemoryStore} {name other : String} {spec spec' : ReportSpec}

/-- The store after an upsert. -/
def upserted (store : MemoryStore) (name : String) (spec : ReportSpec) : MemoryStore :=
  store.put (store.revised name spec)

theorem Keyed.upserted (keyed : store.Keyed) (name : String) (spec : ReportSpec) :
    (store.upserted name spec).Keyed :=
  keyed.put _

theorem wrote_upserted (keyed : store.Keyed) (name : String) (spec : ReportSpec) :
    Wrote name spec store (store.upserted name spec) :=
  wrote_put (keyed name) spec

theorem eq_of_report? (reports : ∀ name, a.report? name = b.report? name)
    (secrets : a.secrets = b.secrets) : a = b := by
  have same : a.reports = b.reports := KeyMap.eq_of_find? reports
  cases a
  cases b
  cases same
  cases secrets
  rfl

/-- What is written decides what a store becomes. -/
theorem Wrote.unique (h : Wrote name spec store a) (h' : Wrote name spec store b) : a = b := by
  refine eq_of_report? (fun other => ?_) (h.secrets.trans h'.secrets.symm)
  by_cases same : other = name
  · rw [same, h.here, h'.here]
  · rw [h.elsewhere other same, h'.elsewhere other same]

theorem upserted_upserted (keyed : store.Keyed) (name : String) (spec spec' : ReportSpec) :
    (store.upserted name spec).upserted name spec' = store.upserted name spec' :=
  ((wrote_upserted keyed name spec).trans
    (wrote_upserted (keyed.upserted name spec) name spec')).unique
      (wrote_upserted keyed name spec')

theorem revised_upserted_self (keyed : store.Keyed) (name : String) (spec spec' : ReportSpec) :
    (store.upserted name spec).revised name spec' = store.revised name spec' := by
  rw [revised, (wrote_upserted keyed name spec).here]
  rfl

/-- An upsert revises what is under its name, and not what is under another one. -/
theorem revised_upserted_of_ne (keyed : store.Keyed) (ne : other ≠ name) (spec spec' : ReportSpec) :
    (store.upserted name spec).revised other spec' = store.revised other spec' := by
  rw [revised, (wrote_upserted keyed name spec).elsewhere other ne, revised]

theorem upserted_comm (keyed : store.Keyed) (ne : other ≠ name) (spec spec' : ReportSpec) :
    (store.upserted name spec).upserted other spec' =
      (store.upserted other spec').upserted name spec := by
  have first := wrote_upserted keyed name spec
  have first' := wrote_upserted keyed other spec'
  have second := wrote_upserted (keyed.upserted name spec) other spec'
  have second' := wrote_upserted (keyed.upserted other spec') name spec
  refine eq_of_report? (fun third => ?_) ?_
  · by_cases here : third = name
    · rw [here, second.elsewhere name ne.symm, first.here, second'.here,
        revised_upserted_of_ne keyed ne.symm]
    · by_cases there : third = other
      · rw [there, second.here, revised_upserted_of_ne keyed ne, second'.elsewhere other ne,
          first'.here]
      · rw [second.elsewhere third there, first.elsewhere third here, second'.elsewhere third here,
          first'.elsewhere third there]
  · rw [second.secrets, first.secrets, second'.secrets, first'.secrets]

/-- Holds of a store, of what an upsert has made of it, and of the Report that the upsert gives. -/
structure Renewed (name : String) (spec : ReportSpec) (before after : MemoryStore)
    (report : Report) : Prop where
  stored : after.report? name = some report
  content : report.spec = spec
  /-- The metadata of a Report that was there. -/
  kept (there : Report) : before.report? name = some there → report.metadata = there.metadata
  fresh : before.report? name = none → report.metadata = .named name
  elsewhere (other : String) : other ≠ name → after.report? other = before.report? other
  count : after.reportCount =
    before.reportCount + if before.report? name = none then 1 else 0
  secrets : after.secrets = before.secrets

theorem renewed_upserted (keyed : store.Keyed) (name : String) (spec : ReportSpec) :
    Renewed name spec store (store.upserted name spec) (store.revised name spec) where
  stored := (wrote_upserted keyed name spec).here
  content := rfl
  kept there found := by rw [revised_of_some found]
  fresh none := by rw [revised_of_none none]; rfl
  elsewhere := (wrote_upserted keyed name spec).elsewhere
  count := by
    rw [upserted, reportCount_put, anyName_revised (keyed name)]
    cases store.report? name <;> rfl
  secrets := rfl

end MemoryStore

namespace ReportWrite

variable {w : World MemoryStore}

/-- The step: a write changes nothing, or it puts a Report under the name that it has. -/
theorem perform_objects (keyed : w.objects.Keyed) (write : ReportWrite) (spans : List Span) :
    (write.perform.run spans w).2.objects = w.objects ∨
      ∃ report, (write.perform.run spans w).2.objects = w.objects.put report := by
  cases write with
  | create report =>
    rw [perform, ObjectStore.run_createReport_memory, MemoryStore.createReport]
    split
    · exact .inl rfl
    · exact .inr ⟨report, rfl⟩
  | replace report =>
    rw [perform, ObjectStore.run_replaceReport_memory, MemoryStore.replaceReport]
    split
    · exact .inr ⟨report, rfl⟩
    · exact .inl rfl
  | upsert name spec =>
    rw [perform, Report.run_upsert_memory (keyed name)]
    exact .inr ⟨_, rfl⟩

/-- By induction on the writes. -/
theorem Reaches.keyed (h : Reaches w) : w.objects.Keyed := by
  induction h with
  | start secrets traffic journal => exact fun _ _ found => nomatch found
  | after _ write spans keyed =>
    obtain same | ⟨report, put⟩ := perform_objects keyed write spans
    · rwa [same]
    · rw [put]
      exact keyed.put report

end ReportWrite

namespace Report

variable {w : World MemoryStore}

theorem upsert_objects (keyed : w.objects.Keyed) (name : String) (spec : ReportSpec)
    (spans : List Span) :
    let ended := (upsert .memory name spec).run spans w
    ended.1 = .ok (w.objects.revised name spec) ∧
      ended.2.objects = w.objects.upserted name spec := by
  intro ended
  rw [show ended = _ from run_upsert_memory (keyed name) spec spans]
  exact ⟨rfl, rfl⟩

theorem keyed_upsert (keyed : w.objects.Keyed) (name : String) (spec : ReportSpec)
    (spans : List Span) : ((upsert .memory name spec).run spans w).2.objects.Keyed :=
  (upsert_objects keyed name spec spans).2 ▸ keyed.upserted name spec

/-- Of two upserts under one name the later one counts. -/
theorem upsert_later (keyed : w.objects.Keyed) (name : String) (spec spec' : ReportSpec)
    (spans : List Span) :
    let ended := (upsert .memory name spec).run spans w
    let later := (upsert .memory name spec').run spans ended.2
    let alone := (upsert .memory name spec').run spans w
    later.1 = alone.1 ∧ later.2.objects = alone.2.objects := by
  intro ended later alone
  have objects := (upsert_objects keyed name spec spans).2
  obtain ⟨result, objects₁⟩ := upsert_objects keyed name spec' spans
  obtain ⟨result', objects₂⟩ := upsert_objects (keyed_upsert keyed name spec spans) name spec' spans
  rw [show ended.2.objects = _ from objects] at result' objects₂
  rw [MemoryStore.revised_upserted_self keyed] at result'
  rw [MemoryStore.upserted_upserted keyed] at objects₂
  exact ⟨result'.trans result.symm, objects₂.trans objects₁.symm⟩

/-- Upserts under two names give the same in either order, and lead to the same store. -/
theorem upsert_swap (keyed : w.objects.Keyed) {name other : String} (ne : other ≠ name)
    (spec spec' : ReportSpec) (spans : List Span) :
    let ended := (upsert .memory name spec).run spans w
    let first := (upsert .memory other spec').run spans w
    let second := (upsert .memory other spec').run spans ended.2
    let swapped := (upsert .memory name spec).run spans first.2
    second.1 = first.1 ∧ swapped.1 = ended.1 ∧ second.2.objects = swapped.2.objects := by
  intro ended first second swapped
  obtain ⟨result, objects⟩ := upsert_objects keyed name spec spans
  obtain ⟨result', objects'⟩ := upsert_objects keyed other spec' spans
  obtain ⟨result₁, objects₁⟩ :=
    upsert_objects (keyed_upsert keyed name spec spans) other spec' spans
  obtain ⟨result₂, objects₂⟩ :=
    upsert_objects (keyed_upsert keyed other spec' spans) name spec spans
  rw [show ended.2.objects = _ from objects] at result₁ objects₁
  rw [show first.2.objects = _ from objects'] at result₂ objects₂
  rw [MemoryStore.revised_upserted_of_ne keyed ne] at result₁
  rw [MemoryStore.revised_upserted_of_ne keyed ne.symm] at result₂
  rw [MemoryStore.upserted_comm keyed ne] at objects₁
  exact ⟨result₁.trans result'.symm, result₂.trans result.symm, objects₁.trans objects₂.symm⟩

/-- After any writes an upsert succeeds. The Report that it gives is the one that is stored then:
the one that was there with a new content, or a new one with nothing but its name. All else is as it
was. The same upsert once more gives the same and changes nothing, of two upserts under one name the
later one counts, and upserts under two names come to the same in either order. -/
theorem upsert_renews (reached : ReportWrite.Reaches w) (name : String) (spec : ReportSpec)
    (spans : List Span) :
    let ended := (upsert .memory name spec).run spans w
    (∃ report, ended.1 = .ok report ∧
      MemoryStore.Renewed name spec w.objects ended.2.objects report ∧
      let again := (upsert .memory name spec).run spans ended.2
      again.1 = .ok report ∧ again.2.objects = ended.2.objects) ∧
    (∀ spec',
      let later := (upsert .memory name spec').run spans ended.2
      let alone := (upsert .memory name spec').run spans w
      later.1 = alone.1 ∧ later.2.objects = alone.2.objects) ∧
    ∀ other spec', other ≠ name →
      let first := (upsert .memory other spec').run spans w
      let second := (upsert .memory other spec').run spans ended.2
      let swapped := (upsert .memory name spec).run spans first.2
      second.1 = first.1 ∧ swapped.1 = ended.1 ∧ second.2.objects = swapped.2.objects := by
  intro ended
  have keyed := reached.keyed
  obtain ⟨result, objects⟩ := upsert_objects keyed name spec spans
  refine ⟨⟨w.objects.revised name spec, result, ?_, ?_⟩, fun spec' => ?_, fun other spec' ne => ?_⟩
  · rw [objects]
    exact MemoryStore.renewed_upserted keyed name spec
  · obtain ⟨same, kept⟩ := upsert_later keyed name spec spec spans
    exact ⟨same.trans result, kept⟩
  · exact upsert_later keyed name spec spec' spans
  · exact upsert_swap keyed ne spec spec' spans

/-- A Report without a name of its own stands under the stem of one, is found there, and keeps that
stem. -/
theorem upsert_renews_stem :
    let stem : Metadata := { generateName := some "nightly-", generation := some 1 }
    let w := ((ReportWrite.create ⟨stem, ⟨.scan, []⟩⟩).perform.run [] ⟨.empty, {}, {}⟩).2
    ReportWrite.Reaches w ∧ ∃ report,
      ((upsert .memory "nightly-" ⟨.delete, []⟩).run [] w).1 = .ok report ∧
        report.metadata = stem ∧ report.spec = ⟨.delete, []⟩ := by
  intro stem w
  have reached : ReportWrite.Reaches w := .after (.start .empty {} {}) _ []
  obtain ⟨⟨report, result, renewed, -⟩, -⟩ := upsert_renews reached "nightly-" ⟨.delete, []⟩ []
  exact ⟨reached, report, result, renewed.kept ⟨stem, ⟨.scan, []⟩⟩ rfl, renewed.content⟩

end Report

end CleanupCourier
