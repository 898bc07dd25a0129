import Mathlib.Data.Finset.Card
import CleanupCourier.Proofs.Work.Frame
import CleanupCourier.Report.Upsert
import CleanupCourier.Store.Memory

/-!
Writing Reports to the store in memory. There an upsert cannot fail: as long as what is stored under
a name has that name, a look-up that finds a Report is followed by a replacement in its place, and
one that finds none by a creation in a free place.
-/
namespace CleanupCourier

namespace KeyMap

variable {α : Type}

theorem keys_nodup (m : KeyMap α) : (m.entries.map (·.1)).Nodup := by
  refine List.pairwise_map.mpr (m.ascending.imp fun lt eq => ?_)
  exact String.lt_irrefl _ (eq ▸ lt)

theorem mem_of_find? {m : KeyMap α} {key : String} {a : α} (h : m.find? key = some a) :
    (key, a) ∈ m.entries := by
  obtain ⟨⟨k, b⟩, found, rfl⟩ := Option.map_eq_some_iff.mp h
  obtain rfl : k = key := by simpa using List.find?_some found
  exact List.mem_of_find?_eq_some found

theorem find?_of_mem {m : KeyMap α} {key : String} {a : α} (h : (key, a) ∈ m.entries) :
    m.find? key = some a := by
  obtain ⟨l, ascending⟩ := m
  simp only [find?]
  change (key, a) ∈ l at h
  induction l with
  | nil => cases h
  | cons e rest ih =>
    obtain ⟨least, ascending⟩ := List.pairwise_cons.mp ascending
    cases h with
    | head => simp
    | tail _ mem =>
      have ne : e.1 ≠ key := fun eq => String.lt_irrefl _ (eq ▸ least _ mem)
      rw [List.find?_cons_of_neg (by simpa using ne)]
      exact ih ascending mem

def keys (m : KeyMap α) : Finset String :=
  (m.entries.map (·.1)).toFinset

theorem mem_keys (m : KeyMap α) (key : String) : key ∈ m.keys ↔ (m.find? key).isSome := by
  simp [keys, find?, List.find?_isSome]

theorem card_keys (m : KeyMap α) : m.keys.card = m.size := by
  rw [keys, List.toFinset_card_of_nodup m.keys_nodup, List.length_map, size]

theorem keys_insert (m : KeyMap α) (key : String) (a : α) :
    (m.insert key a).keys = Insert.insert key m.keys := by
  ext other
  rw [mem_keys, Finset.mem_insert, mem_keys]
  by_cases same : other = key
  · subst same
    rw [find?_insert_self]
    exact iff_of_true rfl (.inl rfl)
  · rw [find?_insert_of_ne _ _ same, or_iff_right same]

theorem size_insert (m : KeyMap α) (key : String) (a : α) :
    (m.insert key a).size = if (m.find? key).isSome then m.size else m.size + 1 := by
  rw [← card_keys, keys_insert, Finset.card_insert_eq_ite, card_keys]
  exact if_congr (m.mem_keys key) rfl rfl

end KeyMap

namespace MemoryStore

/-- The Report that an upsert puts under a name. -/
def revised (store : MemoryStore) (name : String) (spec : ReportSpec) : Report :=
  ⟨((store.report? name).map (·.metadata)).getD (.named name), spec⟩

/-- What is under a name has that name. -/
def Names (store : MemoryStore) (name : String) : Prop :=
  ∀ report, store.report? name = some report → report.anyName = name

theorem revised_of_some {store : MemoryStore} {name : String} {report : Report}
    (h : store.report? name = some report) (spec : ReportSpec) :
    store.revised name spec = { report with spec } := by
  rw [revised, h]
  rfl

theorem revised_of_none {store : MemoryStore} {name : String} (h : store.report? name = none)
    (spec : ReportSpec) : store.revised name spec = .new name spec := by
  rw [revised, h]
  rfl

theorem anyName_revised {store : MemoryStore} {name : String} (h : store.Names name)
    (spec : ReportSpec) : (store.revised name spec).anyName = name := by
  cases found : store.report? name with
  | none => rw [revised_of_none found]; rfl
  | some report => rw [revised_of_some found]; exact h report found

/-- Everything is under its own name. -/
def Keyed (store : MemoryStore) : Prop :=
  ∀ name, store.Names name

/-- The store differs from an earlier one by the Report under a name, which has a new content. -/
structure Wrote (name : String) (spec : ReportSpec) (store store' : MemoryStore) : Prop where
  here : store'.report? name = some (store.revised name spec)
  elsewhere (other : String) : other ≠ name → store'.report? other = store.report? other
  secrets : store'.secrets = store.secrets

theorem wrote_put {store : MemoryStore} {name : String} (h : store.Names name)
    (spec : ReportSpec) : Wrote name spec store (store.put (store.revised name spec)) where
  here := by
    have found := report?_put_self store (store.revised name spec)
    rwa [anyName_revised h] at found
  elsewhere other ne := report?_put_of_ne _ _ (by rwa [anyName_revised h])
  secrets := rfl

/-- Of two writes under one name the later one counts. -/
theorem Wrote.trans {name : String} {spec spec' : ReportSpec} {a b c : MemoryStore}
    (h : Wrote name spec a b) (h' : Wrote name spec' b c) : Wrote name spec' a c where
  here := by
    rw [h'.here, revised, h.here]
    rfl
  elsewhere other ne := (h'.elsewhere other ne).trans (h.elsewhere other ne)
  secrets := h'.secrets.trans h.secrets

theorem Wrote.keyed {name : String} {spec : ReportSpec} {store store' : MemoryStore}
    (h : Wrote name spec store store') (keyed : store.Keyed) : store'.Keyed := by
  intro other report found
  by_cases eq : other = name
  · subst eq
    rw [h.here] at found
    cases found
    exact anyName_revised (keyed other) spec
  · rw [h.elsewhere other eq] at found
    exact keyed other report found

theorem report?_put_of_named (store : MemoryStore) {report : Report} {name : String}
    (named : report.anyName = name) : (store.put report).report? name = some report :=
  named ▸ report?_put_self store report

theorem Keyed.put {store : MemoryStore} (keyed : store.Keyed) (report : Report) :
    (store.put report).Keyed := by
  intro name found present
  by_cases named : report.anyName = name
  · rw [report?_put_of_named store named] at present
    cases present
    exact named
  · rw [report?_put_of_ne store report (Ne.symm named)] at present
    exact keyed name found present

theorem reportCount_put (store : MemoryStore) (report : Report) :
    (store.put report).reportCount =
      if (store.report? report.anyName).isSome then store.reportCount
      else store.reportCount + 1 :=
  KeyMap.size_insert store.reports report.anyName report

/-- A Report that is found is the only one in the store with its name. -/
theorem mem_iff_of_found {store : MemoryStore} (keyed : store.Keyed) {name : String}
    {report : Report} (found : store.report? name = some report) (e : String × Report) :
    e ∈ store.reports.entries ∧ e.2.anyName = name ↔ e = (name, report) := by
  constructor
  · rintro ⟨mem, named⟩
    obtain ⟨key, other⟩ := e
    have there : store.report? key = some other := KeyMap.find?_of_mem mem
    obtain rfl : key = name := (keyed key other there).symm.trans named
    exact congrArg _ (Option.some.inj (there.symm.trans found))
  · rintro rfl
    exact ⟨KeyMap.mem_of_find? found, keyed name report found⟩

end MemoryStore

namespace ObjectStore

theorem run_getReport_memory (name : String) (spans : List Span) (w : World MemoryStore) :
    (memory.getReport name).run spans w = (w.objects.getReport name, w) := rfl

theorem run_createReport_memory (report : Report) (spans : List Span) (w : World MemoryStore) :
    (memory.createReport report).run spans w =
      ((w.objects.createReport report).1,
        { w with objects := (w.objects.createReport report).2 }) := rfl

theorem run_replaceReport_memory (report : Report) (spans : List Span) (w : World MemoryStore) :
    (memory.replaceReport report).run spans w =
      ((w.objects.replaceReport report).1,
        { w with objects := (w.objects.replaceReport report).2 }) := rfl

theorem run_getSecret_memory (namespaceName name : String) (spans : List Span)
    (w : World MemoryStore) :
    (memory.getSecret namespaceName name).run spans w =
      (w.objects.getSecret namespaceName name, w) := rfl

end ObjectStore

namespace Report

/-- What is taken down about a write, in view of what the look-up found. -/
def writeNote (spans : List Span) : Option Report → Journal
  | some _ =>
    { events := [⟨.info, upsertTarget, spans, "update report instance"⟩]
      observations := [.reportWritten .update] }
  | none =>
    { events := [⟨.info, upsertTarget, spans, "create report instance"⟩]
      observations := [.reportWritten .create] }

theorem run_found?_memory (name : String) (spans : List Span) (w : World MemoryStore) :
    (found? .memory name).run spans w = (.ok (w.objects.report? name), w) := by
  rw [run_found?, ObjectStore.run_getReport_memory, MemoryStore.getReport]
  cases w.objects.report? name with
  | none => rfl
  | some report => rfl

/-- An upsert in memory succeeds, and puts the revised Report in its place. -/
theorem run_upsert_memory {w : World MemoryStore} {name : String} (h : w.objects.Names name)
    (spec : ReportSpec) (spans : List Span) :
    (upsert .memory name spec).run spans w =
      (.ok (w.objects.revised name spec),
        ({ w with objects := w.objects.put (w.objects.revised name spec) } : World _).noting
          (writeNote spans (w.objects.report? name))) := by
  have place : w.objects.reports.contains (w.objects.revised name spec).anyName =
      (w.objects.report? name).isSome := by
    rw [MemoryStore.anyName_revised h]
    rfl
  rw [upsert, Attempt.run_bind, run_found?_memory]
  cases found : w.objects.report? name with
  | none =>
    rw [found, MemoryStore.revised_of_none found] at place
    simp only [write, Attempt.run_bind, Attempt.run_log, ObjectStore.run_createReport_memory,
      MemoryStore.createReport, place, Attempt.run_observe, MemoryStore.revised_of_none found]
    rfl
  | some report =>
    rw [found, MemoryStore.revised_of_some found] at place
    simp only [write, Attempt.run_bind, Attempt.run_log, ObjectStore.run_replaceReport_memory,
      MemoryStore.replaceReport, place, Attempt.run_observe, MemoryStore.revised_of_some found]
    rfl

end Report

end CleanupCourier
