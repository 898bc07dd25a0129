import CleanupCourier.Proofs.Credentials.Tolerance
import CleanupCourier.Report.Upsert
import CleanupCourier.Store.Memory

/-!
Stores side by side whose Secrets differ within a tolerance. They agree if each operation on Reports
does the same and each Secret is found with its counterpart; then a Report is written alike. The
store in memory agrees with itself over any two contents with equal Reports and such Secrets.
-/
namespace CleanupCourier

variable {σ : Type} {T : Tolerance}

structure ObjectStore.Agree (T : Tolerance) (objects : σ → σ → Prop)
    (store store' : ObjectStore σ) : Prop where
  getReport (name : String) :
    Attempt.Agree ⟨objects, T.veil⟩ Eq (store.getReport name) (store'.getReport name)
  createReport (report : Report) :
    Attempt.Agree ⟨objects, T.veil⟩ Eq (store.createReport report) (store'.createReport report)
  replaceReport (report : Report) :
    Attempt.Agree ⟨objects, T.veil⟩ Eq (store.replaceReport report) (store'.replaceReport report)
  getSecret (namespaceName name : String) :
    Attempt.Agree ⟨objects, T.veil⟩ T.Secret (store.getSecret namespaceName name)
      (store'.getSecret namespaceName name)

namespace Report

variable {objects : σ → σ → Prop} {store store' : ObjectStore σ}
  (agree : store.Agree T objects store')

include agree

theorem agree_found? (name : String) :
    Attempt.Agree ⟨objects, T.veil⟩ Eq (found? store name) (found? store' name) := by
  refine Attempt.agree_tryCatch (Attempt.agree_map (agree.getReport name) some) fun error => ?_
  split
  · exact Attempt.agree_pure rfl
  · exact Attempt.agree_throw error

theorem agree_write (name : String) (spec : ReportSpec) (found : Option Report) :
    Attempt.Agree ⟨objects, T.veil⟩ Eq (write store name spec found)
      (write store' name spec found) := by
  cases found with
  | none =>
    refine Attempt.agree_bind_eq (Attempt.agree_log _ _ _) fun _ => ?_
    refine Attempt.agree_bind_eq (agree.createReport _) fun written => ?_
    exact Attempt.agree_bind_eq (Attempt.agree_observe _) fun _ => Attempt.agree_pure rfl
  | some report =>
    refine Attempt.agree_bind_eq (Attempt.agree_log _ _ _) fun _ => ?_
    refine Attempt.agree_bind_eq (agree.replaceReport _) fun written => ?_
    exact Attempt.agree_bind_eq (Attempt.agree_observe _) fun _ => Attempt.agree_pure rfl

theorem agree_upsert (name : String) (spec : ReportSpec) :
    Attempt.Agree ⟨objects, T.veil⟩ Eq (upsert store name spec) (upsert store' name spec) :=
  Attempt.agree_bind_eq (agree_found? agree name) fun found => agree_write agree name spec found

end Report

/-- Holds of contents of a store in memory that differ in Secrets only, within a tolerance. -/
structure MemoryStore.Resembles (T : Tolerance) (m m' : MemoryStore) : Prop where
  reports : m.reports = m'.reports
  secrets (namespaceName name : String) :
    Option.Rel T.Secret (m.secret? namespaceName name) (m'.secret? namespaceName name)

namespace MemoryStore

variable {m m' : MemoryStore}

theorem resembles_empty (T : Tolerance) : empty.Resembles T empty :=
  ⟨rfl, fun _ _ => .none⟩

theorem Resembles.insertSecret (h : m.Resembles T m') {s s' : Secret}
    (place : s.namespaceName = s'.namespaceName ∧ s.anyName = s'.anyName) (same : T.Secret s s') :
    (m.insertSecret s).Resembles T (m'.insertSecret s') where
  reports := h.reports
  secrets namespaceName name := by
    by_cases here : namespaceName = s.namespaceName ∧ name = s.anyName
    · obtain ⟨rfl, rfl⟩ := here
      rw [secret?_insertSecret_self, place.1, place.2, secret?_insertSecret_self]
      exact .some same
    · have elsewhere := not_and_or.mp here
      have elsewhere' : namespaceName ≠ s'.namespaceName ∨ name ≠ s'.anyName := by
        rwa [← place.1, ← place.2]
      rw [secret?_insertSecret_of_ne m s elsewhere, secret?_insertSecret_of_ne m' s' elsewhere']
      exact h.secrets namespaceName name

theorem Resembles.report?_eq (h : m.Resembles T m') (name : String) :
    m.report? name = m'.report? name := by
  rw [report?, report?, h.reports]

theorem Resembles.put (h : m.Resembles T m') (report : Report) :
    (m.put report).Resembles T (m'.put report) where
  reports := by rw [MemoryStore.put, MemoryStore.put, h.reports]
  secrets := h.secrets

theorem Resembles.createReport (h : m.Resembles T m') (report : Report) :
    (m.createReport report).1 = (m'.createReport report).1 ∧
      (m.createReport report).2.Resembles T (m'.createReport report).2 := by
  unfold MemoryStore.createReport
  rw [h.reports]
  split
  · exact ⟨rfl, h⟩
  · exact ⟨rfl, h.put report⟩

theorem Resembles.replaceReport (h : m.Resembles T m') (report : Report) :
    (m.replaceReport report).1 = (m'.replaceReport report).1 ∧
      (m.replaceReport report).2.Resembles T (m'.replaceReport report).2 := by
  unfold MemoryStore.replaceReport
  rw [h.reports]
  split
  · exact ⟨rfl, h.put report⟩
  · exact ⟨rfl, h⟩

theorem Resembles.getSecret (h : m.Resembles T m') (namespaceName name : String) :
    Matches T.Secret (m.getSecret namespaceName name) (m'.getSecret namespaceName name) := by
  have related := h.secrets namespaceName name
  unfold MemoryStore.getSecret
  generalize m.secret? namespaceName name = found at related ⊢
  generalize m'.secret? namespaceName name = found' at related ⊢
  cases related with
  | some same => exact .ok same
  | none => exact .error _

end MemoryStore

theorem ObjectStore.memory_agree (T : Tolerance) :
    memory.Agree T (MemoryStore.Resembles T) memory where
  getReport name spans w v holds := by
    refine ⟨?_, holds⟩
    change Matches Eq (w.objects.getReport name) (v.objects.getReport name)
    rw [MemoryStore.getReport, holds.objects.report?_eq]
    exact .refl _
  createReport report spans w v holds := by
    obtain ⟨result, objects⟩ := MemoryStore.Resembles.createReport holds.objects report
    refine ⟨?_, objects, holds.traffic, holds.journal⟩
    change Matches Eq (w.objects.createReport report).1 (v.objects.createReport report).1
    exact result ▸ .refl _
  replaceReport report spans w v holds := by
    obtain ⟨result, objects⟩ := MemoryStore.Resembles.replaceReport holds.objects report
    refine ⟨?_, objects, holds.traffic, holds.journal⟩
    change Matches Eq (w.objects.replaceReport report).1 (v.objects.replaceReport report).1
    exact result ▸ .refl _
  getSecret namespaceName name spans w v holds :=
    ⟨MemoryStore.Resembles.getSecret holds.objects namespaceName name, holds⟩

end CleanupCourier
