import CleanupCourier.Store.Basic

/-!
Writing the Report of a Cleaner. Only the latest run is kept: a Report that is there keeps its
metadata and gets the new content. A look-up that fails otherwise than by finding nothing fails the
whole.
-/
namespace CleanupCourier

namespace Report

def upsertTarget : String := logTarget ["report", "persist"]

/-- Whether a look-up found a Report, found that there is none, or failed. -/
def found? {σ : Type} (store : ObjectStore σ) (name : String) :
    Attempt σ StoreError (Option Report) :=
  tryCatch (some <$> store.getReport name) fun error =>
    if error.isNotFound then pure none else throw error

theorem run_found? {σ : Type} (store : ObjectStore σ) (name : String) (spans : List Span)
    (w : World σ) :
    (found? store name).run spans w =
      match (store.getReport name).run spans w with
      | (.ok report, v) => (.ok (some report), v)
      | (.error error, v) => if error.isNotFound then (.ok none, v) else (.error error, v) := by
  rw [found?, Attempt.run_tryCatch, Attempt.run_map]
  obtain ⟨error | report, v⟩ := (store.getReport name).run spans w
  · simp only [Except.map]
    split
    case isTrue => rfl
    case isFalse => rfl
  · rfl

/-- Writes the Report under a name, given what the look-up found. -/
def write {σ : Type} (store : ObjectStore σ) (name : String) (spec : ReportSpec) :
    Option Report → Attempt σ StoreError Report
  | some report => do
    Attempt.log .info upsertTarget "update report instance"
    let written ← store.replaceReport { report with spec }
    Attempt.observe (.reportWritten .update)
    return written
  | none => do
    Attempt.log .info upsertTarget "create report instance"
    let written ← store.createReport (.new name spec)
    Attempt.observe (.reportWritten .create)
    return written

def upsert {σ : Type} (store : ObjectStore σ) (name : String) (spec : ReportSpec) :
    Attempt σ StoreError Report := do
  write store name spec (← found? store name)

end Report

end CleanupCourier
