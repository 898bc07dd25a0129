import CleanupCourier.Cluster.Secret
import CleanupCourier.Failure
import CleanupCourier.Report.Basic
import CleanupCourier.Work

/-!
What the program needs of the place where Reports and Secrets are kept. A store that keeps its state
in `σ` reads and writes only through these four operations.
-/
namespace CleanupCourier

structure ObjectStore (σ : Type) where
  getReport : String → Attempt σ StoreError Report
  createReport : Report → Attempt σ StoreError Report
  replaceReport : Report → Attempt σ StoreError Report
  /-- The Secret of a namespace and a name. -/
  getSecret : String → String → Attempt σ StoreError Secret

end CleanupCourier
