import CleanupCourier.Store.Basic

/-!
An object store in memory: Reports by name, and Secrets by namespace and then by name, so that no
two Secrets share a place. An operation that fails leaves the store as it was.
-/
namespace CleanupCourier

structure MemoryStore where
  reports : KeyMap Report := .empty
  secrets : KeyMap (KeyMap Secret) := .empty

namespace MemoryStore

def empty : MemoryStore := {}

/-- Puts a Secret under its own namespace and name. -/
def insertSecret (store : MemoryStore) (secret : Secret) : MemoryStore :=
  let inNamespace := (store.secrets.find? secret.namespaceName).getD .empty
  { store with
    secrets := store.secrets.insert secret.namespaceName
      (inNamespace.insert secret.anyName secret) }

def report? (store : MemoryStore) (name : String) : Option Report :=
  store.reports.find? name

def secret? (store : MemoryStore) (namespaceName name : String) : Option Secret :=
  (store.secrets.find? namespaceName).bind (·.find? name)

def reportCount (store : MemoryStore) : Nat :=
  store.reports.size

def getReport (store : MemoryStore) (name : String) : Except StoreError Report :=
  match store.report? name with
  | some report => .ok report
  | none => .error (.notFound "Report" name)

def getSecret (store : MemoryStore) (namespaceName name : String) : Except StoreError Secret :=
  match store.secret? namespaceName name with
  | some secret => .ok secret
  | none => .error (.notFound "Secret" (namespaceName ++ "/" ++ name))

def put (store : MemoryStore) (report : Report) : MemoryStore :=
  { store with reports := store.reports.insert report.anyName report }

/-- Adds a Report under a name that is free. -/
def createReport (store : MemoryStore) (report : Report) : Except StoreError Report × MemoryStore :=
  if store.reports.contains report.anyName then
    (.error (.backend s!"Report {report.anyName} already exists"), store)
  else (.ok report, store.put report)

/-- Puts a Report in the place of the one with its name. -/
def replaceReport (store : MemoryStore) (report : Report) :
    Except StoreError Report × MemoryStore :=
  if store.reports.contains report.anyName then (.ok report, store.put report)
  else (.error (.notFound "Report" report.anyName), store)

/-! What the writing operations do to a look-up. -/

theorem report?_put_self (store : MemoryStore) (report : Report) :
    (store.put report).report? report.anyName = some report :=
  KeyMap.find?_insert_self _ _ _

theorem report?_put_of_ne (store : MemoryStore) (report : Report) {name : String}
    (h : name ≠ report.anyName) : (store.put report).report? name = store.report? name :=
  KeyMap.find?_insert_of_ne _ _ h

theorem secret?_insertSecret_self (store : MemoryStore) (secret : Secret) :
    (store.insertSecret secret).secret? secret.namespaceName secret.anyName = some secret := by
  simp [insertSecret, secret?, KeyMap.find?_insert_self]

/-- A Secret does not get in the way of one in another namespace or under another name. -/
theorem secret?_insertSecret_of_ne (store : MemoryStore) (secret : Secret)
    {namespaceName name : String}
    (h : namespaceName ≠ secret.namespaceName ∨ name ≠ secret.anyName) :
    (store.insertSecret secret).secret? namespaceName name =
      store.secret? namespaceName name := by
  by_cases hn : namespaceName = secret.namespaceName
  · subst hn
    have hname := h.resolve_left (by simp)
    simp only [insertSecret, secret?, KeyMap.find?_insert_self, Option.bind_some]
    rw [KeyMap.find?_insert_of_ne _ _ hname]
    cases store.secrets.find? secret.namespaceName <;> rfl
  · simp only [insertSecret, secret?]
    rw [KeyMap.find?_insert_of_ne _ _ hn]

end MemoryStore

/-- The store in memory as work on a world that keeps one. -/
def ObjectStore.memory : ObjectStore MemoryStore where
  getReport name := do Attempt.ofExcept ((← get).objects.getReport name)
  createReport report := do
    let (result, objects) := (← get).objects.createReport report
    modify fun w => { w with objects }
    Attempt.ofExcept result
  replaceReport report := do
    let (result, objects) := (← get).objects.replaceReport report
    modify fun w => { w with objects }
    Attempt.ofExcept result
  getSecret namespaceName name := do
    Attempt.ofExcept ((← get).objects.getSecret namespaceName name)

end CleanupCourier
