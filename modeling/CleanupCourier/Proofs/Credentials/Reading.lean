import Mathlib.Tactic.Common
import CleanupCourier.Credentials.Reference
import CleanupCourier.Proofs.Store.Memory

/-!
The data of the Secret that a notification refers to, read from the store in memory. There are data
if and only if the reference is one to a Secret, the store has this Secret and the Secret has data;
the first of these that fails is the error. What is wrong with a reference is told before any store
is asked and before anything is logged.
-/
namespace CleanupCourier

namespace Notification

/-- Holds if the reference of a notification is given and can be one to a Secret. -/
structure RefersTo (n : Notification) (ref : NotificationRef) : Prop where
  given : n.ref? = some ref
  kind : ref.kind = "Secret"
  apiVersion : ref.apiVersion = "v1"
  namespaceName : ref.namespaceName ≠ ""

/-- The first thing that is wrong with the reference of a notification, in words. -/
inductive Misrefers (n : Notification) : String → Prop
  | absent : n.ref? = none → n.Misrefers "notificationRef is not set"
  | kind {ref : NotificationRef} : n.ref? = some ref → ref.kind ≠ "Secret" →
    n.Misrefers ("kind is " ++ quoted ref.kind)
  | apiVersion {ref : NotificationRef} : n.ref? = some ref → ref.kind = "Secret" →
    ref.apiVersion ≠ "v1" → n.Misrefers ("apiVersion is " ++ quoted ref.apiVersion)
  | namespaceName {ref : NotificationRef} : n.ref? = some ref → ref.kind = "Secret" →
    ref.apiVersion = "v1" → ref.namespaceName = "" → n.Misrefers "namespace is not set"

variable {n : Notification}

theorem secretRef_of_refersTo {ref : NotificationRef} (h : n.RefersTo ref) :
    n.secretRef = .ok ref := by
  simp [secretRef, h.given, h.kind, h.apiVersion, h.namespaceName]

theorem secretRef_of_misrefers {reason : String} (h : n.Misrefers reason) :
    n.secretRef = .error (n.invalidReference reason) := by
  cases h with
  | absent missing => simp [secretRef, missing]
  | kind given other => simp [secretRef, given, other]
  | apiVersion given kind other => simp [secretRef, given, kind, other]
  | namespaceName given kind version none => simp [secretRef, given, kind, version, none]

/-- Either the reference will do or there is something wrong with it. -/
theorem refersTo_or_misrefers (n : Notification) :
    (∃ ref, n.RefersTo ref) ∨ ∃ reason, n.Misrefers reason := by
  cases given : n.ref? with
  | none => exact .inr ⟨_, .absent given⟩
  | some ref =>
    by_cases kind : ref.kind = "Secret"
    · by_cases version : ref.apiVersion = "v1"
      · by_cases place : ref.namespaceName = ""
        · exact .inr ⟨_, .namespaceName given kind version place⟩
        · exact .inl ⟨ref, given, kind, version, place⟩
      · exact .inr ⟨_, .apiVersion given kind version⟩
    · exact .inr ⟨_, .kind given kind⟩

theorem not_misrefers_of_refersTo {ref : NotificationRef} (h : n.RefersTo ref) (reason : String) :
    ¬ n.Misrefers reason := by
  intro wrong
  have failed := secretRef_of_misrefers wrong
  rw [secretRef_of_refersTo h] at failed
  exact nomatch failed

theorem RefersTo.unique {ref ref' : NotificationRef} (h : n.RefersTo ref) (h' : n.RefersTo ref') :
    ref = ref' :=
  Option.some.inj (h.given.symm.trans h'.given)

end Notification

namespace Secret

variable {secret : Secret} {ref : NotificationRef}

theorem credentials_eq_ok_iff {data : SecretData} :
    secret.credentials ref = .ok data ↔ secret.data = some data ∧ data.entries ≠ [] := by
  unfold credentials
  cases secret.data with
  | none => simp
  | some held =>
    by_cases empty : held.entries = []
    · have none : ¬ (some held = some data ∧ data.entries ≠ []) := by
        rintro ⟨same, some⟩
        cases same
        exact some empty
      simpa [KeyMap.isEmpty, empty] using none
    · have both : held = data ↔ held = data ∧ data.entries ≠ [] :=
        ⟨fun same => ⟨same, same ▸ empty⟩, And.left⟩
      simpa [KeyMap.isEmpty, empty] using both

theorem credentials_eq_error_iff {error : DeliveryError} :
    secret.credentials ref = .error error ↔
      (∀ data, secret.data = some data → data.entries = []) ∧
        error = .emptyCredentials ref.namespaceName ref.name := by
  rw [eq_comm (a := error)]
  unfold credentials
  cases secret.data with
  | none => simp
  | some held => by_cases empty : held.entries = [] <;> simp [KeyMap.isEmpty, empty]

end Secret

namespace Notification

variable {σ : Type} {n : Notification} {ref : NotificationRef}

/-- What is taken down before a Secret is looked up. -/
def lookupNote (ref : NotificationRef) (spans : List Span) : Journal :=
  { events :=
      [⟨.debug, Credentials.target, spans, "reading credentials from secret " ++ ref.path⟩] }

/-- A reference that will not do fails the same over every store, and leaves every world alone. -/
theorem run_credentials_of_misrefers {reason : String} (h : n.Misrefers reason)
    (store : ObjectStore σ) (spans : List Span) (w : World σ) :
    (n.credentials store).run spans w = (.error (n.invalidReference reason), w) := by
  rw [credentials, secretRef_of_misrefers h, Attempt.run_bind, Attempt.run_ofExcept]

theorem run_credentials_memory (h : n.RefersTo ref) (spans : List Span) (w : World MemoryStore) :
    (n.credentials .memory).run spans w =
      ((w.objects.getSecret ref.namespaceName ref.name).mapError .store >>= (·.credentials ref),
        w.noting (lookupNote ref spans)) := by
  have same (j : Journal) : (w.noting j).objects = w.objects := rfl
  rw [credentials, secretRef_of_refersTo h]
  simp only [Attempt.run_bind, Attempt.run_ofExcept, Attempt.run_log_noting, Attempt.run_mapError,
    ObjectStore.run_getSecret_memory, same]
  cases w.objects.getSecret ref.namespaceName ref.name <;> rfl

/-- Why there are no data, after the first thing that is missing. -/
inductive Misses (n : Notification) (store : MemoryStore) : DeliveryError → Prop
  | reference {reason : String} : n.Misrefers reason →
    n.Misses store (.invalidReference (n.type.name ++ ":" ++ n.name) reason)
  | secret {ref : NotificationRef} : n.RefersTo ref →
    store.secret? ref.namespaceName ref.name = none →
    n.Misses store (.store (.notFound "Secret" (ref.namespaceName ++ "/" ++ ref.name)))
  | data {ref : NotificationRef} {secret : Secret} : n.RefersTo ref →
    store.secret? ref.namespaceName ref.name = some secret →
    (∀ data, secret.data = some data → data.entries = []) →
    n.Misses store (.emptyCredentials ref.namespaceName ref.name)

section Lookup

variable (refers : n.RefersTo ref) (store : MemoryStore)

include refers

/-- Where the reference will do, what is given is what the Secret in its place has. -/
theorem lookup_eq_ok_iff (data : SecretData) :
    ((store.getSecret ref.namespaceName ref.name).mapError .store >>= (·.credentials ref)) =
        .ok data ↔
      ∃ ref secret, n.RefersTo ref ∧ store.secret? ref.namespaceName ref.name = some secret ∧
        secret.data = some data ∧ data.entries ≠ [] := by
  constructor
  · intro given
    obtain ⟨secret, found, held⟩ := Attempt.eq_ok_of_bind given
    refine ⟨ref, secret, refers, ?_, Secret.credentials_eq_ok_iff.mp held⟩
    unfold MemoryStore.getSecret at found
    split at found
    · cases found
      assumption
    · exact nomatch found
  · rintro ⟨ref', secret, refers', found, held⟩
    obtain rfl := refers.unique refers'
    rw [MemoryStore.getSecret, found]
    exact Secret.credentials_eq_ok_iff.mpr held

theorem lookup_eq_error_iff (error : DeliveryError) :
    ((store.getSecret ref.namespaceName ref.name).mapError .store >>= (·.credentials ref)) =
        .error error ↔ n.Misses store error := by
  constructor
  · intro failed
    cases found : store.secret? ref.namespaceName ref.name with
    | none =>
      rw [MemoryStore.getSecret, found] at failed
      cases failed
      exact .secret refers found
    | some secret =>
      rw [MemoryStore.getSecret, found] at failed
      obtain ⟨empty, rfl⟩ := Secret.credentials_eq_error_iff.mp failed
      exact .data refers found empty
  · intro misses
    cases misses with
    | reference wrong => exact absurd wrong (not_misrefers_of_refersTo refers _)
    | secret refers' missing =>
      obtain rfl := refers.unique refers'
      rw [MemoryStore.getSecret, missing]
      rfl
    | data refers' found empty =>
      obtain rfl := refers.unique refers'
      rw [MemoryStore.getSecret, found]
      exact Secret.credentials_eq_error_iff.mpr ⟨empty, rfl⟩

end Lookup

/-- There are data for a notification if and only if its reference is one to a Secret, the store
has a Secret in exactly that place, and this has data, which are the ones that are given; otherwise
the error is that of the first of these that fails. A look-up is logged, and changes nothing else.
As long as the reference will not do, no store is asked: whatever a store would say or do about it,
the error is the same and the world stays as it was. -/
theorem credentials_memory (n : Notification) (spans : List Span) (w : World MemoryStore) :
    let read := (n.credentials .memory).run spans w
    (∀ data, read.1 = .ok data ↔ ∃ ref secret, n.RefersTo ref ∧
      w.objects.secret? ref.namespaceName ref.name = some secret ∧
      secret.data = some data ∧ data.entries ≠ []) ∧
    (∀ error, read.1 = .error error ↔ n.Misses w.objects error) ∧
    ((∃ ref, n.RefersTo ref ∧ read.2 = w.noting (lookupNote ref spans)) ∨
      (∃ reason, n.Misrefers reason) ∧ read.2 = w ∧
        ∀ (σ : Type) (store : ObjectStore σ) (v : World σ),
          (n.credentials store).run spans v = (read.1, v)) := by
  intro read
  obtain ⟨ref, refers⟩ | ⟨reason, wrong⟩ := n.refersTo_or_misrefers
  · have eq : read = _ := run_credentials_memory refers spans w
    rw [eq]
    exact ⟨lookup_eq_ok_iff refers w.objects, lookup_eq_error_iff refers w.objects,
      .inl ⟨ref, refers, rfl⟩⟩
  · have eq : read = _ := run_credentials_of_misrefers wrong .memory spans w
    rw [eq]
    have none (ref : NotificationRef) : ¬ n.RefersTo ref :=
      fun refers => not_misrefers_of_refersTo refers reason wrong
    refine ⟨fun data => iff_of_false nofun fun ⟨ref, _, refers, _⟩ => none ref refers,
      fun error => ⟨fun failed => ?_, fun misses => ?_⟩,
      .inr ⟨⟨reason, wrong⟩, rfl, fun σ store v => ?_⟩⟩
    · cases failed
      exact .reference wrong
    · cases misses with
      | reference wrong' =>
        have same := run_credentials_of_misrefers wrong' .memory spans w
        rw [run_credentials_of_misrefers wrong .memory spans w] at same
        exact congrArg Prod.fst same
      | secret refers _ => exact absurd refers (none _)
      | data refers _ _ => exact absurd refers (none _)
    · exact run_credentials_of_misrefers wrong store spans v

end Notification

end CleanupCourier
