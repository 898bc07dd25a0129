import CleanupCourier.Store.Basic
import CleanupCourier.Text.Quoted

/-!
From a notification to the data of its Secret. The reference has to name a Secret of version v1 with
a namespace; nothing is read or logged before that is known.
-/
namespace CleanupCourier

namespace Notification

def invalidReference (n : Notification) (reason : String) : DeliveryError :=
  .invalidReference n.logTag reason

/-- The reference of a notification, if it can be one to a Secret. -/
def secretRef (n : Notification) : Except DeliveryError NotificationRef :=
  match n.ref? with
  | none => .error (n.invalidReference "notificationRef is not set")
  | some ref =>
    if ref.kind ≠ "Secret" then .error (n.invalidReference ("kind is " ++ quoted ref.kind))
    else if ref.apiVersion ≠ "v1" then
      .error (n.invalidReference ("apiVersion is " ++ quoted ref.apiVersion))
    else if ref.namespaceName.isEmpty then .error (n.invalidReference "namespace is not set")
    else .ok ref

end Notification

/-- The data of a Secret, which has to hold some. -/
def Secret.credentials (secret : Secret) (ref : NotificationRef) :
    Except DeliveryError SecretData :=
  match secret.data with
  | some data =>
    if data.isEmpty then .error (.emptyCredentials ref.namespaceName ref.name) else .ok data
  | none => .error (.emptyCredentials ref.namespaceName ref.name)

def Credentials.target : String := logTarget ["credentials"]

/-- The data of the Secret that a notification refers to. -/
def Notification.credentials {σ : Type} (n : Notification) (store : ObjectStore σ) :
    Attempt σ DeliveryError SecretData := do
  let ref ← Attempt.ofExcept n.secretRef
  Attempt.log .debug Credentials.target ("reading credentials from secret " ++ ref.path)
  let secret ← (store.getSecret ref.namespaceName ref.name).mapError .store
  Attempt.ofExcept (secret.credentials ref)

end CleanupCourier
