import CleanupCourier.Cleaner.Notification

/-!
Why things fail: the object store, and the delivery of a notification. A delivery error is one of
configuration where only the Cleaner, its Secret or the settings can mend it; trying again cannot.
-/
namespace CleanupCourier

/-- Why the API of the cluster did not give an object. -/
inductive ApiFault where
  /-- The server refused. -/
  | refused (code : Nat) (reason message : String)
  /-- The request cannot be written down. -/
  | unsendable
  /-- The answer does not decode. -/
  | undecodable
deriving DecidableEq, Repr

def ApiFault.message : ApiFault → String
  | .refused code reason message => s!"api {code} {reason} {message}"
  | .unsendable => "BuildRequest"
  | .undecodable => "SerdeError"

inductive StoreError where
  | notFound (kind name : String)
  | api (fault : ApiFault)
  | backend (reason : String)
deriving DecidableEq, Repr

namespace StoreError

def message : StoreError → String
  | .notFound kind name => s!"{kind} {name} not found"
  | .api fault => "Kubernetes API error: " ++ fault.message
  | .backend reason => "object store error: " ++ reason

def isNotFound : StoreError → Bool
  | .notFound _ _ => true
  | _ => false

end StoreError

/-- Why an exchange with a server gave no usable response. -/
inductive TransportFault where
  /-- No request can be made; the address is told once it is known. -/
  | builder (url : Option String)
  /-- The request got no response. -/
  | sending (url : String)
  /-- The server redirects without end. -/
  | redirect (url : String)
  /-- The body of the response cannot be read or decoded. -/
  | decoding
deriving DecidableEq, Repr

def TransportFault.message : TransportFault → String
  | .builder none => "builder error"
  | .builder (some url) => s!"builder error for url ({url})"
  | .sending url => s!"error sending request for url ({url})"
  | .redirect url => s!"error following redirect for url ({url})"
  | .decoding => "error decoding response body"

inductive DeliveryError where
  | invalidReference (notification reason : String)
  | emptyCredentials (namespaceName name : String)
  | missingField (destination field : String)
  | invalidField (field reason : String)
  | invalidWebhookUrl (reason : String)
  | unsupportedType (type : NotificationType)
  | invalidConfig (reason : String)
  | store (error : StoreError)
  | serialization (reason : String)
  | transport (destination : String) (fault : TransportFault)
  | api (destination : String) (status : Nat) (message : String)
  | mail (reason : String)
deriving DecidableEq, Repr

namespace DeliveryError

def message : DeliveryError → String
  | .invalidReference notification reason =>
    s!"notification {notification} must reference a v1 Secret holding its credentials: {reason}"
  | .emptyCredentials namespaceName name => s!"secret {namespaceName}/{name} contains no data"
  | .missingField destination field => s!"secret does not contain {destination} field {field}"
  | .invalidField field reason => s!"secret field {field} is invalid: {reason}"
  | .invalidWebhookUrl reason => "invalid Teams webhook URL: " ++ reason
  | .unsupportedType type => "no handler registered for notification type " ++ type.name
  | .invalidConfig reason => "invalid notifier configuration: " ++ reason
  | .store error => "object store error: " ++ error.message
  | .serialization reason => "failed to serialize report: " ++ reason
  | .transport destination fault => s!"{destination} request failed: {fault.message}"
  | .api destination status message =>
    s!"{destination} rejected the message (status {status}): {message}"
  | .mail reason => "failed to send mail: " ++ reason

/-- Holds where only a change to the Cleaner, its Secret or the settings can help. -/
def isConfiguration : DeliveryError → Bool
  | .invalidReference .. | .emptyCredentials .. | .missingField .. | .invalidField ..
  | .invalidWebhookUrl _ | .unsupportedType _ | .invalidConfig _ => true
  | .store _ | .serialization _ | .transport .. | .api .. | .mail _ => false

end DeliveryError

end CleanupCourier
