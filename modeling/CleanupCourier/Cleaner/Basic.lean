import CleanupCourier.Cleaner.Action
import CleanupCourier.Cleaner.Notification
import CleanupCourier.Cluster.Metadata

/-!
The Cleaner, an object of the cluster: when it runs, what it does with what it finds, and which
notifications its report goes to.
-/
namespace CleanupCourier

/-- The group of the objects that this library defines. -/
def apiGroup : String := "apps.projectsveltos.io"

def apiVersion : String := "v1alpha1"

def apiGroupVersion : String := apiGroup ++ "/" ++ apiVersion

structure CleanerSpec where
  schedule : String
  action : Action := .delete
  notifications : List Notification := []
deriving DecidableEq, Repr

namespace CleanerSpec

structure Draft where
  schedule : Option String := none
  action : Option Action := none
  notifications : Option (List Notification) := none

open Decode in
def record : Record Draft CleanerSpec where
  name := "CleanerSpec"
  draft := {}
  fields := [
    field "schedule" (·.schedule) (fun a s => { s with schedule := some a }) string,
    field "action" (·.action) (fun a s => { s with action := some a }) Action.decode,
    field "notifications" (·.notifications) (fun a s => { s with notifications := some a })
      (list Notification.decode)]
  finish s :=
    match s.schedule with
    | none => .error "schedule"
    | some schedule => .ok ⟨schedule, s.action.getD .delete, s.notifications.getD []⟩

def decode : Decoder CleanerSpec :=
  record.decode

def encode (c : CleanerSpec) : Json :=
  .object [("schedule", .string c.schedule), ("action", c.action.encode),
    ("notifications", Json.ofList Notification.encode c.notifications)]

end CleanerSpec

structure Cleaner where
  metadata : Metadata
  spec : CleanerSpec
deriving Repr

/-- The part that all objects defined here share: metadata and content. -/
structure ObjectDraft (σ : Type) where
  metadata : Option Metadata := none
  spec : Option σ := none

open Decode in
/-- Reads the metadata and the content of an object; its kind and version are not looked at. -/
def objectRecord {σ α : Type} (name : String) (decodeSpec : Decoder σ)
    (make : Metadata → σ → α) : Record (ObjectDraft σ) α where
  name := name
  draft := {}
  fields := [
    field "metadata" (·.metadata) (fun a s => { s with metadata := some a })
      Metadata.record.decode,
    field "spec" (·.spec) (fun a s => { s with spec := some a }) decodeSpec]
  finish s :=
    match s.metadata, s.spec with
    | none, _ => .error "metadata"
    | _, none => .error "spec"
    | some metadata, some spec => .ok (make metadata spec)

def encodeObject (kind : String) (metadata : Metadata) (spec : Json) : Json :=
  .object [("apiVersion", .string apiGroupVersion), ("kind", .string kind),
    ("metadata", metadata.encode), ("spec", spec)]

namespace Cleaner

def decode : Decoder Cleaner :=
  (objectRecord "Cleaner" CleanerSpec.decode Cleaner.mk).decode

def encode (c : Cleaner) : Json :=
  encodeObject "Cleaner" c.metadata c.spec.encode

def anyName (c : Cleaner) : String :=
  c.metadata.anyName

end Cleaner

end CleanupCourier
