import CleanupCourier.Json.Encode
import CleanupCourier.Json.Normal
import CleanupCourier.Time.Stamp

/-!
What a cluster keeps about every object beside its content: names, labels, owners, times. Every part
may be unset. Written out, the parts that are set stand in the order of their keys.
-/
namespace CleanupCourier

/-- Another object that an object belongs to. -/
structure OwnerReference where
  apiVersion : String := ""
  blockOwnerDeletion : Option Bool := none
  controller : Option Bool := none
  kind : String := ""
  name : String := ""
  uid : String := ""
deriving Repr

/-- Who last set which fields of an object. -/
structure ManagedFields where
  apiVersion : Option String := none
  fieldsType : Option String := none
  fieldsV1 : Option Json := none
  manager : Option String := none
  operation : Option String := none
  subresource : Option String := none
  time : Option Instant := none
deriving Repr

structure Metadata where
  annotations : Option (KeyMap String) := none
  creationTimestamp : Option Instant := none
  deletionGracePeriodSeconds : Option Int := none
  deletionTimestamp : Option Instant := none
  finalizers : Option (List String) := none
  generateName : Option String := none
  generation : Option Int := none
  labels : Option (KeyMap String) := none
  managedFields : Option (List ManagedFields) := none
  name : Option String := none
  namespaceName : Option String := none
  ownerReferences : Option (List OwnerReference) := none
  resourceVersion : Option String := none
  selfLink : Option String := none
  uid : Option String := none
deriving Repr

namespace Metadata

def named (name : String) : Metadata :=
  { name := some name }

/-- The name, or else the stem of a name to be generated, or else the empty text. -/
def anyName (m : Metadata) : String :=
  (m.name.or m.generateName).getD ""

end Metadata

namespace Decode

def stamp : Decoder Instant
  | _, .string text =>
    match Stamp.read text.toList with
    | .ok t => .ok t
    | .error fault => fail (.custom fault.message)
  | _, j => mismatch "an RFC 3339 formatted date and time string" j

def textMap : Decoder (KeyMap String)
  | origin, j => (members string origin j).map KeyMap.ofList

/-- A text that may also be null, which stands for the empty text. -/
def textOrNull : Decoder String
  | origin, j => (optional string origin j).map (·.getD "")

end Decode

open Decode in
def OwnerReference.record : LooseRecord OwnerReference where
  name := "OwnerReference"
  draft := {}
  fields := [
    slot "apiVersion" (fun a s => { s with apiVersion := a }) textOrNull,
    slot "blockOwnerDeletion" (fun a s => { s with blockOwnerDeletion := a }) (optional bool),
    slot "controller" (fun a s => { s with controller := a }) (optional bool),
    slot "kind" (fun a s => { s with kind := a }) textOrNull,
    slot "name" (fun a s => { s with name := a }) textOrNull,
    slot "uid" (fun a s => { s with uid := a }) textOrNull]

def OwnerReference.encode (r : OwnerReference) : Json :=
  .object ([("apiVersion", .string r.apiVersion)]
    ++ Json.member? "blockOwnerDeletion" .bool r.blockOwnerDeletion
    ++ Json.member? "controller" .bool r.controller
    ++ [("kind", .string r.kind), ("name", .string r.name), ("uid", .string r.uid)])

/-- How deep the fields of one manager may be nested. -/
def ManagedFields.maxDepth : Nat := 123

open Decode in
def ManagedFields.record : LooseRecord ManagedFields where
  name := "ManagedFieldsEntry"
  draft := {}
  fields := [
    slot "apiVersion" (fun a s => { s with apiVersion := a }) (optional string),
    slot "fieldsType" (fun a s => { s with fieldsType := a }) (optional string),
    slot "fieldsV1" (fun a s => { s with fieldsV1 := a })
      (optional (kept maxDepth)),
    slot "manager" (fun a s => { s with manager := a }) (optional string),
    slot "operation" (fun a s => { s with operation := a }) (optional string),
    slot "subresource" (fun a s => { s with subresource := a }) (optional string),
    slot "time" (fun a s => { s with time := a }) (optional stamp)]

def stampJson (t : Instant) : Json :=
  .string t.stamp

def ManagedFields.encode (m : ManagedFields) : Json :=
  .object (Json.member? "apiVersion" .string m.apiVersion
    ++ Json.member? "fieldsType" .string m.fieldsType
    ++ Json.member? "fieldsV1" id m.fieldsV1
    ++ Json.member? "manager" .string m.manager
    ++ Json.member? "operation" .string m.operation
    ++ Json.member? "subresource" .string m.subresource
    ++ Json.member? "time" stampJson m.time)

open Decode in
def Metadata.record : LooseRecord Metadata where
  name := "ObjectMeta"
  draft := {}
  fields := [
    slot "annotations" (fun a s => { s with annotations := a }) (optional textMap),
    slot "creationTimestamp" (fun a s => { s with creationTimestamp := a }) (optional stamp),
    slot "deletionGracePeriodSeconds" (fun a s => { s with deletionGracePeriodSeconds := a })
      (optional int64),
    slot "deletionTimestamp" (fun a s => { s with deletionTimestamp := a }) (optional stamp),
    slot "finalizers" (fun a s => { s with finalizers := a }) (optional (list string)),
    slot "generateName" (fun a s => { s with generateName := a }) (optional string),
    slot "generation" (fun a s => { s with generation := a }) (optional int64),
    slot "labels" (fun a s => { s with labels := a }) (optional textMap),
    slot "managedFields" (fun a s => { s with managedFields := a })
      (optional (list ManagedFields.record.decode)),
    slot "name" (fun a s => { s with name := a }) (optional string),
    slot "namespace" (fun a s => { s with namespaceName := a }) (optional string),
    slot "ownerReferences" (fun a s => { s with ownerReferences := a })
      (optional (list OwnerReference.record.decode)),
    slot "resourceVersion" (fun a s => { s with resourceVersion := a }) (optional string),
    slot "selfLink" (fun a s => { s with selfLink := a }) (optional string),
    slot "uid" (fun a s => { s with uid := a }) (optional string)]

def Metadata.encode (m : Metadata) : Json :=
  .object (Json.member? "annotations" (Json.ofMap .string) m.annotations
    ++ Json.member? "creationTimestamp" stampJson m.creationTimestamp
    ++ Json.member? "deletionGracePeriodSeconds" .int m.deletionGracePeriodSeconds
    ++ Json.member? "deletionTimestamp" stampJson m.deletionTimestamp
    ++ Json.member? "finalizers" (Json.ofList .string) m.finalizers
    ++ Json.member? "generateName" .string m.generateName
    ++ Json.member? "generation" .int m.generation
    ++ Json.member? "labels" (Json.ofMap .string) m.labels
    ++ Json.member? "managedFields" (Json.ofList ManagedFields.encode) m.managedFields
    ++ Json.member? "name" .string m.name
    ++ Json.member? "namespace" .string m.namespaceName
    ++ Json.member? "ownerReferences" (Json.ofList OwnerReference.encode) m.ownerReferences
    ++ Json.member? "resourceVersion" .string m.resourceVersion
    ++ Json.member? "selfLink" .string m.selfLink
    ++ Json.member? "uid" .string m.uid)

end CleanupCourier
