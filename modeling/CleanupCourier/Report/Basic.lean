import CleanupCourier.Cleaner.Basic
import CleanupCourier.Json.Printer

/-!
The Report, an object of the cluster: what a run did and to which resources.
-/
namespace CleanupCourier

/-- Names one resource; the namespace is empty for a resource of the whole cluster. -/
structure ResourceRef where
  namespaceName : String := ""
  name : String
  kind : String
  apiVersion : String
deriving DecidableEq, Repr

namespace ResourceRef

structure Draft where
  namespaceName : Option String := none
  name : Option String := none
  kind : Option String := none
  apiVersion : Option String := none

open Decode in
def record : Record Draft ResourceRef where
  name := "ResourceRef"
  draft := {}
  fields := [
    field "namespace" (·.namespaceName) (fun a s => { s with namespaceName := some a }) string,
    field "name" (·.name) (fun a s => { s with name := some a }) string,
    field "kind" (·.kind) (fun a s => { s with kind := some a }) string,
    field "apiVersion" (·.apiVersion) (fun a s => { s with apiVersion := some a }) string]
  finish s :=
    match s.name, s.kind, s.apiVersion with
    | none, _, _ => .error "name"
    | _, none, _ => .error "kind"
    | _, _, none => .error "apiVersion"
    | some name, some kind, some apiVersion =>
      .ok ⟨s.namespaceName.getD "", name, kind, apiVersion⟩

def decode : Decoder ResourceRef :=
  record.decode

def encode (r : ResourceRef) : Json :=
  .object ((if r.namespaceName.isEmpty then [] else [("namespace", .string r.namespaceName)])
    ++ [("name", .string r.name), ("kind", .string r.kind), ("apiVersion", .string r.apiVersion)])

end ResourceRef

structure ResourceInfo where
  resource : ResourceRef
  message : String := ""
deriving DecidableEq, Repr

namespace ResourceInfo

structure Draft where
  resource : Option ResourceRef := none
  message : Option String := none

open Decode in
def record : Record Draft ResourceInfo where
  name := "ResourceInfo"
  draft := {}
  fields := [
    field "resource" (·.resource) (fun a s => { s with resource := some a }) ResourceRef.decode,
    field "message" (·.message) (fun a s => { s with message := some a }) string]
  finish s :=
    match s.resource with
    | none => .error "resource"
    | some resource => .ok ⟨resource, s.message.getD ""⟩

def decode : Decoder ResourceInfo :=
  record.decode

def encode (i : ResourceInfo) : Json :=
  .object [("resource", i.resource.encode), ("message", .string i.message)]

end ResourceInfo

structure ReportSpec where
  action : Action := .delete
  resources : List ResourceInfo := []
deriving DecidableEq, Repr

namespace ReportSpec

structure Draft where
  action : Option Action := none
  resources : Option (List ResourceInfo) := none

open Decode in
def record : Record Draft ReportSpec where
  name := "ReportSpec"
  draft := {}
  fields := [
    field "action" (·.action) (fun a s => { s with action := some a }) Action.decode,
    field "resources" (·.resources) (fun a s => { s with resources := some a })
      (list ResourceInfo.decode)]
  finish s := .ok ⟨s.action.getD .delete, s.resources.getD []⟩

def decode : Decoder ReportSpec :=
  record.decode

def encode (r : ReportSpec) : Json :=
  .object [("action", r.action.encode), ("resources", Json.ofList ResourceInfo.encode r.resources)]

/-- The text that every destination gets. -/
def payload (r : ReportSpec) : String :=
  r.encode.render

end ReportSpec

structure Report where
  metadata : Metadata
  spec : ReportSpec
deriving Repr

namespace Report

def new (name : String) (spec : ReportSpec) : Report :=
  ⟨.named name, spec⟩

def decode : Decoder Report :=
  (objectRecord "Report" ReportSpec.decode Report.mk).decode

def encode (r : Report) : Json :=
  encodeObject "Report" r.metadata r.spec.encode

def anyName (r : Report) : String :=
  r.metadata.anyName

end Report

end CleanupCourier
