import CleanupCourier.Definition.Schema
import CleanupCourier.Report.Basic

/-!
The definitions under which a cluster takes Cleaners and Reports. Each has a schema for the content
of its objects; what a Cleaner holds beyond it is kept, since it belongs to others.
-/
namespace CleanupCourier

namespace Schema

def action (description : String) : Schema :=
  .text { description := some description, fallback := some Action.delete.encode }
    (Action.all.map Action.name)

/-- The types that are known; others decode, but are not offered. -/
def notificationType : Schema :=
  .text { description := some "Destination type" }
    (NotificationType.known.map NotificationType.name)

def notificationRef : Schema :=
  .record
    { description := some "Reference to the Secret holding the destination credentials.
Not needed for `CleanerReport`." }
    [("apiVersion", textOrEmpty), ("kind", textOrEmpty), ("name", plainText),
      ("namespace", textOrEmpty)]
    ["name"] false

def notification : Schema :=
  .record { description := some "A single notification entry of a Cleaner" }
    [("name", described "Name of the notification, used only to tag log lines"),
      ("notificationRef", .nullable notificationRef), ("type", notificationType)]
    ["name", "type"] false

def cleanerDescription : String :=
  "Cleaner Custom Resource Definition

# Example

```yaml
apiVersion: apps.projectsveltos.io/v1alpha1
kind: Cleaner
metadata:
  name: stale-configmaps
spec:
  schedule: \"0 * * * *\"
  action: Delete
  notifications:
  - name: report
    type: CleanerReport
  - name: slack
    type: Slack
    notificationRef:
      apiVersion: v1
      kind: Secret
      namespace: default
      name: slack
```"

def cleanerSpec : Schema :=
  .record { description := some cleanerDescription }
    [("action", action "Action applied to matching resources"),
      ("notifications", .list
        { description := some "Destinations the report of each run is delivered to, in order",
          fallback := some (.array []) } notification),
      ("schedule", described "Cron expression the cleanup engine runs on")]
    ["schedule"] true

def resourceRef : Schema :=
  .record { description := some "Identity of the resource" }
    [("apiVersion", plainText), ("kind", plainText), ("name", plainText),
      ("namespace", described "Empty for cluster-scoped resources")]
    ["apiVersion", "kind", "name"] false

def resourceInfo : Schema :=
  .record {}
    [("message", .text
        { description := some "Outcome message with the report build time appended",
          fallback := some (.string "") } []),
      ("resource", resourceRef)]
    ["resource"] false

def reportSpec : Schema :=
  .record {}
    [("action", action "Action of the Cleaner that produced this report"),
      ("resources", .list
        { description := some "One entry per resource the action touched",
          fallback := some (.array []) } resourceInfo)]
    [] false

end Schema

/-- What the cluster has to know of a kind of objects. -/
structure ResourceDefinition where
  kind : String
  plural : String
  singular : String
  spec : Schema
deriving Repr

namespace ResourceDefinition

def cleaner : ResourceDefinition :=
  ⟨"Cleaner", "cleaners", "cleaner", .cleanerSpec⟩

def report : ResourceDefinition :=
  ⟨"Report", "reports", "report", .reportSpec⟩

/-- The schema of a whole object, its metadata apart. -/
def object (d : ResourceDefinition) : Schema :=
  .record
    { description := some s!"Auto-generated derived type for {d.kind}Spec via `CustomResource`",
      title := some d.kind }
    [("spec", d.spec)] ["spec"] false

/-- The column that listings show beside the name. -/
def actionColumn : Json :=
  .object [("jsonPath", .string ".spec.action"), ("name", .string "Action"),
    ("type", .string "string")]

def version (d : ResourceDefinition) : Json :=
  .object [("additionalPrinterColumns", .array [actionColumn]), ("name", .string apiVersion),
    ("schema", .object [("openAPIV3Schema", d.object.encode)]), ("served", .bool true),
    ("storage", .bool true), ("subresources", .object [])]

def names (d : ResourceDefinition) : Json :=
  .object [("categories", .array []), ("kind", .string d.kind), ("plural", .string d.plural),
    ("shortNames", .array []), ("singular", .string d.singular)]

def encode (d : ResourceDefinition) : Json :=
  .object [("apiVersion", .string "apiextensions.k8s.io/v1"),
    ("kind", .string "CustomResourceDefinition"),
    ("metadata", .object [("name", .string (d.plural ++ "." ++ apiGroup))]),
    ("spec", .object [("group", .string apiGroup), ("names", d.names),
      ("scope", .string "Cluster"), ("versions", .array [d.version])])]

end ResourceDefinition

end CleanupCourier
