import CleanupCourier.Json.Decode
import CleanupCourier.Json.Encode

/-!
Where the report of a run goes: a destination type, a name to tell it by in logs, and a reference to
the Secret with its credentials. Any text is a destination type; one that is not known is kept as it
came, so that it can be reported when its turn comes.
-/
namespace CleanupCourier

inductive NotificationType where
  | cleanerReport
  | slack
  | webex
  | discord
  | teams
  | smtp
  | unsupported (name : String)
deriving DecidableEq, Repr

namespace NotificationType

/-- The name on the wire. -/
def name : NotificationType → String
  | .cleanerReport => "CleanerReport"
  | .slack => "Slack"
  | .webex => "Webex"
  | .discord => "Discord"
  | .teams => "Teams"
  | .smtp => "SMTP"
  | .unsupported name => name

def known : List NotificationType :=
  [.cleanerReport, .slack, .webex, .discord, .teams, .smtp]

def ofName (s : String) : NotificationType :=
  (known.find? (·.name == s)).getD (.unsupported s)

/-- The label of a type in the metrics; all unknown types share one. -/
def label : NotificationType → String
  | .unsupported _ => "Unsupported"
  | t => t.name

def encode (t : NotificationType) : Json :=
  .string t.name

def decode : Decoder NotificationType
  | origin, j => (Decode.string origin j).map ofName

theorem name_ofName (s : String) : (ofName s).name = s := by
  unfold ofName
  cases h : known.find? (·.name == s) with
  | none => rfl
  | some t => simpa using List.find?_some h

theorem ofName_name_of_mem_known : ∀ t ∈ known, ofName t.name = t := by
  decide

theorem ofName_of_unknown {s : String} (unknown : s ∉ known.map name) :
    ofName s = .unsupported s := by
  have none : known.find? (·.name == s) = none := by
    refine List.find?_eq_none.mpr fun t mem same => unknown ?_
    exact List.mem_map.mpr ⟨t, mem, by simpa using same⟩
  rw [ofName, none, Option.getD_none]

end NotificationType

structure NotificationRef where
  kind : String := ""
  namespaceName : String := ""
  name : String
  apiVersion : String := ""
deriving DecidableEq, Repr

namespace NotificationRef

structure Draft where
  kind : Option String := none
  namespaceName : Option String := none
  name : Option String := none
  apiVersion : Option String := none

open Decode in
def record : Record Draft NotificationRef where
  name := "NotificationRef"
  draft := {}
  fields := [
    field "kind" (·.kind) (fun a s => { s with kind := some a }) string,
    field "namespace" (·.namespaceName) (fun a s => { s with namespaceName := some a }) string,
    field "name" (·.name) (fun a s => { s with name := some a }) string,
    field "apiVersion" (·.apiVersion) (fun a s => { s with apiVersion := some a }) string]
  finish s :=
    match s.name with
    | none => .error "name"
    | some name =>
      .ok ⟨s.kind.getD "", s.namespaceName.getD "", name, s.apiVersion.getD ""⟩

def decode : Decoder NotificationRef :=
  record.decode

def encode (r : NotificationRef) : Json :=
  .object [("kind", .string r.kind), ("namespace", .string r.namespaceName),
    ("name", .string r.name), ("apiVersion", .string r.apiVersion)]

/-- The Secret as namespace and name. -/
def path (r : NotificationRef) : String :=
  r.namespaceName ++ "/" ++ r.name

end NotificationRef

structure Notification where
  name : String
  type : NotificationType
  ref? : Option NotificationRef := none
deriving DecidableEq, Repr

namespace Notification

structure Draft where
  name : Option String := none
  type : Option NotificationType := none
  ref? : Option (Option NotificationRef) := none

open Decode in
def record : Record Draft Notification where
  name := "Notification"
  draft := {}
  fields := [
    field "name" (·.name) (fun a s => { s with name := some a }) string,
    field "type" (·.type) (fun a s => { s with type := some a }) NotificationType.decode,
    field "notificationRef" (·.ref?) (fun a s => { s with ref? := some a })
      (optional NotificationRef.decode)]
  finish s :=
    match s.name, s.type with
    | none, _ => .error "name"
    | _, none => .error "type"
    | some name, some type => .ok ⟨name, type, s.ref?.getD none⟩

def decode : Decoder Notification :=
  record.decode

def encode (n : Notification) : Json :=
  .object ([("name", .string n.name), ("type", n.type.encode)]
    ++ Json.member? "notificationRef" NotificationRef.encode n.ref?)

/-- How logs and errors name a notification. -/
def logTag (n : Notification) : String :=
  n.type.name ++ ":" ++ n.name

end Notification

end CleanupCourier
