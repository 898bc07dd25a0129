import CleanupCourier.Proofs.Cleaner.Arrangement
import CleanupCourier.Proofs.Definition.Document
import CleanupCourier.Proofs.Definition.Reading
import CleanupCourier.Proofs.Report.Payload

/-!
The published definitions and the decoders agree. What is valid against the schema that a cluster is
given is read, and what is written is valid against it. So a cluster keeps no Cleaner that cannot be
read, and takes every Report that is written.
-/
namespace CleanupCourier

open Decode Schema

/-! What fits is read: each record follows its schema. -/

theorem NotificationRef.readBy : notificationRef.ReadBy decode := by
  refine readBy_record { unset := ?_, marks := separate.marks, reads := ?_, finishes := ?_ }
  all_goals simp only [record, List.forall_mem_cons, List.not_mem_nil, false_implies, implies_true,
    and_true]
  · exact ⟨rfl, rfl, rfl, rfl⟩
  · and_intros
    all_goals exact reads_field rfl (readBy_string _ _)
  · intro s h
    have named : s.name.isSome := h.2.2.1 (.head _)
    obtain ⟨name, found⟩ := Option.isSome_iff_exists.mp named
    rw [found]
    exact ⟨_, rfl⟩

theorem NotificationType.readBy : notificationType.ReadBy decode := by
  intro j _ fits origin
  obtain ⟨s, rfl, -⟩ := exists_of_accepts_text fits
  exact ⟨ofName s, rfl⟩

theorem Notification.readBy : notification.ReadBy decode := by
  refine readBy_record { unset := ?_, marks := separate.marks, reads := ?_, finishes := ?_ }
  all_goals simp only [record, List.forall_mem_cons, List.not_mem_nil, false_implies, implies_true,
    and_true]
  · exact ⟨rfl, rfl, rfl⟩
  · exact ⟨reads_field rfl (readBy_string _ _), reads_field rfl NotificationType.readBy,
      reads_field rfl (readBy_nullable NotificationRef.readBy)⟩
  · intro s h
    have named : s.name.isSome := h.1 (.head _)
    have typed : s.type.isSome := h.2.1 (.tail _ (.head _))
    obtain ⟨name, found⟩ := Option.isSome_iff_exists.mp named
    obtain ⟨type, found'⟩ := Option.isSome_iff_exists.mp typed
    rw [found, found']
    exact ⟨_, rfl⟩

theorem Action.readBy (description : String) : (action description).ReadBy Action.decode := by
  intro j _ fits origin
  obtain ⟨s, rfl, none | known⟩ := exists_of_accepts_text fits
  · exact nomatch none
  · obtain ⟨a, -, rfl⟩ := List.mem_map.mp known
    exact ⟨a, Action.undoes origin a⟩

theorem CleanerSpec.readBy : cleanerSpec.ReadBy decode := by
  refine readBy_record { unset := ?_, marks := separate.marks, reads := ?_, finishes := ?_ }
  all_goals simp only [record, List.forall_mem_cons, List.not_mem_nil, false_implies, implies_true,
    and_true]
  · exact ⟨rfl, rfl, rfl⟩
  · exact ⟨reads_field rfl (readBy_string _ _), reads_field rfl (Action.readBy _),
      reads_field rfl (readBy_list _ Notification.readBy)⟩
  · intro s h
    have scheduled : s.schedule.isSome := h.1 (.head _)
    obtain ⟨schedule, found⟩ := Option.isSome_iff_exists.mp scheduled
    rw [found]
    exact ⟨_, rfl⟩

theorem ResourceRef.readBy : resourceRef.ReadBy decode := by
  refine readBy_record { unset := ?_, marks := separate.marks, reads := ?_, finishes := ?_ }
  all_goals simp only [record, List.forall_mem_cons, List.not_mem_nil, false_implies, implies_true,
    and_true]
  · exact ⟨rfl, rfl, rfl, rfl⟩
  · and_intros
    all_goals exact reads_field rfl (readBy_string _ _)
  · intro s h
    have named : s.name.isSome := h.2.1 (.tail _ (.tail _ (.head _)))
    have ofKind : s.kind.isSome := h.2.2.1 (.tail _ (.head _))
    have ofVersion : s.apiVersion.isSome := h.2.2.2 (.head _)
    obtain ⟨name, found⟩ := Option.isSome_iff_exists.mp named
    obtain ⟨kind, found'⟩ := Option.isSome_iff_exists.mp ofKind
    obtain ⟨apiVersion, found''⟩ := Option.isSome_iff_exists.mp ofVersion
    rw [found, found', found'']
    exact ⟨_, rfl⟩

theorem ResourceInfo.readBy : resourceInfo.ReadBy decode := by
  refine readBy_record { unset := ?_, marks := separate.marks, reads := ?_, finishes := ?_ }
  all_goals simp only [record, List.forall_mem_cons, List.not_mem_nil, false_implies, implies_true,
    and_true]
  · exact ⟨rfl, rfl⟩
  · exact ⟨reads_field rfl ResourceRef.readBy, reads_field rfl (readBy_string _ _)⟩
  · intro s h
    have there : s.resource.isSome := h.1 (.head _)
    obtain ⟨resource, found⟩ := Option.isSome_iff_exists.mp there
    rw [found]
    exact ⟨_, rfl⟩

theorem ReportSpec.readBy : reportSpec.ReadBy decode := by
  refine readBy_record { unset := ?_, marks := separate.marks, reads := ?_, finishes := ?_ }
  all_goals simp only [record, List.forall_mem_cons, List.not_mem_nil, false_implies, implies_true,
    and_true]
  · exact ⟨rfl, rfl⟩
  · exact ⟨reads_field rfl (Action.readBy _), reads_field rfl (readBy_list _ ResourceInfo.readBy)⟩
  · exact fun s _ => ⟨_, rfl⟩

/-! What is written fits. -/

theorem accepts_action (description : String) (a : Action) :
    (action description).accepts a.encode := by
  cases a <;> rfl

theorem accepts_list {α : Type} {encode : α → Json} (note : SchemaNote) {schema : Schema}
    {l : List α} (h : ∀ a ∈ l, schema.accepts (encode a)) :
    (list note schema).accepts (Json.ofList encode l) := by
  simpa [accepts, Json.ofList] using h

theorem accepts_resourceRef (r : ResourceRef) : resourceRef.accepts r.encode := by
  by_cases global : r.namespaceName = "" <;>
    simp [resourceRef, accepts, acceptMembers, ResourceRef.encode, global, plainText, described]

theorem accepts_resourceInfo (i : ResourceInfo) : resourceInfo.accepts i.encode := by
  simp [resourceInfo, accepts, acceptMembers, ResourceInfo.encode, accepts_resourceRef]

theorem accepts_reportSpec (r : ReportSpec) : reportSpec.accepts r.encode := by
  have resources (note : SchemaNote) :=
    accepts_list note fun i (_ : i ∈ r.resources) => accepts_resourceInfo i
  simp [reportSpec, accepts, acceptMembers, ReportSpec.encode, accepts_action, resources]

theorem accepts_notificationRef (r : NotificationRef) : notificationRef.accepts r.encode := by
  simp [notificationRef, accepts, acceptMembers, NotificationRef.encode, plainText, textOrEmpty]

/-- The types that are offered are those that are known by their names. -/
theorem mem_offered_iff {s : String} :
    s ∈ NotificationType.known.map NotificationType.name ↔
      ∀ name, NotificationType.ofName s ≠ .unsupported name := by
  constructor
  · intro offered name unknown
    obtain ⟨t, known, rfl⟩ := List.mem_map.mp offered
    rw [NotificationType.ofName_name_of_mem_known t known] at unknown
    subst unknown
    simp [NotificationType.known] at known
  · intro known
    have mem : NotificationType.ofName s ∈ NotificationType.known := by
      cases type : NotificationType.ofName s with
      | unsupported name => exact absurd type (known name)
      | _ => simp [NotificationType.known]
    exact List.mem_map.mpr ⟨_, mem, NotificationType.name_ofName s⟩

theorem accepts_notificationType {t : NotificationType} (known : ∀ name, t ≠ .unsupported name) :
    notificationType.accepts t.encode := by
  cases t with
  | unsupported name => exact absurd rfl (known name)
  | _ => rfl

theorem accepts_notification {n : Notification} (known : ∀ name, n.type ≠ .unsupported name) :
    notification.accepts n.encode := by
  have type := accepts_notificationType known
  cases found : n.ref? with
  | none =>
    simp [notification, accepts, acceptMembers, Notification.encode, found, type, Json.member?,
      described]
  | some r =>
    simpa [notification, accepts, acceptMembers, Notification.encode, found, type, Json.member?,
      described, NotificationRef.encode] using accepts_notificationRef r

theorem accepts_cleanerSpec {c : CleanerSpec}
    (known : ∀ n ∈ c.notifications, ∀ name, n.type ≠ .unsupported name) :
    cleanerSpec.accepts c.encode := by
  have notifications (note : SchemaNote) :=
    accepts_list note fun n mem => accepts_notification (known n mem)
  simp [cleanerSpec, accepts, acceptMembers, CleanerSpec.encode, accepts_action, notifications,
    described]

namespace ResourceDefinition

/-- A value is valid against the schema that a definition publishes for the content of objects. -/
def Admits (d : ResourceDefinition) (j : Json) : Prop :=
  ∃ schema, specSchema? d.encode = some schema ∧ schema.admits j

/-- A definition describes what is read and written: a value that is valid against it is read, and
what is written of a value that `offered` holds of is valid against it. -/
structure Describes {α : Type} (d : ResourceDefinition) (decode : Decoder α) (encode : α → Json)
    (offered : α → Prop) : Prop where
  read : ∀ j, j.IsValue → d.Admits j → ∀ origin, ∃ a, decode origin j = .ok a
  written : ∀ a, offered a → d.Admits (encode a)

variable {d : ResourceDefinition}

theorem admits_iff (proper : d.spec.isProper) {j : Json} : d.Admits j ↔ d.spec.accepts j := by
  simp only [Admits, specSchema?_encode proper, Option.some.injEq, exists_eq_left',
    Schema.admits_encode proper]

theorem describes {α : Type} {decode : Decoder α} {encode : α → Json} {offered : α → Prop}
    (proper : d.spec.isProper) (reads : d.spec.ReadBy decode)
    (writes : ∀ a, offered a → d.spec.accepts (encode a)) :
    d.Describes decode encode offered where
  read j value admits := reads j value ((admits_iff proper).mp admits)
  written a h := (admits_iff proper).mpr (writes a h)

end ResourceDefinition

/-- The texts that the definition of Cleaners lists as types of notifications. -/
def offeredTypes? : Option Json :=
  (ResourceDefinition.specSchema? ResourceDefinition.cleaner.encode).bind
    (·.at? ["properties", "notifications", "items", "properties", "type", "enum"])

theorem offeredTypes?_eq : offeredTypes? =
    some (Json.ofList .string (NotificationType.known.map NotificationType.name)) := by
  have proper : cleanerSpec.isProper := rfl
  have enum : ("enum", Json.ofList .string (NotificationType.known.map NotificationType.name)) ∈
      notificationType.members := .tail _ (.head _)
  rw [offeredTypes?, ResourceDefinition.specSchema?_encode proper, Option.bind_some]
  calc
    _ = _ := at?_property proper (.tail _ (.head _)) ["items", "properties", "type", "enum"]
    _ = notification.encode.at? ["properties", "type", "enum"] :=
      at?_encode rfl (.tail _ (.tail _ (.head _))) _
    _ = notificationType.encode.at? ["enum"] := at?_property rfl (.tail _ (.tail _ (.head _))) _
    _ = _ := at?_encode rfl enum []

/-- The definitions that are published describe what the decoders read and what is written: of
Cleaners, as long as the types of their notifications are known, and of all Reports. And a type is
offered exactly if it does not decode to an unsupported one. -/
theorem definitions_describe :
    ResourceDefinition.cleaner.Describes CleanerSpec.decode CleanerSpec.encode
        (fun c => ∀ n ∈ c.notifications, ∀ name, n.type ≠ .unsupported name) ∧
      ResourceDefinition.report.Describes ReportSpec.decode ReportSpec.encode (fun _ => True) ∧
      ∃ offered, offeredTypes? = some (.array offered) ∧
        ∀ s origin, .string s ∈ offered ↔
          ∀ name, NotificationType.decode origin (.string s) ≠ .ok (.unsupported name) := by
  refine ⟨?_, ?_, ?_⟩
  · exact ResourceDefinition.describes rfl CleanerSpec.readBy fun c => accepts_cleanerSpec
  · exact ResourceDefinition.describes rfl ReportSpec.readBy fun r _ => accepts_reportSpec r
  · refine ⟨_, offeredTypes?_eq, fun s origin => ?_⟩
    have listed : .string s ∈ (NotificationType.known.map NotificationType.name).map Json.string ↔
        s ∈ NotificationType.known.map NotificationType.name := by
      simp
    rw [listed, mem_offered_iff]
    simp [NotificationType.decode, Decode.string, Except.map]

/-- A Cleaner with a reference that is null and a member that no schema lists. -/
theorem definitions_describe_null :
    let j : Json := .object [("schedule", .string "0 * * * *"), ("notifications", .array [.object
      [("type", .string "Slack"), ("name", .string "team"), ("notificationRef", .null),
        ("channel", .string "alerts")]])]
    j.IsValue ∧ ResourceDefinition.cleaner.Admits j ∧
      ∃ c, CleanerSpec.decode .whole j = .ok c := by
  intro j
  have value : j.IsValue := by
    simp [j, Json.IsValue, Json.AreValues, Json.MembersAreValues]
  have admits : ResourceDefinition.cleaner.Admits j :=
    (ResourceDefinition.admits_iff rfl).mpr (by decide +kernel)
  exact ⟨value, admits, definitions_describe.1.read j value admits .whole⟩

end CleanupCourier
