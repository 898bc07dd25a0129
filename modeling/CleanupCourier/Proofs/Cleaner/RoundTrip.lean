import CleanupCourier.Cleaner.Basic
import CleanupCourier.Proofs.Json.Fields
import CleanupCourier.Proofs.Json.Values
import CleanupCourier.Proofs.Report.Payload

/-!
Which Cleaners come back from their encoding. A type that is kept as unknown under a known name is
written as that name, and read as the known type; nothing else is lost. No text is read as such a
type, so what was read once is written in a form that stays as it is.
-/
namespace CleanupCourier

open Decode

namespace NotificationType

/-- Holds of a type that is kept as unknown although its name is known. -/
def Masks (t : NotificationType) : Prop :=
  ∃ s ∈ known.map name, t = .unsupported s

/-- A type is told by its name, unless it is kept as unknown although its name is known. -/
theorem ofName_name_iff (t : NotificationType) : ofName t.name = t ↔ ¬ t.Masks := by
  constructor
  · rintro same ⟨s, listed, rfl⟩
    obtain ⟨t, mem, rfl⟩ := List.mem_map.mp listed
    have known : t = .unsupported t.name := (ofName_name_of_mem_known t mem).symm.trans same
    rw [known] at mem
    simp [NotificationType.known] at mem
  · intro unmasked
    cases t with
    | unsupported s => exact ofName_of_unknown fun listed => unmasked ⟨s, listed, rfl⟩
    | _ => exact ofName_name_of_mem_known _ (by decide)

example : ofName (name (.unsupported "Slack")) = .slack := rfl

theorem not_masks_ofName (s : String) : ¬ (ofName s).Masks :=
  (ofName_name_iff _).mp (congrArg ofName (name_ofName s))

theorem yields : decode.Yields (¬ ·.Masks) := by
  intro origin j t decoded
  unfold decode at decoded
  cases text : Decode.string origin j with
  | error error => simp only [text] at decoded; exact nomatch decoded
  | ok s =>
    simp only [text] at decoded
    cases decoded
    exact not_masks_ofName s

end NotificationType

namespace NotificationRef

theorem undoes : decode.Undoes encode := by
  intro origin r
  simp [decode, record, encode, Record.decode, Record.ofMembers, Record.readMember, field,
    Decode.string, bind, Except.bind, pure, Except.pure]

theorem writable (r : NotificationRef) : r.encode.Writable :=
  ⟨trivial, trivial, trivial, trivial, trivial⟩

end NotificationRef

namespace Notification

/-- The notification as it is read after it was written. -/
def resolved (n : Notification) : Notification :=
  { n with type := .ofName n.type.name }

theorem resolved_eq_iff {n : Notification} : n.resolved = n ↔ ¬ n.type.Masks := by
  rw [← NotificationType.ofName_name_iff]
  constructor
  · exact congrArg type
  · intro same
    rw [resolved, same]

theorem decode_encode (origin : Origin) (n : Notification) :
    decode origin n.encode = .ok n.resolved := by
  obtain ⟨name, type, ref⟩ := n
  cases ref with
  | none =>
    simp [decode, record, encode, resolved, Json.member?, NotificationType.encode,
      NotificationType.decode, Record.decode, Record.ofMembers, Record.readMember, field,
      Decode.string, Except.map, bind, Except.bind, pure, Except.pure]
  | some ref =>
    have present : ref.encode ≠ .null := Json.noConfusion
    have back : optional NotificationRef.decode origin ref.encode = .ok (some ref) := by
      rw [optional_of_ne_null present, NotificationRef.undoes, Except.map]
    simp [decode, record, encode, resolved, back, Json.member?, NotificationType.encode,
      NotificationType.decode, Record.decode, Record.ofMembers, Record.readMember, field,
      Decode.string, Except.map, bind, Except.bind, pure, Except.pure]

theorem writable (n : Notification) : n.encode.Writable := by
  obtain ⟨name, type, ref⟩ := n
  cases ref with
  | none => exact ⟨trivial, trivial, trivial⟩
  | some ref => exact ⟨trivial, trivial, ref.writable, trivial⟩

theorem yields : decode.Yields (¬ ·.type.Masks) := by
  refine Record.yields (I := fun d => ∀ t ∈ d.type, ¬ t.Masks) ?_ ?_ ?_
  · intro t unset
    cases unset
  · simp only [record, List.forall_mem_cons, List.not_mem_nil, false_implies, implies_true,
      and_true]
    refine ⟨maintains_field_of_apart fun _ _ holds => holds,
      maintains_field NotificationType.yields ?_, maintains_field_of_apart fun _ _ holds => holds⟩
    rintro t _ unmasked - _ ⟨⟩
    exact unmasked
  · rintro ⟨_ | name, _ | type, ref⟩ n holds finished
    all_goals cases finished
    exact holds type rfl

end Notification

namespace CleanerSpec

/-- The content as it is read after it was written. -/
def resolved (c : CleanerSpec) : CleanerSpec :=
  { c with notifications := c.notifications.map Notification.resolved }

theorem resolved_eq_iff {c : CleanerSpec} :
    c.resolved = c ↔ ∀ n ∈ c.notifications, ¬ n.type.Masks := by
  have each : c.notifications.map Notification.resolved = c.notifications ↔
      ∀ n ∈ c.notifications, ¬ n.type.Masks := by
    simp only [← Notification.resolved_eq_iff]
    simpa using List.map_eq_map_iff (l := c.notifications) (f := Notification.resolved) (g := id)
  rw [← each]
  constructor
  · exact congrArg notifications
  · intro same
    rw [resolved, same]

theorem decode_encode (origin : Origin) (c : CleanerSpec) :
    decode origin c.encode = .ok c.resolved := by
  have action := Action.undoes origin c.action
  have notifications : list Notification.decode origin
      (Json.ofList Notification.encode c.notifications) = .ok c.resolved.notifications :=
    list_ofList fun n _ => n.decode_encode origin
  simp [decode, record, encode, action, notifications, resolved, Record.decode, Record.ofMembers,
    Record.readMember, field, Decode.string, bind, Except.bind, pure, Except.pure]

theorem writable (c : CleanerSpec) : c.encode.Writable :=
  ⟨trivial, trivial, Json.writable_ofList fun n _ => n.writable, trivial⟩

theorem yields : decode.Yields fun c => ∀ n ∈ c.notifications, ¬ n.type.Masks := by
  refine Record.yields (I := fun d => ∀ l ∈ d.notifications, ∀ n ∈ l, ¬ n.type.Masks) ?_ ?_ ?_
  · intro l unset
    cases unset
  · simp only [record, List.forall_mem_cons, List.not_mem_nil, false_implies, implies_true,
      and_true]
    refine ⟨maintains_field_of_apart fun _ _ holds => holds,
      maintains_field_of_apart fun _ _ holds => holds,
      maintains_field (yields_list Notification.yields) ?_⟩
    rintro l _ unmasked - _ ⟨⟩
    exact unmasked
  · rintro ⟨_ | schedule, action, _ | notifications⟩ c holds finished
    all_goals cases finished
    · exact fun _ mem => absurd mem List.not_mem_nil
    · exact holds notifications rfl

/-- A Cleaner comes back from its encoding, and from the text of it, just if no notification has a
type that is kept as unknown although its name is known. Whatever is read satisfies this. So what is
read, be it a Cleaner, a notification or a reference, is written as a text that is read as the same
value, and reading and writing that text does not change it any more. -/
theorem round_trip_iff :
    (∀ (c : CleanerSpec) (origin : Origin),
      (decode origin c.encode = .ok c ↔ ∀ n ∈ c.notifications, ¬ n.type.Masks) ∧
        (text decode c.encode.render = .ok c ↔ ∀ n ∈ c.notifications, ¬ n.type.Masks)) ∧
      (∀ t c, text decode t = .ok c → ∀ n ∈ c.notifications, ¬ n.type.Masks) ∧
      decode.Settles encode ∧ Notification.decode.Settles Notification.encode ∧
      NotificationRef.decode.Settles NotificationRef.encode := by
  have back (c : CleanerSpec) (origin : Origin) :
      decode origin c.encode = .ok c ↔ ∀ n ∈ c.notifications, ¬ n.type.Masks := by
    rw [decode_encode, Except.ok.injEq, resolved_eq_iff]
  refine ⟨fun c origin => ⟨back c origin, ?_⟩, ?_, ?_, ?_, ?_⟩
  · rw [text_render_of_writable c.writable, back]
  · intro t c read
    obtain ⟨j, -, decoded⟩ := text_eq_ok_iff.mp read
    exact yields .stream j c decoded
  · exact settles (fun j c decoded => (back c .stream).mpr (yields .stream j c decoded)) writable
  · refine settles (fun j n decoded => ?_) Notification.writable
    rw [Notification.decode_encode,
      Notification.resolved_eq_iff.mpr (Notification.yields .stream j n decoded)]
  · exact settles (fun _ r _ => NotificationRef.undoes .stream r) NotificationRef.writable

/-- A document with an unknown type, an unknown member and its members in another order. -/
theorem round_trip_iff_pager :
    let reference := Json.object [("name", .string "pager"), ("uid", .null)]
    let entry := Json.object [("type", .string "Pager"), ("notificationRef", reference),
      ("name", .string "page")]
    let document := Json.object [("notifications", .array [entry]), ("dryRun", .bool true),
      ("schedule", .string "0 3 * * *")]
    let page : Notification := ⟨"page", .unsupported "Pager", some { name := "pager" }⟩
    let nightly : CleanerSpec := ⟨"0 3 * * *", .delete, [page]⟩
    text decode document.render = .ok nightly ∧ (¬ page.type.Masks) ∧
      text decode nightly.encode.render = .ok nightly ∧
      text Notification.decode entry.render = .ok page ∧
      text Notification.decode page.encode.render = .ok page ∧
      text NotificationRef.decode reference.render = .ok { name := "pager" } ∧
      text NotificationRef.decode (NotificationRef.encode { name := "pager" }).render =
        .ok { name := "pager" } := by
  intro reference entry document page nightly
  have writtenRef : reference.Writable := ⟨trivial, trivial, trivial⟩
  have writtenEntry : entry.Writable := ⟨trivial, writtenRef, trivial, trivial⟩
  have written : document.Writable := ⟨⟨writtenEntry, trivial⟩, trivial, trivial, trivial⟩
  have readRef : text NotificationRef.decode reference.render = .ok { name := "pager" } :=
    (text_render_of_writable writtenRef _).mpr rfl
  have readEntry : text Notification.decode entry.render = .ok page :=
    (text_render_of_writable writtenEntry _).mpr rfl
  have read : text decode document.render = .ok nightly :=
    (text_render_of_writable written _).mpr rfl
  obtain ⟨-, unmasked, settles, settlesEntry, settlesRef⟩ := round_trip_iff
  exact ⟨read, unmasked _ _ read page List.mem_cons_self, (settles _ _ read).1, readEntry,
    (settlesEntry _ _ readEntry).1, readRef, (settlesRef _ _ readRef).1⟩

end CleanerSpec

end CleanupCourier
