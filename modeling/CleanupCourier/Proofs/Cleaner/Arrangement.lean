import CleanupCourier.Proofs.Json.Layout
import CleanupCourier.Report.Basic

/-!
Cleaners and Reports do not depend on how their documents are arranged. The fields of each record
are separate, and where another record stands is a matter of the types of the fields. So members
may be reordered, and members of others put among them, wherever a record stands.
-/
namespace CleanupCourier

open Decode

namespace NotificationRef

def layout : Layout :=
  .record [("kind", .plain), ("namespace", .plain), ("name", .plain), ("apiVersion", .plain)]

theorem separate : record.IsSeparate :=
  Record.isSeparate_of_stores (fun s => (s.kind, s.namespaceName, s.name, s.apiVersion, ()))
    (fun (kind, namespaceName, name, apiVersion, _) => ⟨kind, namespaceName, name, apiVersion⟩)
    (.cons (.cons (.cons (.cons .nil)))) (fun _ => rfl) (by decide)

theorem hasLayout : decode.HasLayout layout :=
  Record.hasLayout {
    separate := separate
    fields := .cons (hasLayout_field (hasLayout_plain _)) <|
      .cons (hasLayout_field (hasLayout_plain _)) <|
      .cons (hasLayout_field (hasLayout_plain _)) <|
      .cons (hasLayout_field (hasLayout_plain _)) .nil }

end NotificationRef

namespace Notification

def layout : Layout :=
  .record [("name", .plain), ("type", .plain), ("notificationRef", NotificationRef.layout)]

theorem separate : record.IsSeparate :=
  Record.isSeparate_of_stores (fun s => (s.name, s.type, s.ref?, ()))
    (fun (name, type, ref, _) => ⟨name, type, ref⟩)
    (.cons (.cons (.cons .nil))) (fun _ => rfl) (by decide)

theorem hasLayout : decode.HasLayout layout :=
  Record.hasLayout {
    separate := separate
    fields := .cons (hasLayout_field (hasLayout_plain _)) <|
      .cons (hasLayout_field (hasLayout_plain _)) <|
      .cons (hasLayout_field (hasLayout_optional NotificationRef.hasLayout)) .nil }

end Notification

namespace CleanerSpec

def layout : Layout :=
  .record [("schedule", .plain), ("action", .plain), ("notifications", .list Notification.layout)]

theorem separate : record.IsSeparate :=
  Record.isSeparate_of_stores (fun s => (s.schedule, s.action, s.notifications, ()))
    (fun (schedule, action, notifications, _) => ⟨schedule, action, notifications⟩)
    (.cons (.cons (.cons .nil))) (fun _ => rfl) (by decide)

theorem hasLayout : decode.HasLayout layout :=
  Record.hasLayout {
    separate := separate
    fields := .cons (hasLayout_field (hasLayout_plain _)) <|
      .cons (hasLayout_field (hasLayout_plain _)) <|
      .cons (hasLayout_field (hasLayout_list Notification.hasLayout)) .nil }

end CleanerSpec

namespace ResourceRef

def layout : Layout :=
  .record [("namespace", .plain), ("name", .plain), ("kind", .plain), ("apiVersion", .plain)]

theorem separate : record.IsSeparate :=
  Record.isSeparate_of_stores (fun s => (s.namespaceName, s.name, s.kind, s.apiVersion, ()))
    (fun (namespaceName, name, kind, apiVersion, _) => ⟨namespaceName, name, kind, apiVersion⟩)
    (.cons (.cons (.cons (.cons .nil)))) (fun _ => rfl) (by decide)

theorem hasLayout : decode.HasLayout layout :=
  Record.hasLayout {
    separate := separate
    fields := .cons (hasLayout_field (hasLayout_plain _)) <|
      .cons (hasLayout_field (hasLayout_plain _)) <|
      .cons (hasLayout_field (hasLayout_plain _)) <|
      .cons (hasLayout_field (hasLayout_plain _)) .nil }

end ResourceRef

namespace ResourceInfo

def layout : Layout :=
  .record [("resource", ResourceRef.layout), ("message", .plain)]

theorem separate : record.IsSeparate :=
  Record.isSeparate_of_stores (fun s => (s.resource, s.message, ()))
    (fun (resource, message, _) => ⟨resource, message⟩)
    (.cons (.cons .nil)) (fun _ => rfl) (by decide)

theorem hasLayout : decode.HasLayout layout :=
  Record.hasLayout {
    separate := separate
    fields := .cons (hasLayout_field ResourceRef.hasLayout) <|
      .cons (hasLayout_field (hasLayout_plain _)) .nil }

end ResourceInfo

namespace ReportSpec

def layout : Layout :=
  .record [("action", .plain), ("resources", .list ResourceInfo.layout)]

theorem separate : record.IsSeparate :=
  Record.isSeparate_of_stores (fun s => (s.action, s.resources, ()))
    (fun (action, resources, _) => ⟨action, resources⟩)
    (.cons (.cons .nil)) (fun _ => rfl) (by decide)

theorem hasLayout : decode.HasLayout layout :=
  Record.hasLayout {
    separate := separate
    fields := .cons (hasLayout_field (hasLayout_plain _)) <|
      .cons (hasLayout_field (hasLayout_list ResourceInfo.hasLayout)) .nil }

end ReportSpec

/-- However the objects of a document for a Cleaner or a Report are arranged, at any depth, and
whatever else is among their members, it is decoded to the same value; and it is refused if any of
them has a field twice. Whatever text a value has, it may be that of another member. -/
theorem arrangement_ignored :
    CleanerSpec.decode.IgnoresArrangement CleanerSpec.layout ∧
      ReportSpec.decode.IgnoresArrangement ReportSpec.layout ∧
      Notification.decode.IgnoresArrangement Notification.layout ∧
      NotificationRef.decode.IgnoresArrangement NotificationRef.layout ∧
      ResourceInfo.decode.IgnoresArrangement ResourceInfo.layout ∧
      ResourceRef.decode.IgnoresArrangement ResourceRef.layout ∧
      ∀ fuel s j rest, Json.value fuel s = (j, some rest) → j.IsWhole :=
  ⟨ignoresArrangement CleanerSpec.hasLayout, ignoresArrangement ReportSpec.hasLayout,
    ignoresArrangement Notification.hasLayout, ignoresArrangement NotificationRef.hasLayout,
    ignoresArrangement ResourceInfo.hasLayout, ignoresArrangement ResourceRef.hasLayout,
    fun fuel _ _ _ => (Json.readsWhole fuel).value⟩

/-- A Cleaner whose reference has a label, which has a key twice, and whose members are in another
order; and one whose reference has two names. -/
theorem arrangement_ignored_labelled :
    let name := ("name", Json.string "page")
    let type := ("type", Json.string "Slack")
    let schedule := ("schedule", Json.string "0 3 * * *")
    let secret := ("name", Json.string "pager")
    let label := ("labels", Json.array [.object [("a", .null), ("a", .bool true)]])
    let reference (members : List (String × Json)) := ("notificationRef", Json.object members)
    let entries (members : List (String × Json)) := ("notifications", Json.array [.object members])
    let document := Json.object [schedule, entries [name, type, reference [secret]]]
    let rearranged := Json.object [entries [reference [label, secret], name, type], schedule]
    let repeated := Json.object [schedule, entries [name, type, reference [secret, label, secret]]]
    let nightly : CleanerSpec :=
      ⟨"0 3 * * *", .delete, [⟨"page", .slack, some { name := "pager" }⟩]⟩
    CleanerSpec.layout.Rearranged document rearranged ∧ CleanerSpec.layout.Repeats repeated ∧
      CleanerSpec.decode .stream document = .ok nightly ∧
      CleanerSpec.decode .stream rearranged = .ok nightly ∧
      text CleanerSpec.decode document.render = .ok nightly ∧
      text CleanerSpec.decode rearranged.render = .ok nightly ∧
      ∀ c, text CleanerSpec.decode repeated.render ≠ .ok c := by
  intro name type schedule secret label reference entries document rearranged repeated nightly
  obtain ⟨ignores, -, -, -, -, -, whole⟩ := arrangement_ignored
  have ofCleaner : CleanerSpec.layout.Place ["schedule", "action", "notifications"] .object :=
    .here _
  have entriesListed : List.lookup "notifications" [("schedule", Layout.plain), ("action", .plain),
      ("notifications", .list Notification.layout)] = some (.list Notification.layout) := rfl
  have referenceListed : List.lookup "notificationRef" [("name", Layout.plain), ("type", .plain),
      ("notificationRef", NotificationRef.layout)] = some NotificationRef.layout := rfl
  have ofEntry (before after : List (String × Json)) :
      CleanerSpec.layout.Place ["name", "type", "notificationRef"] fun members =>
        .object (before ++ entries members :: after) :=
    .member entriesListed (.item (.here _) [] []) before after
  have ofReference (before after : List (String × Json)) :
      CleanerSpec.layout.Place ["kind", "namespace", "name", "apiVersion"] fun members =>
        .object [schedule, entries (before ++ reference members :: after)] :=
    .member entriesListed (.item (.member referenceListed (.here _) before after) [] [])
      [schedule] []
  have written : label.2.Writable := ⟨⟨trivial, trivial, trivial⟩, trivial⟩
  have whole : label.2.IsWhole :=
    whole _ _ _ _ (Json.value_chars label.2 _ [] written nofun (Nat.le_refl _))
  have labelled : CleanerSpec.layout.Edit document
      (.object [schedule, entries [name, type, reference [label, secret]]]) :=
    .insert (ofReference [name, type] []) [] [secret] (by decide) whole
  have moved : CleanerSpec.layout.Edit
      (.object [schedule, entries [name, type, reference [label, secret]]])
      (.object [schedule, entries [reference [label, secret], name, type]]) :=
    .reorder (ofEntry [schedule] []) (show ([name, type] ++ [reference [label, secret]]).Perm
      ([reference [label, secret]] ++ [name, type]) from List.perm_append_comm)
  have turned : CleanerSpec.layout.Edit
      (.object [schedule, entries [reference [label, secret], name, type]]) rearranged :=
    .reorder ofCleaner (.swap _ _ _)
  have changed : CleanerSpec.layout.Rearranged document rearranged :=
    .tail (.tail (.single labelled) moved) turned
  have twice : CleanerSpec.layout.Repeats repeated :=
    .twice (ofReference [name, type] []) (by decide) [] [label] [] secret.2 secret.2
  have decoded : CleanerSpec.decode .stream document = .ok nightly := rfl
  have writtenReference : (Json.object [label, secret]).Writable := ⟨written, trivial, trivial⟩
  have read : Json.read document.render.toList = ⟨document, false⟩ :=
    Json.read_render ⟨trivial, ⟨⟨trivial, trivial, ⟨trivial, trivial⟩, trivial⟩, trivial⟩, trivial⟩
  have readRearranged : Json.read rearranged.render.toList = ⟨rearranged, false⟩ :=
    Json.read_render ⟨⟨⟨writtenReference, trivial, trivial, trivial⟩, trivial⟩, trivial, trivial⟩
  have readRepeated : Json.read repeated.render.toList = ⟨repeated, false⟩ := by
    refine Json.read_render ⟨trivial, ⟨⟨trivial, trivial, ?_, trivial⟩, trivial⟩, trivial⟩
    exact ⟨trivial, writtenReference⟩
  have text : Decode.text CleanerSpec.decode document.render = .ok nightly :=
    Decode.text_eq_ok_iff.mpr ⟨document, read, decoded⟩
  exact ⟨changed, twice, decoded, (ignores.rearranged _ _ changed _ _).mp decoded, text,
    (ignores.rearranged_text _ _ _ _ _ read readRearranged changed _).mp text,
    ignores.repeats_text _ _ _ readRepeated twice⟩

end CleanupCourier
