import CleanupCourier.Network.Scripted
import CleanupCourier.Proofs.Dispatch.Pass
import CleanupCourier.Proofs.Json.Replacement
import CleanupCourier.Proofs.Work.Agreement

/-!
Types of notifications that are not known. Any text stands for a type, so a document with another
type in some place decodes as before, but for that one type. It takes effect only when the entry has
its turn: the entries before it are attempted as if they were all there are, and the run ends there.
-/
namespace CleanupCourier

namespace Notification

/-- The notification with another type. -/
def withType (n : Notification) (name : String) : Notification :=
  { n with type := .ofName name }

/-- Holds of notifications that differ in their types. -/
def Differ (s s' : String) (n n' : Notification) : Prop :=
  n.type = .ofName s ∧ n' = n.withType s'

/-- Holds of two documents for a notification that differ in the text for its type. -/
inductive Retyped (s s' : String) : Json → Json → Prop
  | object (before after : List (String × Json)) :
    Retyped s s' (.object (before ++ ("type", .string s) :: after))
      (.object (before ++ ("type", .string s') :: after))
  | array (name : Json) (rest : List Json) :
    Retyped s s' (.array (name :: .string s :: rest)) (.array (name :: .string s' :: rest))

/-- The field for the type. -/
def typeField : Decode.Field Draft :=
  Decode.field "type" (·.type) (fun a d => { d with type := some a }) NotificationType.decode

/-- Holds of drafts that differ in the type that was read. -/
def DraftsDiffer (s s' : String) (d d' : Draft) : Prop :=
  d.type = some (.ofName s) ∧ d' = { d with type := some (.ofName s') }

section Decode

variable {s s' : String} {j j' : Json}

theorem keeps_of_ne_type : ∀ f ∈ record.fields, f.key ≠ "type" → f.Keeps (DraftsDiffer s s') := by
  simp only [record, List.forall_mem_cons]
  refine ⟨fun _ => Decode.keeps_field ?_ ?_, fun same => absurd rfl same,
    fun _ => Decode.keeps_field ?_ ?_, fun _ mem => absurd mem List.not_mem_nil⟩
  · exact fun d d' differ => by rw [differ.2]
  · exact fun a d d' differ => ⟨differ.1, by rw [differ.2]⟩
  · exact fun d d' differ => by rw [differ.2]
  · exact fun a d d' differ => ⟨differ.1, by rw [differ.2]⟩

/-- A document with another text for the type decodes to the notification with another type. -/
theorem Retyped.matches_decode (h : Retyped s s' j j') (origin : Origin) :
    Matches (Differ s s') (decode origin j) (decode origin j') := by
  have read (d : Draft) : Matches (DraftsDiffer s s') (typeField.read origin (.string s) d)
      (typeField.read origin (.string s') d) :=
    .ok ⟨rfl, rfl⟩
  have finish (d d' : Draft) (differ : DraftsDiffer s s' d d') :
      Matches (Differ s s') (record.finish d) (record.finish d') := by
    obtain ⟨type, rfl⟩ := differ
    obtain ⟨name, _, ref⟩ := d
    subst type
    cases name with
    | none => exact .error _
    | some name => exact .ok ⟨rfl, rfl⟩
  cases h with
  | object before after =>
    refine Decode.Record.matches_decode_object (f := typeField) rfl keeps_of_ne_type ?_ before after
      read finish
    rintro d _ ⟨type, rfl⟩
    exact ⟨congrArg Option.isSome type, rfl⟩
  | array name rest =>
    have fields : record.fields = record.fields.take 1 ++ typeField :: record.fields.drop 2 := rfl
    have inPlace : [name].length = (record.fields.take 1).length := rfl
    refine Decode.Record.matches_decode_array fields (fun g mem => ?_) read inPlace rest finish
    obtain rfl := List.mem_singleton.mp mem
    exact keeps_of_ne_type _ (List.mem_of_mem_drop mem) (by decide)

end Decode

end Notification

namespace CleanerSpec

/-- Holds of two documents that differ in the text for the type of one notification. -/
inductive Retyped (i : Nat) (s s' : String) : Json → Json → Prop
  | object (before after : List (String × Json)) {items : List Json} {entry entry' : Json}
    (here : items[i]? = some entry) (retyped : Notification.Retyped s s' entry entry') :
    Retyped i s s' (.object (before ++ ("notifications", .array items) :: after))
      (.object (before ++ ("notifications", .array (items.set i entry')) :: after))
  | array (schedule action : Json) {items : List Json} (rest : List Json) {entry entry' : Json}
    (here : items[i]? = some entry) (retyped : Notification.Retyped s s' entry entry') :
    Retyped i s s' (.array (schedule :: action :: .array items :: rest))
      (.array (schedule :: action :: .array (items.set i entry') :: rest))

/-- Holds of contents of Cleaners that differ in the type of one notification. -/
def Differ (i : Nat) (s s' : String) (c c' : CleanerSpec) : Prop :=
  ∃ n, c.notifications[i]? = some n ∧ n.type = .ofName s ∧
    c' = { c with notifications := c.notifications.set i (n.withType s') }

/-- The field for the notifications. -/
def notificationsField : Decode.Field Draft :=
  Decode.field "notifications" (·.notifications) (fun a d => { d with notifications := some a })
    (Decode.list Notification.decode)

/-- Holds of drafts that differ in the notifications that were read. -/
def DraftsDiffer (i : Nat) (s s' : String) (d d' : Draft) : Prop :=
  ∃ ns ns', Decode.DifferAt (Notification.Differ s s') i ns ns' ∧ d.notifications = some ns ∧
    d' = { d with notifications := some ns' }

section Decode

variable {i : Nat} {s s' : String} {j j' : Json}

theorem keeps_of_ne_notifications : ∀ f ∈ record.fields, f.key ≠ "notifications" →
    f.Keeps (DraftsDiffer i s s') := by
  simp only [record, List.forall_mem_cons]
  refine ⟨fun _ => Decode.keeps_field ?_ ?_, fun _ => Decode.keeps_field ?_ ?_,
    fun same => absurd rfl same, fun _ mem => absurd mem List.not_mem_nil⟩
  · rintro d _ ⟨ns, ns', -, -, rfl⟩
    rfl
  · rintro a d _ ⟨ns, ns', differ, read, rfl⟩
    exact ⟨ns, ns', differ, read, rfl⟩
  · rintro d _ ⟨ns, ns', -, -, rfl⟩
    rfl
  · rintro a d _ ⟨ns, ns', differ, read, rfl⟩
    exact ⟨ns, ns', differ, read, rfl⟩

/-- A document with another text for the type of a notification decodes alike, but for that type. -/
theorem Retyped.matches_decode (h : Retyped i s s' j j') (origin : Origin) :
    Matches (Differ i s s') (decode origin j) (decode origin j') := by
  have read {items : List Json} {entry entry' : Json} (here : items[i]? = some entry)
      (retyped : Notification.Retyped s s' entry entry') (d : Draft) :
      Matches (DraftsDiffer i s s') (notificationsField.read origin (.array items) d)
        (notificationsField.read origin (.array (items.set i entry')) d) :=
    (Decode.matches_list here (retyped.matches_decode origin)).bind fun ns ns' differ =>
      .ok ⟨ns, ns', differ, rfl, rfl⟩
  have finish (d d' : Draft) (differ : DraftsDiffer i s s' d d') :
      Matches (Differ i s s') (record.finish d) (record.finish d') := by
    obtain ⟨ns, ns', ⟨n, n', here, ⟨type, rfl⟩, rfl⟩, notifications, rfl⟩ := differ
    obtain ⟨schedule, action, _⟩ := d
    subst notifications
    cases schedule with
    | none => exact .error _
    | some schedule => exact .ok ⟨n, here, type, rfl⟩
  cases h with
  | object before after here retyped =>
    refine Decode.Record.matches_decode_object (f := notificationsField) rfl
      keeps_of_ne_notifications ?_ before after (read here retyped) finish
    rintro d _ ⟨ns, ns', -, notifications, rfl⟩
    exact ⟨congrArg Option.isSome notifications, rfl⟩
  | array schedule action rest here retyped =>
    have fields : record.fields =
        record.fields.take 2 ++ notificationsField :: record.fields.drop 3 := rfl
    have inPlace : [schedule, action].length = (record.fields.take 2).length := rfl
    exact Decode.Record.matches_decode_array fields (fun _ mem => nomatch mem) (read here retyped)
      inPlace rest finish

end Decode

end CleanerSpec

/-- Where the new text is not a known type, it is kept as it came. -/
theorem CleanerSpec.unsupported_of_decode {i : Nat} {s s' : String} {j j' : Json}
    (retyped : Retyped i s s' j j') (unknown : s' ∉ NotificationType.known.map (·.name))
    {origin : Origin} {spec : CleanerSpec} (decoded : decode origin j' = .ok spec) :
    ∃ n, spec.notifications[i]? = some n ∧ n.type = .unsupported s' := by
  have matched := retyped.matches_decode origin
  rw [decoded] at matched
  generalize decode origin j = original at matched
  cases matched with
  | ok differ =>
    obtain ⟨n, here, -, rfl⟩ := differ
    refine ⟨n.withType s', ?_, NotificationType.ofName_of_unknown unknown⟩
    exact List.getElem?_set_self (List.getElem?_eq_some_iff.mp here).1

/-- What matches for values matches for the texts that are read as them. -/
theorem Decode.matches_text {α : Type} {V : α → α → Prop} {decode : Decoder α} {t t' : String}
    {d d' : Json.Document} (read : Json.read t.toList = d) (read' : Json.read t'.toList = d')
    (more : d.hasMore = d'.hasMore)
    (h : Matches V (decode .stream d.value) (decode .stream d'.value)) :
    Matches V (text decode t) (text decode t') := by
  unfold text document
  rw [read, read', more]
  refine h.bind fun a b related => ?_
  split
  · exact .error _
  · exact .ok related

namespace Run

/-- The run with its first entries only. -/
def cut (run : Run) (i : Nat) : Run :=
  { run with cleaner := { run.cleaner with spec := { run.cleaner.spec with
      notifications := run.cleaner.spec.notifications.take i } } }

theorem entries_cut (run : Run) (i : Nat) : (run.cut i).entries = run.entries.take i := rfl

end Run

namespace Dispatcher

variable {σ : Type} (dispatcher : Dispatcher σ) {run : Run} {kept : Option String}

/-- A pass over entries goes on with further ones where it would end with success. -/
theorem run_attemptAll_append (keeps : Keeps run.report kept) (before rest : List Notification)
    (spans : List Span) (w : World σ) :
    ∃ kept', Keeps run.report kept' ∧
      (dispatcher.attemptAll run.name run.report kept (before ++ rest)).run spans w =
        onward (fun _ v => (dispatcher.attemptAll run.name run.report kept' rest).run spans v)
          ((dispatcher.attemptAll run.name run.report kept before).run spans w) := by
  induction before generalizing kept w with
  | nil => exact ⟨kept, keeps, rfl⟩
  | cons n before ih =>
    obtain ⟨next, keepsNext, attempted⟩ := run_attempt dispatcher keeps n spans w
    rw [List.cons_append, attemptAll, attemptAll, Attempt.run_bind, Attempt.run_bind,
      ExceptT.run_mk, attempted]
    cases (dispatcher.outcome run spans w n).1 with
    | error error => exact ⟨kept, keeps, rfl⟩
    | ok done => exact ih keepsNext (dispatcher.after run spans w n)

/-- An entry of an unknown type ends a pass, whatever comes after it. -/
theorem run_attemptAll_unsupported (keeps : Keeps run.report kept) {n : Notification}
    {name : String} (type : n.type = .unsupported name) (later : List Notification)
    (spans : List Span) (w : World σ) :
    (dispatcher.attemptAll run.name run.report kept (n :: later)).run spans w =
      (.error (.unsupportedType (.unsupported name)),
        w.noting (note spans n (.error (.unsupportedType (.unsupported name))))) := by
  have outcome : dispatcher.outcome run spans w n =
      (.error (.unsupportedType (.unsupported name)), w) := by
    rw [Dispatcher.outcome, handler, type]
    rfl
  obtain ⟨next, -, attempted⟩ := run_attempt dispatcher keeps n spans w
  rw [attemptAll, Attempt.run_bind, ExceptT.run_mk, attempted, after, outcome]
  rfl

/-- What comes of the first entries of a run if they are all that there are. Of none nothing comes,
apart from the line that there are none. -/
def alone (run : Run) (spans : List Span) (w : World σ) :
    Nat → Except DeliveryError Unit × World σ
  | 0 => (.ok (), w)
  | i + 1 => (dispatcher.perform (run.cut (i + 1))).run spans w

theorem alone_eq {i : Nat} (bound : i < run.entries.length) (spans : List Span) (w : World σ) :
    dispatcher.alone run spans w i =
      (dispatcher.attemptAll run.name run.report none (run.entries.take i)).run spans w := by
  cases i with
  | zero => rfl
  | succ i =>
    have some : (run.cut (i + 1)).entries ≠ [] :=
      List.ne_nil_of_length_pos (by rw [Run.entries_cut, List.length_take]; omega)
    rw [alone, perform_of_ne_nil dispatcher some]
    rfl

/-- A run that comes to an entry of an unknown type ends there, with what came of the entries before
it alone. -/
theorem perform_of_unsupported {i : Nat} {n : Notification} (here : run.entries[i]? = some n)
    {name : String} (type : n.type = .unsupported name) (spans : List Span) (w : World σ) :
    (dispatcher.perform run).run spans w =
      onward (fun _ v => (.error (.unsupportedType (.unsupported name)),
          v.noting (note spans n (.error (.unsupportedType (.unsupported name))))))
        (dispatcher.alone run spans w i) := by
  obtain ⟨bound, eq⟩ := List.getElem?_eq_some_iff.mp here
  have split : run.entries = run.entries.take i ++ n :: run.entries.drop (i + 1) := by
    rw [← eq, ← List.drop_eq_getElem_cons bound, List.take_append_drop]
  have some : run.entries ≠ [] := List.ne_nil_of_length_pos (by omega)
  obtain ⟨kept, keeps, append⟩ := dispatcher.run_attemptAll_append (keeps_none run.report)
    (run.entries.take i) (n :: run.entries.drop (i + 1)) spans w
  rw [← split] at append
  rw [perform_of_ne_nil dispatcher some, append, dispatcher.alone_eq bound]
  refine congrArg (onward · _) (funext fun _ => funext fun v => ?_)
  exact dispatcher.run_attemptAll_unsupported keeps type _ spans v

/-- A type that is not known does no harm to the rest of a Cleaner. If the text for the type of one
notification is replaced, a document decodes as before, but for that one type, or fails as before.
And if the new text is not a known type, a run over the Cleaner does about the entries before this
one what it would do if they were all there are. If one of them fails this is how the run ends; if
they all succeed the run fails for want of configuration with the very text, and all that is still
done is to take this down: one line in the log, a failure under the label of all unknown types, and
a run that was ended early. -/
theorem unknown_type_contained {i : Nat} {s s' : String} {j j' : Json}
    (retyped : CleanerSpec.Retyped i s s' j j') :
    (∀ origin, Matches (CleanerSpec.Differ i s s') (CleanerSpec.decode origin j)
      (CleanerSpec.decode origin j')) ∧
    (∀ t t' more, Json.read t.toList = ⟨j, more⟩ → Json.read t'.toList = ⟨j', more⟩ →
      Matches (CleanerSpec.Differ i s s') (Decode.text CleanerSpec.decode t)
        (Decode.text CleanerSpec.decode t')) ∧
    (s' ∉ NotificationType.known.map (·.name) →
      ∀ origin (run : Run), CleanerSpec.decode origin j' = .ok run.cleaner.spec →
      ∀ spans (w : World σ),
        let before := dispatcher.alone run spans w i
        let ended := (dispatcher.perform run).run spans w
        let error := DeliveryError.unsupportedType (.unsupported s')
        (∀ failure, before.1 = .error failure → ended = before) ∧
        (before.1 = .ok () → error.isConfiguration ∧ ∃ line, ended = (.error error,
          before.2.noting ⟨[line], [.attempted "Unsupported" false, .aborted]⟩))) := by
  refine ⟨retyped.matches_decode, fun t t' more read read' => ?_, ?_⟩
  · exact Decode.matches_text read read' rfl (retyped.matches_decode .stream)
  intro unknown origin run decoded spans w before ended error
  obtain ⟨n, here, type⟩ := CleanerSpec.unsupported_of_decode retyped unknown decoded
  have split : ended = onward (fun _ v => (.error error, v.noting (note spans n (.error error))))
      before := dispatcher.perform_of_unsupported here type spans w
  have label : n.type.label = "Unsupported" := by rw [type]; rfl
  rw [split, note, label]
  obtain ⟨result, v⟩ := before
  constructor
  · intro failure failed
    cases failed
    rfl
  · intro succeeded
    cases succeeded
    exact ⟨rfl, _, rfl⟩

/-- A Cleaner whose second notification is for a pager: it decodes, its Report is written, and then
the run ends. -/
theorem unknown_type_contained_pager :
    let entry (type : String) := Json.object [("name", .string "page"), ("type", .string type)]
    let document (type : String) := Json.object [("schedule", .string "0 3 * * *"),
      ("notifications", .array [entry "CleanerReport", entry type])]
    let nightly : Run := ⟨⟨0, 0⟩, [], ⟨.named "nightly", ⟨"0 3 * * *", .delete,
      [⟨"page", .cleanerReport, none⟩, ⟨"page", .unsupported "Pager", none⟩]⟩⟩⟩
    let dispatcher : Dispatcher MemoryStore :=
      ⟨.memory, Sinks.make .memory (Network.scripted [] {}) {} {}⟩
    CleanerSpec.Retyped 1 "Slack" "Pager" (document "Slack") (document "Pager") ∧
      "Pager" ∉ NotificationType.known.map (·.name) ∧
      CleanerSpec.decode .whole (document "Pager") = .ok nightly.cleaner.spec ∧
      ((dispatcher.perform nightly).run [] { objects := .empty }).1 =
        .error (.unsupportedType (.unsupported "Pager")) := by
  intro entry document nightly dispatcher
  have retyped : CleanerSpec.Retyped 1 "Slack" "Pager" (document "Slack") (document "Pager") :=
    .object [("schedule", .string "0 3 * * *")] [] rfl (.object [("name", .string "page")] [])
  have unknown : "Pager" ∉ NotificationType.known.map (·.name) := by decide
  have decoded : CleanerSpec.decode .whole (document "Pager") = .ok nightly.cleaner.spec := rfl
  obtain ⟨-, -, contained⟩ := unknown_type_contained dispatcher retyped
  obtain ⟨-, ends⟩ := contained unknown .whole nightly decoded [] { objects := .empty }
  obtain ⟨-, line, ended⟩ := ends rfl
  exact ⟨retyped, unknown, decoded, congrArg Prod.fst ended⟩

end Dispatcher

end CleanupCourier
