import CleanupCourier.Destination.Sinks
import CleanupCourier.Proofs.Json.RoundTrip
import CleanupCourier.Proofs.Text.Utf8

/-!
Reading a delivery back from what the destinations get. A web service sees the octets of a body, as
JSON or part by part, and finds the report and the message at their places; the reader of a mail
sees its body as it arrives. Each reads what was to be delivered, whatever characters it has.
-/
namespace CleanupCourier

namespace Json

/-- A step into a value. -/
inductive Step where
  | key (name : String)
  | index (i : Nat)

def step? : Json → Step → Option Json
  | .object members, .key name => lookup? name members
  | .array items, .index i => items[i]?
  | _, _ => none

/-- The text at the end of a path. -/
def textAt? (j : Json) (path : List Step) : Option String :=
  match path.foldlM step? j with
  | some (.string s) => some s
  | _ => none

/-- The value that octets stand for. -/
def ofOctets? (bytes : Bytes) : Option Json :=
  ((Utf8.decode? bytes).map String.ofList).bind parse?

theorem ofOctets?_render {j : Json} (h : Writable j) : ofOctets? (utf8 j.render) = some j := by
  rw [ofOctets?, decode?_utf8]
  exact parse?_render h

end Json

namespace HttpBody

/-- The value that the octets of a body stand for. -/
def json? : HttpBody → Option Json
  | .json value => Json.ofOctets? (utf8 value.render)
  | _ => none

/-- The first part with a name. -/
def part? (name : String) : HttpBody → Option BodyPart
  | .multipart parts => parts.find? (·.name == name)
  | _ => none

end HttpBody

namespace BodyPart

def octets (part : BodyPart) : Bytes :=
  utf8 part.content

/-- The text that the octets of a part stand for. -/
def text? (part : BodyPart) : Option String :=
  (Utf8.decode? part.octets).map String.ofList

/-- The same of a part that is a file. -/
def fileText? (part : BodyPart) : Option String :=
  if part.fileName.isSome then part.text? else none

theorem text?_eq (part : BodyPart) : part.text? = some part.content :=
  decode?_utf8 part.content

end BodyPart

/-! What each web service finds in a request. -/

open Json.Step in
def Slack.received? (request : HttpRequest) : Option Delivery := do
  let j ← request.body.json?
  return ⟨← j.textAt? [key "attachments", index 0, key "text"], ← j.textAt? [key "text"]⟩

open Json.Step in
def Teams.received? (request : HttpRequest) : Option Delivery := do
  let j ← request.body.json?
  let block (i : Nat) : List Json.Step :=
    [key "attachments", index 0, key "content", key "body", index i, key "text"]
  return ⟨← j.textAt? (block 1), ← j.textAt? (block 0)⟩

open Json.Step in
def Discord.received? (request : HttpRequest) : Option Delivery := do
  let j ← Json.ofOctets? (← request.body.part? "payload_json").octets
  return ⟨← (← request.body.part? "files[0]").fileText?, ← j.textAt? [key "content"]⟩

def Webex.received? (request : HttpRequest) : Option Delivery := do
  let file ← request.body.part? "files"
  let message ← request.body.part? "markdown"
  return ⟨← file.fileText?, ← message.text?⟩

theorem Slack.received?_body {request : HttpRequest} {channel : String} {d : Delivery}
    (h : request.body = .json (body channel d)) : received? request = some d := by
  have writable : (body channel d).Writable := by
    simp [body, Json.Writable, Json.WritableItems, Json.WritableMembers]
  rw [received?, h, HttpBody.json?, Json.ofOctets?_render writable]
  simp [body, Json.textAt?, Json.step?, Json.lookup?]

theorem Teams.received?_body {request : HttpRequest} {d : Delivery}
    (h : request.body = .json (body d)) : received? request = some d := by
  have writable : (body d).Writable := by
    simp [body, card, textBlock, Json.Writable, Json.WritableItems, Json.WritableMembers]
  rw [received?, h, HttpBody.json?, Json.ofOctets?_render writable]
  simp [body, card, textBlock, Json.textAt?, Json.step?, Json.lookup?]

theorem Discord.received?_body {request : HttpRequest} {d : Delivery}
    (h : request.body = .multipart (parts d)) : received? request = some d := by
  have writable : (messageJson d.message).Writable := by
    simp [messageJson, Json.Writable, Json.WritableItems, Json.WritableMembers, Json.writable_nat]
  have content : (messageJson d.message).textAt? [.key "content"] = some d.message := by
    simp [messageJson, Json.textAt?, Json.step?, Json.lookup?]
  rw [received?, h]
  simp [parts, HttpBody.part?, BodyPart.octets, BodyPart.fileText?, BodyPart.text?_eq,
    Json.ofOctets?_render writable, content]

theorem Webex.received?_body {request : HttpRequest} {room : String} {d : Delivery}
    (h : request.body = .multipart (parts room d)) : received? request = some d := by
  rw [received?, h]
  simp [parts, HttpBody.part?, BodyPart.fileText?, BodyPart.text?_eq]

namespace MailMessage

/-- Only a line feed is changed on the way. -/
theorem withLineEnds_of_forall {s : List Char} (h : ∀ c ∈ s, c ≠ '\n') (before : Option Char) :
    withLineEnds before s = s := by
  induction s generalizing before with
  | nil => rfl
  | cons c rest ih =>
    rw [withLineEnds]
    · rw [ih (fun d mem => h d (List.mem_cons_of_mem _ mem))]
    · exact h c List.mem_cons_self

theorem shownBody_of_visible {m : MailMessage} (h : ∀ c ∈ m.body.toList, 32 ≤ c.toNat) :
    m.shownBody = m.body := by
  have same : withLineEnds none m.body.toList = m.body.toList := by
    refine withLineEnds_of_forall (fun c mem eq => ?_) none
    have visible := h c mem
    rw [eq] at visible
    exact absurd visible (by decide)
  rw [shownBody, same, String.ofList_toList]
  exact ite_self _

end MailMessage

end CleanupCourier
