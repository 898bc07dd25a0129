import CleanupCourier.Credentials.Basic
import CleanupCourier.Destination.Posting
import CleanupCourier.Settings

/-!
Slack: the message goes to a channel, with the report as an attachment. Slack tells most failures in
the body of a response of success, which therefore has to say that all is well.
-/
namespace CleanupCourier

namespace Slack

def destination : String := "slack"

/-- What Slack says about a message. -/
structure Verdict where
  isOk : Bool
  error : Option String := none
deriving DecidableEq, Repr

structure VerdictDraft where
  isOk : Option Bool := none
  error : Option (Option String) := none

open Decode in
def verdictRecord : Record VerdictDraft Verdict where
  name := "PostMessageResponse"
  draft := {}
  fields := [
    field "ok" (·.isOk) (fun a s => { s with isOk := some a }) bool,
    field "error" (·.error) (fun a s => { s with error := some a }) (optional string)]
  finish s :=
    match s.isOk with
    | none => .error "ok"
    | some isOk => .ok ⟨isOk, s.error.getD none⟩

/-- The verdict in the body of a response. -/
def verdict? (response : HttpResponse) : Option Verdict := do
  (Decode.octets verdictRecord.decode (← response.content?)).toOption

def judge (response : HttpResponse) : Except DeliveryError String :=
  match verdict? response with
  | none => .error (.transport destination .decoding)
  | some v =>
    if v.isOk then .ok "slack message posted"
    else .error (.api destination response.status (v.error.getD "unknown error"))

def body (channel : String) (d : Delivery) : Json :=
  .object [("channel", .string channel), ("text", .string d.message),
    ("attachments", .array [.object [("text", .string d.payload)]])]

def posting (apiUrl : String) (info : SlackInfo) (d : Delivery) : Posting where
  destination
  place := ("channel", info.channel)
  call := {
    url := trimSlashes apiUrl ++ "/chat.postMessage"
    authorization := some (Http.bearerAuthorization info.token)
    body := .json (body info.channel d) }
  judge

end Slack

end CleanupCourier
