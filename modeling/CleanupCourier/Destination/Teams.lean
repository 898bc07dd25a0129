import CleanupCourier.Credentials.Basic
import CleanupCourier.Destination.Posting
import CleanupCourier.Destination.Webhook

/-!
Teams: a card goes to a webhook, the message as its title and the report as its text. The path of
the webhook is a secret, so only its host is told in logs.
-/
namespace CleanupCourier

namespace Teams

def destination : String := "teams"

/-- A block of text; its style stands around it in the order of the keys. -/
def textBlock (size weight : List (String × Json)) (text : String) : Json :=
  .object (size ++ [("text", .string text), ("type", .string "TextBlock")] ++ weight ++
    [("wrap", .bool true)])

def card (d : Delivery) : Json :=
  .object [
    ("$schema", .string "http://adaptivecards.io/schemas/adaptive-card.json"),
    ("body", .array [
      textBlock [("size", .string "Large")] [("weight", .string "Bolder")] d.message,
      textBlock [] [] d.payload]),
    ("type", .string "AdaptiveCard"),
    ("version", .string "1.5")]

def body (d : Delivery) : Json :=
  .object [("attachments", .array [
    .object [("content", card d),
      ("contentType", .string "application/vnd.microsoft.card.adaptive"),
      ("contentUrl", .null)]]), ("type", .string "message")]

/-- The host of a webhook, as far as there is one. -/
def hostOf (url : String) : String :=
  ((Url.parse? url).bind (·.hostText?)).getD ""

def posting (validator : WebhookValidator) (info : TeamsInfo) (d : Delivery) : Posting where
  destination
  place := ("webhook_url", hostOf info.webhookUrl)
  check := validator.validate info.webhookUrl
  call := { url := info.webhookUrl, body := .json (body d) }
  judge _ := .ok "teams message posted"

end Teams

end CleanupCourier
