import CleanupCourier.Credentials.Basic
import CleanupCourier.Destination.Posting
import CleanupCourier.Settings
import CleanupCourier.Json.Printer

/-!
Discord: the message goes to a channel, with the report as a file.
-/
namespace CleanupCourier

namespace Discord

def destination : String := "discord"

/-- The part that tells the message and the one file. -/
def messageJson (message : String) : Json :=
  .object [
    ("attachments", .array [.object [("filename", .string reportFileName), ("id", .nat 0)]]),
    ("content", .string message)]

def parts (d : Delivery) : List BodyPart :=
  [{ name := "payload_json", content := (messageJson d.message).render },
    { name := "files[0]", fileName := some reportFileName, content := d.payload }]

def posting (apiUrl : String) (info : DiscordInfo) (d : Delivery) : Posting where
  destination
  place := ("server", info.channel)
  call := {
    url := trimSlashes apiUrl ++ "/channels/" ++ info.channel ++ "/messages"
    authorization := some ("Bot " ++ info.token)
    body := .multipart (parts d) }
  judge _ := .ok "discord message posted"

end Discord

end CleanupCourier
