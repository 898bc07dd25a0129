import CleanupCourier.Credentials.Basic
import CleanupCourier.Destination.Posting
import CleanupCourier.Settings

/-!
Webex: the message goes to a room, with the report as a file. The response is told in the log, so it
has to be readable.
-/
namespace CleanupCourier

namespace Webex

def destination : String := "webex"

def parts (room : String) (d : Delivery) : List BodyPart :=
  [{ name := "roomId", content := room },
    { name := "markdown", content := d.message },
    { name := "files", fileName := some reportFileName, mediaType := some "multipart/form-data",
      content := d.payload }]

def judge (response : HttpResponse) : Except DeliveryError String :=
  match response.content? with
  | some bytes => .ok ("response: " ++ textOf bytes)
  | none => .error (.transport destination .decoding)

def posting (apiUrl : String) (info : WebexInfo) (d : Delivery) : Posting where
  destination
  place := ("room", info.room)
  call := {
    url := trimSlashes apiUrl ++ "/messages"
    authorization := some (Http.bearerAuthorization info.token)
    body := .multipart (parts info.room d) }
  judge

end Webex

end CleanupCourier
