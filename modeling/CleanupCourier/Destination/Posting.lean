import CleanupCourier.Destination.Delivery
import CleanupCourier.Http.Client

/-!
One message on its way to a web service, the same for all services: it is announced, checked,
posted, and the response is judged. A response whose status is no success is a refusal, told with
the text of its body; what else a response has to say is up to the service.
-/
namespace CleanupCourier

structure Posting where
  destination : String
  /-- A field of the span the posting happens in: what it tells about the place it goes to. -/
  place : String × String
  check : Except DeliveryError Unit := .ok ()
  call : HttpCall
  /-- The closing line of the log after a response of success, or why that was no success. -/
  judge : HttpResponse → Except DeliveryError String

namespace Posting

def target (p : Posting) : String :=
  logTarget ["notifications", p.destination]

def span (p : Posting) : Span :=
  ⟨p.destination, p.target, [(p.place.1, .text p.place.2)]⟩

/-- The text of the body of a response, or that it has none. -/
def bodyText (response : HttpResponse) : String :=
  match response.content? with
  | some bytes => textOf bytes
  | none => "<unreadable body: " ++ TransportFault.decoding.message ++ ">"

/-- What the response to a posting comes to. -/
def outcome (p : Posting) (response : HttpResponse) : Except DeliveryError String :=
  if response.isSuccess then p.judge response
  else .error (.api p.destination response.status (bodyText response))

def send {σ : Type} (p : Posting) (network : Network) : Attempt σ DeliveryError Unit :=
  Attempt.within p.span do
    Attempt.log .info p.target s!"send {p.destination} message"
    Attempt.ofExcept p.check
    let response ← (Http.exchange network p.call).mapError (.transport p.destination)
    let line ← Attempt.ofExcept (p.outcome response)
    Attempt.log .debug p.target line

end Posting

end CleanupCourier
