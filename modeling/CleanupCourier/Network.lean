import CleanupCourier.Http.Message
import CleanupCourier.Mail.Relay

/-!
The network as the program meets it: which machines take connections, what a web server replies and
what a mail relay says. Each may depend on all the traffic so far; nothing else is assumed.
-/
namespace CleanupCourier

/-- All that was sent, in order. -/
structure Traffic where
  requests : List HttpRequest := []
  talks : List SmtpTalk := []
deriving Repr

structure Network where
  reach : String → Nat → Reach
  /-- Replies to the last of the requests so far. -/
  reply : Traffic → HttpReply
  /-- The relay for the next talk. -/
  relay : Traffic → SmtpRelay

end CleanupCourier
