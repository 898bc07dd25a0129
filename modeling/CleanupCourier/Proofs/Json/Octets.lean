import CleanupCourier.Json.Octets
import CleanupCourier.Proofs.Json.RoundTrip
import CleanupCourier.Proofs.Text.Utf8

/-!
Octets that are text are read as that text: with no octets to be marked the two readings are one.
-/
namespace CleanupCourier

namespace Json

mutual

theorem common_self : ∀ j : Json, common j j = j
  | .null | .bool _ | .number _ | .stopped _ => rfl
  | .string _ => if_pos rfl
  | .unreadable j => congrArg _ (common_self j)
  | .array items => congrArg _ (commonItems_self items)
  | .object members => congrArg _ (commonMembers_self members)

theorem commonItems_self : ∀ items : List Json, commonItems items items = items
  | [] => rfl
  | j :: items => by rw [commonItems, common_self j, commonItems_self items]

theorem commonMembers_self : ∀ members : List (String × Json),
    commonMembers members members = members
  | [] => rfl
  | (_, j) :: members => by
    rw [commonMembers, if_pos rfl, common_self j, commonMembers_self members]

end

theorem readOctets_utf8 (s : String) : readOctets (utf8 s) = read s.toList := by
  have marked (mark : Char) :
      (Utf8.characters (utf8 s)).map (·.getD mark) = s.toList := by
    rw [utf8, Utf8.characters_encode, List.map_map]
    exact List.map_id _
  simp only [readOctets, marked, common_self]

theorem readOctets_render {j : Json} (h : j.Writable) :
    readOctets (utf8 j.render) = ⟨j, false⟩ := by
  rw [readOctets_utf8, read_render h]

end Json

end CleanupCourier
