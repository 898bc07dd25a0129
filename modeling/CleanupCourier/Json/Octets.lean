import CleanupCourier.Json.Reader
import CleanupCourier.Text.Utf8

/-!
Reading JSON from octets. Octets that are no text may stand in strings that are passed over, and
nowhere else. They are read twice, each time with another character in their place; where a string
differs between the readings, it holds some.
-/
namespace CleanupCourier

namespace Json

mutual

/-- What two readings have in common, where only their strings differ. -/
def common : Json → Json → Json
  | .string s, .string s' => if s = s' then .string s else .unreadable .null
  | .unreadable j, .unreadable j' => .unreadable (common j j')
  | .array items, .array items' => .array (commonItems items items')
  | .object members, .object members' => .object (commonMembers members members')
  | j, _ => j

def commonItems : List Json → List Json → List Json
  | j :: items, j' :: items' => common j j' :: commonItems items items'
  | _, _ => []

def commonMembers : List (String × Json) → List (String × Json) → List (String × Json)
  | (key, j) :: members, (key', j') :: members' =>
    (if key = key' then (key, common j j') else misnamed (common j j')) ::
      commonMembers members members'
  | _, _ => []

end

/-- The document that octets hold. -/
def readOctets (bytes : Bytes) : Document :=
  let readWith (mark : Char) := read ((Utf8.characters bytes).map (·.getD mark))
  let d := readWith '\uFFFD'
  ⟨common d.value (readWith '\uFFFE').value, d.hasMore⟩

end Json

end CleanupCourier
