import CleanupCourier.Json.Basic
import CleanupCourier.KeyMap

/-!
Small steps in writing values of this library as JSON.
-/
namespace CleanupCourier

namespace Json

/-- A member that is left out when there is no value. -/
def member? {α : Type} (key : String) (encode : α → Json) : Option α → List (String × Json)
  | none => []
  | some a => [(key, encode a)]

def ofMap {α : Type} (encode : α → Json) (m : KeyMap α) : Json :=
  .object (m.mapValues encode).entries

def ofList {α : Type} (encode : α → Json) (l : List α) : Json :=
  .array (l.map encode)

end Json

end CleanupCourier
