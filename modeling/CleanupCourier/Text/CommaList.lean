import CleanupCourier.Text.Blank

/-!
Comma-separated lists written by hand: blanks around an item and empty items mean nothing.
-/
namespace CleanupCourier

/-- The items of a comma-separated list, trimmed, the empty ones left out. -/
def commaItems (list : String) : List String :=
  ((list.toList.splitOn ',').map (trimBoth isBlank)).filter (!·.isEmpty) |>.map String.ofList

end CleanupCourier
