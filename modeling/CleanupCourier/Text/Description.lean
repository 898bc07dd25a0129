/-!
How records describe themselves in diagnostics: by name, with the texts of their fields. Fields that
are not for everyone's eyes may be left out, which two dots tell.
-/
namespace CleanupCourier

namespace Description

/-- A record with all its fields. -/
def record (name : String) (fields : List (String × String)) : String :=
  let inner := ", ".intercalate (fields.map fun (field, text) => field ++ ": " ++ text)
  name ++ " \x7b " ++ inner ++ " \x7d"

/-- A record with some of its fields. -/
def openRecord (name : String) (fields : List (String × String)) : String :=
  let inner := ", ".intercalate ((fields.map fun (field, text) => field ++ ": " ++ text) ++ [".."])
  name ++ " \x7b " ++ inner ++ " \x7d"

/-- Stands for a value that is not shown, between quotes as a text would. -/
def redacted : String := "\"<redacted>\""

end Description

end CleanupCourier
