/-!
JSON values. Members keep their order and may repeat a key, and a number is the text it is written
as. A value that was read from text may also tell that the reading stopped in it (`stopped`), or
that it can be passed over but not taken (`unreadable`, for a string that is no text); a value is
plain when it tells neither. Decoders walk a value in the order of its text, so the first fault they
meet is the first one in the text.
-/
namespace CleanupCourier

/-- How the reading of a text stopped. -/
inductive Fault where
  /-- Something stands where the grammar does not allow it. -/
  | malformed
  /-- The text ends inside a value. -/
  | truncated
  /-- The text ends where a comma or a closing bracket is due. -/
  | unclosed
  /-- The text ends inside a number. -/
  | cutNumber
deriving DecidableEq, Repr

inductive Json where
  | null
  | bool (b : Bool)
  | number (lexeme : String)
  | string (s : String)
  | array (items : List Json)
  | object (members : List (String × Json))
  | stopped (fault : Fault)
  | unreadable (skipped : Json)
deriving Repr, Inhabited

namespace Json

def nat (n : Nat) : Json :=
  .number (toString n)

def int (n : Int) : Json :=
  .number (toString n)

mutual

/-- The first fault that passing over a value meets. A number cut short is malformed here. -/
def skipFault? : Json → Option Fault
  | .stopped .cutNumber => some .malformed
  | .stopped fault => some fault
  | .unreadable skipped => skipFault? skipped
  | .array items => skipFaultItems? items
  | .object members => skipFaultMembers? members
  | _ => none

def skipFaultItems? : List Json → Option Fault
  | [] => none
  | item :: rest => (skipFault? item).or (skipFaultItems? rest)

def skipFaultMembers? : List (String × Json) → Option Fault
  | [] => none
  | (_, value) :: rest => (skipFault? value).or (skipFaultMembers? rest)

end

mutual

/-- Holds where no part of a value tells of a fault in a text. -/
def isPlain : Json → Bool
  | .stopped _ => false
  | .unreadable _ => false
  | .array items => arePlain items
  | .object members => membersArePlain members
  | _ => true

def arePlain : List Json → Bool
  | [] => true
  | item :: rest => isPlain item && arePlain rest

def membersArePlain : List (String × Json) → Bool
  | [] => true
  | (_, value) :: rest => isPlain value && membersArePlain rest

end

mutual

/-- How deep arrays and objects stand in one another. -/
def depth : Json → Nat
  | .array items => depthOfItems items + 1
  | .object members => depthOfMembers members + 1
  | _ => 0

def depthOfItems : List Json → Nat
  | [] => 0
  | item :: rest => max (depth item) (depthOfItems rest)

def depthOfMembers : List (String × Json) → Nat
  | [] => 0
  | (_, value) :: rest => max (depth value) (depthOfMembers rest)

end

/-- A member whose key is no text. It gets the empty key, and its value stands in an array, which
tells it from a string under the empty key that is no text. -/
def misnamed (value : Json) : String × Json :=
  ("", .unreadable (.array [value]))

/-- The last value under a key, as a map would keep it. -/
def lookup? (key : String) (members : List (String × Json)) : Option Json :=
  (members.reverse.find? (·.1 == key)).map (·.2)

end Json

end CleanupCourier
