import CleanupCourier.Json.Decode
import CleanupCourier.KeyMap

/-!
The normal form of a JSON value that is kept for its own sake: members in the order of their keys,
the last of repeated ones, and numbers written as their value.
-/
namespace CleanupCourier

namespace Decode

def normalNumber (lexeme : String) : Except DecodeError Json :=
  match NumberValue.ofLexeme? lexeme with
  | some (.natural n) => .ok (.nat n)
  | some (.negative n) => .ok (.int (-n))
  | some (.double _ compact) => .ok (.number compact)
  | none => .error .malformed

mutual

def anyValue : Json → Except DecodeError Json
  | .null => .ok .null
  | .bool b => .ok (.bool b)
  | .number lexeme => normalNumber lexeme
  | .string s => .ok (.string s)
  | .array items => (anyItems items).map .array
  | .object members => do
    let members ← anyMembers members
    return .object (KeyMap.ofList members).entries
  | .stopped fault => .error (ofFault fault)
  | .unreadable _ => .error .malformed

def anyItems : List Json → Except DecodeError (List Json)
  | [] => .ok []
  | item :: rest => do
    let item ← anyValue item
    return item :: (← anyItems rest)

def anyMembers : List (String × Json) → Except DecodeError (List (String × Json))
  | [] => .ok []
  | (key, j) :: rest => do
    let j ← anyValue j
    return (key, j) :: (← anyMembers rest)

end

/-- A value of any kind that is kept in its normal form. From a stream it is taken only if it is not
nested deeper than `limit`. -/
def kept (limit : Nat) : Decoder Json
  | .stream, j => if limit < j.depth then .error .malformed else anyValue j
  | .whole, j => anyValue j

end Decode

end CleanupCourier
