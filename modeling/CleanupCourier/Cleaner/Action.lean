import CleanupCourier.Json.Decode

/-!
What a cleanup run does with the objects it finds. On the wire an action is its name; a form that
writes it as the only key of an object, with the value null, is read as well.
-/
namespace CleanupCourier

inductive Action where
  | delete
  | transform
  | scan
deriving DecidableEq, Repr

namespace Action

instance : Inhabited Action := ⟨.delete⟩

def name : Action → String
  | .delete => "Delete"
  | .transform => "Transform"
  | .scan => "Scan"

def all : List Action :=
  [.delete, .transform, .scan]

def ofName? (s : String) : Option Action :=
  all.find? (·.name == s)

theorem ofName?_name (a : Action) : ofName? a.name = some a := by
  cases a <;> rfl

def encode (a : Action) : Json :=
  .string a.name

def named (s : String) : Except DecodeError Action :=
  match ofName? s with
  | some a => .ok a
  | none => Decode.fail (.unknownVariant s (all.map name))

/-- The value beside the name has to be null. -/
def withUnit (a : Action) : Json → Except DecodeError Action
  | .null => .ok a
  | j => Decode.mismatch "unit" j

/-- An object of one member, while its text streams by. -/
def ofStreamedMembers : List (String × Json) → Except DecodeError Action
  | [] => .error .malformed
  | ("", .stopped fault) :: _ => .error (Decode.ofFault fault)
  | (_, .unreadable _) :: _ => .error .malformed
  | (key, j) :: rest => do
    let a ← (← named key).withUnit j
    match rest with
    | [] => return a
    | [("", .stopped .truncated)] => .error .truncated
    | _ => .error .malformed

def decode : Decoder Action
  | _, .string s => named s
  | .stream, .object members => ofStreamedMembers members
  | .stream, .stopped .truncated => .error .truncated
  | .stream, _ => .error .malformed
  | .whole, .object [(key, j)] => do (← named key).withUnit j
  | .whole, .object _ => Decode.fail (.invalidValue .map "map with a single key")
  | .whole, j => Decode.mismatch "string or map" j

end Action

end CleanupCourier
