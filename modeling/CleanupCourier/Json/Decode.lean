import CleanupCourier.Json.Number
import CleanupCourier.Json.Octets
import CleanupCourier.Text.Quoted

/-!
Decoding JSON values into the types of this library. A decoder walks a value in the order of its
text and reports the first thing that is wrong. Records come as objects, where unknown members are
passed over and repeated ones refused, or as arrays of their fields in declared order.
-/
namespace CleanupCourier

/-- What a value turned out to be where something else was expected. -/
inductive Found where
  | null
  | bool (b : Bool)
  | number (n : NumberValue)
  | string (s : String)
  | sequence
  | map
deriving DecidableEq, Repr

def Found.message : Found → String
  | .null => "null"
  | .bool b => s!"boolean `{b}`"
  | .number (.natural n) => s!"integer `{n}`"
  | .number (.negative n) => s!"integer `-{n}`"
  | .number (.double text _) => s!"floating point `{text}`"
  | .string s => "string " ++ quoted s
  | .sequence => "sequence"
  | .map => "map"

/-- Why a value that was read does not fit a type. -/
inductive DataFault where
  | missingField (key : String)
  | duplicateField (key : String)
  | invalidType (found : Found) (expected : String)
  | invalidValue (found : Found) (expected : String)
  | unknownVariant (name : String) (known : List String)
  | invalidLength (length : Nat) (expected : String)
  | custom (text : String)
deriving DecidableEq, Repr

def DataFault.message : DataFault → String
  | .missingField key => s!"missing field `{key}`"
  | .duplicateField key => s!"duplicate field `{key}`"
  | .invalidType found expected => s!"invalid type: {found.message}, expected {expected}"
  | .invalidValue found expected => s!"invalid value: {found.message}, expected {expected}"
  | .unknownVariant name known =>
    s!"unknown variant `{name}`, expected one of " ++
      ", ".intercalate (known.map fun k => s!"`{k}`")
  | .invalidLength length expected => s!"invalid length {length}, expected {expected}"
  | .custom text => text

/-- Why decoding failed: the value does not fit, or its text broke off or is no JSON there. -/
inductive DecodeError where
  | data (fault : DataFault)
  | malformed
  | truncated
deriving DecidableEq, Repr

/-- Whether a value is read while its text streams by or was held as a whole before. In a stream the
end of an array is part of the grammar; a whole value has a length that can be reported. -/
inductive Origin where
  | stream
  | whole
deriving DecidableEq, Repr

abbrev Decoder (α : Type) := Origin → Json → Except DecodeError α

namespace Decode

/-- A fault met by reading a value, not by passing over it. -/
def ofFault : Fault → DecodeError
  | .malformed => .malformed
  | .truncated => .truncated
  | .unclosed => .truncated
  | .cutNumber => .truncated

def fail {α : Type} (fault : DataFault) : Except DecodeError α :=
  .error (.data fault)

/-- What a value is, for a message; reading it may meet a fault of its text first. -/
def found : Json → Except DecodeError Found
  | .null => .ok .null
  | .bool b => .ok (.bool b)
  | .number lexeme =>
    match NumberValue.ofLexeme? lexeme with
    | some n => .ok (.number n)
    | none => .error .malformed
  | .string s => .ok (.string s)
  | .array _ => .ok .sequence
  | .object _ => .ok .map
  | .stopped fault => .error (ofFault fault)
  | .unreadable _ => .error .malformed

def mismatch {α : Type} (expected : String) (j : Json) : Except DecodeError α := do
  fail (.invalidType (← found j) expected)

/-- Passes over a value that nothing is taken from. -/
def skip (j : Json) : Except DecodeError Unit :=
  match j.skipFault? with
  | none => .ok ()
  | some fault => .error (ofFault fault)

/-- Passes over a member that nothing is taken from. Its key is taken, so it has to be text. -/
def passOver : String × Json → Except DecodeError Unit
  | (_, .unreadable (.array _)) => .error .malformed
  | (_, j) => skip j

def string : Decoder String
  | _, .string s => .ok s
  | _, j => mismatch "a string" j

def bool : Decoder Bool
  | _, .bool b => .ok b
  | _, j => mismatch "a boolean" j

/-- A whole number of 64 bits with a sign. -/
def int64 : Decoder Int
  | _, .number lexeme =>
    match NumberValue.ofLexeme? lexeme with
    | some (.natural n) =>
      if n < wordSize 63 then .ok n else fail (.invalidValue (.number (.natural n)) "i64")
    | some (.negative n) => .ok (-n)
    | some other => fail (.invalidType (.number other) "i64")
    | none => .error .malformed
  | _, j => mismatch "i64" j

/-- A number from zero to `bound`, the type of that range being called `name`. -/
def bounded (bound : Nat) (name : String) : Decoder Nat
  | _, .number lexeme =>
    match NumberValue.ofLexeme? lexeme with
    | some (.natural n) =>
      if n ≤ bound then .ok n else fail (.invalidValue (.number (.natural n)) name)
    | some (.negative n) => fail (.invalidValue (.number (.negative n)) name)
    | some other => fail (.invalidType (.number other) name)
    | none => .error .malformed
  | _, j => mismatch name j

def optional {α : Type} (decode : Decoder α) : Decoder (Option α)
  | _, .null => .ok none
  | origin, j => (decode origin j).map some

def list {α : Type} (decode : Decoder α) : Decoder (List α)
  | origin, .array items => items.mapM (decode origin)
  | _, j => mismatch "a sequence" j

/-- The members of an object, each value decoded, in the order of the text. -/
def members {α : Type} (decode : Decoder α) : Decoder (List (String × α))
  | origin, .object members =>
    members.mapM fun (key, j) => do return (key, ← decode origin j)
  | _, j => mismatch "a map" j

/-- One field of a record that is being filled in. -/
structure Field (σ : Type) where
  key : String
  isSet : σ → Bool
  read : Origin → Json → σ → Except DecodeError σ

def field {σ α : Type} (key : String) (get : σ → Option α) (set : α → σ → σ)
    (decode : Decoder α) : Field σ :=
  { key
    isSet := fun s => (get s).isSome
    read := fun origin j s => do return set (← decode origin j) s }

/-- A field of a record in which a repeated member replaces the one before it. -/
def slot {σ α : Type} (key : String) (set : α → σ → σ) (decode : Decoder α) : Field σ :=
  { key
    isSet := fun _ => false
    read := fun origin j s => do return set (← decode origin j) s }

/-- How a record of type `α` is read through drafts of type `σ`. Finishing a draft fails with the
first field that has to be there and is not. -/
structure Record (σ α : Type) where
  name : String
  draft : σ
  fields : List (Field σ)
  finish : σ → Except String α

namespace Record

variable {σ α : Type}

def readMember (r : Record σ α) (origin : Origin) (s : σ) (member : String × Json) :
    Except DecodeError σ :=
  match r.fields.find? (·.key == member.1) with
  | none => (passOver member).map fun _ => s
  | some f => if f.isSet s then fail (.duplicateField f.key) else f.read origin member.2 s

def ofMembers (r : Record σ α) (origin : Origin) (members : List (String × Json)) :
    Except DecodeError α := do
  match r.finish (← members.foldlM (r.readMember origin) r.draft) with
  | .ok a => .ok a
  | .error key => fail (.missingField key)

/-- Fills the fields from the items in order; gives the draft and the items left over. -/
def readItems (origin : Origin) : List (Field σ) → List Json → σ →
    Except DecodeError (σ × List Json)
  | [], items, s => .ok (s, items)
  | _ :: _, [], s => .ok (s, [])
  | f :: fields, j :: items, s => do readItems origin fields items (← f.read origin j s)

/-- What is wrong with items beyond the last field of an array of `length` items. -/
def surplus (origin : Origin) (length : Nat) : List Json → Except DecodeError Unit
  | [] => .ok ()
  | [.stopped .unclosed] => .error .truncated
  | _ =>
    match origin with
    | .stream => .error .malformed
    | .whole => fail (.invalidLength length "fewer elements in array")

def ofItems (r : Record σ α) (origin : Origin) (items : List Json) : Except DecodeError α := do
  let (s, rest) ← readItems origin r.fields items r.draft
  match r.finish s with
  | .error key =>
    fail (.invalidLength (r.fields.findIdx (·.key == key))
      s!"struct {r.name} with {r.fields.length} elements")
  | .ok a => do
    surplus origin items.length rest
    return a

def decode (r : Record σ α) : Decoder α
  | origin, .object members => r.ofMembers origin members
  | origin, .array items => r.ofItems origin items
  | _, j => mismatch s!"struct {r.name}" j

end Record

/-- A record that comes as an object only, where the last of repeated members counts. -/
structure LooseRecord (σ : Type) where
  name : String
  draft : σ
  fields : List (Field σ)

namespace LooseRecord

variable {σ : Type}

def readMember (r : LooseRecord σ) (origin : Origin) (s : σ) (member : String × Json) :
    Except DecodeError σ :=
  match r.fields.find? (·.key == member.1) with
  | none => (passOver member).map fun _ => s
  | some f => f.read origin member.2 s

def decode (r : LooseRecord σ) : Decoder σ
  | origin, .object members => members.foldlM (r.readMember origin) r.draft
  | _, j => mismatch r.name j

end LooseRecord

/-- Decodes the value of a document that holds nothing else. -/
def document {α : Type} (decode : Decoder α) (d : Json.Document) : Except DecodeError α := do
  let a ← decode .stream d.value
  if d.hasMore then .error .malformed else return a

/-- Decodes the one value of a text. -/
def text {α : Type} (decode : Decoder α) (text : String) : Except DecodeError α :=
  document decode (Json.read text.toList)

/-- Decodes the one value of octets. -/
def octets {α : Type} (decode : Decoder α) (bytes : Bytes) : Except DecodeError α :=
  document decode (Json.readOctets bytes)

end Decode

end CleanupCourier
