import CleanupCourier.Json.Encode

/-!
Schemas: which JSON values an object of the cluster may hold, and the schema itself as JSON. Beside
the rules a schema carries notes for readers and servers, such as the value that a missing part
stands for; those play no part in what it accepts.
-/
namespace CleanupCourier

structure SchemaNote where
  description : Option String := none
  fallback : Option Json := none
  title : Option String := none
deriving Repr

inductive Schema where
  /-- Texts, or if some are listed only those. -/
  | text (note : SchemaNote) (allowed : List String)
  | list (note : SchemaNote) (items : Schema)
  /-- Objects whose listed members fit, and which have the required ones; other members are not
  looked at. -/
  | record (note : SchemaNote) (properties : List (String × Schema)) (required : List String)
      (keepsUnknown : Bool)
  | nullable (schema : Schema)
deriving Repr

namespace Schema

mutual

/-- Whether a value fits. -/
def accepts : Schema → Json → Bool
  | .text _ allowed, .string s => allowed.isEmpty || allowed.contains s
  | .list _ items, .array values => values.all fun j => accepts items j
  | .record _ properties required _, .object members =>
    (required.all fun key => members.any (·.1 == key)) && acceptMembers properties members
  | .nullable schema, j =>
    match j with
    | .null => true
    | j => accepts schema j
  | _, _ => false

/-- Whether every member that is listed fits the schema it is listed with. -/
def acceptMembers : List (String × Schema) → List (String × Json) → Bool
  | [], _ => true
  | (key, schema) :: rest, members =>
    (members.all fun (k, j) => k != key || accepts schema j) && acceptMembers rest members

end

/-- The members that a note adds. -/
def noteMembers (note : SchemaNote) : List (String × Json) :=
  Json.member? "default" id note.fallback ++ Json.member? "description" .string note.description

/-- Puts the members of an object in the order of their keys. -/
def sorted (members : List (String × Json)) : Json :=
  .object (KeyMap.ofList members).entries

mutual

/-- The members of the schema as an object, in no particular order. -/
def members : Schema → List (String × Json)
  | .text note allowed =>
    noteMembers note ++ (if allowed.isEmpty then [] else [("enum", Json.ofList .string allowed)]) ++
      [("type", .string "string")]
  | .list note items =>
    noteMembers note ++ [("items", sorted (members items)), ("type", .string "array")]
  | .record note properties required keepsUnknown =>
    noteMembers note ++ [("properties", sorted (propertyMembers properties))] ++
      (if required.isEmpty then [] else [("required", Json.ofList .string required)]) ++
      Json.member? "title" .string note.title ++ [("type", .string "object")] ++
      (if keepsUnknown then [("x-kubernetes-preserve-unknown-fields", .bool true)] else [])
  | .nullable schema => ("nullable", .bool true) :: members schema

def propertyMembers : List (String × Schema) → List (String × Json)
  | [] => []
  | (key, schema) :: rest => (key, sorted (members schema)) :: propertyMembers rest

end

def encode (schema : Schema) : Json :=
  sorted schema.members

/-- A text with a description. -/
def described (description : String) : Schema :=
  .text { description := some description } []

def plainText : Schema :=
  .text {} []

/-- A text that is empty unless it is given. -/
def textOrEmpty : Schema :=
  .text { fallback := some (.string "") } []

end Schema

end CleanupCourier
