import Mathlib.Data.List.Nodup
import CleanupCourier.Definition.Resource
import CleanupCourier.Proofs.KeyMap

/-!
A schema as a document, and what it says. A server that gets the document reads it keyword by
keyword, and takes a value if every keyword allows it. For a schema whose properties have keys of
their own the document says what the schema says.
-/
namespace CleanupCourier

namespace Json

/-- The types that are told apart by name. -/
def hasType : String → Json → Bool
  | "string", .string _ | "array", .array _ | "object", .object _ => true
  | _, _ => false

/-- Both values are texts, and they are the same. -/
def sameText : Json → Json → Bool
  | .string s, .string t => s == t
  | _, _ => false

/-- A schema may take null in place of a value of its type. -/
def saysNullable (rules : List (String × Json)) : Bool :=
  rules.any fun rule => rule.1 == "nullable" && (rule.2 matches .bool true)

mutual

/-- Whether a value is valid against a schema that is given as a document. -/
def admits : Json → Json → Bool
  | .object rules, j => obey (saysNullable rules) rules j
  | _, _ => false
termination_by structural s => s

/-- Whether all keywords allow a value. -/
def obey (nullable : Bool) : List (String × Json) → Json → Bool
  | [], _ => true
  | rule :: rest, j => allows nullable rule j && obey nullable rest j

/-- Whether a keyword allows a value. A note allows every value, and so does a keyword that is about
the parts of another kind of values. The values that an enumeration lists are texts. -/
def allows (nullable : Bool) : String × Json → Json → Bool
  | ("type", .string name), j => hasType name j || nullable && (j matches .null)
  | ("enum", .array listed), j => listed.any fun item => sameText item j
  | ("items", items), .array values => values.all fun j => admits items j
  | ("properties", .object properties), .object members => admitMembers properties members
  | ("required", .array keys), .object members =>
    keys.all fun key => members.any fun member => sameText key (.string member.1)
  | _, _ => true

/-- Whether the members that have a schema are valid against it. -/
def admitMembers : List (String × Json) → List (String × Json) → Bool
  | [], _ => true
  | (key, schema) :: rest, members =>
    (members.all fun (k, j) => k != key || admits schema j) && admitMembers rest members

end

variable {nullable : Bool} {j : Json}

theorem obey_eq_all (rules : List (String × Json)) :
    obey nullable rules j = rules.all fun rule => allows nullable rule j := by
  induction rules with
  | nil => rfl
  | cons rule rest ih => rw [obey, List.all_cons, ih]

theorem obey_append (rules rest : List (String × Json)) :
    obey nullable (rules ++ rest) j = (obey nullable rules j && obey nullable rest j) := by
  simp only [obey_eq_all, List.all_append]

theorem admitMembers_eq_all (properties members : List (String × Json)) :
    admitMembers properties members =
      properties.all fun property => members.all fun member =>
        member.1 != property.1 || admits property.2 member.2 := by
  induction properties with
  | nil => rfl
  | cons property rest ih => rw [admitMembers, List.all_cons, ih]

end Json

namespace Schema

open Json

mutual

/-- Holds of the schemas that a document can tell: no two properties of a record have one key, and
only a record may be null. -/
def isProper : Schema → Bool
  | .text _ _ => true
  | .list _ items => isProper items
  | .record _ properties _ _ => (properties.map (·.1)).Nodup && areProper properties
  | .nullable schema => (schema matches .record ..) && isProper schema

def areProper : List (String × Schema) → Bool
  | [] => true
  | (_, schema) :: rest => isProper schema && areProper rest

end

section Keys

variable {α : Type} {key : String}

theorem keys_member? (encode : α → Json) (a : Option α) :
    ((member? key encode a).map (·.1)).Sublist [key] := by
  cases a with
  | none => exact List.nil_sublist _
  | some a => exact List.Sublist.refl _

theorem keys_if {c : Prop} [Decidable c] (key : String) (j : Json) :
    ((if c then [(key, j)] else []).map (·.1)).Sublist [key] := by
  split
  case isTrue => exact List.Sublist.refl _
  case isFalse => exact List.nil_sublist _

theorem keys_unless {c : Prop} [Decidable c] (key : String) (j : Json) :
    ((if c then [] else [(key, j)]).map (·.1)).Sublist [key] := by
  rw [← ite_not]
  exact keys_if key j

theorem keys_noteMembers (note : SchemaNote) :
    ((noteMembers note).map (·.1)).Sublist ["default", "description"] := by
  rw [noteMembers, List.map_append]
  exact (keys_member? _ _).append (keys_member? _ _)

theorem keys_propertyMembers (properties : List (String × Schema)) :
    (propertyMembers properties).map (·.1) = properties.map (·.1) := by
  induction properties with
  | nil => rfl
  | cons property rest ih => rw [propertyMembers, List.map_cons, List.map_cons, ih]

/-- The keywords that the document of a schema may have. -/
def keywords : Schema → List String
  | .text _ _ => ["default", "description", "enum", "type"]
  | .list _ _ => ["default", "description", "items", "type"]
  | .record _ _ _ _ => ["default", "description", "properties", "required", "title", "type",
      "x-kubernetes-preserve-unknown-fields"]
  | .nullable schema => "nullable" :: keywords schema

theorem keys_members : ∀ schema : Schema, (schema.members.map (·.1)).Sublist schema.keywords
  | .text note allowed => by
    simp only [members, List.map_append]
    exact ((keys_noteMembers note).append (keys_unless _ _)).append (List.Sublist.refl ["type"])
  | .list note items => by
    simp only [members, List.map_append]
    exact (keys_noteMembers note).append (List.Sublist.refl ["items", "type"])
  | .record note properties required keepsUnknown => by
    simp only [members, List.map_append]
    exact (((((keys_noteMembers note).append (List.Sublist.refl ["properties"])).append
      (keys_unless _ _)).append (keys_member? _ _)).append (List.Sublist.refl ["type"])).append
      (keys_if _ _)
  | .nullable schema => (keys_members schema).cons_cons "nullable"

/-- No keyword stands twice in a schema. -/
theorem distinct_members {schema : Schema} (h : schema.isProper) :
    (schema.members.map (·.1)).Nodup := by
  refine (keys_members schema).nodup ?_
  cases schema with
  | text | list | record => simp [keywords]
  | nullable inner =>
    cases inner with
    | record => simp [keywords]
    | text | list | nullable => simp [isProper] at h

end Keys

theorem saysNullable_of_sublist {rules : List (String × Json)} {keys : List String}
    (h : (rules.map (·.1)).Sublist keys) (absent : "nullable" ∉ keys) :
    saysNullable rules = false := by
  rw [saysNullable, List.any_eq_false]
  intro rule mem may
  have named : rule.1 = "nullable" := by
    rw [Bool.and_eq_true, beq_iff_eq] at may
    exact may.1
  exact absent (named ▸ h.subset (List.mem_map_of_mem mem))

theorem admits_sorted {rules : List (String × Json)} (distinct : (rules.map (·.1)).Nodup)
    (j : Json) : (sorted rules).admits j = obey (saysNullable rules) rules j := by
  have same := KeyMap.perm_ofList distinct
  rw [sorted, admits, obey_eq_all, obey_eq_all, same.all_eq, saysNullable, saysNullable,
    same.any_eq]

section Rules

variable {may : Bool} {j : Json}

/-- Notes allow every value. -/
theorem obey_noteMembers (note : SchemaNote) : obey may (noteMembers note) j = true := by
  obtain ⟨description, fallback, title⟩ := note
  cases description <;> cases fallback <;> simp [noteMembers, member?, obey, allows]

theorem obey_title (title : Option String) : obey may (member? "title" .string title) j = true := by
  cases title <;> simp [member?, obey, allows]

theorem obey_keepsUnknown (keepsUnknown : Bool) :
    obey may (if keepsUnknown then [("x-kubernetes-preserve-unknown-fields", .bool true)] else []) j
      = true := by
  cases keepsUnknown <;> simp [obey, allows]

theorem obey_enum (allowed : List String) (s : String) :
    obey may (if allowed.isEmpty then [] else [("enum", Json.ofList .string allowed)])
        (.string s) = (allowed.isEmpty || allowed.contains s) := by
  cases allowed with
  | nil => rfl
  | cons first rest =>
    have listed : allows may ("enum", Json.ofList .string (first :: rest)) (.string s) =
        (first :: rest).any fun item => item == s := by
      rw [Json.ofList, allows, List.any_map]
      rfl
    have same : (fun item : String => item == s) = fun item => s == item :=
      funext fun item => Bool.beq_comm
    simp only [List.isEmpty_cons, Bool.false_eq_true, if_false, obey, listed, same,
      List.contains_eq_any_beq, Bool.and_true, Bool.false_or]

theorem obey_required (required : List String) (members : List (String × Json)) :
    obey may (if required.isEmpty then [] else [("required", Json.ofList .string required)])
        (.object members) = required.all fun key => members.any (·.1 == key) := by
  cases required with
  | nil => rfl
  | cons first rest =>
    have listed : allows may ("required", Json.ofList .string (first :: rest)) (.object members) =
        (first :: rest).all fun key => members.any fun member => key == member.1 := by
      rw [Json.ofList, allows, List.all_map]
      rfl
    have same (key : String) :
        (fun member : String × Json => key == member.1) = fun member => member.1 == key :=
      funext fun member => Bool.beq_comm
    simp only [List.isEmpty_cons, Bool.false_eq_true, if_false, obey, listed, same, Bool.and_true]

/-- The schemas of the properties stand in the order of their keys, which does not matter. -/
theorem obey_properties {properties : List (String × Schema)}
    (distinct : (properties.map (·.1)).Nodup) (members : List (String × Json)) :
    obey may [("properties", sorted (propertyMembers properties))] (.object members) =
      admitMembers (propertyMembers properties) members := by
  have same := KeyMap.perm_ofList (keys_propertyMembers properties ▸ distinct)
  rw [obey, obey, Bool.and_true, sorted, allows, admitMembers_eq_all, admitMembers_eq_all,
    same.all_eq]

/-- What the document of a record says, be it one that may be null or not. -/
theorem obey_record {note : SchemaNote} {properties : List (String × Schema)}
    {required : List String} {keepsUnknown : Bool} (distinct : (properties.map (·.1)).Nodup)
    (inner : ∀ members,
      admitMembers (propertyMembers properties) members = acceptMembers properties members)
    (j : Json) :
    obey may (record note properties required keepsUnknown).members j =
      (may && (j matches .null) || accepts (record note properties required keepsUnknown) j) := by
  simp only [members, obey_append, obey_noteMembers, obey_title, obey_keepsUnknown]
  cases j with
  | object members =>
    simp only [obey_properties distinct, inner, obey_required]
    simp [obey, allows, hasType, accepts, Bool.and_comm]
  | null => cases required <;> simp [obey, allows, hasType, accepts, Json.ofList]
  | _ => simp [obey, allows, hasType, accepts]

end Rules

mutual

/-- The document of a schema admits what the schema accepts, and nothing else. -/
theorem admits_encode : ∀ {schema : Schema}, schema.isProper → ∀ j,
    schema.encode.admits j = schema.accepts j
  | .text note allowed, h, j => by
    have never := saysNullable_of_sublist (keys_members (.text note allowed)) (by simp [keywords])
    rw [encode, admits_sorted (distinct_members h), never]
    simp only [members, obey_append, obey_noteMembers]
    cases j with
    | string s =>
      simp only [obey_enum]
      simp [obey, allows, hasType, accepts]
    | _ => simp [obey, allows, hasType, accepts]
  | .list note items, h, j => by
    have never := saysNullable_of_sublist (keys_members (.list note items)) (by simp [keywords])
    have inner : ∀ j, (sorted items.members).admits j = items.accepts j := admits_encode h
    rw [encode, admits_sorted (distinct_members h), never]
    simp only [members, obey_append, obey_noteMembers]
    cases j with
    | array values => simp [obey, allows, hasType, accepts, inner]
    | _ => simp [obey, allows, hasType, accepts]
  | .record note properties required keepsUnknown, h, j => by
    have never := saysNullable_of_sublist
      (keys_members (.record note properties required keepsUnknown)) (by simp [keywords])
    obtain ⟨distinct, proper⟩ := Bool.and_eq_true_iff.mp h
    rw [encode, admits_sorted (distinct_members h), never,
      obey_record (of_decide_eq_true distinct) (admitMembers_encode proper)]
    rfl
  | .nullable (.record note properties required keepsUnknown), h, j => by
    obtain ⟨distinct, proper⟩ := Bool.and_eq_true_iff.mp (Bool.and_eq_true_iff.mp h).2
    have may : saysNullable (nullable (.record note properties required keepsUnknown)).members =
        true := rfl
    rw [encode, admits_sorted (distinct_members h), may, members, obey,
      obey_record (of_decide_eq_true distinct) (admitMembers_encode proper)]
    cases j with
    | null => rfl
    | _ => simp [allows, accepts]

theorem admitMembers_encode : ∀ {properties : List (String × Schema)}, areProper properties →
    ∀ members, admitMembers (propertyMembers properties) members = acceptMembers properties members
  | [], _, members => by rw [propertyMembers, admitMembers, acceptMembers]
  | (key, schema) :: rest, h, members => by
    obtain ⟨first, others⟩ := Bool.and_eq_true_iff.mp h
    have inner : ∀ j, (sorted schema.members).admits j = schema.accepts j := admits_encode first
    simp only [propertyMembers, admitMembers, acceptMembers, admitMembers_encode others, inner]

end

end Schema

/-! Where a definition has its schemas. -/

namespace Json

/-- What stands at the end of a way of keys. -/
def at? : List String → Json → Option Json
  | [], j => some j
  | key :: rest, .object members => (lookup? key members).bind (at? rest)
  | _ :: _, _ => none

theorem lookup?_of_mem {members : List (String × Json)} (distinct : (members.map (·.1)).Nodup)
    {key : String} {j : Json} (mem : (key, j) ∈ members) : lookup? key members = some j := by
  rw [lookup?]
  cases found : members.reverse.find? (·.1 == key) with
  | none =>
    have absent := List.find?_eq_none.mp found (key, j) (List.mem_reverse.mpr mem)
    simp at absent
  | some member =>
    have there := List.mem_reverse.mp (List.mem_of_find?_eq_some found)
    have named : member.1 = key := by simpa using List.find?_some found
    have same := List.inj_on_of_nodup_map distinct there mem named
    rw [same]
    rfl

theorem at?_sorted {members : List (String × Json)} (distinct : (members.map (·.1)).Nodup)
    {key : String} {j : Json} (mem : (key, j) ∈ members) (rest : List String) :
    (Schema.sorted members).at? (key :: rest) = j.at? rest := by
  have same := KeyMap.perm_ofList distinct
  have apart := (same.map (·.1)).nodup_iff.mpr distinct
  rw [Schema.sorted, at?, lookup?_of_mem apart (same.mem_iff.mpr mem), Option.bind_some]

end Json

namespace Schema

theorem at?_encode {schema : Schema} (proper : schema.isProper) {key : String} {j : Json}
    (mem : (key, j) ∈ schema.members) (rest : List String) :
    schema.encode.at? (key :: rest) = j.at? rest :=
  Json.at?_sorted (distinct_members proper) mem rest

/-- The schema of a property of a record. -/
theorem at?_property {note : SchemaNote} {properties : List (String × Schema)}
    {required : List String} {keepsUnknown : Bool}
    (proper : (record note properties required keepsUnknown).isProper) {key : String}
    {schema : Schema} (mem : (key, schema.encode) ∈ propertyMembers properties)
    (rest : List String) :
    (record note properties required keepsUnknown).encode.at? ("properties" :: key :: rest) =
      schema.encode.at? rest := by
  obtain ⟨distinct, -⟩ := Bool.and_eq_true_iff.mp proper
  have listed : ("properties", sorted (propertyMembers properties)) ∈
      (record note properties required keepsUnknown).members := by
    simp [members]
  rw [at?_encode proper listed]
  refine Json.at?_sorted ?_ mem rest
  rw [keys_propertyMembers]
  exact of_decide_eq_true distinct

end Schema

namespace ResourceDefinition

/-- Where a definition, as a document, has the schema for the content of its objects. -/
def specSchema? (document : Json) : Option Json :=
  match document.at? ["spec", "versions"] with
  | some (.array [version]) => version.at? ["schema", "openAPIV3Schema", "properties", "spec"]
  | _ => none

theorem specSchema?_encode {d : ResourceDefinition} (proper : d.spec.isProper) :
    specSchema? d.encode = some d.spec.encode := by
  have version : specSchema? d.encode = d.object.encode.at? ["properties", "spec"] := rfl
  have wrapped : d.object.isProper := by
    simp [object, Schema.isProper, Schema.areProper, proper]
  rw [version, object, Schema.at?_property wrapped List.mem_cons_self]
  rfl

end ResourceDefinition

end CleanupCourier
