import CleanupCourier.Definition.Schema
import CleanupCourier.Proofs.Json.Separation
import CleanupCourier.Proofs.Json.Whole

/-!
Schemas whose values are read. A record reads every object that fits a schema if its fields read the
properties of that schema, and if it wants no other fields than those that the schema requires.
-/
namespace CleanupCourier

namespace Json

mutual

/-- Holds of the values that there are: no part tells of a fault in a text, and no object has two
members under one key. -/
def IsValue : Json → Prop
  | .stopped _ => False
  | .unreadable _ => False
  | .array items => AreValues items
  | .object members => (members.map (·.1)).Nodup ∧ MembersAreValues members
  | _ => True

def AreValues : List Json → Prop
  | [] => True
  | item :: rest => IsValue item ∧ AreValues rest

def MembersAreValues : List (String × Json) → Prop
  | [] => True
  | (_, value) :: rest => IsValue value ∧ MembersAreValues rest

end

theorem areValues_iff {items : List Json} : AreValues items ↔ ∀ j ∈ items, j.IsValue := by
  induction items with
  | nil => simp [AreValues]
  | cons item rest ih => rw [AreValues, ih, List.forall_mem_cons]

theorem membersAreValues_iff {members : List (String × Json)} :
    MembersAreValues members ↔ ∀ member ∈ members, member.2.IsValue := by
  induction members with
  | nil => simp [MembersAreValues]
  | cons member rest ih => rw [MembersAreValues, ih, List.forall_mem_cons]

mutual

theorem isWhole_of_isValue : ∀ {j : Json}, j.IsValue → j.IsWhole
  | .null, _ => .null
  | .bool b, _ => .bool b
  | .number lexeme, _ => .number lexeme
  | .string s, _ => .string s
  | .array _, h => .array (isWhole_of_areValues h)
  | .object _, h => .object (isWholeMember_of_membersAreValues h.2)

theorem isWhole_of_areValues : ∀ {items : List Json}, AreValues items → ∀ j ∈ items, j.IsWhole
  | [], _ => nofun
  | _ :: _, h => List.forall_mem_cons.mpr ⟨isWhole_of_isValue h.1, isWhole_of_areValues h.2⟩

theorem isWholeMember_of_membersAreValues : ∀ {members : List (String × Json)},
    MembersAreValues members → ∀ m ∈ members, IsWholeMember m
  | [], _ => nofun
  | (key, _) :: _, h => List.forall_mem_cons.mpr
      ⟨.named key (isWhole_of_isValue h.1), isWholeMember_of_membersAreValues h.2⟩

end

end Json

namespace Schema

variable {α : Type} {decode : Decoder α} {schema : Schema}

/-- Every value that fits is read. -/
def ReadBy (schema : Schema) (decode : Decoder α) : Prop :=
  ∀ j : Json, j.IsValue → schema.accepts j → ∀ origin, ∃ a, decode origin j = .ok a

theorem exists_of_accepts_text {note : SchemaNote} {allowed : List String} {j : Json}
    (h : (text note allowed).accepts j) :
    ∃ s, j = .string s ∧ (allowed = [] ∨ s ∈ allowed) := by
  cases j with
  | string s => exact ⟨s, rfl, by simpa [accepts] using h⟩
  | _ => simp [accepts] at h

theorem readBy_string (note : SchemaNote) (allowed : List String) :
    (text note allowed).ReadBy Decode.string := by
  intro j _ fits origin
  obtain ⟨s, rfl, -⟩ := exists_of_accepts_text fits
  exact ⟨s, rfl⟩

theorem readBy_list (note : SchemaNote) (h : schema.ReadBy decode) :
    (list note schema).ReadBy (Decode.list decode) := by
  intro j value fits origin
  cases j with
  | array items =>
    have values := Json.areValues_iff.mp value
    have each : ∀ item ∈ items, schema.accepts item := by simpa [accepts] using fits
    clear value fits
    simp only [Decode.list]
    induction items with
    | nil => exact ⟨[], rfl⟩
    | cons item rest ih =>
      obtain ⟨a, read⟩ := h item (values item List.mem_cons_self)
        (each item List.mem_cons_self) origin
      obtain ⟨as, others⟩ := ih (fun j mem => values j (List.mem_cons_of_mem _ mem))
        fun j mem => each j (List.mem_cons_of_mem _ mem)
      refine ⟨a :: as, ?_⟩
      rw [List.mapM_cons, read, others]
      rfl
  | _ => simp [accepts] at fits

theorem readBy_nullable (h : schema.ReadBy decode) :
    (nullable schema).ReadBy (Decode.optional decode) := by
  intro j value fits origin
  by_cases null : j = .null
  · subst null
    exact ⟨none, rfl⟩
  · have inner : schema.accepts j := by
      cases j with
      | null => exact absurd rfl null
      | _ => simpa [accepts] using fits
    obtain ⟨a, read⟩ := h j value inner origin
    refine ⟨some a, ?_⟩
    cases j with
    | null => exact absurd rfl null
    | _ => simp [Decode.optional, read, Except.map]

theorem accepts_of_acceptMembers {properties : List (String × Schema)}
    {members : List (String × Json)} (h : acceptMembers properties members)
    {key : String} (listed : properties.lookup key = some schema) {j : Json}
    (mem : (key, j) ∈ members) : schema.accepts j := by
  induction properties with
  | nil => exact nomatch listed
  | cons property rest ih =>
    rw [acceptMembers, Bool.and_eq_true, List.all_eq_true] at h
    rw [List.lookup_cons] at listed
    split at listed
    case h_1 same =>
      cases listed
      simpa [beq_iff_eq.mp same] using h.1 (key, j) mem
    case h_2 => exact ih h.2 listed

end Schema

namespace Decode

open Json

variable {σ : Type}

/-- A field reads what fits the property of its key. -/
def Field.Reads (f : Field σ) (properties : List (String × Schema)) : Prop :=
  ∃ schema, properties.lookup f.key = some schema ∧
    ∀ j : Json, j.IsValue → schema.accepts j → ∀ origin s, ∃ s', f.read origin j s = .ok s'

section Fields

variable {α : Type} {key : String} {get : σ → Option α} {set : α → σ → σ} {decode : Decoder α}

theorem reads_field {properties : List (String × Schema)} {schema : Schema}
    (listed : properties.lookup key = some schema) (h : schema.ReadBy decode) :
    (field key get set decode).Reads properties := by
  refine ⟨schema, listed, fun j value fits origin s => ?_⟩
  obtain ⟨a, read⟩ := h j value fits origin
  refine ⟨set a s, ?_⟩
  simp only [field, read]
  rfl

end Fields

/-- A record that reads the objects that fit a schema. -/
structure Record.Follows {α : Type} (r : Record σ α) (properties : List (String × Schema))
    (required : List String) : Prop where
  unset : ∀ f ∈ r.fields, f.isSet r.draft = false
  marks : ∀ f ∈ r.fields, ∀ g ∈ r.fields, f.Marks g
  reads : ∀ f ∈ r.fields, f.Reads properties
  finishes : ∀ s, (∀ f ∈ r.fields, f.key ∈ required → f.isSet s) → ∃ a, r.finish s = .ok a

variable {α : Type} {r : Record σ α} {properties : List (String × Schema)}
  {required : List String}

/-- A member is read into the field of its key, if that is unset, or else passed over. -/
theorem readMember_fits (h : r.Follows properties required) (origin : Origin)
    {key : String} {j : Json} (value : j.IsValue)
    (fits : ∀ schema, properties.lookup key = some schema → schema.accepts j) {s : σ}
    (fresh : ∀ f ∈ r.fields, f.key = key → f.isSet s = false) :
    ∃ s', r.readMember origin s (key, j) = .ok s' ∧
      ∀ g ∈ r.fields, g.isSet s' ↔ g.key = key ∨ g.isSet s := by
  rw [Record.readMember]
  cases found : r.fields.find? (·.key == key) with
  | none =>
    refine ⟨s, ?_, fun g mem => ?_⟩
    · simp only [(isWhole_of_isValue value).passOver_eq_ok]
      rfl
    · have other : g.key ≠ key := by simpa using List.find?_eq_none.mp found g mem
      rw [or_iff_right other]
  | some f =>
    have mem := List.mem_of_find?_eq_some found
    obtain rfl : f.key = key := by simpa using List.find?_some found
    obtain ⟨schema, listed, reads⟩ := h.reads f mem
    obtain ⟨s', read⟩ := reads j value (fits schema listed) origin s
    refine ⟨s', ?_, fun g there => ?_⟩
    · simpa [fresh f mem rfl] using read
    · rw [h.marks f mem g there origin j s s' read, Bool.or_eq_true, beq_iff_eq]

/-- Members under different keys are read one after the other, each into a field that is unset. -/
theorem foldlM_readMember (h : r.Follows properties required) (origin : Origin)
    {members : List (String × Json)} (distinct : (members.map (·.1)).Nodup)
    (values : ∀ member ∈ members, member.2.IsValue)
    (fits : ∀ key schema, properties.lookup key = some schema →
      ∀ j, (key, j) ∈ members → schema.accepts j)
    {s : σ} (fresh : ∀ f ∈ r.fields, f.key ∈ members.map (·.1) → f.isSet s = false) :
    ∃ s', members.foldlM (r.readMember origin) s = .ok s' ∧
      ∀ f ∈ r.fields, f.isSet s' ↔ f.key ∈ members.map (·.1) ∨ f.isSet s := by
  induction members generalizing s with
  | nil => exact ⟨s, rfl, fun f _ => by simp⟩
  | cons member rest ih =>
    obtain ⟨key, j⟩ := member
    obtain ⟨first, others⟩ := List.nodup_cons.mp distinct
    obtain ⟨s', read, sets⟩ := readMember_fits h origin (values _ List.mem_cons_self)
      (fun schema listed => fits key schema listed j List.mem_cons_self)
      fun f mem same => fresh f mem (same ▸ List.mem_cons_self)
    have unset : ∀ f ∈ r.fields, f.key ∈ rest.map (·.1) → f.isSet s' = false := by
      intro f mem later
      have before := fresh f mem (List.mem_cons_of_mem _ later)
      have ne : f.key ≠ key := fun same => first (same ▸ later)
      rw [Bool.eq_false_iff, Ne, sets f mem, before]
      simpa using ne
    obtain ⟨s'', more, ends⟩ := ih others (fun m mem => values m (List.mem_cons_of_mem _ mem))
      (fun key schema listed j mem => fits key schema listed j (List.mem_cons_of_mem _ mem)) unset
    refine ⟨s'', ?_, fun f mem => ?_⟩
    · rw [List.foldlM_cons, read]
      exact more
    · rw [ends f mem, sets f mem, List.map_cons, List.mem_cons, or_left_comm, or_assoc]

end Decode

/-- A record that follows a schema reads what fits it. -/
theorem Schema.readBy_record {σ α : Type} {r : Decode.Record σ α} {note : SchemaNote}
    {properties : List (String × Schema)} {required : List String} {keepsUnknown : Bool}
    (h : r.Follows properties required) :
    (record note properties required keepsUnknown).ReadBy r.decode := by
  intro j value fits origin
  cases j with
  | object members =>
    obtain ⟨distinct, values⟩ := value
    rw [accepts, Bool.and_eq_true, List.all_eq_true] at fits
    obtain ⟨there, fit⟩ := fits
    obtain ⟨s, read, sets⟩ := Decode.foldlM_readMember h origin distinct
      (Json.membersAreValues_iff.mp values)
      (fun key schema listed j mem => accepts_of_acceptMembers fit listed mem)
      fun f mem _ => h.unset f mem
    have complete : ∀ f ∈ r.fields, f.key ∈ required → f.isSet s := by
      intro f mem needed
      have found : f.key ∈ members.map (·.1) := by simpa using there f.key needed
      exact (sets f mem).mpr (.inl found)
    obtain ⟨a, finished⟩ := h.finishes s complete
    refine ⟨a, ?_⟩
    rw [Decode.Record.decode, Decode.Record.ofMembers, read]
    simp only [bind, Except.bind, finished]
  | _ => simp [accepts] at fits

end CleanupCourier
