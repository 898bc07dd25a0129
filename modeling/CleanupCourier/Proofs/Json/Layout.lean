import Mathlib.Logic.Relation
import CleanupCourier.Proofs.Json.Codec
import CleanupCourier.Proofs.Json.Separation
import CleanupCourier.Proofs.Json.Whole

/-!
Where the records of a document stand, and what can be done to the objects there. Whichever place
an object is in, what is read of it decides all the rest. So its members may come in any order, and
with others among them whose keys are no fields; but if a field comes twice, the whole is refused.
-/
namespace CleanupCourier

/-- Which documents hold records, and where. -/
inductive Layout where
  | plain
  | list (items : Layout)
  | record (fields : List (String × Layout))

namespace Layout

/-- A place for an object in a document, with the names of the fields that are read there. The
document is given as what it becomes with the members of that object. -/
inductive Place : Layout → List String → (List (String × Json) → Json) → Prop
  | here (fields : List (String × Layout)) :
    Place (.record fields) (fields.map Prod.fst) .object
  | member {fields : List (String × Layout)} {key : String} {layout : Layout} {names : List String}
    {fill : List (String × Json) → Json} (listed : fields.lookup key = some layout)
    (inner : Place layout names fill) (before after : List (String × Json)) :
    Place (.record fields) names fun members => .object (before ++ (key, fill members) :: after)
  | position {fields : List (String × Layout)} {key : String} {layout : Layout}
    {names : List String} {fill : List (String × Json) → Json} {before : List Json}
    (inPlace : fields[before.length]? = some (key, layout)) (inner : Place layout names fill)
    (after : List Json) :
    Place (.record fields) names fun members => .array (before ++ fill members :: after)
  | item {layout : Layout} {names : List String} {fill : List (String × Json) → Json}
    (inner : Place layout names fill) (before after : List Json) :
    Place (.list layout) names fun members => .array (before ++ fill members :: after)

/-- A change to one object of a document: its members are reordered, or get another one among them
whose key is not the name of a field. -/
inductive Edit (layout : Layout) : Json → Json → Prop
  | reorder {names : List String} {fill : List (String × Json) → Json}
    (place : layout.Place names fill) {members members' : List (String × Json)}
    (perm : members.Perm members') : Edit layout (fill members) (fill members')
  | insert {names : List String} {fill : List (String × Json) → Json}
    (place : layout.Place names fill) (before after : List (String × Json)) {key : String}
    (unknown : key ∉ names) {j : Json} (whole : j.IsWhole) :
    Edit layout (fill (before ++ after)) (fill (before ++ (key, j) :: after))

/-- Any number of changes, one after the other. -/
def Rearranged (layout : Layout) : Json → Json → Prop :=
  Relation.ReflTransGen layout.Edit

/-- Holds of documents in which an object has a field twice. -/
inductive Repeats (layout : Layout) : Json → Prop
  | twice {names : List String} {fill : List (String × Json) → Json}
    (place : layout.Place names fill) {key : String} (known : key ∈ names)
    (before between after : List (String × Json)) (j j' : Json) :
    Repeats layout (fill (before ++ (key, j) :: between ++ (key, j') :: after))

end Layout

variable {α β γ σ : Type}

/-- An object in any of the places is read by a record whose fields are separate, and what comes of
the document is a matter of what comes of this object. -/
def Decoder.HasLayout (decode : Decoder α) (layout : Layout) : Prop :=
  ∀ {names fill}, layout.Place names fill → ∀ origin, ∃ (σ γ : Type) (r : Decode.Record σ γ)
    (next : γ → Option α), r.IsSeparate ∧ r.fields.map (·.key) = names ∧
      ∀ members, (decode origin (fill members)).toOption =
        (r.decode origin (.object members)).toOption.bind next

namespace Decode

variable {decode : Decoder α} {layout : Layout}

theorem hasLayout_plain (decode : Decoder α) : decode.HasLayout .plain :=
  fun place => nomatch place

/-- A decoder that hands a document on has the places of the decoder that it is handed to. -/
theorem HasLayout.of_bind {decode : Decoder α} {inner : Decoder β} {names : List String}
    {fill : List (String × Json) → Json} (outer : Json → Json) (h : inner.HasLayout layout)
    (place : layout.Place names fill) (origin : Origin) {next : β → Option α}
    (handed : ∀ j, (decode origin (outer j)).toOption = (inner origin j).toOption.bind next) :
    ∃ (σ γ : Type) (r : Record σ γ) (next : γ → Option α), r.IsSeparate ∧
      r.fields.map (·.key) = names ∧ ∀ members, (decode origin (outer (fill members))).toOption =
        (r.decode origin (.object members)).toOption.bind next := by
  obtain ⟨σ, γ, r, rest, separate, named, read⟩ := h place origin
  refine ⟨σ, γ, r, fun c => (rest c).bind next, separate, named, fun members => ?_⟩
  rw [handed, read, Option.bind_assoc]

theorem toOption_mapM (items : List Json) (read : Json → Except DecodeError α) :
    (items.mapM read).toOption = items.mapM fun j => (read j).toOption := by
  induction items with
  | nil => rfl
  | cons j items ih =>
    rw [List.mapM_cons, List.mapM_cons, toOption_bind]
    refine Option.bind_congr fun a _ => ?_
    rw [toOption_bind, ih]
    rfl

theorem hasLayout_list (h : decode.HasLayout layout) : (list decode).HasLayout (.list layout) := by
  intro names fill place origin
  cases place with
  | item inner before after =>
    let next (a : α) := (before.mapM fun j => (decode origin j).toOption).bind fun as =>
      (after.mapM fun j => (decode origin j).toOption).bind fun as' => some (as ++ a :: as')
    have handed (j : Json) : (list decode origin (.array (before ++ j :: after))).toOption =
        (decode origin j).toOption.bind next := by
      rw [list, toOption_mapM, List.mapM_append, List.mapM_cons]
      cases (decode origin j).toOption with
      | none => simp
      | some a => simp [next, Option.bind_assoc]
    exact HasLayout.of_bind (fun j => .array (before ++ j :: after)) h inner origin handed

theorem optional_of_place {names : List String} {fill : List (String × Json) → Json}
    (place : layout.Place names fill) (origin : Origin) (members : List (String × Json)) :
    optional decode origin (fill members) = (decode origin (fill members)).map some := by
  cases place <;> rfl

theorem hasLayout_optional (h : decode.HasLayout layout) : (optional decode).HasLayout layout := by
  intro names fill place origin
  obtain ⟨σ, γ, r, next, separate, named, read⟩ := h place origin
  refine ⟨σ, γ, r, fun c => (next c).map some, separate, named, fun members => ?_⟩
  rw [optional_of_place place, toOption_map, read, Option.map_bind]
  rfl

/-- A field that reads its value by a layout. -/
structure Field.HasLayout (f : Field σ) (entry : String × Layout) : Prop where
  key : f.key = entry.1
  reads : ∃ (γ : Type) (decode : Decoder γ) (set : γ → σ → σ), decode.HasLayout entry.2 ∧
    ∀ origin j s, (f.read origin j s).toOption = (decode origin j).toOption.map (set · s)

theorem hasLayout_field {key : String} {get : σ → Option α} {set : α → σ → σ}
    (h : decode.HasLayout layout) : (field key get set decode).HasLayout (key, layout) where
  key := rfl
  reads := ⟨α, decode, set, h, toOption_read⟩

namespace Record

variable {r : Record σ α} {origin : Origin} {f : Field σ} {inner : Decoder γ}
  {set : γ → σ → σ}

section Member

variable (read : ∀ j s, (f.read origin j s).toOption = (inner origin j).toOption.map (set · s))

include read

/-- What comes of an object is a matter of what comes of any one of its fields. -/
theorem toOption_decode_member {key : String} (listed : r.fields.find? (·.key == key) = some f)
    (before after : List (String × Json)) :
    ∃ next, ∀ j, (r.decode origin (.object (before ++ (key, j) :: after))).toOption =
      (inner origin j).toOption.bind next := by
  refine ⟨fun c => (before.foldlM (r.enter origin) r.draft).bind fun s =>
    (if f.isSet s then none else after.foldlM (r.enter origin) (set c s)).bind fun s =>
      (r.finish s).toOption, fun j => ?_⟩
  have entered (s : σ) : r.enter origin s (key, j) =
      if f.isSet s then none else (inner origin j).toOption.map (set · s) := by
    rw [← read]
    exact enter_of_known listed s
  simp only [toOption_decode_object, List.foldlM_append, List.foldlM_cons, entered]
  cases (inner origin j).toOption with
  | none => simp
  | some c =>
    simp only [Option.map_some, Option.bind_some, Option.bind_eq_bind, Option.bind_assoc]
    refine Option.bind_congr fun s _ => ?_
    split <;> rfl

/-- What comes of the items is a matter of what comes of any one of those that are fields. -/
theorem toOption_readItems {fields : List (Field σ)} {before : List Json}
    (inPlace : fields[before.length]? = some f) (after : List Json) (s : σ) :
    ∃ next, ∀ j, (readItems origin fields (before ++ j :: after) s).toOption =
      (inner origin j).toOption.bind next := by
  induction before generalizing fields s with
  | nil =>
    obtain ⟨g, later, rfl⟩ : ∃ g later, fields = g :: later := by
      cases fields with
      | nil => exact nomatch inPlace
      | cons g later => exact ⟨g, later, rfl⟩
    obtain rfl := Option.some.inj inPlace
    refine ⟨fun c => (readItems origin later after (set c s)).toOption, fun j => ?_⟩
    rw [List.nil_append, readItems, toOption_bind, read]
    cases (inner origin j).toOption <;> rfl
  | cons k before ih =>
    cases fields with
    | nil => exact nomatch inPlace
    | cons g later =>
      have inPlace' : later[before.length]? = some f := inPlace
      choose next rest using ih inPlace'
      refine ⟨fun c => (g.read origin k s).toOption.bind fun s' => next s' c, fun j => ?_⟩
      simp only [List.cons_append, readItems, toOption_bind, rest]
      cases (inner origin j).toOption <;> simp

theorem toOption_decode_position {before : List Json}
    (inPlace : r.fields[before.length]? = some f) (after : List Json) :
    ∃ next, ∀ j, (r.decode origin (.array (before ++ j :: after))).toOption =
      (inner origin j).toOption.bind next := by
  obtain ⟨next, items⟩ := toOption_readItems read inPlace after r.draft
  refine ⟨fun c => (next c).bind fun left => (r.finish left.1).toOption.bind fun a =>
    (surplus origin (before.length + (after.length + 1)) left.2).toOption.map fun _ => a,
    fun j => ?_⟩
  rw [decode, ofItems, toOption_bind, items, Option.bind_assoc]
  refine Option.bind_congr fun c _ => Option.bind_congr fun left _ => ?_
  dsimp only
  cases r.finish left.1 with
  | error key => rfl
  | ok a =>
    rw [toOption_bind, List.length_append, List.length_cons]
    cases (surplus origin _ left.2) <;> rfl

end Member

variable {fields : List (String × Layout)}

/-- A record with separate fields that read their values by layouts. -/
structure HasLayout (r : Record σ α) (fields : List (String × Layout)) : Prop where
  separate : r.IsSeparate
  fields : List.Forall₂ Field.HasLayout r.fields fields

theorem keys_of_forall₂ {fs : List (Field σ)} (h : List.Forall₂ Field.HasLayout fs fields) :
    fs.map (·.key) = fields.map Prod.fst := by
  induction h with
  | nil => rfl
  | cons first _ ih => rw [List.map_cons, List.map_cons, first.key, ih]

theorem find?_of_lookup {fs : List (Field σ)} (h : List.Forall₂ Field.HasLayout fs fields)
    {key : String} (listed : fields.lookup key = some layout) :
    ∃ f, fs.find? (·.key == key) = some f ∧ f.HasLayout (key, layout) := by
  induction h with
  | nil => exact nomatch listed
  | @cons f entry fs fields first _ ih =>
    rw [List.lookup_cons] at listed
    rw [List.find?_cons, first.key]
    by_cases same : key = entry.1
    · subst same
      simp only [beq_self_eq_true, Option.some.injEq] at listed ⊢
      exact ⟨f, rfl, listed ▸ first⟩
    · rw [beq_eq_false_iff_ne.mpr same] at listed
      rw [beq_eq_false_iff_ne.mpr (Ne.symm same)]
      exact ih listed

theorem getElem?_of_forall₂ {fs : List (Field σ)} (h : List.Forall₂ Field.HasLayout fs fields)
    {i : Nat} {entry : String × Layout} (inPlace : fields[i]? = some entry) :
    ∃ f, fs[i]? = some f ∧ f.HasLayout entry := by
  induction h generalizing i with
  | nil => exact nomatch inPlace
  | @cons f entry fs fields first _ ih =>
    cases i with
    | zero =>
      obtain rfl := Option.some.inj inPlace
      exact ⟨f, rfl, first⟩
    | succ i => exact ih inPlace

theorem hasLayout (h : r.HasLayout fields) : r.decode.HasLayout (.record fields) := by
  intro names fill place origin
  cases place with
  | here =>
    refine ⟨σ, α, r, some, h.separate, keys_of_forall₂ h.fields, fun members => ?_⟩
    cases (r.decode origin (.object members)).toOption <;> rfl
  | member listed inner before after =>
    obtain ⟨f, found, -, γ, decode, set, suited, read⟩ := find?_of_lookup h.fields listed
    obtain ⟨next, handed⟩ := toOption_decode_member (read origin) found before after
    exact HasLayout.of_bind (fun j => .object (before ++ (_, j) :: after)) suited inner
      origin handed
  | position inPlace inner after =>
    obtain ⟨f, there, -, γ, decode, set, suited, read⟩ := getElem?_of_forall₂ h.fields inPlace
    obtain ⟨next, handed⟩ := toOption_decode_position (read origin) there after
    exact HasLayout.of_bind (fun j => .array (_ ++ j :: after)) suited inner origin handed

/-! Objects: their members are read in any order, others are passed over, none may come twice. -/

theorem toOption_decode_perm (h : r.IsSeparate) {members members' : List (String × Json)}
    (perm : members.Perm members') :
    (r.decode origin (.object members)).toOption =
      (r.decode origin (.object members')).toOption := by
  rw [toOption_decode_object, toOption_decode_object, foldlM_enter_perm h perm]

theorem toOption_decode_insert {key : String} (unknown : key ∉ r.fields.map (·.key)) {j : Json}
    (whole : j.IsWhole) (before after : List (String × Json)) :
    (r.decode origin (.object (before ++ (key, j) :: after))).toOption =
      (r.decode origin (.object (before ++ after))).toOption := by
  have unlisted : r.fields.find? (·.key == key) = none := by
    refine List.find?_eq_none.mpr fun f mem same => unknown ?_
    exact List.mem_map.mpr ⟨f, mem, by simpa using same⟩
  have passed (s : σ) : r.enter origin s (key, j) = some s := by
    rw [enter_of_unknown unlisted, whole.passOver_eq_ok]
    rfl
  simp only [toOption_decode_object, List.foldlM_append, List.foldlM_cons, passed]
  rfl

theorem toOption_decode_twice (h : r.IsSeparate) {key : String}
    (known : key ∈ r.fields.map (·.key)) (before between after : List (String × Json))
    (j j' : Json) :
    (r.decode origin (.object (before ++ (key, j) :: between ++ (key, j') :: after))).toOption =
      none := by
  obtain ⟨f, mem, same⟩ := List.mem_map.mp known
  obtain ⟨g, listed⟩ : ∃ g, r.fields.find? (·.key == key) = some g := by
    refine Option.isSome_iff_exists.mp (List.find?_isSome.mpr ⟨f, mem, ?_⟩)
    simpa using same
  have together : (before ++ (key, j) :: between ++ (key, j') :: after).Perm
      ((key, j) :: (key, j') :: (before ++ between ++ after)) := by
    refine List.perm_middle.trans ?_
    have first : (before ++ (key, j) :: between ++ after).Perm
        ((key, j) :: (before ++ between ++ after)) := by simp [List.perm_middle]
    exact (first.cons _).trans (.swap _ _ _)
  simp only [toOption_decode_object, foldlM_enter_perm h together, List.foldlM_cons,
    Option.bind_eq_bind, ← Option.bind_assoc]
  rw [enter_twice h (show (key, j).1 = (key, j').1 from rfl) listed]
  rfl

end Record

section Document

variable (h : decode.HasLayout layout)

include h

theorem toOption_of_edit {j j' : Json} (edit : layout.Edit j j') (origin : Origin) :
    (decode origin j).toOption = (decode origin j').toOption := by
  cases edit with
  | reorder place perm =>
    obtain ⟨σ, γ, r, next, separate, -, read⟩ := h place origin
    rw [read, read, Record.toOption_decode_perm separate perm]
  | insert place before after unknown whole =>
    obtain ⟨σ, γ, r, next, -, rfl, read⟩ := h place origin
    rw [read, read, Record.toOption_decode_insert unknown whole]

theorem toOption_of_repeats {j : Json} (repeats : layout.Repeats j) (origin : Origin) :
    (decode origin j).toOption = none := by
  cases repeats with
  | twice place known before between after j j' =>
    obtain ⟨σ, γ, r, next, separate, rfl, read⟩ := h place origin
    rw [read, Record.toOption_decode_twice separate known]
    rfl

/-- By induction on the number of changes. -/
theorem toOption_of_rearranged {j j' : Json} (rearranged : layout.Rearranged j j')
    (origin : Origin) : (decode origin j).toOption = (decode origin j').toOption := by
  induction rearranged with
  | refl => rfl
  | tail _ edit ih => exact ih.trans (toOption_of_edit h edit origin)

end Document

end Decode

/-- It does not matter for decoding how the objects of a document are arranged and what else is in
them, while none may have a field twice. The same goes for all texts that are read as such
documents. -/
structure Decoder.IgnoresArrangement (decode : Decoder α) (layout : Layout) : Prop where
  rearranged : ∀ j j', layout.Rearranged j j' →
    ∀ origin a, decode origin j = .ok a ↔ decode origin j' = .ok a
  rearranged_text : ∀ t t' j j' more, Json.read t.toList = ⟨j, more⟩ →
    Json.read t'.toList = ⟨j', more⟩ → layout.Rearranged j j' →
      ∀ a, Decode.text decode t = .ok a ↔ Decode.text decode t' = .ok a
  repeats : ∀ j, layout.Repeats j → ∀ origin a, decode origin j ≠ .ok a
  repeats_text : ∀ t j more, Json.read t.toList = ⟨j, more⟩ → layout.Repeats j →
    ∀ a, Decode.text decode t ≠ .ok a

theorem Decode.ignoresArrangement {decode : Decoder α} {layout : Layout}
    (h : decode.HasLayout layout) : decode.IgnoresArrangement layout := by
  have rearranged (j j' : Json) (rearranged : layout.Rearranged j j') (origin : Origin) (a : α) :
      decode origin j = .ok a ↔ decode origin j' = .ok a := by
    rw [← toOption_eq_some_iff, ← toOption_eq_some_iff, toOption_of_rearranged h rearranged]
  have repeats (j : Json) (repeats : layout.Repeats j) (origin : Origin) (a : α) :
      decode origin j ≠ .ok a :=
    toOption_eq_none_iff.mp (toOption_of_repeats h repeats origin) a
  refine ⟨rearranged, ?_, repeats, ?_⟩
  · intro t t' j j' more read read' changed a
    rw [text_eq_ok_iff, text_eq_ok_iff, read, read']
    have same := rearranged j j' changed .stream a
    constructor
    · rintro ⟨_, ⟨⟩, decoded⟩
      exact ⟨j', rfl, same.mp decoded⟩
    · rintro ⟨_, ⟨⟩, decoded⟩
      exact ⟨j, rfl, same.mpr decoded⟩
  · intro t j more read twice a decoded
    obtain ⟨_, read', decoded⟩ := text_eq_ok_iff.mp decoded
    cases read.symm.trans read'
    exact repeats j twice .stream a decoded

end CleanupCourier
