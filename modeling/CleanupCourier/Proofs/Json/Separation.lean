import Mathlib.Data.Option.Basic
import CleanupCourier.Json.Decode

/-!
Records whose fields do not touch each other. Reading a field of such a record sets this field and
no other, so two members of an object can change places, and a field that comes twice is refused.
The errors may differ, so results are compared by what they hold if they succeed.
-/
namespace CleanupCourier

variable {ε α β σ : Type}

theorem toOption_eq_some_iff {result : Except ε α} {a : α} :
    result.toOption = some a ↔ result = .ok a := by
  cases result <;> simp [Except.toOption]

theorem toOption_eq_none_iff {result : Except ε α} :
    result.toOption = none ↔ ∀ a, result ≠ .ok a := by
  cases result <;> simp [Except.toOption]

theorem toOption_bind (result : Except ε α) (next : α → Except ε β) :
    (result >>= next).toOption = result.toOption.bind fun a => (next a).toOption := by
  cases result <;> rfl

theorem toOption_map (f : α → β) (result : Except ε α) :
    (result.map f).toOption = result.toOption.map f := by
  cases result <;> rfl

namespace Decode

/-- Reading one field marks it as set, and no other. -/
def Field.Marks (f g : Field σ) : Prop :=
  ∀ origin j s s', f.read origin j s = .ok s' → g.isSet s' = (g.key == f.key || g.isSet s)

/-- One field marks no other, and if their keys differ it does not matter which is read first. -/
structure Field.Separate (f g : Field σ) : Prop where
  marks : f.Marks g
  comm : f.key ≠ g.key → ∀ origin j k s,
    ((f.read origin j s).toOption.bind fun s' => (g.read origin k s').toOption) =
      (g.read origin k s).toOption.bind fun s' => (f.read origin j s').toOption

section Fields

variable {key key' : String} {get : σ → Option α} {set : α → σ → σ} {decode : Decoder α}
  {get' : σ → Option β} {set' : β → σ → σ} {decode' : Decoder β}

theorem toOption_read (origin : Origin) (j : Json) (s : σ) :
    ((field key get set decode).read origin j s).toOption =
      (decode origin j).toOption.map (set · s) := by
  cases decoded : decode origin j <;> simp [field, decoded, bind, Except.bind, pure, Except.pure,
    Except.toOption]

theorem marks_field (h : ∀ a s, (get' (set a s)).isSome = (key' == key || (get' s).isSome)) :
    (field key get set decode).Marks (field key' get' set' decode') := by
  intro origin j s s' read
  have stored : (decode origin j).toOption.map (set · s) = some s' := by
    rw [← toOption_read, toOption_eq_some_iff]
    exact read
  obtain ⟨a, -, rfl⟩ := Option.map_eq_some_iff.mp stored
  exact h a s

theorem separate_field
    (marks : ∀ a s, (get' (set a s)).isSome = (key' == key || (get' s).isSome))
    (comm : key ≠ key' → ∀ a b s, set' b (set a s) = set a (set' b s)) :
    (field key get set decode).Separate (field key' get' set' decode') where
  marks := marks_field marks
  comm ne origin j k s := by
    simp only [toOption_read]
    cases (decode origin j).toOption <;> cases (decode' origin k).toOption
    case some.some a b => simp [comm ne a b s]
    all_goals rfl

end Fields

/-- Holds if drafts store something that `get` gives and `set` replaces. -/
structure Stores {τ : Type} (get : σ → τ) (set : τ → σ → σ) : Prop where
  get_set (c : τ) (s : σ) : get (set c s) = c
  set_set (c d : τ) (s : σ) : set c (set d s) = set c s

theorem Stores.snd {τ υ : Type} {get : σ → τ × υ} {set : τ × υ → σ → σ} (h : Stores get set) :
    Stores (fun s => (get s).2) fun c s => set ((get s).1, c) s where
  get_set c s := by rw [h.get_set]
  set_set c d s := by rw [h.get_set, h.set_set]

/-- Holds of fields that a draft stores one beside the other. -/
inductive Field.Beside : {τ : Type} → (σ → τ) → (τ → σ → σ) → List (Field σ) → Prop
  | nil {τ : Type} {get : σ → τ} {set : τ → σ → σ} : Beside get set []
  | cons {α τ : Type} {get : σ → Option α × τ} {set : Option α × τ → σ → σ} {key : String}
    {decode : Decoder α} {fields : List (Field σ)}
    (rest : Beside (fun s => (get s).2) (fun c s => set ((get s).1, c) s) fields) :
    Beside get set
      (field key (fun s => (get s).1) (fun a s => set (some a, (get s).2) s) decode :: fields)

section Beside

variable {τ : Type} {get : σ → τ} {set : τ → σ → σ} {fields : List (Field σ)}

/-- Each of the fields reads and changes what is stored of them, and nothing else. -/
theorem Field.Beside.exists_of_mem (h : Beside get set fields) (stores : Stores get set)
    {f : Field σ} (mem : f ∈ fields) :
    ∃ (α : Type) (part : τ → Option α) (put : α → τ → τ) (decode : Decoder α),
      f = field f.key (fun s => part (get s)) (fun a s => set (put a (get s)) s) decode := by
  induction h with
  | nil => exact nomatch mem
  | @cons α τ get set key decode fields _ ih =>
    obtain rfl | mem := List.mem_cons.mp mem
    · exact ⟨α, Prod.fst, fun a c => (some a, c.2), decode, rfl⟩
    · obtain ⟨α, part, put, decode, eq⟩ := ih stores.snd mem
      exact ⟨α, fun c => part c.2, fun a c => (c.1, put a c.2), decode, eq⟩

/-- Fields with different keys that are stored one beside the other are separate. By induction on
the fields: the first one leaves alone what is stored of the others, and they leave it alone. -/
theorem Field.Beside.separate (h : Beside get set fields) (stores : Stores get set)
    (different : (fields.map (·.key)).Nodup) : ∀ f ∈ fields, ∀ g ∈ fields, f.Separate g := by
  induction h with
  | nil => exact fun _ mem => nomatch mem
  | @cons α τ get set key decode fields rest ih =>
    obtain ⟨new, different⟩ := List.nodup_cons.mp different
    have other (g : Field σ) (mem : g ∈ fields) : g.key ≠ key :=
      fun same => new (List.mem_map.mpr ⟨g, mem, same⟩)
    intro f mem g mem'
    obtain rfl | mem := List.mem_cons.mp mem <;> obtain rfl | mem' := List.mem_cons.mp mem'
    · exact separate_field (fun a s => by simp [stores.get_set]) fun ne => absurd rfl ne
    · have ne := other g mem'
      obtain ⟨β, part, put, decode', eq⟩ := rest.exists_of_mem stores.snd mem'
      rw [eq]
      refine separate_field (fun a s => ?_) fun _ a b s => ?_
      · simp [stores.get_set, ne]
      · simp [stores.get_set, stores.set_set]
    · have ne := (other f mem).symm
      obtain ⟨β, part, put, decode', eq⟩ := rest.exists_of_mem stores.snd mem
      rw [eq]
      refine separate_field (fun a s => ?_) fun _ a b s => ?_
      · simp [stores.get_set, ne]
      · simp [stores.get_set, stores.set_set]
    · exact ih stores.snd different f mem g mem'

end Beside

namespace Record

variable {r : Record σ α} {origin : Origin}

/-- Reads a member into a draft, where it does not matter how this fails. -/
def enter (r : Record σ α) (origin : Origin) (s : σ) (member : String × Json) : Option σ :=
  (r.readMember origin s member).toOption

theorem toOption_foldlM (members : List (String × Json)) (s : σ) :
    (members.foldlM (r.readMember origin) s).toOption = members.foldlM (r.enter origin) s := by
  induction members generalizing s with
  | nil => rfl
  | cons member rest ih =>
    rw [List.foldlM_cons, List.foldlM_cons, toOption_bind]
    exact Option.bind_congr fun s' _ => ih s'

theorem toOption_decode_object (members : List (String × Json)) :
    (r.decode origin (.object members)).toOption =
      (members.foldlM (r.enter origin) r.draft).bind fun s => (r.finish s).toOption := by
  rw [decode, ofMembers, toOption_bind, toOption_foldlM]
  refine Option.bind_congr fun s _ => ?_
  cases r.finish s <;> rfl

theorem enter_of_unknown {member : String × Json}
    (unlisted : r.fields.find? (·.key == member.1) = none) (s : σ) :
    r.enter origin s member = (passOver member).toOption.map fun _ => s := by
  simp only [enter, readMember, unlisted, toOption_map]

theorem enter_of_known {member : String × Json} {f : Field σ}
    (listed : r.fields.find? (·.key == member.1) = some f) (s : σ) :
    r.enter origin s member =
      if f.isSet s then none else (f.read origin member.2 s).toOption := by
  simp only [enter, readMember, listed]
  split <;> rfl

/-- Any two fields are separate. -/
def IsSeparate (r : Record σ α) : Prop :=
  ∀ f ∈ r.fields, ∀ g ∈ r.fields, f.Separate g

/-- Fields are separate if a draft is made of what it stores of each of them. -/
theorem isSeparate_of_stores {τ : Type} (get : σ → τ) (set : τ → σ)
    (beside : Field.Beside get (fun c _ => set c) r.fields) (stored : ∀ c, get (set c) = c)
    (different : (r.fields.map (·.key)).Nodup) : r.IsSeparate :=
  beside.separate ⟨fun c _ => stored c, fun _ _ _ => rfl⟩ different

theorem IsSeparate.marks (h : r.IsSeparate) : ∀ f ∈ r.fields, ∀ g ∈ r.fields, f.Marks g :=
  fun f mem g mem' => (h f mem g mem').marks

section Separate

variable (h : r.IsSeparate)

include h

/-- A field that comes twice is refused. -/
theorem enter_twice {m m' : String × Json} (same : m.1 = m'.1) {f : Field σ}
    (listed : r.fields.find? (·.key == m.1) = some f) (s : σ) :
    (r.enter origin s m).bind (r.enter origin · m') = none := by
  have mem := List.mem_of_find?_eq_some listed
  simp only [enter_of_known listed, enter_of_known (same ▸ listed)]
  split
  · rfl
  · refine Option.bind_eq_none_iff.mpr fun s' read => ?_
    have set : f.isSet s' := by
      rw [(h f mem f mem).marks _ _ _ _ (toOption_eq_some_iff.mp read), beq_self_eq_true,
        Bool.true_or]
    exact if_pos set

/-- Fields with different keys are read one after the other if both are unset. -/
theorem enter_enter {m m' : String × Json} (ne : m.1 ≠ m'.1) {f g : Field σ}
    (listed : r.fields.find? (·.key == m.1) = some f)
    (listed' : r.fields.find? (·.key == m'.1) = some g) (s : σ) :
    (r.enter origin s m).bind (r.enter origin · m') =
      if f.isSet s || g.isSet s then none else
        (f.read origin m.2 s).toOption.bind fun s' => (g.read origin m'.2 s').toOption := by
  have key : f.key = m.1 := by simpa using List.find?_some listed
  have key' : g.key = m'.1 := by simpa using List.find?_some listed'
  have kept (s' : σ) (read : (f.read origin m.2 s).toOption = some s') :
      g.isSet s' = g.isSet s := by
    have separate := h f (List.mem_of_find?_eq_some listed) g (List.mem_of_find?_eq_some listed')
    have other : (g.key == f.key) = false := by
      rw [key, key']
      exact beq_eq_false_iff_ne.mpr ne.symm
    rw [separate.marks _ _ _ _ (toOption_eq_some_iff.mp read), other, Bool.false_or]
  simp only [enter_of_known listed, enter_of_known listed']
  by_cases first : f.isSet s
  · simp [first]
  · by_cases second : g.isSet s
    · simp only [first, second, Bool.or_true, if_true]
      exact Option.bind_eq_none_iff.mpr fun s' read => if_pos ((kept s' read).trans second)
    · simp only [first, second, Bool.or_self, Bool.false_eq_true, if_false]
      refine Option.bind_congr fun s' read => if_neg ?_
      rwa [kept s' read]

/-- Two members may change places. -/
theorem enter_comm (m m' : String × Json) (s : σ) :
    (r.enter origin s m).bind (r.enter origin · m') =
      (r.enter origin s m').bind (r.enter origin · m) := by
  cases listed : r.fields.find? (·.key == m.1) with
  | none =>
    simp only [enter_of_unknown listed]
    cases (passOver m).toOption <;> simp
  | some f =>
    cases listed' : r.fields.find? (·.key == m'.1) with
    | none =>
      simp only [enter_of_unknown listed']
      cases (passOver m').toOption <;> simp
    | some g =>
      by_cases same : m.1 = m'.1
      · rw [enter_twice h same listed, enter_twice h same.symm listed']
      · have mem := List.mem_of_find?_eq_some listed
        have separate := h f mem g (List.mem_of_find?_eq_some listed')
        have ne : f.key ≠ g.key := by
          have key : f.key = m.1 := by simpa using List.find?_some listed
          have key' : g.key = m'.1 := by simpa using List.find?_some listed'
          rwa [key, key']
        rw [enter_enter h same listed listed', enter_enter h (Ne.symm same) listed' listed,
          separate.comm ne, Bool.or_comm]

/-- The members of an object may come in any order. -/
theorem foldlM_enter_perm {members members' : List (String × Json)}
    (perm : members.Perm members') (s : σ) :
    members.foldlM (r.enter origin) s = members'.foldlM (r.enter origin) s := by
  induction perm generalizing s with
  | nil => rfl
  | cons m _ ih => exact Option.bind_congr fun s' _ => ih s'
  | swap m m' rest =>
    simp only [List.foldlM_cons, Option.bind_eq_bind, ← Option.bind_assoc]
    rw [enter_comm h]
  | trans _ _ ih ih' => exact (ih s).trans (ih' s)

end Separate

end Record

end Decode

end CleanupCourier
