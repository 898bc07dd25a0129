import CleanupCourier.Json.Decode
import CleanupCourier.Proofs.Work.Matches

/-!
Documents side by side that differ in one place. Where a decoder comes to related values there, or
fails alike, whole lists and records do so too: what comes before that place is read alike, and what
comes after it does not depend on what was read there.
-/
namespace CleanupCourier

namespace Decode

variable {α β : Type} {U : α → α → Prop} {origin : Origin} {j j' : Json}

/-- Holds of lists that differ in one place, by values that are related. -/
def DifferAt (U : α → α → Prop) (i : Nat) (as as' : List α) : Prop :=
  ∃ a a', as[i]? = some a ∧ U a a' ∧ as' = as.set i a'

theorem matches_mapM_set {ε : Type} {read : β → Except ε α} {bs : List β} {i : Nat} {b b' : β}
    (here : bs[i]? = some b) (h : Matches U (read b) (read b')) :
    Matches (DifferAt U i) (bs.mapM read) ((bs.set i b').mapM read) := by
  induction bs generalizing i with
  | nil => exact nomatch here
  | cons first rest ih =>
    cases i with
    | zero =>
      obtain rfl := Option.some.inj here
      rw [List.set_cons_zero, List.mapM_cons, List.mapM_cons]
      refine h.bind fun a a' related => .bind_same _ fun as => ?_
      exact .ok ⟨a, a', rfl, related, rfl⟩
    | succ i =>
      rw [List.set_cons_succ, List.mapM_cons, List.mapM_cons]
      refine .bind_same _ fun a => (ih here).bind fun as as' differ => ?_
      obtain ⟨c, c', there, related, rfl⟩ := differ
      exact .ok ⟨c, c', there, related, rfl⟩

theorem matches_list {decode : Decoder α} {items : List Json} {i : Nat} (here : items[i]? = some j)
    (h : Matches U (decode origin j) (decode origin j')) :
    Matches (DifferAt U i) (list decode origin (.array items))
      (list decode origin (.array (items.set i j'))) :=
  matches_mapM_set here h

variable {σ : Type} {W : σ → σ → Prop}

/-- Drafts that are related stay so when a field is read into both, and the field is set in both or
in neither. -/
structure Field.Keeps (W : σ → σ → Prop) (f : Field σ) : Prop where
  isSet {d d' : σ} : W d d' → f.isSet d = f.isSet d'
  read {d d' : σ} : W d d' → ∀ origin j, Matches W (f.read origin j d) (f.read origin j d')

theorem keeps_field {γ : Type} {key : String} {get : σ → Option γ} {set : γ → σ → σ}
    {decode : Decoder γ} (sameGet : ∀ d d', W d d' → get d = get d')
    (sameSet : ∀ c d d', W d d' → W (set c d) (set c d')) :
    (field key get set decode).Keeps W where
  isSet related := congrArg Option.isSome (sameGet _ _ related)
  read related origin j :=
    .bind_same (decode origin j) fun c => .ok (sameSet c _ _ related)

namespace Record

variable {r : Record σ α} {f : Field σ}

section Object

variable (found : r.fields.find? (·.key == f.key) = some f)
  (others : ∀ g ∈ r.fields, g.key ≠ f.key → g.Keeps W)
  (isSet : ∀ d d', W d d' → f.isSet d = true ∧ f.isSet d' = true)

include found others isSet

/-- A member is read alike into drafts that are related; one that repeats the field is refused. -/
theorem matches_readMember {d d' : σ} (related : W d d') (member : String × Json) :
    Matches W (r.readMember origin d member) (r.readMember origin d' member) := by
  unfold readMember
  by_cases same : member.1 = f.key
  · obtain ⟨set, set'⟩ := isSet d d' related
    rw [same, found]
    simp only [set, set', if_true]
    exact .error _
  · cases listed : r.fields.find? (·.key == member.1) with
    | none => exact .bind_same (passOver member) fun _ => .ok related
    | some g =>
      have key : g.key = member.1 := by simpa using List.find?_some listed
      have keeps := others g (List.mem_of_find?_eq_some listed) (key ▸ same)
      simp only [keeps.isSet related]
      split
      · exact .error _
      · exact keeps.read related origin member.2

/-- By induction on the members after the place. -/
theorem matches_foldlM (after : List (String × Json)) {d d' : σ} (related : W d d') :
    Matches W (after.foldlM (r.readMember origin) d) (after.foldlM (r.readMember origin) d') := by
  induction after generalizing d d' with
  | nil => exact .ok related
  | cons member rest ih =>
    rw [List.foldlM_cons, List.foldlM_cons]
    exact (matches_readMember found others isSet related member).bind fun _ _ => ih

/-- An object in which the value of one member is replaced. -/
theorem matches_decode_object (before after : List (String × Json))
    (read : ∀ d, Matches W (f.read origin j d) (f.read origin j' d)) {V : α → α → Prop}
    (finish : ∀ d d', W d d' → Matches V (r.finish d) (r.finish d')) :
    Matches V (r.decode origin (.object (before ++ (f.key, j) :: after)))
      (r.decode origin (.object (before ++ (f.key, j') :: after))) := by
  have here (d : σ) :
      Matches W (r.readMember origin d (f.key, j)) (r.readMember origin d (f.key, j')) := by
    simp only [readMember, found]
    split
    · exact .error _
    · exact read d
  simp only [decode, ofMembers, List.foldlM_append, List.foldlM_cons, bind_assoc]
  refine .bind_same _ fun d => (here d).bind fun d d' related => ?_
  refine (matches_foldlM found others isSet after related).bind fun d d' related => ?_
  have ends := finish d d' related
  generalize r.finish d = ended at ends ⊢
  generalize r.finish d' = ended' at ends ⊢
  cases ends with
  | ok related => exact .ok related
  | error key => exact .error _

end Object

section Array

theorem matches_readItems_of_related {fields : List (Field σ)} (keeps : ∀ g ∈ fields, g.Keeps W)
    (items : List Json) {d d' : σ} (related : W d d') :
    Matches (fun p p' => W p.1 p'.1 ∧ p.2 = p'.2) (readItems origin fields items d)
      (readItems origin fields items d') := by
  induction fields generalizing items d d' with
  | nil => exact .ok ⟨related, rfl⟩
  | cons g fields ih =>
    cases items with
    | nil => exact .ok ⟨related, rfl⟩
    | cons item items =>
      obtain ⟨first, rest⟩ := List.forall_mem_cons.mp keeps
      exact (first.read related origin item).bind fun _ _ => ih rest items

/-- By induction on the fields before the place. -/
theorem matches_readItems {early late : List (Field σ)} (keeps : ∀ g ∈ late, g.Keeps W)
    (read : ∀ d, Matches W (f.read origin j d) (f.read origin j' d)) {before : List Json}
    (inPlace : before.length = early.length) (after : List Json) (d : σ) :
    Matches (fun p p' => W p.1 p'.1 ∧ p.2 = p'.2)
      (readItems origin (early ++ f :: late) (before ++ j :: after) d)
      (readItems origin (early ++ f :: late) (before ++ j' :: after) d) := by
  induction early generalizing before d with
  | nil =>
    obtain rfl := List.eq_nil_of_length_eq_zero inPlace
    exact (read d).bind fun _ _ => matches_readItems_of_related keeps after
  | cons g early ih =>
    cases before with
    | nil => exact nomatch inPlace
    | cons item before =>
      exact .bind_same (g.read origin item d) fun d =>
        ih (Nat.succ.inj inPlace) d

/-- An array in which one item is replaced. -/
theorem matches_decode_array {early late : List (Field σ)} (fields : r.fields = early ++ f :: late)
    (keeps : ∀ g ∈ late, g.Keeps W)
    (read : ∀ d, Matches W (f.read origin j d) (f.read origin j' d)) {before : List Json}
    (inPlace : before.length = early.length) (after : List Json) {V : α → α → Prop}
    (finish : ∀ d d', W d d' → Matches V (r.finish d) (r.finish d')) :
    Matches V (r.decode origin (.array (before ++ j :: after)))
      (r.decode origin (.array (before ++ j' :: after))) := by
  have items := matches_readItems keeps read inPlace after r.draft
  rw [← fields] at items
  simp only [decode, ofItems, List.length_append, List.length_cons]
  refine items.bind fun (d, rest) (d', rest') ⟨related, same⟩ => ?_
  dsimp only at related same ⊢
  rw [same]
  have ends := finish d d' related
  generalize r.finish d = ended at ends ⊢
  generalize r.finish d' = ended' at ends ⊢
  cases ends with
  | ok related => exact .bind_same (surplus origin _ rest') fun _ => .ok related
  | error key => exact .error _

end Array

end Record

end Decode

end CleanupCourier
