import CleanupCourier.Json.Decode
import CleanupCourier.Work

/-!
What can be said of every value that a decoder gives. A list holds values of its items, and a
record is made of a draft: what holds of the first draft, and is kept whenever a field is read,
holds of the last one, in whichever order the fields came and whichever of them came at all.
-/
namespace CleanupCourier

variable {α σ : Type}

/-- Every value that is decoded satisfies a condition. -/
def Decoder.Yields (decode : Decoder α) (P : α → Prop) : Prop :=
  ∀ origin j a, decode origin j = .ok a → P a

namespace Decode

open Attempt (eq_ok_of_bind)

variable {decode : Decoder α} {P : α → Prop} {origin : Origin}

theorem mismatch_ne_ok (expected : String) (j : Json) (a : α) : mismatch expected j ≠ .ok a := by
  intro h
  obtain ⟨found, -, failed⟩ := eq_ok_of_bind h
  exact nomatch failed

theorem forall_of_mapM {β : Type} {read : β → Except DecodeError α} {bs : List β} {as : List α}
    (h : ∀ b ∈ bs, ∀ a, read b = .ok a → P a) (done : bs.mapM read = .ok as) : ∀ a ∈ as, P a := by
  induction bs generalizing as with
  | nil =>
    cases done
    exact fun _ mem => nomatch mem
  | cons b bs ih =>
    rw [List.mapM_cons] at done
    obtain ⟨a, first, done⟩ := eq_ok_of_bind done
    obtain ⟨rest, others, done⟩ := eq_ok_of_bind done
    cases done
    refine List.forall_mem_cons.mpr ⟨h b List.mem_cons_self a first, ?_⟩
    exact ih (fun c mem => h c (List.mem_cons_of_mem _ mem)) others

theorem yields_list (h : decode.Yields P) : (list decode).Yields fun l => ∀ a ∈ l, P a := by
  intro origin j l decoded
  cases j with
  | array items => exact forall_of_mapM (fun item _ => h origin item) decoded
  | _ => exact absurd decoded (mismatch_ne_ok _ _ _)

/-- Reading a field keeps a condition on drafts. -/
def Field.Maintains (I : σ → Prop) (f : Field σ) : Prop :=
  ∀ origin j s s', I s → f.read origin j s = .ok s' → I s'

section Field

variable {γ : Type} {key : String} {get : σ → Option γ} {set : γ → σ → σ} {decode : Decoder γ}
  {I : σ → Prop}

theorem maintains_field {P : γ → Prop} (h : decode.Yields P)
    (kept : ∀ c s, P c → I s → I (set c s)) : (field key get set decode).Maintains I := by
  intro origin j s s' holds read
  obtain ⟨c, decoded, stored⟩ := eq_ok_of_bind read
  cases stored
  exact kept c s (h origin j c decoded) holds

/-- A field that the condition does not look at. -/
theorem maintains_field_of_apart (apart : ∀ c s, I s → I (set c s)) :
    (field key get set decode).Maintains I :=
  maintains_field (P := fun _ => True) (fun _ _ _ _ => trivial) fun c s _ => apart c s

end Field

namespace Record

variable {r : Record σ α} {I : σ → Prop}

theorem holds_of_readMember (fields : ∀ f ∈ r.fields, f.Maintains I) {s s' : σ} (holds : I s)
    {member : String × Json} (read : r.readMember origin s member = .ok s') : I s' := by
  unfold readMember at read
  cases found : r.fields.find? (·.key == member.1) with
  | none =>
    simp only [found] at read
    cases passed : passOver member with
    | error error => simp only [passed] at read; exact nomatch read
    | ok passed =>
      simp only [passed] at read
      cases read
      exact holds
  | some f =>
    simp only [found] at read
    split at read
    · exact nomatch read
    · exact fields f (List.mem_of_find?_eq_some found) origin member.2 s s' holds read

theorem holds_of_foldlM (fields : ∀ f ∈ r.fields, f.Maintains I) {members : List (String × Json)}
    {s s' : σ} (holds : I s) (read : members.foldlM (r.readMember origin) s = .ok s') : I s' := by
  induction members generalizing s with
  | nil =>
    cases read
    exact holds
  | cons member rest ih =>
    obtain ⟨next, first, read⟩ := eq_ok_of_bind read
    exact ih (holds_of_readMember fields holds first) read

theorem holds_of_readItems {fields : List (Field σ)} (each : ∀ f ∈ fields, f.Maintains I)
    {items rest : List Json} {s s' : σ} (holds : I s)
    (read : readItems origin fields items s = .ok (s', rest)) : I s' := by
  induction fields generalizing items s with
  | nil =>
    cases read
    exact holds
  | cons f fields ih =>
    cases items with
    | nil =>
      cases read
      exact holds
    | cons j items =>
      obtain ⟨next, first, read⟩ := eq_ok_of_bind read
      refine ih (fun g mem => each g (List.mem_cons_of_mem _ mem)) ?_ read
      exact each f List.mem_cons_self origin j s next holds first

/-- What a record gives, in either of its forms. -/
theorem yields (draft : I r.draft) (fields : ∀ f ∈ r.fields, f.Maintains I)
    (finish : ∀ s a, I s → r.finish s = .ok a → P a) : r.decode.Yields P := by
  intro origin j a decoded
  cases j with
  | object members =>
    obtain ⟨s, read, ended⟩ := eq_ok_of_bind (show r.ofMembers origin members = .ok a from decoded)
    cases finished : r.finish s with
    | error key => simp only [finished] at ended; exact nomatch ended
    | ok b =>
      simp only [finished] at ended
      cases ended
      exact finish s a (holds_of_foldlM fields draft read) finished
  | array items =>
    obtain ⟨⟨s, rest⟩, read, ended⟩ :=
      eq_ok_of_bind (show r.ofItems origin items = .ok a from decoded)
    cases finished : r.finish s with
    | error key => simp only [finished] at ended; exact nomatch ended
    | ok b =>
      simp only [finished] at ended
      obtain ⟨_, -, ended⟩ := eq_ok_of_bind ended
      cases ended
      exact finish s a (holds_of_readItems fields draft read) finished
  | _ => exact absurd decoded (mismatch_ne_ok _ _ _)

end Record

end Decode

end CleanupCourier
