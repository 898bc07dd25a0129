import CleanupCourier.Json.Decode
import Mathlib.Tactic.Common

/-!
What the text of a value is read as. If the reader comes to the end of a value, it has left no fault
in it, at any depth; strings and keys need not be text. Such a value can be passed over.
-/
namespace CleanupCourier

namespace Json

mutual

/-- Holds of values whose text was read to its end. -/
inductive IsWhole : Json → Prop
  | null : IsWhole .null
  | bool (b : Bool) : IsWhole (.bool b)
  | number (lexeme : String) : IsWhole (.number lexeme)
  | string (s : String) : IsWhole (.string s)
  | unreadable : IsWhole (.unreadable .null)
  | array {items : List Json} (items_whole : ∀ j ∈ items, IsWhole j) : IsWhole (.array items)
  | object {members : List (String × Json)} (members_whole : ∀ m ∈ members, IsWholeMember m) :
    IsWhole (.object members)

inductive IsWholeMember : String × Json → Prop
  | named (key : String) {j : Json} (value : IsWhole j) : IsWholeMember (key, j)
  | misnamed {j : Json} (value : IsWhole j) : IsWholeMember (misnamed j)

end

theorem skipFaultItems?_eq_none_iff {items : List Json} :
    skipFaultItems? items = none ↔ ∀ j ∈ items, j.skipFault? = none := by
  induction items with
  | nil => simp [skipFaultItems?]
  | cons item rest ih => simp [skipFaultItems?, ih]

theorem skipFaultMembers?_eq_none_iff {members : List (String × Json)} :
    skipFaultMembers? members = none ↔ ∀ m ∈ members, m.2.skipFault? = none := by
  induction members with
  | nil => simp [skipFaultMembers?]
  | cons member rest ih => simp [skipFaultMembers?, ih]

mutual

theorem IsWhole.skipFault?_eq_none {j : Json} : j.IsWhole → j.skipFault? = none
  | .null | .bool _ | .number _ | .string _ | .unreadable => rfl
  | .array h => skipFaultItems?_eq_none_iff.mpr fun j mem => (h j mem).skipFault?_eq_none
  | .object h => skipFaultMembers?_eq_none_iff.mpr fun m mem => (h m mem).skipFault?_eq_none

theorem IsWholeMember.skipFault?_eq_none {m : String × Json} :
    IsWholeMember m → m.2.skipFault? = none
  | .named _ h => h.skipFault?_eq_none
  | .misnamed h => by simp [misnamed, skipFault?, skipFaultItems?, h.skipFault?_eq_none]

end

/-- Passing over a member does not lose anything of what comes after it, if its value is whole. -/
theorem IsWhole.passOver_eq_ok {j : Json} (h : j.IsWhole) (key : String) :
    Decode.passOver (key, j) = .ok () := by
  have passed : Decode.skip j = .ok () := by rw [Decode.skip, h.skipFault?_eq_none]
  cases h with
  | unreadable => rfl
  | _ => exact passed

theorem isWhole_ofWord {j : Json} (h : j.IsWhole) {word s : List Char} {read : Json}
    {rest : List Char} (ends : Reading.ofWord j word s = (read, some rest)) : read.IsWhole := by
  unfold Reading.ofWord at ends
  split at ends
  · cases ends
    exact h
  · cases ends

theorem isWhole_ofString {r : Except Fault (List (Option Char) × List Char)} {read : Json}
    {rest : List Char} (ends : Reading.ofString r = (read, some rest)) : read.IsWhole := by
  unfold Reading.ofString at ends
  split at ends
  · cases ends
  · split at ends
    · cases ends
      exact .string _
    · cases ends
      exact .unreadable

theorem isWhole_ofScalar {make : List Char → Json} (h : ∀ lexeme, (make lexeme).IsWhole)
    {r : Except Fault (List Char × List Char)} {read : Json} {rest : List Char}
    (ends : Reading.ofScalar make r = (read, some rest)) : read.IsWhole := by
  unfold Reading.ofScalar at ends
  split at ends
  · cases ends
    exact h _
  · cases ends

/-- What the reader comes to the end of is whole: values, and the items and members of a list. -/
structure ReadsWhole (fuel : Nat) : Prop where
  value : ∀ {s j rest}, value fuel s = (j, some rest) → j.IsWhole
  firstItem : ∀ {s items rest}, firstItem fuel s = (items, some rest) → ∀ j ∈ items, j.IsWhole
  item : ∀ {s items rest}, item fuel s = (items, some rest) → ∀ j ∈ items, j.IsWhole
  firstMember : ∀ {s members rest}, firstMember fuel s = (members, some rest) →
    ∀ m ∈ members, IsWholeMember m
  member : ∀ {s members rest}, member fuel s = (members, some rest) →
    ∀ m ∈ members, IsWholeMember m

section Steps

variable {fuel : Nat} (h : ReadsWhole fuel) {s rest : List Char}

include h

theorem value_whole {j : Json} (ends : value (fuel + 1) s = (j, some rest)) : j.IsWhole := by
  rw [value] at ends
  split at ends
  case h_1 => cases ends
  case h_2 => exact isWhole_ofWord .null ends
  case h_3 => exact isWhole_ofWord (.bool _) ends
  case h_4 => exact isWhole_ofWord (.bool _) ends
  case h_5 => exact isWhole_ofString ends
  case h_6 =>
    obtain ⟨rfl, after⟩ := Prod.mk.inj ends
    exact .array (h.firstItem (Prod.ext rfl after))
  case h_7 =>
    obtain ⟨rfl, after⟩ := Prod.mk.inj ends
    exact .object (h.firstMember (Prod.ext rfl after))
  case h_8 =>
    split at ends
    · exact isWhole_ofScalar (fun _ => .number _) ends
    · cases ends

theorem item_whole {items : List Json} (ends : item (fuel + 1) s = (items, some rest)) :
    ∀ j ∈ items, j.IsWhole := by
  rw [item] at ends
  split at ends
  · cases ends
  · rename_i j after read
    have first := h.value read
    split at ends
    · cases ends
    · cases ends
      simpa using first
    · obtain ⟨rfl, after⟩ := Prod.mk.inj ends
      exact List.forall_mem_cons.mpr ⟨first, h.item (Prod.ext rfl after)⟩
    · cases ends

theorem member_whole {members : List (String × Json)}
    (ends : member (fuel + 1) s = (members, some rest)) : ∀ m ∈ members, IsWholeMember m := by
  rw [member] at ends
  split at ends
  case h_1 => cases ends
  case h_3 => cases ends
  split at ends
  · cases ends
  · rename_i key? after keyRead
    clear keyRead
    extract_lets named at ends
    have whole (j : Json) (value : j.IsWhole) : IsWholeMember (named j) := by
      clear ends
      cases key? with
      | some key => exact .named key value
      | none => exact .misnamed value
    split at ends
    · cases ends
    · rename_i j rest' read
      have first := whole j (h.value read)
      split at ends
      · cases ends
      · cases ends
        exact List.forall_mem_singleton.mpr first
      · obtain ⟨rfl, after⟩ := Prod.mk.inj ends
        exact List.forall_mem_cons.mpr ⟨first, h.member (Prod.ext rfl after)⟩
      · cases ends

end Steps

/-- By induction on the fuel, of which each step takes one. -/
theorem readsWhole : ∀ fuel, ReadsWhole fuel
  | 0 => by
    constructor
    all_goals
      intro s read rest ends
      cases ends
  | fuel + 1 => by
    have h := readsWhole fuel
    refine ⟨value_whole h, ?_, item_whole h, ?_, member_whole h⟩
    · intro s items rest ends
      rw [Json.firstItem.eq_def] at ends
      split at ends
      case h_3 =>
        cases ends
        exact fun _ mem => absurd mem List.not_mem_nil
      case h_4 same _ _ =>
        cases same
        exact h.item ends
      all_goals cases ends
    · intro s members rest ends
      rw [Json.firstMember.eq_def] at ends
      split at ends
      case h_3 =>
        cases ends
        exact fun _ mem => absurd mem List.not_mem_nil
      case h_4 same _ _ =>
        cases same
        exact h.member ends
      all_goals cases ends

end Json

end CleanupCourier
