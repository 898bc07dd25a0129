import CleanupCourier.Proofs.Json.Fields
import CleanupCourier.Proofs.Time.Stamp

/-!
Metadata that an API server can hold come back from it as they are. There a time has no parts of a
second, a whole number fits in 64 bits, and the fields of a manager are a value in its normal form;
all else is free.
-/
namespace CleanupCourier

open Decode

/-- A moment that a stamp can tell. -/
def Instant.IsWhole (t : Instant) : Prop :=
  t.isInRange ∧ t.truncated = t

theorem recovers_stamp {t : Instant} (h : t.IsWhole) : Decode.stamp.Recovers stampJson t := by
  intro origin
  have read : Stamp.read t.stamp.toList = .ok t := by
    rw [Instant.stamp, String.toList_ofList, Stamp.read_stampChars h.1, h.2]
  simp only [stampJson, Decode.stamp, read]

/-- A whole number of 64 bits with a sign. -/
def IsInt64 (n : Int) : Prop :=
  -(wordSize 63 : Int) ≤ n ∧ n < wordSize 63

/-! Members that are read back when they are there. -/

theorem back_text (text : Option String) :
    ∀ s ∈ text, string.Recovers .string s ∧ Json.string s ≠ .null :=
  fun _ _ => ⟨fun _ => rfl, Json.noConfusion⟩

theorem back_bool (flag : Option Bool) : ∀ b ∈ flag, bool.Recovers .bool b ∧ Json.bool b ≠ .null :=
  fun _ _ => ⟨fun _ => rfl, Json.noConfusion⟩

theorem back_textMap (map : Option (KeyMap String)) :
    ∀ m ∈ map, textMap.Recovers (Json.ofMap .string) m ∧ Json.ofMap .string m ≠ .null :=
  fun m _ => ⟨recovers_textMap m, Json.noConfusion⟩

theorem back_stamp {time : Option Instant} (h : ∀ t ∈ time, t.IsWhole) :
    ∀ t ∈ time, Decode.stamp.Recovers stampJson t ∧ stampJson t ≠ .null :=
  fun t mem => ⟨recovers_stamp (h t mem), Json.noConfusion⟩

theorem back_int64 {number : Option Int} (h : ∀ n ∈ number, IsInt64 n) :
    ∀ n ∈ number, int64.Recovers .int n ∧ Json.int n ≠ .null :=
  fun n mem => ⟨recovers_int64 (h n mem).1 (h n mem).2, Json.noConfusion⟩

theorem back_list {α : Type} {decode : Decoder α} {encode : α → Json} {list : Option (List α)}
    (h : ∀ l ∈ list, ∀ a ∈ l, decode.Recovers encode a) :
    ∀ l ∈ list, (Decode.list decode).Recovers (Json.ofList encode) l ∧
      Json.ofList encode l ≠ .null :=
  fun l mem => ⟨recovers_list (h l mem), Json.noConfusion⟩

theorem back_texts (list : Option (List String)) :
    ∀ l ∈ list, (Decode.list string).Recovers (Json.ofList .string) l ∧
      Json.ofList .string l ≠ .null :=
  back_list fun _ _ _ _ _ => rfl

/-! Members that can be written out. -/

theorem writable_text? (key : String) (text : Option String) :
    Json.WritableMembers (Json.member? key .string text) :=
  Json.writable_member? fun s _ => (trivial : (Json.string s).Writable)

theorem writable_flag? (key : String) (flag : Option Bool) :
    Json.WritableMembers (Json.member? key .bool flag) :=
  Json.writable_member? fun b _ => (trivial : (Json.bool b).Writable)

theorem writable_stamp? (key : String) (time : Option Instant) :
    Json.WritableMembers (Json.member? key stampJson time) :=
  Json.writable_member? fun t _ => (trivial : (Json.string t.stamp).Writable)

theorem writable_number? (key : String) (number : Option Int) :
    Json.WritableMembers (Json.member? key .int number) :=
  Json.writable_member? fun n _ => Json.writable_int n

theorem writable_textMap? (key : String) (map : Option (KeyMap String)) :
    Json.WritableMembers (Json.member? key (Json.ofMap .string) map) := by
  refine Json.writable_member? fun m _ => ?_
  have value : ∀ s, (Json.string s).Writable := fun _ => trivial
  exact Json.writable_map value m

theorem writable_texts? (key : String) (list : Option (List String)) :
    Json.WritableMembers (Json.member? key (Json.ofList .string) list) := by
  refine Json.writable_member? fun l _ => ?_
  have items : ∀ s ∈ l, (Json.string s).Writable := fun _ _ => trivial
  exact Json.writable_ofList items

theorem OwnerReference.recovers (r : OwnerReference) : record.decode.Recovers encode r := by
  intro origin
  have text : ∀ s, textOrNull.Recovers .string s := fun _ _ => rfl
  simp only [LooseRecord.decode, encode, List.append_assoc]
  refine Eq.trans (foldlM_member rfl (text _) origin _) ?_
  refine Eq.trans (foldlM_member? rfl (back_bool _) rfl origin _) ?_
  refine Eq.trans (foldlM_member? rfl (back_bool _) rfl origin _) ?_
  refine Eq.trans (foldlM_member rfl (text _) origin _) ?_
  refine Eq.trans (foldlM_member rfl (text _) origin _) ?_
  refine Eq.trans (foldlM_member rfl (text _) origin _) ?_
  rfl

theorem OwnerReference.writable (r : OwnerReference) : r.encode.Writable := by
  simp only [encode, Json.Writable, Json.WritableMembers, Json.writableMembers_append,
    writable_flag?, and_self]

/-- The fields that a manager has set are a value that can be kept. -/
structure ManagedFields.OnWire (m : ManagedFields) : Prop where
  time : ∀ t ∈ m.time, t.IsWhole
  fields : ∀ j ∈ m.fieldsV1, j ≠ .null ∧ j.Writable ∧ j.depth ≤ maxDepth ∧ anyValue j = .ok j

theorem ManagedFields.recovers {m : ManagedFields} (h : m.OnWire) :
    record.decode.Recovers encode m := by
  intro origin
  have kept : ∀ j ∈ m.fieldsV1, (kept maxDepth).Recovers id j ∧ id j ≠ .null := by
    intro j mem
    obtain ⟨ne, -, depth, normal⟩ := h.fields j mem
    refine ⟨fun origin => ?_, ne⟩
    cases origin with
    | stream => exact (if_neg (Nat.not_lt.mpr depth)).trans normal
    | whole => exact normal
  simp only [LooseRecord.decode, encode, List.append_assoc]
  rw [← List.append_nil (Json.member? "time" _ _)]
  refine Eq.trans (foldlM_member? rfl (back_text _) rfl origin _) ?_
  refine Eq.trans (foldlM_member? rfl (back_text _) rfl origin _) ?_
  refine Eq.trans (foldlM_member? rfl kept rfl origin _) ?_
  refine Eq.trans (foldlM_member? rfl (back_text _) rfl origin _) ?_
  refine Eq.trans (foldlM_member? rfl (back_text _) rfl origin _) ?_
  refine Eq.trans (foldlM_member? rfl (back_text _) rfl origin _) ?_
  refine Eq.trans (foldlM_member? rfl (back_stamp h.time) rfl origin _) ?_
  rfl

theorem ManagedFields.writable {m : ManagedFields} (h : m.OnWire) : m.encode.Writable := by
  have fields : Json.WritableMembers (Json.member? "fieldsV1" id m.fieldsV1) :=
    Json.writable_member? fun j mem => (h.fields j mem).2.1
  simp only [encode, Json.Writable, Json.writableMembers_append, writable_text?, writable_stamp?,
    fields, and_self]

namespace Metadata

structure OnWire (m : Metadata) : Prop where
  creation : ∀ t ∈ m.creationTimestamp, t.IsWhole
  grace : ∀ n ∈ m.deletionGracePeriodSeconds, IsInt64 n
  deletion : ∀ t ∈ m.deletionTimestamp, t.IsWhole
  generation : ∀ n ∈ m.generation, IsInt64 n
  managed : ∀ l ∈ m.managedFields, ∀ fields ∈ l, fields.OnWire

theorem onWire_named (name : String) : (named name).OnWire := by
  refine ⟨?_, ?_, ?_, ?_, ?_⟩
  all_goals
    intro a mem
    exact nomatch mem

theorem recovers {m : Metadata} (h : m.OnWire) : record.decode.Recovers encode m := by
  intro origin
  simp only [LooseRecord.decode, encode, List.append_assoc]
  rw [← List.append_nil (Json.member? "uid" _ _)]
  refine Eq.trans (foldlM_member? rfl (back_textMap _) rfl origin _) ?_
  refine Eq.trans (foldlM_member? rfl (back_stamp h.creation) rfl origin _) ?_
  refine Eq.trans (foldlM_member? rfl (back_int64 h.grace) rfl origin _) ?_
  refine Eq.trans (foldlM_member? rfl (back_stamp h.deletion) rfl origin _) ?_
  refine Eq.trans (foldlM_member? rfl (back_texts _) rfl origin _) ?_
  refine Eq.trans (foldlM_member? rfl (back_text _) rfl origin _) ?_
  refine Eq.trans (foldlM_member? rfl (back_int64 h.generation) rfl origin _) ?_
  refine Eq.trans (foldlM_member? rfl (back_textMap _) rfl origin _) ?_
  refine Eq.trans (foldlM_member? rfl (back_list fun l mem fields there =>
    ManagedFields.recovers (h.managed l mem fields there)) rfl origin _) ?_
  refine Eq.trans (foldlM_member? rfl (back_text _) rfl origin _) ?_
  refine Eq.trans (foldlM_member? rfl (back_text _) rfl origin _) ?_
  refine Eq.trans (foldlM_member? rfl (back_list fun _ _ r _ => r.recovers) rfl origin _) ?_
  refine Eq.trans (foldlM_member? rfl (back_text _) rfl origin _) ?_
  refine Eq.trans (foldlM_member? rfl (back_text _) rfl origin _) ?_
  refine Eq.trans (foldlM_member? rfl (back_text _) rfl origin _) ?_
  rfl

theorem writable {m : Metadata} (h : m.OnWire) : m.encode.Writable := by
  have managed : Json.WritableMembers
      (Json.member? "managedFields" (Json.ofList ManagedFields.encode) m.managedFields) :=
    Json.writable_member? fun l mem => Json.writable_ofList fun fields there =>
      ManagedFields.writable (h.managed l mem fields there)
  have owners : Json.WritableMembers
      (Json.member? "ownerReferences" (Json.ofList OwnerReference.encode) m.ownerReferences) :=
    Json.writable_member? fun _ _ => Json.writable_ofList fun r _ => r.writable
  simp only [encode, Json.Writable, Json.writableMembers_append, writable_text?, writable_stamp?,
    writable_number?, writable_textMap?, writable_texts?, managed, owners, and_self]

end Metadata

end CleanupCourier
