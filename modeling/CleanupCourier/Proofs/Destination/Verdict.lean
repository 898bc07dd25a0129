import CleanupCourier.Destination.Slack
import CleanupCourier.Proofs.Json.Codec
import CleanupCourier.Proofs.Json.Separation
import CleanupCourier.Proofs.Json.Values

/-!
What Slack says in the body of a response. The body has to be a document and nothing else. There is
exactly one member for whether all is well, and at most one for the error, which may be null; what
else is there does not count. The same may come as an array, in that order.
-/
namespace CleanupCourier

namespace Json

/-- The values of the members under a key, in their order. -/
def valuesUnder (key : String) (members : List (String × Json)) : List Json :=
  (members.filter (·.1 == key)).map (·.2)

end Json

namespace Slack

open Decode
open Attempt (eq_ok_of_bind)

/-- The error that the values for it tell, of which there is no more than one. -/
inductive TellsError : List Json → Option String → Prop
  | absent : TellsError [] none
  | null : TellsError [.null] none
  | text (s : String) : TellsError [.string s] (some s)

/-- What a document tells: whether all is well, and an error if there is one. -/
inductive Tells : Json → Bool → Option String → Prop
  | object {members : List (String × Json)} {isOk : Bool} {error : Option String}
    (telling : Json.valuesUnder "ok" members = [.bool isOk])
    (tellingError : TellsError (Json.valuesUnder "error" members) error)
    (others : ∀ m ∈ members, m.1 ≠ "ok" → m.1 ≠ "error" → passOver m = .ok ()) :
    Tells (.object members) isOk error
  | array {values : List Json} {isOk : Bool} {error : Option String}
    (tellingError : TellsError values error) : Tells (.array (.bool isOk :: values)) isOk error

/-- What octets say, if they are a document. -/
def Declares (bytes : Bytes) (isOk : Bool) (error : Option String) : Prop :=
  ∃ j, Json.readOctets bytes = ⟨j, false⟩ ∧ Tells j isOk error

/-- An error as it is told. -/
def errorJson (error : Option String) : Json :=
  (error.map Json.string).getD .null

theorem toOption_bool (origin : Origin) {j : Json} {b : Bool} :
    (Decode.bool origin j).toOption = some b ↔ j = .bool b := by
  cases j with
  | bool b' => simp [Decode.bool, Except.toOption]
  | _ => simp [Decode.bool, mismatch_ne_ok, toOption_eq_some_iff]

theorem toOption_error (origin : Origin) {j : Json} {error : Option String} :
    (Decode.optional Decode.string origin j).toOption = some error ↔ j = errorJson error := by
  cases j with
  | null => cases error <;> simp [Decode.optional, errorJson, Except.toOption]
  | string s =>
    cases error <;>
      simp [Decode.optional, Decode.string, errorJson, Except.toOption, Except.map]
  | _ =>
    simp only [Decode.optional, Decode.string, toOption_map]
    cases error <;> simp [errorJson, mismatch_ne_ok, toOption_eq_some_iff]

/-! What was read into a draft is told by the values that were taken, in the form they were in. -/

section Taken

variable {γ : Type} {spell : γ → Json} {o o' : Option γ}

/-- The values that were taken for a field. -/
def taken (spell : γ → Json) (o : Option γ) : List Json :=
  (o.map spell).toList

theorem taken_inj (injective : Function.Injective spell) :
    taken spell o = taken spell o' ↔ o = o' := by
  refine ⟨fun same => ?_, congrArg _⟩
  cases o <;> cases o'
  case some.some c c' => rw [injective (List.cons.inj same).1]
  all_goals first | rfl | exact nomatch same

/-- What was taken before more was. -/
theorem exists_taken {before more : List Json} (all : taken spell o = before ++ more) :
    ∃ o' : Option γ, taken spell o' = before := by
  cases before with
  | nil => exact ⟨none, rfl⟩
  | cons j rest =>
    cases o with
    | none => exact nomatch all
    | some c =>
      obtain ⟨rfl, ends⟩ := List.cons.inj all
      rw [(List.append_eq_nil_iff.mp ends.symm).1]
      exact ⟨some c, rfl⟩

/-- A value is taken if none was before, and it is put into the draft. -/
theorem taken_snoc_iff {δ : Type} {j : Json} {read : Option γ} {put : γ → δ} {d : δ} {rest : Prop}
    (reads : ∀ c, read = some c ↔ j = spell c) (puts : ∀ c, put c = d ↔ o' = some c ∧ rest) :
    (if o.isSome then none else read.map put) = some d ↔
      taken spell o' = taken spell o ++ [j] ∧ rest := by
  cases o with
  | some c => cases o' <;> simp [taken]
  | none =>
    simp only [Option.isSome_none, Bool.false_eq_true, if_false, Option.map_eq_some_iff, reads,
      puts]
    cases o' with
    | none => simp [taken]
    | some c => simp [taken, eq_comm]

end Taken

/-- Holds of two drafts, between which some members were read. -/
structure Reads (members : List (String × Json)) (d d' : VerdictDraft) : Prop where
  ok : taken .bool d'.isOk = taken .bool d.isOk ++ Json.valuesUnder "ok" members
  error : taken errorJson d'.error =
    taken errorJson d.error ++ Json.valuesUnder "error" members
  others : ∀ m ∈ members, m.1 ≠ "ok" → m.1 ≠ "error" → passOver m = .ok ()

theorem bool_injective : Function.Injective Json.bool :=
  fun _ _ => Json.bool.inj

theorem errorJson_injective : Function.Injective errorJson := by
  intro error error' same
  cases error <;> cases error' <;> cases same <;> rfl

theorem eq_of_taken {d d' : VerdictDraft} (ok : taken .bool d'.isOk = taken .bool d.isOk)
    (error : taken errorJson d'.error = taken errorJson d.error) : d' = d := by
  obtain ⟨isOk, told⟩ := d
  obtain ⟨isOk', told'⟩ := d'
  obtain rfl := (taken_inj bool_injective).mp ok
  obtain rfl := (taken_inj errorJson_injective).mp error
  rfl

theorem enter_ok {j : Json} {d d' : VerdictDraft} :
    verdictRecord.enter .stream d ("ok", j) = some d' ↔
      taken .bool d'.isOk = taken .bool d.isOk ++ [j] ∧ d'.error = d.error := by
  have entered : verdictRecord.enter .stream d ("ok", j) = if d.isOk.isSome then none else
      (Decode.bool .stream j).toOption.map fun b => { d with isOk := some b } := by
    rw [Record.enter_of_known rfl]
    exact congrArg (ite _ none) (toOption_read .stream j d)
  rw [entered]
  refine taken_snoc_iff (fun _ => toOption_bool .stream) fun b => ?_
  obtain ⟨isOk', told'⟩ := d'
  simp [eq_comm]

theorem enter_error {j : Json} {d d' : VerdictDraft} :
    verdictRecord.enter .stream d ("error", j) = some d' ↔
      d'.isOk = d.isOk ∧ taken errorJson d'.error = taken errorJson d.error ++ [j] := by
  have entered : verdictRecord.enter .stream d ("error", j) = if d.error.isSome then none else
      (Decode.optional Decode.string .stream j).toOption.map
        fun e => { d with error := some e } := by
    rw [Record.enter_of_known rfl]
    exact congrArg (ite _ none) (toOption_read .stream j d)
  rw [entered, and_comm]
  refine taken_snoc_iff (fun _ => toOption_error .stream) fun e => ?_
  obtain ⟨isOk', told'⟩ := d'
  simp [eq_comm, and_comm]

theorem enter_other {m : String × Json} {d d' : VerdictDraft} (ok : m.1 ≠ "ok")
    (error : m.1 ≠ "error") :
    verdictRecord.enter .stream d m = some d' ↔ passOver m = .ok () ∧ d' = d := by
  have unlisted : verdictRecord.fields.find? (·.key == m.1) = none := by
    simp [verdictRecord, field, ok.symm, error.symm]
  rw [Record.enter_of_unknown unlisted, Option.map_eq_some_iff]
  simp only [toOption_eq_some_iff]
  constructor
  · rintro ⟨⟨⟩, passed, rfl⟩
    exact ⟨passed, rfl⟩
  · rintro ⟨passed, rfl⟩
    exact ⟨(), passed, rfl⟩

theorem enter_iff {m : String × Json} {d d' : VerdictDraft} :
    verdictRecord.enter .stream d m = some d' ↔ Reads [m] d d' := by
  obtain ⟨key, j⟩ := m
  by_cases ok : key = "ok"
  · subst ok
    rw [enter_ok]
    constructor
    · rintro ⟨taking, same⟩
      exact ⟨taking, by simp [Json.valuesUnder, same], by simp⟩
    · rintro ⟨taking, same, -⟩
      exact ⟨taking, (taken_inj errorJson_injective).mp (by simpa [Json.valuesUnder] using same)⟩
  · by_cases error : key = "error"
    · subst error
      rw [enter_error]
      constructor
      · rintro ⟨same, taking⟩
        exact ⟨by simp [Json.valuesUnder, same], taking, by simp⟩
      · rintro ⟨same, taking, -⟩
        exact ⟨(taken_inj bool_injective).mp (by simpa [Json.valuesUnder] using same), taking⟩
    · rw [enter_other ok error]
      constructor
      · rintro ⟨passed, rfl⟩
        exact ⟨by simp [Json.valuesUnder, ok], by simp [Json.valuesUnder, error],
          List.forall_mem_singleton.mpr fun _ _ => passed⟩
      · rintro ⟨same, same', passed⟩
        refine ⟨passed _ List.mem_cons_self ok error, eq_of_taken ?_ ?_⟩
        · simpa [Json.valuesUnder, ok] using same
        · simpa [Json.valuesUnder, error] using same'

theorem Reads.nil_iff {d d' : VerdictDraft} : Reads [] d d' ↔ d = d' := by
  constructor
  · rintro ⟨ok, error, -⟩
    simp only [Json.valuesUnder, List.filter_nil, List.map_nil, List.append_nil] at ok error
    exact (eq_of_taken ok error).symm
  · rintro rfl
    exact ⟨by simp [Json.valuesUnder], by simp [Json.valuesUnder], nofun⟩

theorem Reads.cons_iff {m : String × Json} {rest : List (String × Json)} {d d' : VerdictDraft} :
    Reads (m :: rest) d d' ↔ ∃ e, Reads [m] d e ∧ Reads rest e d' := by
  have split (key : String) : Json.valuesUnder key (m :: rest) =
      Json.valuesUnder key [m] ++ Json.valuesUnder key rest := by
    rw [Json.valuesUnder, ← List.singleton_append, List.filter_append, List.map_append]
    rfl
  constructor
  · rintro ⟨ok, error, others⟩
    rw [split, ← List.append_assoc] at ok error
    obtain ⟨isOk, okFirst⟩ := exists_taken ok
    obtain ⟨told, errorFirst⟩ := exists_taken error
    obtain ⟨first, later⟩ := List.forall_mem_cons.mp others
    rw [← okFirst] at ok
    rw [← errorFirst] at error
    exact ⟨⟨isOk, told⟩, ⟨okFirst, errorFirst, List.forall_mem_singleton.mpr first⟩,
      ok, error, later⟩
  · rintro ⟨e, ⟨ok, error, first⟩, ok', error', later⟩
    refine ⟨?_, ?_, List.forall_mem_cons.mpr ⟨List.forall_mem_singleton.mp first, later⟩⟩
    · rw [ok', ok, split, List.append_assoc]
    · rw [error', error, split, List.append_assoc]

theorem foldlM_enter_iff {members : List (String × Json)} {d d' : VerdictDraft} :
    members.foldlM (verdictRecord.enter .stream) d = some d' ↔ Reads members d d' := by
  induction members generalizing d with
  | nil => simp [Reads.nil_iff, eq_comm]
  | cons m rest ih =>
    rw [List.foldlM_cons, Reads.cons_iff]
    simp only [← ih, ← enter_iff]
    exact Option.bind_eq_some_iff

theorem tellsError_iff {values : List Json} {error : Option String} :
    TellsError values error ↔ ∃ o, taken errorJson o = values ∧ o.getD none = error := by
  constructor
  · rintro (_ | _ | s)
    · exact ⟨none, rfl, rfl⟩
    · exact ⟨some none, rfl, rfl⟩
    · exact ⟨some (some s), rfl, rfl⟩
  · rintro ⟨_ | _ | s, rfl, rfl⟩
    · exact .absent
    · exact .null
    · exact .text s

theorem tells_object_iff {members : List (String × Json)} {isOk : Bool} {error : Option String} :
    Tells (.object members) isOk error ↔
      verdictRecord.decode .stream (.object members) = .ok ⟨isOk, error⟩ := by
  rw [← toOption_eq_some_iff, Record.toOption_decode_object, Option.bind_eq_some_iff]
  simp only [foldlM_enter_iff]
  constructor
  · rintro (⟨telling, tellingError, others⟩ | _)
    obtain ⟨told, taking, rfl⟩ := tellsError_iff.mp tellingError
    exact ⟨⟨some isOk, told⟩, ⟨telling.symm, taking, others⟩, rfl⟩
  · rintro ⟨⟨_ | isOk', told⟩, ⟨ok, taking, others⟩, finished⟩
    · cases finished
    · cases finished
      exact .object ok.symm (tellsError_iff.mpr ⟨told, taking, rfl⟩) others

/-- Nothing may come after the fields. -/
theorem surplus_ne_ok (length : Nat) (j : Json) (more : List Json) :
    Record.surplus .stream length (j :: more) ≠ .ok () := by
  unfold Record.surplus
  split
  · contradiction
  · exact nofun
  · exact nofun

/-- The first item is whether all is well, and one more may be there for the error. -/
theorem tells_of_decode_array {items : List Json} {isOk : Bool} {error : Option String}
    (decoded : verdictRecord.decode .stream (.array items) = .ok ⟨isOk, error⟩) :
    Tells (.array items) isOk error := by
  obtain ⟨⟨d, rest⟩, read, ends⟩ :=
    eq_ok_of_bind (show verdictRecord.ofItems .stream items = _ from decoded)
  cases items with
  | nil =>
    cases read
    cases ends
  | cons j items =>
    obtain ⟨first, readFirst, later⟩ := eq_ok_of_bind read
    obtain ⟨b, decodedFirst, stored⟩ := eq_ok_of_bind readFirst
    cases stored
    obtain rfl := (toOption_bool .stream).mp (toOption_eq_some_iff.mpr decodedFirst)
    cases items with
    | nil =>
      cases later
      cases ends
      exact .array .absent
    | cons k items =>
      obtain ⟨second, readSecond, others⟩ := eq_ok_of_bind later
      obtain ⟨e, decodedSecond, stored⟩ := eq_ok_of_bind readSecond
      cases stored
      obtain rfl := (toOption_error .stream).mp (toOption_eq_some_iff.mpr decodedSecond)
      cases others
      obtain ⟨_, none, ends⟩ := eq_ok_of_bind ends
      cases ends
      cases rest with
      | nil => exact .array (tellsError_iff.mpr ⟨some e, rfl, rfl⟩)
      | cons l rest => exact absurd none (surplus_ne_ok _ l rest)

theorem tells_array_iff {items : List Json} {isOk : Bool} {error : Option String} :
    Tells (.array items) isOk error ↔
      verdictRecord.decode .stream (.array items) = .ok ⟨isOk, error⟩ := by
  refine ⟨fun tells => ?_, tells_of_decode_array⟩
  cases tells with
  | array tellingError => cases tellingError <;> rfl

/-- What a document tells is the verdict that is decoded from it. -/
theorem tells_iff {j : Json} {isOk : Bool} {error : Option String} :
    Tells j isOk error ↔ verdictRecord.decode .stream j = .ok ⟨isOk, error⟩ := by
  cases j with
  | object members => exact tells_object_iff
  | array items => exact tells_array_iff
  | _ =>
    refine iff_of_false (fun tells => ?_) (mismatch_ne_ok _ _ _)
    cases tells

theorem declares_iff {bytes : Bytes} {isOk : Bool} {error : Option String} :
    Declares bytes isOk error ↔ Decode.octets verdictRecord.decode bytes = .ok ⟨isOk, error⟩ := by
  simp only [Declares, tells_iff, octets, document_eq_ok_iff]

theorem verdict?_eq_some_iff {response : HttpResponse} {isOk : Bool} {error : Option String} :
    verdict? response = some ⟨isOk, error⟩ ↔
      ∃ bytes, response.content? = some bytes ∧ Declares bytes isOk error := by
  simp only [declares_iff, ← toOption_eq_some_iff]
  exact Option.bind_eq_some_iff

end Slack

end CleanupCourier
