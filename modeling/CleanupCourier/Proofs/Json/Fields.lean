import Mathlib.Data.List.TakeWhile
import CleanupCourier.Cluster.Metadata
import CleanupCourier.Proofs.Json.Codec
import CleanupCourier.Proofs.KeyMap
import CleanupCourier.Proofs.Text.Decimal

/-!
Parts of objects that come back from their encoding: whole numbers, maps, and the members of a loose
record, each of which may be left out. Not every value of a type can be told on the wire, so a
decoder is said to give back a value, not all values of its type.
-/
namespace CleanupCourier

namespace NumberValue

theorem parts_digits {digits : List Char} (all : ∀ c ∈ digits, c.isDigit) :
    parts digits = (digits, [], 0) := by
  have span : digits.span Char.isDigit = (digits, []) := by
    rw [List.span_eq_takeWhile_dropWhile, List.takeWhile_eq_self_iff.mpr all,
      List.dropWhile_eq_nil_iff.mpr all]
  simp only [parts, span]

section Digits

variable {n : Nat}

theorem parts_toDigits : parts (Nat.toDigits 10 n) = (Nat.toDigits 10 n, [], 0) :=
  parts_digits fun _ => isDigit_toDigits

theorem all_isDigit_toDigits : (Nat.toDigits 10 n).all Char.isDigit = true :=
  List.all_eq_true.mpr fun _ => isDigit_toDigits

theorem foldl_toDigits :
    (Nat.toDigits 10 n).foldl (fun n c => n * 10 + (c.toNat - 48)) 0 = n :=
  digitsValue_toDigits n

theorem head?_toDigits_ne_sign : ((Nat.toDigits 10 n).head? == some '-') = false := by
  rw [beq_eq_false_iff_ne]
  intro same
  have digit := isDigit_toDigits (List.mem_of_mem_head? same)
  exact absurd digit (by decide)

theorem ofLexeme?_nat (h : n < wordSize 64) : ofLexeme? (toString n) = some (.natural n) := by
  rw [Nat.toString_eq_ofList_toDigits]
  unfold ofLexeme?
  simp only [String.toList_ofList, head?_toDigits_ne_sign, Bool.false_eq_true, if_false,
    parts_toDigits, all_isDigit_toDigits, foldl_toDigits]
  simp [h]

theorem ofLexeme?_neg (pos : 0 < n) (h : n ≤ wordSize 63) :
    ofLexeme? (toString (-(n : Int))) = some (.negative n) := by
  have text : (toString (-(n : Int))).toList = '-' :: Nat.toDigits 10 n := by
    obtain ⟨m, rfl⟩ := Nat.exists_eq_succ_of_ne_zero (Nat.ne_of_gt pos)
    have : toString (-((m + 1 : Nat) : Int)) = "-" ++ toString (m + 1) := rfl
    rw [this, String.toList_append, Nat.toString_eq_ofList_toDigits]
    simp
  unfold ofLexeme?
  simp only [text, List.head?_cons, beq_self_eq_true, if_true, List.tail_cons, parts_toDigits,
    all_isDigit_toDigits, foldl_toDigits]
  simp [pos, h]

end Digits

end NumberValue

namespace Decode

variable {α σ : Type} {decode : Decoder α} {encode : α → Json}

theorem int64_of_lexeme {lexeme : String} {value : NumberValue} (origin : Origin)
    (h : NumberValue.ofLexeme? lexeme = some value) :
    int64 origin (.number lexeme) =
      match value with
      | .natural n =>
        if n < wordSize 63 then .ok n else fail (.invalidValue (.number (.natural n)) "i64")
      | .negative n => .ok (-n)
      | .double text compact => fail (.invalidType (.number (.double text compact)) "i64") := by
  simp only [int64, h]
  cases value <;> rfl

theorem recovers_int64 {n : Int} (low : -(wordSize 63 : Int) ≤ n) (high : n < wordSize 63) :
    int64.Recovers .int n := by
  intro origin
  have words : wordSize 63 < wordSize 64 := by decide
  cases n with
  | ofNat n =>
    have small : n < wordSize 63 := Int.ofNat_lt.mp high
    have lexeme := NumberValue.ofLexeme?_nat (Nat.lt_trans small words)
    refine (int64_of_lexeme origin lexeme).trans ?_
    exact if_pos small
  | negSucc n =>
    have small : n + 1 ≤ wordSize 63 := by omega
    exact int64_of_lexeme origin (NumberValue.ofLexeme?_neg n.succ_pos small)

theorem recovers_map {m : KeyMap α} (h : ∀ e ∈ m.entries, decode.Recovers encode e.2) :
    Decoder.Recovers (fun origin j => (members decode origin j).map KeyMap.ofList)
      (Json.ofMap encode) m := by
  intro origin
  have entries : members decode origin (Json.ofMap encode m) = .ok m.entries := by
    obtain ⟨l, ascending⟩ := m
    simp only [members, Json.ofMap, KeyMap.mapValues]
    replace h : ∀ e ∈ l, decode.Recovers encode e.2 := h
    clear ascending
    induction l with
    | nil => rfl
    | cons e l ih =>
      rw [List.map_cons, List.mapM_cons, h e List.mem_cons_self origin,
        ih fun d mem => h d (List.mem_cons_of_mem _ mem)]
      rfl
  simp only [entries, Except.map, KeyMap.ofList_entries]

theorem recovers_textMap (m : KeyMap String) : textMap.Recovers (Json.ofMap .string) m :=
  recovers_map fun _ _ _ => rfl

theorem optional_of_ne_null {j : Json} (ne : j ≠ .null) (origin : Origin) :
    optional decode origin j = (decode origin j).map some := by
  cases j with
  | null => exact absurd rfl ne
  | _ => rfl

/-- A member that is always there, and the members after it. -/
theorem foldlM_member {r : LooseRecord σ} {key : String} {set : α → σ → σ}
    (listed : r.fields.find? (·.key == key) = some (slot key set decode)) {a : α}
    (back : decode.Recovers encode a) {s : σ} (origin : Origin) (rest : List (String × Json)) :
    ((key, encode a) :: rest).foldlM (r.readMember origin) s =
      rest.foldlM (r.readMember origin) (set a s) := by
  rw [List.foldlM_cons, LooseRecord.readMember, listed]
  simp only [slot, back origin]
  rfl

/-- A member that is left out when there is no value, and the members after it. -/
theorem foldlM_member? {r : LooseRecord σ} {key : String} {set : Option α → σ → σ}
    (listed : r.fields.find? (·.key == key) = some (slot key set (optional decode)))
    {v : Option α} (back : ∀ a ∈ v, decode.Recovers encode a ∧ encode a ≠ .null) {s : σ}
    (unset : set none s = s) (origin : Origin) (rest : List (String × Json)) :
    (Json.member? key encode v ++ rest).foldlM (r.readMember origin) s =
      rest.foldlM (r.readMember origin) (set v s) := by
  cases v with
  | none => rw [Json.member?, List.nil_append, unset]
  | some a =>
    obtain ⟨recovers, ne⟩ := back a rfl
    have back : (optional decode).Recovers (fun v => (v.map encode).getD .null) (some a) := by
      intro origin
      exact (optional_of_ne_null ne origin).trans (congrArg (Except.map some) (recovers origin))
    exact foldlM_member listed back origin rest

end Decode

namespace Json

variable {α : Type} {encode : α → Json}

theorem writableMembers_append {members rest : List (String × Json)} :
    WritableMembers (members ++ rest) ↔ WritableMembers members ∧ WritableMembers rest := by
  induction members with
  | nil => simp [WritableMembers]
  | cons member members ih =>
    simp only [List.cons_append, WritableMembers, ih, and_assoc]

theorem writable_member? {key : String} {v : Option α} (h : ∀ a ∈ v, (encode a).Writable) :
    WritableMembers (member? key encode v) := by
  cases v with
  | none => trivial
  | some a => exact ⟨h a rfl, trivial⟩

theorem writable_map (h : ∀ a, (encode a).Writable) (m : KeyMap α) :
    (ofMap encode m).Writable := by
  change WritableMembers (m.entries.map fun e => (e.1, encode e.2))
  induction m.entries with
  | nil => trivial
  | cons e l ih => exact ⟨h e.2, ih⟩

end Json

end CleanupCourier
