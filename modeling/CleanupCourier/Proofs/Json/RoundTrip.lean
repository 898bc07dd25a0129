import Mathlib.Data.List.TakeDrop
import Mathlib.Tactic.Common
import CleanupCourier.Json.Printer
import CleanupCourier.Json.Reader

/-!
What the reader makes of the text that the printer writes. Every value that can be written out is
read back as it was, whatever text follows it, and so no two of them have the same text. A number
comes back only if its text is one that the reader takes as a whole; the texts of whole numbers are.
-/
namespace CleanupCourier

namespace Json

/-! Strings -/

theorem hexValue?_hexDigit : ∀ n < 16, hexValue? (hexDigit n) = some n := by
  decide

theorem fourHexDigits_control {n : Nat} (h : n < 32) (rest : List Char) :
    fourHexDigits ('0' :: '0' :: hexDigit (n / 16) :: hexDigit (n % 16) :: rest) =
      .ok (n, rest) := by
  have zero : hexValue? '0' = some 0 := by decide
  have high := hexValue?_hexDigit (n / 16) (by omega)
  have low := hexValue?_hexDigit (n % 16) (by omega)
  have value : ((0 * 16 + 0) * 16 + n / 16) * 16 + n % 16 = n := by omega
  simp only [fourHexDigits, zero, high, low, value]

theorem unicodeEscape_control {c : Char} (h : c.toNat < 32) (rest : List Char) :
    unicodeEscape ('0' :: '0' :: hexDigit (c.toNat / 16) :: hexDigit (c.toNat % 16) :: rest) =
      .ok (some c, rest) := by
  have low : isLowSurrogate c.toNat = false := by simp [isLowSurrogate]; omega
  have high : isHighSurrogate c.toNat = false := by simp [isHighSurrogate]; omega
  simp [unicodeEscape, fourHexDigits_control h, low, high]

theorem stringBody_simpleEscape {c e : Char} (h : simpleEscape? c = some e) (rest : List Char) :
    stringBody ('\\' :: c :: rest) =
      (stringBody rest).map fun (body, tail) => (some e :: body, tail) := by
  have unicode : c ≠ 'u' := by
    rintro rfl
    have none : simpleEscape? 'u' = none := by decide
    simp [none] at h
  rw [stringBody]
  · simp [h]
  · simpa using unicode

theorem stringBody_unicodeEscape {s after : List Char} {c : Option Char}
    (h : unicodeEscape s = .ok (c, after)) :
    stringBody ('\\' :: 'u' :: s) =
      (stringBody after).map fun (body, tail) => (c :: body, tail) := by
  rw [stringBody]
  split
  · simp_all
  · rename_i read
    rw [h] at read
    cases read
    rfl

theorem stringBody_plain {c : Char} (quote : c ≠ '"') (backslash : c ≠ '\\')
    (control : ¬ c.toNat < 32) (rest : List Char) :
    stringBody (c :: rest) =
      (stringBody rest).map fun (body, tail) => (some c :: body, tail) := by
  rw [stringBody]
  · simp [control]
  all_goals simp [quote, backslash]

/-- A character is read back from what stands for it in a string. -/
theorem stringBody_escapeChar (c : Char) (rest : List Char) :
    stringBody (escapeChar c ++ rest) =
      (stringBody rest).map fun (body, tail) => (some c :: body, tail) := by
  unfold escapeChar
  split_ifs with quote backslash backspace tab newline feed carriage control
  any_goals
    subst c
    exact stringBody_simpleEscape (by decide) rest
  · exact stringBody_unicodeEscape (unicodeEscape_control control rest)
  · exact stringBody_plain quote backslash control rest

theorem stringBody_chars (s rest : List Char) :
    stringBody (s.flatMap escapeChar ++ '"' :: rest) = .ok (s.map some, rest) := by
  induction s with
  | nil =>
    rw [List.flatMap_nil, List.nil_append, stringBody]
    rfl
  | cons c s ih =>
    rw [List.flatMap_cons, List.append_assoc, stringBody_escapeChar, ih]
    rfl

theorem mapM_id_map_some (s : List Char) : (s.map some).mapM id = some s := by
  induction s with
  | nil => rfl
  | cons c s ih => simp [List.mapM_cons, ih]

/-! Numbers -/

/-- Holds where a number cannot go on. -/
def EndsNumber (rest : List Char) : Prop :=
  ∀ c ∈ rest.head?, ¬ c.isDigit ∧ c ≠ '.' ∧ c ≠ 'e' ∧ c ≠ 'E'

/-- A text that is read as a number to its end, and kept as it is. -/
structure IsNumeral (s : List Char) : Prop where
  head : ∃ c ∈ s.head?, c = '-' ∨ c.isDigit
  visible : ∀ c ∈ s, 32 ≤ c.toNat
  read : ∀ rest, EndsNumber rest → numberLexeme (s ++ rest) = .ok (s, rest)

theorem thirtyTwo_le_of_isDigit {c : Char} (h : c.isDigit) : 32 ≤ c.toNat := by
  simp only [Char.isDigit, Bool.and_eq_true, decide_eq_true_eq] at h
  exact Nat.le_trans (by decide) (UInt32.le_iff_toNat_le.mp h.1)

theorem someDigits_append {digits rest : List Char} (ne : digits ≠ [])
    (all : ∀ c ∈ digits, c.isDigit) (stop : ∀ c ∈ rest.head?, ¬ c.isDigit) :
    someDigits (digits ++ rest) = .ok (digits, rest) := by
  have none : rest.takeWhile Char.isDigit = [] ∧ rest.dropWhile Char.isDigit = rest := by
    cases rest with
    | nil => exact ⟨rfl, rfl⟩
    | cons c rest =>
      have : c.isDigit = false := by simpa using stop
      simp [this]
  have span : (digits ++ rest).span Char.isDigit = (digits, rest) := by
    rw [List.span_eq_takeWhile_dropWhile, List.takeWhile_append_of_pos all,
      List.dropWhile_append_of_pos all, none.1, none.2, List.append_nil]
  rw [someDigits, span]
  cases digits with
  | nil => exact absurd rfl ne
  | cons c digits => rfl

theorem wholePart_append {digits rest : List Char} (ne : digits ≠ [])
    (all : ∀ c ∈ digits, c.isDigit) (zero : digits.head? = some '0' → digits = ['0'])
    (stop : ∀ c ∈ rest.head?, ¬ c.isDigit) : wholePart (digits ++ rest) = .ok (digits, rest) := by
  by_cases h : digits.head? = some '0'
  · rw [zero h]
    cases rest with
    | nil => rfl
    | cons c rest =>
      have : c.isDigit = false := by simpa using stop
      simp [wholePart, this]
  · cases digits with
    | nil => exact absurd rfl ne
    | cons d digits =>
      have : d ≠ '0' := by simpa using h
      rw [wholePart]
      · exact someDigits_append ne all stop
      · simp [this]

theorem fractionPart_of_endsNumber {rest : List Char} (h : EndsNumber rest) :
    fractionPart rest = .ok ([], rest) := by
  cases rest with
  | nil => rfl
  | cons c rest =>
    have : c ≠ '.' := (h c rfl).2.1
    rw [fractionPart]
    simp [this]

theorem exponentPart_of_endsNumber {rest : List Char} (h : EndsNumber rest) :
    exponentPart rest = .ok ([], rest) := by
  cases rest with
  | nil => rfl
  | cons c rest =>
    obtain ⟨-, -, lower, upper⟩ := h c rfl
    rw [exponentPart]
    all_goals simp [lower, upper]

/-- Digits without a needless zero are a numeral, with a sign before them or without. -/
theorem isNumeral_digits {digits : List Char} (ne : digits ≠ []) (all : ∀ c ∈ digits, c.isDigit)
    (zero : digits.head? = some '0' → digits = ['0']) :
    IsNumeral digits ∧ IsNumeral ('-' :: digits) := by
  have whole {rest : List Char} (h : EndsNumber rest) :
      wholePart (digits ++ rest) = .ok (digits, rest) :=
    wholePart_append ne all zero fun c hc => (h c hc).1
  obtain ⟨d, tail, rfl⟩ := List.exists_cons_of_ne_nil ne
  have digit : d.isDigit := all d List.mem_cons_self
  have unsigned : d ≠ '-' := by
    rintro rfl
    exact absurd digit (by decide)
  have visible : ∀ c ∈ d :: tail, 32 ≤ c.toNat := fun c hc => thirtyTwo_le_of_isDigit (all c hc)
  have signed : ∀ c ∈ '-' :: d :: tail, 32 ≤ c.toNat := by
    intro c hc
    obtain rfl | hc := List.mem_cons.mp hc
    · decide
    · exact visible c hc
  refine ⟨⟨⟨d, rfl, .inr digit⟩, visible, fun rest h => ?_⟩,
    ⟨⟨'-', rfl, .inl rfl⟩, signed, fun rest h => ?_⟩⟩
  · simp only [numberLexeme, List.cons_append]
    split
    · rename_i eq
      exact absurd (List.cons.inj eq).1 unsigned
    · have := whole h
      rw [List.cons_append] at this
      simp [this, fractionPart_of_endsNumber h, exponentPart_of_endsNumber h, bind, Except.bind,
        pure, Except.pure]
  · have := whole h
    rw [List.cons_append] at this
    simp [numberLexeme, this, fractionPart_of_endsNumber h, exponentPart_of_endsNumber h, bind,
      Except.bind, pure, Except.pure]

theorem head?_toDigits_ne_zero {n : Nat} (h : 0 < n) :
    (Nat.toDigits 10 n).head? ≠ some '0' := by
  induction n using Nat.strongRecOn with
  | ind n ih =>
    by_cases small : n < 10
    · rw [Nat.toDigits_of_lt_base small]
      have digits : ∀ m < 10, 0 < m → [Nat.digitChar m].head? ≠ some '0' := by decide
      exact digits n small h
    · obtain ⟨d, rest, eq⟩ :=
        List.exists_cons_of_ne_nil (Nat.toDigits_ne_nil (n := n / 10) (b := 10))
      have := ih (n / 10) (by omega) (by omega)
      rw [Nat.toDigits_of_base_le (by omega) (by omega), eq]
      rwa [eq] at this

theorem isNumeral_toDigits (n : Nat) :
    IsNumeral (Nat.toDigits 10 n) ∧ IsNumeral ('-' :: Nat.toDigits 10 n) := by
  apply isNumeral_digits Nat.toDigits_ne_nil
  · intro c hc
    exact Nat.isDigit_of_mem_toDigits (by decide) (by decide) hc
  · intro zero
    obtain rfl | positive := Nat.eq_zero_or_pos n
    · rfl
    · exact absurd zero (head?_toDigits_ne_zero positive)

theorem isNumeral_nat (n : Nat) : IsNumeral (toString n).toList := by
  rw [Nat.toString_eq_ofList_toDigits, String.toList_ofList]
  exact (isNumeral_toDigits n).1

theorem isNumeral_int (n : Int) : IsNumeral (toString n).toList := by
  cases n with
  | ofNat n => exact isNumeral_nat n
  | negSucc n =>
    have : toString (Int.negSucc n) = "-" ++ toString (n + 1) := rfl
    rw [this, String.toList_append, Nat.toString_eq_ofList_toDigits, String.toList_ofList]
    simpa using (isNumeral_toDigits (n + 1)).2

/-! Values -/

mutual

/-- Holds where a value has a text of its own: it tells no fault, and its numbers are numerals. -/
def Writable : Json → Prop
  | .number lexeme => IsNumeral lexeme.toList
  | .stopped _ | .unreadable _ => False
  | .array items => WritableItems items
  | .object members => WritableMembers members
  | _ => True

def WritableItems : List Json → Prop
  | [] => True
  | item :: rest => Writable item ∧ WritableItems rest

def WritableMembers : List (String × Json) → Prop
  | [] => True
  | (_, value) :: rest => Writable value ∧ WritableMembers rest

end

theorem writable_nat (n : Nat) : Writable (.nat n) :=
  isNumeral_nat n

theorem writable_int (n : Int) : Writable (.int n) :=
  isNumeral_int n

/-- A value starts with a character that is no gap and closes nothing. -/
theorem chars_head {j : Json} (h : Writable j) :
    ∃ c rest, chars j = c :: rest ∧ isGap c = false ∧ c ≠ ']' ∧ c ≠ '\x7d' := by
  cases j with
  | null => exact ⟨'n', _, rfl, by decide⟩
  | bool b => cases b <;> exact ⟨_, _, rfl, by decide⟩
  | number lexeme =>
    obtain ⟨c, hc, sign⟩ := IsNumeral.head h
    obtain ⟨rest, eq⟩ : ∃ rest, lexeme.toList = c :: rest := List.head?_eq_some_iff.mp hc
    refine ⟨c, rest, by rw [chars, eq], ?_⟩
    obtain rfl | digit := sign
    · decide
    · refine ⟨?_, ?_, ?_⟩
      · by_contra gap
        simp only [isGap, Bool.not_eq_false, Bool.or_eq_true, beq_iff_eq] at gap
        obtain ((rfl | rfl) | rfl) | rfl := gap <;> exact absurd digit (by decide)
      all_goals
        rintro rfl
        exact absurd digit (by decide)
  | string s => exact ⟨'"', _, rfl, by decide⟩
  | array items => exact ⟨'[', _, rfl, by decide⟩
  | object members => exact ⟨'\x7b', _, rfl, by decide⟩
  | stopped _ | unreadable _ => exact h.elim

theorem itemChars_head {j : Json} (h : Writable j) (items : List Json) :
    ∃ c rest, itemChars (j :: items) = c :: rest ∧ isGap c = false ∧ c ≠ ']' := by
  obtain ⟨c, tail, eq, gap, ne, -⟩ := chars_head h
  cases items with
  | nil => exact ⟨c, tail, by simp only [itemChars, eq], gap, ne⟩
  | cons k items =>
    exact ⟨c, tail ++ ',' :: itemChars (k :: items), by simp only [itemChars, eq, List.cons_append],
      gap, ne⟩

theorem memberChars_head (key : String) (j : Json) (members : List (String × Json)) :
    ∃ rest, memberChars ((key, j) :: members) = '"' :: rest := by
  cases members with
  | nil => exact ⟨_, rfl⟩
  | cons other members => exact ⟨_, rfl⟩

theorem skipGaps_cons {c : Char} (h : isGap c = false) (rest : List Char) :
    skipGaps (c :: rest) = c :: rest := by
  simp [skipGaps, h]

theorem skipGaps_chars {j : Json} (h : Writable j) (rest : List Char) :
    skipGaps (chars j ++ rest) = chars j ++ rest := by
  obtain ⟨c, tail, eq, gap, -⟩ := chars_head h
  rw [eq]
  exact skipGaps_cons gap _

theorem endsNumber_cons {c : Char} (h : c = ',' ∨ c = ']' ∨ c = '\x7d') (rest : List Char) :
    EndsNumber (c :: rest) := by
  intro d hd
  obtain rfl : c = d := by simpa using hd
  obtain rfl | rfl | rfl := h <;> decide

theorem memberKey_stringChars (key : String) (rest : List Char) :
    memberKey (key.toList.flatMap escapeChar ++ '"' :: ':' :: rest) = .ok (some key, rest) := by
  simp (disch := decide) only [memberKey, stringBody_chars, mapM_id_map_some, skipGaps_cons,
    Option.map_some, String.ofList_toList]

/-! One step of the reader for each way in which the text of a value goes on. -/

section Steps

variable {fuel : Nat} {j : Json} {s rest : List Char} {after : Option (List Char)}

theorem item_last (read : value fuel s = (j, some (']' :: rest))) :
    item (fuel + 1) s = ([j], some rest) := by
  simp (disch := decide) only [item, read, skipGaps_cons]

theorem item_comma {items : List Json} (read : value fuel s = (j, some (',' :: rest)))
    (more : item fuel rest = (items, after)) : item (fuel + 1) s = (j :: items, after) := by
  simp (disch := decide) only [item, read, skipGaps_cons, more]

theorem member_last {key : String} (read : value fuel s = (j, some ('\x7d' :: rest))) :
    member (fuel + 1) (stringChars key ++ ':' :: s) = ([(key, j)], some rest) := by
  simp (disch := decide) only [stringChars, List.cons_append, List.append_assoc, List.nil_append,
    member, skipGaps_cons, memberKey_stringChars, read]

theorem member_comma {key : String} {members : List (String × Json)}
    (read : value fuel s = (j, some (',' :: rest))) (more : member fuel rest = (members, after)) :
    member (fuel + 1) (stringChars key ++ ':' :: s) = ((key, j) :: members, after) := by
  simp (disch := decide) only [stringChars, List.cons_append, List.append_assoc, List.nil_append,
    member, skipGaps_cons, memberKey_stringChars, read, more]

theorem value_sign {c : Char} {tail : List Char} (sign : c = '-' ∨ c.isDigit)
    (gap : skipGaps s = c :: tail) :
    value (fuel + 1) s =
      .ofScalar (fun lexeme => .number (String.ofList lexeme)) (numberLexeme (c :: tail)) := by
  have other (d : Char) (h : d ≠ '-' ∧ d.isDigit = false) : c ≠ d := by
    rintro rfl
    simp [h.1, h.2] at sign
  rw [value, gap]
  split
  case h_8 eq =>
    obtain ⟨rfl, rfl⟩ := List.cons.inj eq
    simp [sign]
  case h_1 eq => simp at eq
  all_goals
    rename_i eq
    exact absurd (List.cons.inj eq).1 (other _ (by decide))

theorem value_number {lexeme : String} (w : IsNumeral lexeme.toList) (e : EndsNumber rest) :
    value (fuel + 1) (lexeme.toList ++ rest) = (.number lexeme, some rest) := by
  obtain ⟨c, hc, sign⟩ := w.head
  obtain ⟨tail, eq⟩ : ∃ tail, lexeme.toList = c :: tail := List.head?_eq_some_iff.mp hc
  have gap : skipGaps (lexeme.toList ++ rest) = c :: (tail ++ rest) := by
    rw [← List.cons_append, ← eq]
    exact skipGaps_chars (j := .number lexeme) w rest
  rw [value_sign sign gap, ← List.cons_append, ← eq, w.read rest e]
  simp [Reading.ofScalar]

theorem value_string (s : String) (rest : List Char) :
    value (fuel + 1) (stringChars s ++ rest) = (.string s, some rest) := by
  simp (disch := decide) only [stringChars, List.cons_append, List.append_assoc, List.nil_append,
    value, skipGaps_cons, stringBody_chars, Reading.ofString, mapM_id_map_some,
    String.ofList_toList]

theorem value_array_nil : value (fuel + 2) ('[' :: ']' :: rest) = (.array [], some rest) := by
  simp (disch := decide) only [value, skipGaps_cons, firstItem]

theorem value_array {c : Char} {items : List Json} (gap : isGap c = false) (ne : c ≠ ']')
    (read : item fuel (c :: s) = (items, after)) :
    value (fuel + 2) ('[' :: c :: s) = (.array items, after) := by
  have first : firstItem (fuel + 1) (c :: s) = item fuel (c :: s) := by
    rw [firstItem]
    · simp
    · simpa using ne
  simp (disch := decide) only [value, skipGaps_cons, skipGaps_cons gap, first, read]

theorem value_object_nil :
    value (fuel + 2) ('\x7b' :: '\x7d' :: rest) = (.object [], some rest) := by
  simp (disch := decide) only [value, skipGaps_cons, firstMember]

theorem value_object {members : List (String × Json)}
    (read : member fuel ('"' :: s) = (members, after)) :
    value (fuel + 2) ('\x7b' :: '"' :: s) = (.object members, after) := by
  have first : firstMember (fuel + 1) ('"' :: s) = member fuel ('"' :: s) := by
    rw [firstMember] <;> simp
  simp (disch := decide) only [value, skipGaps_cons, first, read]

end Steps

mutual

/-- The reader undoes the printer, given three steps for each character. -/
theorem value_chars : ∀ (j : Json) (fuel : Nat) (rest : List Char), Writable j →
    EndsNumber rest → 3 * (chars j).length ≤ fuel → value fuel (chars j ++ rest) = (j, some rest)
  | .null, fuel + 1, rest, _, _, _ => by
    simp (disch := decide) [chars, value, skipGaps_cons, Reading.ofWord, expectWord]
  | .bool true, fuel + 1, rest, _, _, _ => by
    simp (disch := decide) [chars, value, skipGaps_cons, Reading.ofWord, expectWord]
  | .bool false, fuel + 1, rest, _, _, _ => by
    simp (disch := decide) [chars, value, skipGaps_cons, Reading.ofWord, expectWord]
  | .number lexeme, fuel + 1, rest, w, e, _ => value_number w e
  | .string s, fuel + 1, rest, _, _, _ => value_string s rest
  | .array [], fuel + 2, rest, _, _, _ => value_array_nil
  | .array (j :: items), fuel + 2, rest, w, _, h => by
    obtain ⟨c, tail, eq, gap, ne⟩ := itemChars_head w.1 items
    have read := item_itemChars j items fuel rest w (by simp [chars] at h; omega)
    simp only [chars, List.cons_append, List.append_assoc, List.nil_append, eq] at read ⊢
    exact value_array gap ne read
  | .object [], fuel + 2, rest, _, _, _ => value_object_nil
  | .object ((key, j) :: members), fuel + 2, rest, w, _, h => by
    obtain ⟨tail, eq⟩ := memberChars_head key j members
    have read := member_memberChars key j members fuel rest w (by simp [chars] at h; omega)
    simp only [chars, List.cons_append, List.append_assoc, List.nil_append, eq] at read ⊢
    exact value_object read
  | j, 0, rest, w, e, h => by
    obtain ⟨c, tail, eq, -⟩ := chars_head w
    simp [eq] at h
  | .array _, 1, rest, w, e, h => by simp [chars] at h; omega
  | .object _, 1, rest, w, e, h => by simp [chars] at h; omega
  | .stopped _, _ + 1, _, w, _, _ | .unreadable _, _ + 1, _, w, _, _ => w.elim

theorem item_itemChars : ∀ (j : Json) (items : List Json) (fuel : Nat) (rest : List Char),
    WritableItems (j :: items) → 3 * (itemChars (j :: items)).length < fuel →
    item fuel (itemChars (j :: items) ++ ']' :: rest) = (j :: items, some rest)
  | j, [], fuel + 1, rest, w, h => by
    simp only [itemChars] at h ⊢
    exact item_last (value_chars j fuel _ w.1 (endsNumber_cons (by simp) rest) (by omega))
  | j, k :: items, fuel + 1, rest, w, h => by
    simp only [itemChars, List.length_append, List.length_cons] at h ⊢
    rw [List.append_assoc]
    apply item_comma (value_chars j fuel _ w.1 (endsNumber_cons (by simp) _) (by omega))
    exact item_itemChars k items fuel rest w.2 (by omega)

theorem member_memberChars : ∀ (key : String) (j : Json) (members : List (String × Json))
    (fuel : Nat) (rest : List Char), WritableMembers ((key, j) :: members) →
    3 * (memberChars ((key, j) :: members)).length < fuel →
    member fuel (memberChars ((key, j) :: members) ++ '\x7d' :: rest) =
      ((key, j) :: members, some rest)
  | key, j, [], fuel + 1, rest, w, h => by
    simp only [memberChars, List.length_append, List.length_cons] at h ⊢
    rw [List.append_assoc]
    exact member_last (value_chars j fuel _ w.1 (endsNumber_cons (by simp) rest) (by omega))
  | key, j, (other, k) :: members, fuel + 1, rest, w, h => by
    simp only [memberChars, List.length_append, List.length_cons] at h ⊢
    rw [List.append_assoc, List.cons_append, List.append_assoc]
    apply member_comma (value_chars j fuel _ w.1 (endsNumber_cons (by simp) _) (by omega))
    exact member_memberChars other k members fuel rest w.2 (by omega)

end

/-! Characters -/

theorem hexDigit_visible : ∀ n < 16, 32 ≤ (hexDigit n).toNat := by
  decide

/-- No control stands in what a string is written as. -/
theorem escapeChar_visible (c : Char) : ∀ d ∈ escapeChar c, 32 ≤ d.toNat := by
  unfold escapeChar
  split_ifs with quote backslash backspace tab newline feed carriage control
  any_goals (simp; done)
  · intro d hd
    have high := hexDigit_visible (c.toNat / 16) (by omega)
    have low := hexDigit_visible (c.toNat % 16) (by omega)
    simp only [List.mem_cons, List.not_mem_nil, or_false] at hd
    obtain rfl | rfl | rfl | rfl | rfl | rfl := hd
    all_goals first | decide | assumption
  · intro d hd
    obtain rfl : d = c := by simpa using hd
    omega

theorem stringChars_visible (s : String) : ∀ d ∈ stringChars s, 32 ≤ d.toNat := by
  intro d hd
  simp only [stringChars, List.mem_cons, List.mem_append, List.mem_flatMap, List.not_mem_nil,
    or_false] at hd
  obtain rfl | ⟨c, -, hd⟩ | rfl := hd
  · decide
  · exact escapeChar_visible c d hd
  · decide

mutual

theorem chars_visible : ∀ j : Json, Writable j → ∀ c ∈ chars j, 32 ≤ c.toNat
  | .null, _ | .bool true, _ | .bool false, _ => by simp [chars]
  | .number _, h => h.visible
  | .string s, _ => stringChars_visible s
  | .array items, h => by
    rw [chars, List.forall_mem_cons, List.forall_mem_append]
    exact ⟨by decide, itemChars_visible items h, by simp⟩
  | .object members, h => by
    rw [chars, List.forall_mem_cons, List.forall_mem_append]
    exact ⟨by decide, memberChars_visible members h, by simp⟩
  | .stopped _, h | .unreadable _, h => h.elim

theorem itemChars_visible : ∀ items : List Json, WritableItems items →
    ∀ c ∈ itemChars items, 32 ≤ c.toNat
  | [], _ => by simp [itemChars]
  | [j], h => chars_visible j h.1
  | j :: k :: items, h => by
    simp only [itemChars, List.forall_mem_append, List.forall_mem_cons]
    exact ⟨chars_visible j h.1, by decide, itemChars_visible (k :: items) h.2⟩

theorem memberChars_visible : ∀ members : List (String × Json), WritableMembers members →
    ∀ c ∈ memberChars members, 32 ≤ c.toNat
  | [], _ => by simp [memberChars]
  | [(key, j)], h => by
    rw [memberChars, List.forall_mem_append, List.forall_mem_cons]
    exact ⟨stringChars_visible key, by decide, chars_visible j h.1⟩
  | (key, j) :: member :: members, h => by
    simp only [memberChars, List.forall_mem_append, List.forall_mem_cons]
    exact ⟨stringChars_visible key, by decide, chars_visible j h.1, by decide,
      memberChars_visible (member :: members) h.2⟩

end

/-! Texts -/

/-- What is written is read as it was, and nothing is left over. -/
theorem read_render {j : Json} (h : Writable j) : read j.render.toList = ⟨j, false⟩ := by
  have value := value_chars j (3 * (chars j).length + 3) [] h (by simp [EndsNumber]) (by omega)
  rw [List.append_nil] at value
  simp [read, render, value, skipGaps]

mutual

theorem isPlain_of_writable : ∀ j : Json, Writable j → isPlain j = true
  | .null, _ | .bool _, _ | .number _, _ | .string _, _ => rfl
  | .array items, h => arePlain_of_writable items h
  | .object members, h => membersArePlain_of_writable members h
  | .stopped _, h | .unreadable _, h => h.elim

theorem arePlain_of_writable : ∀ items : List Json, WritableItems items → arePlain items = true
  | [], _ => rfl
  | j :: items, h => by
    simp only [arePlain, isPlain_of_writable j h.1, arePlain_of_writable items h.2, Bool.and_self]

theorem membersArePlain_of_writable : ∀ members : List (String × Json),
    WritableMembers members → membersArePlain members = true
  | [], _ => rfl
  | (_, j) :: members, h => by
    simp only [membersArePlain, isPlain_of_writable j h.1, membersArePlain_of_writable members h.2,
      Bool.and_self]

end

theorem parse?_render {j : Json} (h : Writable j) : parse? j.render = some j := by
  simp [parse?, read_render h, isPlain_of_writable j h]

end Json

end CleanupCourier
