import Mathlib.Data.List.TakeWhile
import CleanupCourier.Proofs.Text.Trimming
import CleanupCourier.Text.CommaList

/-!
The items of a comma-separated list. Two lists with a comma between them have the items of the first
and then those of the second; so a list is told by what stands between its commas, which is an item
with blanks around it, or else blank. In particular a list has no items if and only if there is
nothing in it but commas and blanks.
-/
namespace CleanupCourier

theorem trimBoth_eq_nil_iff {p : Char → Bool} {s : List Char} :
    trimBoth p s = [] ↔ ∀ c ∈ s, p c := by
  rw [trimBoth, List.reverse_eq_nil_iff, List.dropWhile_eq_nil_iff]
  constructor
  · intro all
    -- The first character that is left is none to be dropped, so there is none left.
    have none : s.dropWhile p = [] := by
      cases rest : s.dropWhile p with
      | nil => rfl
      | cons c more =>
        have head := List.head?_dropWhile_not p s
        rw [rest] at head all
        simp_all
    exact List.dropWhile_eq_nil_iff.mp none
  · intro all c mem
    exact all c ((List.dropWhile_sublist p).subset (List.mem_reverse.mp mem))

/-- By induction on the list. -/
theorem forall_mem_splitOnP {p : Char → Bool} {Q : Char → Prop} (s : List Char) :
    (∀ piece ∈ s.splitOnP p, ∀ c ∈ piece, Q c) ↔ ∀ c ∈ s, p c ∨ Q c := by
  induction s with
  | nil => simp
  | cons c s ih =>
    rw [List.forall_mem_cons, ← ih, List.splitOnP_cons_eq_if_modifyHead]
    by_cases h : p c
    · simp [h]
    · obtain ⟨piece, more, split⟩ := List.exists_cons_of_ne_nil (List.splitOnP_ne_nil p s)
      simp [h, split, and_assoc]

theorem commaItems_eq_nil_iff (list : String) :
    commaItems list = [] ↔ ∀ c ∈ list.toList, c = ',' ∨ isBlank c := by
  have items := forall_mem_splitOnP (p := (· == ',')) (Q := fun c => isBlank c) list.toList
  simp only [beq_iff_eq] at items
  rw [← items, commaItems, List.map_eq_nil_iff, List.filter_eq_nil_iff, List.forall_mem_map]
  refine forall₂_congr fun piece _ => ?_
  rw [Bool.not_eq_true, Bool.not_eq_false', List.isEmpty_iff, trimBoth_eq_nil_iff]

/-- Everything about longer lists follows from this equation. -/
theorem commaItems_append_comma (a b : String) :
    commaItems (a ++ "," ++ b) = commaItems a ++ commaItems b := by
  have pieces : (a ++ "," ++ b).toList.splitOn ',' =
      a.toList.splitOn ',' ++ b.toList.splitOn ',' := by
    rw [String.toList_append, String.toList_append, List.append_assoc]
    exact List.splitOnP_append_cons a.toList b.toList (beq_self_eq_true ',')
  simp only [commaItems, pieces, List.map_append, List.filter_append]

/-- By induction on the pieces: what is put together at every comma is put together throughout. -/
theorem flatMap_of_append_comma {α : Type} {f : String → List α} (nothing : f "" = [])
    (append : ∀ a b, f (a ++ "," ++ b) = f a ++ f b) (pieces : List String) :
    f (",".intercalate pieces) = pieces.flatMap f := by
  induction pieces with
  | nil => rw [String.intercalate_nil, nothing, List.flatMap_nil]
  | cons piece pieces ih =>
    cases pieces with
    | nil => rw [String.intercalate_singleton, List.flatMap_singleton]
    | cons next rest => rw [String.intercalate_cons_cons, append, ih, ← List.flatMap_cons]

theorem commaItems_intercalate (pieces : List String) :
    commaItems (",".intercalate pieces) = pieces.flatMap commaItems :=
  flatMap_of_append_comma ((commaItems_eq_nil_iff "").mpr (by simp)) commaItems_append_comma pieces

/-- The texts between the commas of a list. -/
theorem exists_pieces (list : String) :
    ∃ pieces, list = ",".intercalate pieces ∧ ∀ piece ∈ pieces, ',' ∉ piece.toList := by
  refine ⟨(list.toList.splitOn ',').map String.ofList, String.toList_injective ?_, ?_⟩
  · have comma : ",".toList = [','] := rfl
    simp [comma, Function.comp_def, List.intercalate_splitOn]
  · have noComma := (forall_mem_splitOnP (p := (· == ',')) (Q := (· ≠ ',')) list.toList).mpr
      fun c _ => (eq_or_ne c ',').imp_left beq_iff_eq.mpr
    rw [List.forall_mem_map]
    intro piece mem comma
    rw [String.toList_ofList] at comma
    exact noComma piece mem ',' comma rfl

/-- Holds of a text that can be an item of a comma-separated list. -/
structure IsItem (item : String) : Prop where
  nonempty : item ≠ ""
  noComma : ',' ∉ item.toList
  noBlankBefore : ∀ c ∈ item.toList.head?, ¬ isBlank c
  noBlankAfter : ∀ c ∈ item.toList.getLast?, ¬ isBlank c

/-- Holds of a text of blanks alone, of one without any characters too. -/
def IsBlankText (s : String) : Prop :=
  ∀ c ∈ s.toList, isBlank c

theorem IsBlankText.noComma {s : String} (h : IsBlankText s) : ',' ∉ s.toList :=
  fun comma => absurd (h _ comma) (by decide)

/-- The only item of a text without a comma is that text without the blanks at its ends. -/
theorem commaItems_of_noComma {piece : String} (h : ',' ∉ piece.toList) :
    commaItems piece =
      ([trimBoth isBlank piece.toList].filter (!·.isEmpty)).map String.ofList := by
  rw [commaItems, List.splitOn_eq_singleton h, List.map_singleton]

theorem commaItems_of_isBlankText {piece : String} (h : IsBlankText piece) :
    commaItems piece = [] :=
  (commaItems_eq_nil_iff piece).mpr fun c mem => .inr (h c mem)

theorem commaItems_of_isItem {front item back : String} (before : IsBlankText front)
    (after : IsBlankText back) (is : IsItem item) : commaItems (front ++ item ++ back) = [item] := by
  have spelled : (front ++ item ++ back).toList =
      front.toList ++ (item.toList ++ back.toList) := by
    rw [String.toList_append, String.toList_append, List.append_assoc]
  have noComma : ',' ∉ (front ++ item ++ back).toList := by
    rw [spelled, List.mem_append, List.mem_append]
    exact not_or.mpr ⟨before.noComma, not_or.mpr ⟨is.noComma, after.noComma⟩⟩
  have kept : item.toList.isEmpty = false := by simpa using is.nonempty
  rw [commaItems_of_noComma noComma, spelled,
    trimBoth_append before after is.noBlankBefore is.noBlankAfter]
  simp [kept]

theorem isItem_trimBoth {s : List Char} (h : ',' ∉ s) (some : trimBoth isBlank s ≠ []) :
    IsItem (.ofList (trimBoth isBlank s)) := by
  obtain ⟨front, back, split, -⟩ := exists_eq_append_trimBoth isBlank s
  have noComma : ',' ∉ trimBoth isBlank s := fun mem =>
    h (split ▸ List.mem_append_right _ (List.mem_append_left _ mem))
  constructor
  · simpa using some
  · rwa [String.toList_ofList]
  · rw [String.toList_ofList]
    exact fun _ mem => not_of_mem_head?_trimBoth mem
  · rw [String.toList_ofList]
    exact fun _ mem => not_of_mem_getLast?_trimBoth mem

/-- What stands between two commas is blank, or it is one item with blanks around it. -/
theorem blank_or_item {piece : String} (h : ',' ∉ piece.toList) :
    IsBlankText piece ∨
      ∃ front item back, piece = front ++ item ++ back ∧
        IsBlankText front ∧ IsBlankText back ∧ IsItem item := by
  by_cases none : trimBoth isBlank piece.toList = []
  · exact .inl (trimBoth_eq_nil_iff.mp none)
  · obtain ⟨front, back, split, before, after⟩ := exists_eq_append_trimBoth isBlank piece.toList
    have parts : piece =
        .ofList front ++ .ofList (trimBoth isBlank piece.toList) ++ .ofList back := by
      apply String.toList_injective
      simpa using split
    refine .inr ⟨_, _, _, parts, ?_, ?_, isItem_trimBoth h none⟩
    · rwa [IsBlankText, String.toList_ofList]
    · rwa [IsBlankText, String.toList_ofList]

/-- Items in their order, and the pieces in which they are written between commas: one piece for
each item, with blanks around it, and any number of blank pieces in between. -/
inductive Written : List String → List String → Prop
  | nil : Written [] []
  | blank {piece : String} {items pieces : List String} (blank : IsBlankText piece)
      (rest : Written items pieces) : Written items (piece :: pieces)
  | item {front item back : String} {items pieces : List String} (before : IsBlankText front)
      (after : IsBlankText back) (rest : Written items pieces) :
      Written (item :: items) ((front ++ item ++ back) :: pieces)

theorem Written.flatMap_commaItems {items pieces : List String} (h : Written items pieces)
    (are : ∀ item ∈ items, IsItem item) : pieces.flatMap commaItems = items := by
  induction h with
  | nil => rfl
  | blank blank _ ih =>
    rw [List.flatMap_cons, commaItems_of_isBlankText blank, List.nil_append, ih are]
  | item before after _ ih =>
    obtain ⟨is, are⟩ := List.forall_mem_cons.mp are
    rw [List.flatMap_cons, commaItems_of_isItem before after is, ih are, List.singleton_append]

/-- By induction on the pieces. -/
theorem written_flatMap_commaItems {pieces : List String}
    (noComma : ∀ piece ∈ pieces, ',' ∉ piece.toList) :
    (∀ item ∈ pieces.flatMap commaItems, IsItem item) ∧
      Written (pieces.flatMap commaItems) pieces := by
  induction pieces with
  | nil => exact ⟨List.forall_mem_nil _, .nil⟩
  | cons piece pieces ih =>
    obtain ⟨first, others⟩ := List.forall_mem_cons.mp noComma
    obtain ⟨are, written⟩ := ih others
    rw [List.flatMap_cons]
    obtain blank | ⟨front, item, back, rfl, before, after, is⟩ := blank_or_item first
    · rw [commaItems_of_isBlankText blank]
      exact ⟨are, .blank blank written⟩
    · rw [commaItems_of_isItem before after is]
      exact ⟨List.forall_mem_cons.mpr ⟨is, are⟩, .item before after written⟩

theorem commaItems_eq_iff {list : String} {items : List String} :
    commaItems list = items ↔
      (∀ item ∈ items, IsItem item) ∧
        ∃ pieces, list = ",".intercalate pieces ∧ Written items pieces := by
  constructor
  · rintro rfl
    obtain ⟨pieces, rfl, noComma⟩ := exists_pieces list
    obtain ⟨are, written⟩ := written_flatMap_commaItems noComma
    rw [commaItems_intercalate]
    exact ⟨are, pieces, rfl, written⟩
  · rintro ⟨are, pieces, rfl, written⟩
    rw [commaItems_intercalate, written.flatMap_commaItems are]

/-- The characters of a text that are no blanks. -/
def nonBlanks (s : String) : List Char :=
  s.toList.filter (!isBlank ·)

theorem nonBlanks_append (s t : String) : nonBlanks (s ++ t) = nonBlanks s ++ nonBlanks t := by
  rw [nonBlanks, String.toList_append, List.filter_append, nonBlanks, nonBlanks]

theorem IsBlankText.nonBlanks_eq_nil {s : String} (h : IsBlankText s) : nonBlanks s = [] :=
  List.filter_eq_nil_iff.mpr fun c mem => by simp [h c mem]

theorem IsItem.nonBlanks_filter {item : String} (is : IsItem item) :
    (nonBlanks item).filter (· != ',') = nonBlanks item :=
  List.filter_eq_self.mpr fun _ mem =>
    bne_iff_ne.mpr fun eq => is.noComma (eq ▸ List.mem_of_mem_filter mem)

/-- The characters of the items are those of the list, the commas apart: by what stands between two
commas, which is blank or an item. -/
theorem nonBlanks_commaItems (list : String) :
    (commaItems list).flatMap nonBlanks = (nonBlanks list).filter (· != ',') := by
  have append (a b : String) : (nonBlanks (a ++ "," ++ b)).filter (· != ',') =
      (nonBlanks a).filter (· != ',') ++ (nonBlanks b).filter (· != ',') := by
    have comma : (nonBlanks ",").filter (· != ',') = [] := by decide
    simp only [nonBlanks_append, List.filter_append, comma, List.append_nil]
  obtain ⟨pieces, rfl, noComma⟩ := exists_pieces list
  rw [commaItems_intercalate, List.flatMap_assoc, flatMap_of_append_comma
    (f := fun s => (nonBlanks s).filter (· != ',')) rfl append]
  refine List.flatMap_congr fun piece mem => ?_
  obtain blank | ⟨front, item, back, rfl, before, after, is⟩ := blank_or_item (noComma piece mem)
  · rw [commaItems_of_isBlankText blank, blank.nonBlanks_eq_nil, List.flatMap_nil, List.filter_nil]
  · rw [commaItems_of_isItem before after is, List.flatMap_singleton, nonBlanks_append,
      nonBlanks_append, before.nonBlanks_eq_nil, after.nonBlanks_eq_nil, List.nil_append,
      List.append_nil, is.nonBlanks_filter]

end CleanupCourier
