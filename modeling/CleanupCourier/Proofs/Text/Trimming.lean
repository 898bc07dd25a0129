import Mathlib.Data.List.DropRight
import Mathlib.Data.List.TakeWhile
import CleanupCourier.Text.Blank

/-!
What is taken and what is dropped at the ends of a text. A character that is not dropped keeps all
that stands on its other side, so the ends of a text can be trimmed each by itself.
-/
namespace CleanupCourier

variable {p : Char → Bool}

theorem drop_length_takeWhile (p : Char → Bool) (s : List Char) :
    s.drop (s.takeWhile p).length = s.dropWhile p :=
  calc s.drop (s.takeWhile p).length
    _ = (s.takeWhile p ++ s.dropWhile p).drop (s.takeWhile p).length := by
      rw [List.takeWhile_append_dropWhile]
    _ = s.dropWhile p := List.drop_left

theorem takeWhile_append_cons {c : Char} {s : List Char} (all : ∀ d ∈ s, p d) (stays : ¬ p c)
    (t : List Char) : (s ++ c :: t).takeWhile p = s := by
  rw [List.takeWhile_append_of_pos all, List.takeWhile_cons_of_neg stays, List.append_nil]

/-- A mark that is not in a text is looked for behind it. -/
theorem takeWhile_ne_append {mark : Char} {s : List Char} (h : mark ∉ s) (t : List Char) :
    (s ++ t).takeWhile (· != mark) = s ++ t.takeWhile (· != mark) :=
  List.takeWhile_append_of_pos fun _ mem => bne_iff_ne.mpr fun eq => h (eq ▸ mem)

theorem takeWhile_ne_eq_self {mark : Char} {s : List Char} (h : mark ∉ s) :
    s.takeWhile (· != mark) = s :=
  List.takeWhile_eq_self_iff.mpr fun _ mem => bne_iff_ne.mpr fun eq => h (eq ▸ mem)

theorem dropWhile_append_cons {c : Char} (stays : ¬ p c) (s t : List Char) :
    (s ++ c :: t).dropWhile p = s.dropWhile p ++ c :: t := by
  rw [List.dropWhile_append]
  split
  · rename_i none
    rw [List.isEmpty_iff.mp none, List.dropWhile_cons_of_neg stays, List.nil_append]
  · rfl

/-- A trimmed text stands between what is dropped in front of it and behind it. -/
theorem exists_eq_append_trimBoth (p : Char → Bool) (s : List Char) :
    ∃ front back, s = front ++ (trimBoth p s ++ back) ∧ (∀ c ∈ front, p c) ∧ ∀ c ∈ back, p c := by
  refine ⟨s.takeWhile p, (s.dropWhile p).rtakeWhile p, ?_, fun c mem => ?_, fun c mem => ?_⟩
  · change s = _ ++ ((s.dropWhile p).rdropWhile p ++ _)
    rw [List.rdropWhile_append_rtakeWhile, List.takeWhile_append_dropWhile]
  · exact List.mem_takeWhile_imp mem
  · exact List.mem_rtakeWhile_imp mem

/-- What is put around a text is trimmed off again, if its own ends are none to be dropped. -/
theorem trimBoth_append {front middle back : List Char} (before : ∀ c ∈ front, p c)
    (after : ∀ c ∈ back, p c) (first : ∀ c ∈ middle.head?, ¬ p c)
    (last : ∀ c ∈ middle.getLast?, ¬ p c) : trimBoth p (front ++ (middle ++ back)) = middle := by
  change ((front ++ (middle ++ back)).dropWhile p).rdropWhile p = middle
  rw [List.dropWhile_append_of_pos before]
  -- With nothing in between, what stands behind is dropped from the front as well.
  cases middle with
  | nil => rw [List.nil_append, List.dropWhile_eq_nil_iff.mpr after, List.rdropWhile_nil]
  | cons c rest =>
    rw [List.cons_append, List.dropWhile_cons_of_neg (first c rfl), ← List.cons_append,
      List.rdropWhile, List.reverse_append, List.dropWhile_append_of_pos (by simpa using after)]
    exact List.rdropWhile_eq_self_iff.mpr fun ne => last _ (List.getLast?_eq_some_getLast ne)

theorem not_of_mem_head?_trimBoth {s : List Char} {c : Char} (h : c ∈ (trimBoth p s).head?) :
    ¬ p c := by
  obtain ⟨rest, kept⟩ := List.head?_eq_some_iff.mp h
  obtain ⟨dropped, split⟩ : trimBoth p s <+: s.dropWhile p := List.rdropWhile_prefix p _
  have first := List.head?_dropWhile_not p s
  rw [← split, kept, List.cons_append, List.head?_cons] at first
  exact Bool.eq_false_iff.mp first

theorem not_of_mem_getLast?_trimBoth {s : List Char} {c : Char}
    (h : c ∈ (trimBoth p s).getLast?) : ¬ p c := by
  obtain ⟨ne, rfl⟩ := List.mem_getLast?_eq_getLast h
  exact List.rdropWhile_last_not p (s.dropWhile p) ne

end CleanupCourier
