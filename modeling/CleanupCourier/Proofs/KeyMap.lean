import Mathlib.Data.List.Induction
import CleanupCourier.KeyMap

/-!
Maps put together from entries, and maps whose values are changed throughout. A map has the entries
that it was made of, as long as no key repeats; the entries of a map build that very map again; and
a change of the values may be made before or after an insertion.
-/
namespace CleanupCourier

namespace KeyMap

variable {α β : Type}

theorem eq_of_entries {m n : KeyMap α} (h : m.entries = n.entries) : m = n := by
  cases m
  cases n
  cases h
  rfl

theorem insertEntry_of_greatest {key : String} {a : α} {l : List (String × α)}
    (h : ∀ e ∈ l, e.1 < key) : insertEntry key a l = l ++ [(key, a)] := by
  induction l with
  | nil => rfl
  | cons e rest ih =>
    have lt : e.1 < key := h e List.mem_cons_self
    have notLess : ¬ key < e.1 := fun gt => String.lt_irrefl _ (String.lt_trans lt gt)
    have ne : ¬ key = e.1 := fun eq => String.lt_irrefl _ (eq ▸ lt)
    rw [insertEntry, if_neg notLess, if_neg ne, ih fun e mem => h e (List.mem_cons_of_mem _ mem)]
    rfl

theorem entries_foldl_insert {l : List (String × α)} (ascending : l.Pairwise (·.1 < ·.1)) :
    (l.foldl (fun m e => m.insert e.1 e.2) empty).entries = l := by
  induction l using List.reverseRecOn with
  | nil => rfl
  | append_singleton l e ih =>
    obtain ⟨before, -, greatest⟩ := List.pairwise_append.mp ascending
    rw [List.foldl_append, List.foldl_cons, List.foldl_nil, insert]
    simp only [ih before]
    exact insertEntry_of_greatest fun d mem => greatest d mem e List.mem_cons_self

theorem ofList_entries (m : KeyMap α) : ofList m.entries = m :=
  eq_of_entries (entries_foldl_insert m.ascending)

theorem perm_insertEntry {key : String} {a : α} {l : List (String × α)}
    (fresh : ∀ e ∈ l, e.1 ≠ key) : (insertEntry key a l).Perm ((key, a) :: l) := by
  induction l with
  | nil => rfl
  | cons e rest ih =>
    have ne : ¬ key = e.1 := fun same => fresh e List.mem_cons_self same.symm
    simp only [insertEntry, if_neg ne]
    split
    · rfl
    · have moved := ih fun d mem => fresh d (List.mem_cons_of_mem _ mem)
      exact (moved.cons e).trans (List.Perm.swap _ _ _)

/-- A map has the entries that it was made of, if no key repeats. -/
theorem perm_ofList {l : List (String × α)} (distinct : (l.map (·.1)).Nodup) :
    (ofList l).entries.Perm l := by
  induction l using List.reverseRecOn with
  | nil => rfl
  | append_singleton l e ih =>
    rw [List.map_append, List.nodup_append] at distinct
    obtain ⟨before, -, apart⟩ := distinct
    have made := ih before
    have built : ofList (l ++ [e]) = (ofList l).insert e.1 e.2 := by
      simp [ofList]
    have fresh : ∀ d ∈ (ofList l).entries, d.1 ≠ e.1 := fun d mem =>
      apart d.1 (List.mem_map_of_mem (made.mem_iff.mp mem)) e.1 (by simp)
    rw [built]
    exact (perm_insertEntry fresh).trans ((made.cons _).trans (List.perm_append_singleton e l).symm)

theorem find?_mapValues (f : α → β) (m : KeyMap α) (key : String) :
    (m.mapValues f).find? key = (m.find? key).map f := by
  obtain ⟨l, ascending⟩ := m
  simp only [find?, mapValues, List.find?_map, Option.map_map]
  rfl

theorem contains_mapValues (f : α → β) (m : KeyMap α) (key : String) :
    (m.mapValues f).contains key = m.contains key := by
  rw [contains, find?_mapValues, Option.isSome_map, contains]

theorem mapValues_insert (f : α → β) (m : KeyMap α) (key : String) (a : α) :
    (m.insert key a).mapValues f = (m.mapValues f).insert key (f a) := by
  apply eq_of_entries
  obtain ⟨l, ascending⟩ := m
  simp only [insert, mapValues]
  clear ascending
  induction l with
  | nil => rfl
  | cons e rest ih =>
    simp only [insertEntry, List.map_cons]
    split_ifs
    · rfl
    · rfl
    · rw [List.map_cons, ih]

end KeyMap

end CleanupCourier
