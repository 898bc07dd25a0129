/-!
Finite maps from text to values, kept as a list in ascending order of the keys. The order is part of
the type, so two maps with the same entries are equal, and the list is the order in which a map is
written out. What an insertion does to a later look-up is said by `find?_insert_self` and
`find?_insert_of_ne`.
-/
namespace CleanupCourier

namespace KeyMap

variable {α : Type}

/-- Puts an entry in its place; an entry under the same key is replaced. -/
def insertEntry (key : String) (a : α) : List (String × α) → List (String × α)
  | [] => [(key, a)]
  | (k, b) :: rest =>
    if key < k then (key, a) :: (k, b) :: rest
    else if key = k then (key, a) :: rest
    else (k, b) :: insertEntry key a rest

theorem mem_insertEntry {key : String} {a : α} {l : List (String × α)} {e : String × α}
    (h : e ∈ insertEntry key a l) : e = (key, a) ∨ e ∈ l := by
  induction l with
  | nil => simpa [insertEntry] using h
  | cons hd rest ih =>
    obtain ⟨k, b⟩ := hd
    unfold insertEntry at h
    split at h
    · simpa using h
    · split at h
      · rcases List.mem_cons.mp h with h | h
        · exact .inl h
        · exact .inr (List.mem_cons_of_mem _ h)
      · rcases List.mem_cons.mp h with h | h
        · exact .inr (h ▸ List.mem_cons_self)
        · exact (ih h).imp id (List.mem_cons_of_mem _)

theorem pairwise_insertEntry {key : String} {a : α} {l : List (String × α)}
    (h : l.Pairwise (·.1 < ·.1)) : (insertEntry key a l).Pairwise (·.1 < ·.1) := by
  induction l with
  | nil => simp [insertEntry]
  | cons hd rest ih =>
    obtain ⟨k, b⟩ := hd
    obtain ⟨hk, hrest⟩ := List.pairwise_cons.mp h
    unfold insertEntry
    split
    · rename_i hlt
      refine List.pairwise_cons.mpr ⟨?_, h⟩
      intro e he
      rcases List.mem_cons.mp he with rfl | he
      · exact hlt
      · exact String.lt_trans hlt (hk e he)
    · split
      · rename_i heq
        subst heq
        exact List.pairwise_cons.mpr ⟨hk, hrest⟩
      · rename_i hge hne
        refine List.pairwise_cons.mpr ⟨?_, ih hrest⟩
        intro e he
        rcases mem_insertEntry he with rfl | he
        · rcases String.le_total k key with hle | hle
          · rcases Decidable.em (key ≤ k) with hle' | hlt
            · exact absurd (String.le_antisymm hle' hle) hne
            · exact String.not_le.mp hlt
          · rcases Decidable.em (k ≤ key) with hle' | hlt
            · exact absurd (String.le_antisymm hle hle') hne
            · exact absurd (String.not_le.mp hlt) hge
        · exact hk e he

end KeyMap

structure KeyMap (α : Type) where
  entries : List (String × α)
  ascending : entries.Pairwise (·.1 < ·.1)
deriving DecidableEq, Repr

namespace KeyMap

variable {α β : Type}

def empty : KeyMap α :=
  ⟨[], .nil⟩

instance : Inhabited (KeyMap α) := ⟨empty⟩

def insert (m : KeyMap α) (key : String) (a : α) : KeyMap α :=
  ⟨insertEntry key a m.entries, pairwise_insertEntry m.ascending⟩

def find? (m : KeyMap α) (key : String) : Option α :=
  (m.entries.find? (·.1 == key)).map (·.2)

def contains (m : KeyMap α) (key : String) : Bool :=
  (m.find? key).isSome

def size (m : KeyMap α) : Nat :=
  m.entries.length

def isEmpty (m : KeyMap α) : Bool :=
  m.entries.isEmpty

/-- Later entries replace earlier ones under the same key. -/
def ofList (entries : List (String × α)) : KeyMap α :=
  entries.foldl (fun m (key, a) => m.insert key a) empty

def mapValues (f : α → β) (m : KeyMap α) : KeyMap β :=
  ⟨m.entries.map fun (key, a) => (key, f a), by
    rw [List.pairwise_map]
    exact m.ascending⟩

theorem find?_insert_self (m : KeyMap α) (key : String) (a : α) :
    (m.insert key a).find? key = some a := by
  obtain ⟨l, hl⟩ := m
  simp only [find?, insert]
  clear hl
  induction l with
  | nil => simp [insertEntry]
  | cons hd rest ih =>
    obtain ⟨k, b⟩ := hd
    unfold insertEntry
    split
    · simp
    · split
      · simp
      · rename_i hne
        rw [List.find?_cons_of_neg (by simpa using Ne.symm hne)]
        exact ih

theorem find?_insert_of_ne (m : KeyMap α) {key other : String} (a : α) (h : other ≠ key) :
    (m.insert key a).find? other = m.find? other := by
  obtain ⟨l, hl⟩ := m
  simp only [find?, insert]
  clear hl
  induction l with
  | nil => simp [insertEntry, Ne.symm h]
  | cons hd rest ih =>
    obtain ⟨k, b⟩ := hd
    unfold insertEntry
    split
    · rw [List.find?_cons_of_neg (by simpa using Ne.symm h)]
    · split
      · rename_i heq
        subst heq
        rw [List.find?_cons_of_neg (by simpa using Ne.symm h),
          List.find?_cons_of_neg (by simpa using Ne.symm h)]
      · rcases Decidable.em (k = other) with rfl | hk
        · rw [List.find?_cons_of_pos (by simp), List.find?_cons_of_pos (by simp)]
        · rw [List.find?_cons_of_neg (by simpa using hk),
            List.find?_cons_of_neg (by simpa using hk)]
          exact ih

end KeyMap

end CleanupCourier
