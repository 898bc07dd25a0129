import CleanupCourier.Proofs.Mail.Mailbox

/-!
What the parts of an address are read as when they are read again. A dotted atom comes back, so
every domain does and every user of plain atoms. A user in quotes comes back without them, which is
another user or none.
-/
namespace CleanupCourier

namespace Mailbox

theorem intercalate_cons {α : Type} (sep first : List α) (more : List (List α)) :
    sep.intercalate (first :: more) = first ++ more.flatMap (sep ++ ·) := by
  induction more generalizing first with
  | nil => simp
  | cons next more ih => rw [List.intercalate_cons_cons, ih, List.flatMap_cons]; simp

/-! ### Atoms with dots between them -/

section Dotted

variable {s rest part : List Char}

/-- Holds of a text at whose front an atom does not go on. -/
def Stops (rest : List Char) : Prop :=
  ∀ c ∈ rest.head?, ¬ MailAddress.isAtomChar c

/-- Holds of a text at whose front neither an atom goes on nor a dotted one. -/
def Closes (rest : List Char) : Prop :=
  Stops rest ∧ ∀ c ∈ rest.head?, c ≠ '.'

theorem stops_cons {c : Char} (h : ¬ MailAddress.isAtomChar c) (s : List Char) : Stops (c :: s) :=
  fun d mem => by cases mem; exact h

theorem stops_dropWhile (s : List Char) : Stops (s.dropWhile MailAddress.isAtomChar) := by
  intro c mem
  have first := List.head?_dropWhile_not MailAddress.isAtomChar s
  rw [Option.mem_def.mp mem] at first
  simpa using first

theorem Stops.append (h : Stops s) (after : Stops rest) : Stops (s ++ rest) := by
  cases s with
  | nil => exact after
  | cons c s => exact h

theorem not_isGap_of_isAtomChar {c : Char} (h : MailAddress.isAtomChar c) : isGap c = false := by
  by_contra gap
  have blank : c = ' ' ∨ c = '\t' := by simpa only [isGap, Bool.not_eq_false, Bool.or_eq_true,
    beq_iff_eq] using gap
  obtain rfl | rfl := blank <;> exact absurd h (by decide +kernel)

theorem isAtom_iff {chars : List Char} :
    MailAddress.isAtom chars ↔ chars ≠ [] ∧ ∀ c ∈ chars, MailAddress.isAtomChar c := by
  simp [MailAddress.isAtom]

theorem takeWhile_atom {chars : List Char} (all : ∀ c ∈ chars, MailAddress.isAtomChar c)
    (stops : Stops rest) : (chars ++ rest).takeWhile MailAddress.isAtomChar = chars := by
  rw [List.takeWhile_append_of_pos all]
  cases rest with
  | nil => simp
  | cons c rest => rw [List.takeWhile_cons_of_neg (stops c rfl), List.append_nil]

/-- What stands in front of an atom belongs to it, all its blanks but the first left out. -/
theorem atom?_append {space chars : List Char} (blank : ∀ c ∈ space, isGap c)
    (atom : MailAddress.isAtom chars) (stops : Stops rest) :
    atom? (space ++ (chars ++ rest)) = some (space.take 1 ++ chars, rest) := by
  obtain ⟨some, all⟩ := isAtom_iff.mp atom
  obtain ⟨c, more, rfl⟩ := List.exists_cons_of_ne_nil some
  have stays : ¬ isGap c = true := by simp [not_isGap_of_isAtomChar (all c List.mem_cons_self)]
  have gap : gap (space ++ ((c :: more) ++ rest)) = (space.take 1, (c :: more) ++ rest) := by
    rw [gap, List.cons_append, takeWhile_append_cons blank stays,
      List.dropWhile_append_of_pos blank, List.dropWhile_cons_of_neg stays]
  unfold atom?
  rw [gap]
  dsimp only
  rw [takeWhile_atom all stops, if_neg (by simp), List.drop_left]

theorem atom?_of_stops (stops : Stops (s.dropWhile isGap)) : atom? s = none := by
  unfold atom?
  refine if_pos ?_
  cases front : s.dropWhile isGap with
  | nil => rfl
  | cons c rest =>
    rw [front] at stops
    rw [List.takeWhile_cons_of_neg (stops c rfl)]
    rfl

/-- Atoms with dots in front of them. -/
def dots (atoms : List (List Char)) : List Char :=
  atoms.flatMap ('.' :: ·)

/-- Holds of atoms with dots between them, with at most one blank in front. -/
def IsDotted (s : List Char) : Prop :=
  ∃ space first more, s = space ++ (first ++ dots more) ∧
    ((∀ c ∈ space, isGap c) ∧ space.length ≤ 1) ∧ ∀ a ∈ first :: more, MailAddress.isAtom a

theorem stops_dots (atoms : List (List Char)) : Stops (dots atoms) := by
  cases atoms with
  | nil => exact fun _ mem => nomatch mem
  | cons a atoms => exact stops_cons (by decide +kernel) _

/-- By induction on the dots that may follow. -/
theorem exists_dots_of_dottedRest (fuel : Nat) (s : List Char) :
    ∃ atoms, (dottedRest fuel s).1 = dots atoms ∧ ∀ a ∈ atoms, MailAddress.isAtom a := by
  fun_induction dottedRest fuel s with
  | case1 | case2 | case4 => exact ⟨[], rfl, List.forall_mem_nil _⟩
  | case3 fuel rest chars some more after eq ih =>
    obtain ⟨atoms, spelled, all⟩ := ih
    rw [eq] at spelled
    have spelled : more = dots atoms := spelled
    refine ⟨chars :: atoms, by rw [spelled]; rfl, List.forall_mem_cons.mpr ⟨?_, all⟩⟩
    exact isAtom_iff.mpr ⟨by simpa using some, fun _ mem => List.mem_takeWhile_imp mem⟩

theorem dottedRest_of_closes (closes : Closes rest) (fuel : Nat) :
    dottedRest fuel rest = ([], rest) := by
  fun_cases dottedRest fuel rest with
  | case1 | case4 => rfl
  | case2 | case3 => exact absurd rfl (closes.2 '.' rfl)

/-- By induction on the atoms. -/
theorem dottedRest_append {atoms : List (List Char)} (all : ∀ a ∈ atoms, MailAddress.isAtom a)
    (closes : Closes rest) {fuel : Nat} (enough : (dots atoms).length ≤ fuel) :
    dottedRest fuel (dots atoms ++ rest) = (dots atoms, rest) := by
  induction atoms generalizing fuel with
  | nil => exact dottedRest_of_closes closes fuel
  | cons a atoms ih =>
    obtain ⟨atom, all⟩ := List.forall_mem_cons.mp all
    obtain ⟨some, chars⟩ := isAtom_iff.mp atom
    obtain ⟨fuel, rfl⟩ : ∃ n, fuel = n + 1 := ⟨fuel - 1, by simp [dots] at enough; omega⟩
    have split : dots (a :: atoms) ++ rest = '.' :: (a ++ (dots atoms ++ rest)) := by simp [dots]
    have enough : (dots atoms).length ≤ fuel := by simp [dots] at enough ⊢; omega
    rw [split, dottedRest]
    dsimp only
    rw [takeWhile_atom chars ((stops_dots atoms).append closes.1), List.drop_left,
      ih all enough, if_neg (by simpa using some)]
    rfl

theorem isDotted_of_dottedAtom? (h : dottedAtom? s = some (part, rest)) : IsDotted part := by
  obtain ⟨⟨first, after⟩, read, h⟩ := Option.bind_eq_some_iff.mp h
  cases h
  obtain ⟨atoms, spelled, all⟩ := exists_dots_of_dottedRest after.length after
  unfold atom? at read
  dsimp only at read
  split at read
  · exact nomatch read
  · rename_i some
    cases read
    refine ⟨(gap s).1, (gap s).2.takeWhile MailAddress.isAtomChar, atoms, ?_,
      ⟨fun c mem => ?_, ?_⟩, List.forall_mem_cons.mpr ⟨isAtom_iff.mpr ⟨?_, fun _ mem => ?_⟩, all⟩⟩
    · rw [spelled, List.append_assoc]
    · exact List.mem_takeWhile_imp (List.mem_of_mem_take mem)
    · exact List.length_take_le _ _
    · exact fun none => some (List.isEmpty_iff.mpr none)
    · exact List.mem_takeWhile_imp mem

/-- A dotted atom is read again as it is. -/
theorem IsDotted.read (h : IsDotted s) (closes : Closes rest) :
    dottedAtom? (s ++ rest) = some (s, rest) := by
  obtain ⟨space, first, more, rfl, ⟨blank, one⟩, all⟩ := h
  obtain ⟨atom, all⟩ := List.forall_mem_cons.mp all
  have split : space ++ (first ++ dots more) ++ rest = space ++ (first ++ (dots more ++ rest)) := by
    simp
  rw [split, dottedAtom?, atom?_append blank atom ((stops_dots more).append closes.1)]
  dsimp only [bind, Option.bind]
  rw [dottedRest_append all closes (by simp), List.take_of_length_le one, List.append_assoc]
  rfl

/-- Holds of atoms with dots between them. -/
def IsPlain (s : List Char) : Prop :=
  ∃ first more, s = first ++ dots more ∧ ∀ a ∈ first :: more, MailAddress.isAtom a

theorem IsPlain.isDotted (h : IsPlain s) : IsDotted s := by
  obtain ⟨first, more, rfl, all⟩ := h
  exact ⟨[], first, more, rfl, ⟨List.forall_mem_nil _, Nat.zero_le 1⟩, all⟩

theorem IsPlain.exists_cons (h : IsPlain s) :
    ∃ c rest, s = c :: rest ∧ MailAddress.isAtomChar c := by
  obtain ⟨first, more, rfl, all⟩ := h
  obtain ⟨some, chars⟩ := isAtom_iff.mp (all first List.mem_cons_self)
  obtain ⟨c, rest, rfl⟩ := List.exists_cons_of_ne_nil some
  exact ⟨c, rest ++ dots more, rfl, chars c List.mem_cons_self⟩

theorem isPlain_of_isDottedAtom (h : MailAddress.isDottedAtom s) : IsPlain s := by
  obtain ⟨first, more, split⟩ := List.exists_cons_of_ne_nil (List.splitOn_ne_nil '.' s)
  refine ⟨first, more, ?_, ?_⟩
  · have joined : ['.'].intercalate (s.splitOn '.') = s := List.intercalate_splitOn '.'
    rw [split, intercalate_cons] at joined
    exact joined.symm
  · rw [← split]
    exact List.all_eq_true.mp h

end Dotted

/-! ### Text between quotes -/

section Quotes

variable {s : List Char}

/-- Holds of text that stands between quotes: blanks, characters that need no backslash, and others
behind one. -/
inductive Quotes : List Char → Prop
  | nil : Quotes []
  | plain {c : Char} {s : List Char} (bare : isGap c ∨ isQuotedChar c) (rest : Quotes s) :
    Quotes (c :: s)
  | pair {c : Char} {s : List Char} (escapable : isEscapable c) (rest : Quotes s) :
    Quotes ('\\' :: c :: s)

/-- Holds of a piece of such text that is read as one character. -/
def Spells (piece : List Char) (c : Char) : Prop :=
  (∀ d ∈ piece.head?, ¬ isGap d) ∧ piece ≠ [] ∧
    ∀ rest, quotedChar? (piece ++ rest) = some (c, rest)

theorem spells_of_isQuotedChar {c : Char} (h : isQuotedChar c) : Spells [c] c := by
  refine ⟨fun d mem => ?_, List.cons_ne_nil _ _, fun rest => ?_⟩
  · cases mem
    intro gap
    have blank : c = ' ' ∨ c = '\t' := by simpa only [isGap, Bool.or_eq_true, beq_iff_eq] using gap
    obtain rfl | rfl := blank <;> exact absurd h (by decide)
  · have other : c ≠ '\\' := by
      rintro rfl
      exact absurd h (by decide)
    rw [List.singleton_append]
    cases rest <;> simp [quotedChar?, other, h]

theorem spells_of_isEscapable {c : Char} (h : isEscapable c) : Spells ['\\', c] c := by
  refine ⟨fun d mem => ?_, List.cons_ne_nil _ _, fun rest => ?_⟩
  · cases mem
    decide
  · exact if_pos h

/-- Behind the blanks in front of it, such text is at its end or goes on with a character. -/
theorem Quotes.cases (h : Quotes s) : ∃ space rest, s = space ++ rest ∧ (∀ c ∈ space, isGap c) ∧
    (rest = [] ∨ ∃ piece c more, rest = piece ++ more ∧ Spells piece c ∧ Quotes more) := by
  induction h with
  | nil => exact ⟨[], [], rfl, List.forall_mem_nil _, .inl rfl⟩
  | @plain c s bare quotes ih =>
    by_cases gap : isGap c
    · obtain ⟨space, rest, rfl, blank, next⟩ := ih
      exact ⟨c :: space, rest, rfl, List.forall_mem_cons.mpr ⟨gap, blank⟩, next⟩
    · have spells := spells_of_isQuotedChar (bare.resolve_left gap)
      exact ⟨[], c :: s, rfl, List.forall_mem_nil _, .inr ⟨[c], c, s, rfl, spells, quotes⟩⟩
  | @pair c s escapable quotes =>
    refine ⟨[], _, rfl, List.forall_mem_nil _, .inr ⟨['\\', c], c, s, rfl, ?_, quotes⟩⟩
    exact spells_of_isEscapable escapable

theorem quotedChar?_mark (rest : List Char) : quotedChar? ('"' :: rest) = none := by
  cases rest <;> rfl

theorem gap_append {space rest : List Char} (blank : ∀ c ∈ space, isGap c)
    (stays : ∀ c ∈ rest.head?, ¬ isGap c) : gap (space ++ rest) = (space.take 1, rest) := by
  rw [gap, List.dropWhile_append_of_pos blank]
  cases rest with
  | nil => simp [List.takeWhile_eq_self_iff.mpr blank]
  | cons c rest =>
    rw [takeWhile_append_cons blank (stays c rfl), List.dropWhile_cons_of_neg (stays c rfl)]

theorem quotedContent_of_spells {space piece : List Char} {c : Char}
    (blank : ∀ c ∈ space, isGap c) (spells : Spells piece c) (fuel : Nat) (rest : List Char) :
    quotedContent (fuel + 1) (space ++ (piece ++ rest)) =
      (space.take 1 ++ c :: (quotedContent fuel rest).1, (quotedContent fuel rest).2) := by
  obtain ⟨stays, some, read⟩ := spells
  have first : ∀ d ∈ (piece ++ rest).head?, ¬ isGap d := by
    obtain ⟨d, more, rfl⟩ := List.exists_cons_of_ne_nil some
    exact stays
  rw [quotedContent, gap_append blank first]
  dsimp only
  rw [read]

/-- Such text is read up to the quotes behind it, the blanks at its end left over. By induction on
its length. -/
theorem Quotes.read (h : Quotes s) : ∃ content blanks, content.length ≤ s.length ∧
    (∀ c ∈ blanks, isGap c) ∧ ∀ fuel rest, s.length ≤ fuel →
      quotedContent fuel (s ++ '"' :: rest) = (content, blanks ++ '"' :: rest) := by
  induction length : s.length using Nat.strong_induction_on generalizing s with | _ n ih
  subst length
  obtain ⟨space, _, rfl, blank, rfl | ⟨piece, c, more, rfl, spells, quotes⟩⟩ := h.cases
  · refine ⟨[], space, Nat.zero_le _, blank, fun fuel rest _ => ?_⟩
    rw [List.append_nil]
    cases fuel with
    | zero => rfl
    | succ fuel =>
      rw [quotedContent, gap_append blank fun c mem => by cases mem; decide]
      dsimp only
      rw [quotedChar?_mark]
  · have positive : 0 < piece.length := List.length_pos_iff.mpr spells.2.1
    obtain ⟨content, blanks, short, gaps, read⟩ := ih more.length (by simp; omega) quotes rfl
    refine ⟨space.take 1 ++ c :: content, blanks, ?_, gaps, fun fuel rest enough => ?_⟩
    · simp only [List.length_append, List.length_cons, List.length_take]
      omega
    · simp only [List.length_append] at enough
      obtain ⟨fuel, rfl⟩ : ∃ n, fuel = n + 1 := ⟨fuel - 1, by omega⟩
      rw [List.append_assoc, List.append_assoc, quotedContent_of_spells blank spells,
        read fuel rest (by omega)]

theorem isBlank_of_isGap {c : Char} (h : isGap c) : isBlank c := by
  have blank : c = ' ' ∨ c = '\t' := by simpa only [isGap, Bool.or_eq_true, beq_iff_eq] using h
  obtain rfl | rfl := blank <;> decide

theorem Quotes.quoted? (h : Quotes s) : ∃ content, content.length ≤ s.length ∧
    ∀ rest, Mailbox.quoted? ('"' :: (s ++ '"' :: rest)) = some (content, rest) := by
  obtain ⟨content, blanks, short, gaps, read⟩ := h.read
  refine ⟨content, short, fun rest => ?_⟩
  rw [Mailbox.quoted?, read _ rest (by simp)]
  dsimp only
  rw [List.dropWhile_append_of_pos fun c mem => isBlank_of_isGap (gaps c mem),
    List.dropWhile_cons_of_neg (by decide)]
  rfl

theorem quotes_of_isQuotedContent (h : MailAddress.isQuotedContent s) : Quotes s := by
  fun_induction MailAddress.isQuotedContent s with
  | case1 => exact .nil
  | case2 c rest ih =>
    obtain ⟨first, rest⟩ := Bool.and_eq_true_iff.mp h
    refine .pair ?_ (ih rest)
    simp only [Bool.or_eq_true, Bool.and_eq_true, beq_iff_eq, decide_eq_true_eq] at first
    obtain rfl | rfl | range := or_assoc.mp first
    · decide
    · decide
    · simp [isEscapable]
      omega
  | case3 => exact nomatch h
  | case4 c tail pair lone ih =>
    simp only [Bool.and_eq_true, bne_iff_ne, ne_eq, decide_eq_true_eq] at h
    obtain ⟨⟨⟨quote, low⟩, delete⟩, content⟩ := h
    have mark : c.toNat ≠ 34 := fun eq => quote (Char.toNat_inj.mp eq)
    have slash : c ≠ '\\' := fun eq => by
      cases split : tail with
      | nil => exact lone eq split
      | cons d more => exact pair d more eq split
    have slash : c.toNat ≠ 92 := fun eq => slash (Char.toNat_inj.mp eq)
    refine .plain ?_ (ih content)
    by_cases space : c = ' '
    · exact .inl (by rw [space]; decide)
    · have space : c.toNat ≠ 32 := fun eq => space (Char.toNat_inj.mp eq)
      simp only [isQuotedChar, Bool.or_eq_true, Bool.and_eq_true, beq_iff_eq, decide_eq_true_eq]
      omega

end Quotes

/-! ### Users and addresses -/

section Addresses

variable {user domain rest : List Char}

theorem domain?_eq (s : List Char) : domain? s = dottedAtom? s := by
  unfold domain?
  cases first : atom? s with
  | none => simp [dotted?, dottedAtom?, first]
  | some next => simp [dottedAtom?, first]

theorem closes_cons {c : Char} (h : ¬ MailAddress.isAtomChar c) (dot : c ≠ '.')
    (rest : List Char) : Closes (c :: rest) :=
  ⟨stops_cons h rest, fun d mem => by cases mem; exact dot⟩

/-- Holds of a user that is made of plain atoms, or of other text in quotes. -/
inductive IsUser : List Char → Prop
  | plain {user : List Char} (atoms : IsPlain user) : IsUser user
  | quoted {s : List Char} (quotes : Quotes s) : IsUser ('"' :: (s ++ ['"']))

theorem isUser_of_good (h : MailAddress.isUser user) : IsUser user := by
  unfold MailAddress.isUser at h
  split at h
  · exact nomatch h
  split at h
  · rename_i marks
    obtain ⟨first, last⟩ := Bool.and_eq_true_iff.mp marks
    obtain ⟨long, content⟩ := Bool.and_eq_true_iff.mp h
    obtain ⟨rest, rfl⟩ := List.head?_eq_some_iff.mp (eq_of_beq first)
    have last := eq_of_beq last
    rw [List.getLast?_cons, Option.some.injEq] at last
    have nonempty : rest ≠ [] := by
      rintro rfl
      exact absurd long (by decide)
    rw [List.getLast?_eq_some_getLast nonempty, Option.getD_some] at last
    rw [← List.dropLast_append_getLast nonempty, last]
    exact .quoted (quotes_of_isQuotedContent content)
  · exact .plain (isPlain_of_isDottedAtom h)

theorem IsPlain.head?_ne (h : IsPlain user) : user.head? ≠ some '"' := by
  obtain ⟨c, rest, rfl, atom⟩ := h.exists_cons
  rintro ⟨⟩
  exact absurd atom (by decide +kernel)

theorem dottedAtom?_mark (rest : List Char) : dottedAtom? ('"' :: rest) = none := by
  have stops : ¬ MailAddress.isAtomChar '"' = true := by decide +kernel
  have none : atom? ('"' :: rest) = none := atom?_of_stops (stops_cons stops rest)
  rw [dottedAtom?, none]
  rfl

/-- A user is read as itself, or, if it is in quotes, as what stands between them. -/
theorem user?_append (h : IsUser user) :
    ∃ again, (user.head? ≠ some '"' → again = user) ∧
      (user.head? = some '"' → again.length < user.length) ∧
      ∀ rest, user? (user ++ '@' :: rest) = some (again, '@' :: rest) := by
  cases h with
  | plain plain =>
    refine ⟨user, fun _ => rfl, fun quoted => absurd quoted plain.head?_ne, fun rest => ?_⟩
    have closes : Closes ('@' :: rest) := closes_cons (by decide +kernel) (by decide) rest
    rw [user?, plain.isDotted.read closes, Option.some_or]
  | @quoted s quotes =>
    obtain ⟨content, short, read⟩ := quotes.quoted?
    refine ⟨content, fun plain => absurd rfl plain, fun _ => ?_, fun rest => ?_⟩
    · simp only [List.length_cons, List.length_append]
      omega
    · have split : '"' :: (s ++ ['"']) ++ '@' :: rest = '"' :: (s ++ '"' :: '@' :: rest) := by simp
      rw [split, user?, dottedAtom?_mark, Option.none_or, read, Option.some_or]

theorem address?_append {again : List Char} (dotted : IsDotted domain) (closes : Closes rest)
    (read : ∀ rest, user? (user ++ '@' :: rest) = some (again, '@' :: rest)) :
    address? (user ++ '@' :: (domain ++ rest)) = some ((again, domain), rest) := by
  have found : domain? (domain ++ rest) = some (domain, rest) := by
    rw [domain?_eq, dotted.read closes]
  rw [address?, read]
  simp [found]

end Addresses

end Mailbox

end CleanupCourier
