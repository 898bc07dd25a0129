import CleanupCourier.Mail.Header
import CleanupCourier.Proofs.Mail.Words

/-!
What the names of mailboxes are written as and read as. A name that is read has characters that can
be written, as they are or behind a backslash; and what it is written as is read as a name again,
with fewer blanks perhaps but with the same beginning.
-/
namespace CleanupCourier

namespace Mailbox

section Names

variable {s tail : List Char}

/-- Holds of text that is read as the words and dots of a name. -/
inductive Wordy : List Char → Prop
  | nil : Wordy []
  | dot {s : List Char} (rest : Wordy s) : Wordy ('.' :: s)
  | atom {space chars s : List Char} (blank : ∀ c ∈ space, isGap c)
    (atom : MailAddress.isAtom chars) (stops : Stops s) (rest : Wordy s) :
    Wordy (space ++ (chars ++ s))

/-- Holds of text at which a name ends. -/
structure Ends (tail : List Char) : Prop where
  closes : Closes tail
  part : namePart? tail = none

theorem quoted?_of_head?_ne (h : s.head? ≠ some '"') : quoted? s = none := by
  unfold quoted?
  split
  · exact absurd rfl h
  · rfl

theorem word?_append {space chars rest : List Char} (blank : ∀ c ∈ space, isGap c)
    (atom : MailAddress.isAtom chars) (stops : Stops rest) :
    word? (space ++ (chars ++ rest)) = some (space.take 1 ++ chars, rest) := by
  have mark : (space ++ (chars ++ rest)).head? ≠ some '"' := by
    cases space with
    | cons c space =>
      rintro ⟨⟩
      exact absurd (blank '"' List.mem_cons_self) (by decide)
    | nil =>
      obtain ⟨some, all⟩ := isAtom_iff.mp atom
      obtain ⟨c, more, rfl⟩ := List.exists_cons_of_ne_nil some
      rintro ⟨⟩
      exact absurd (all '"' List.mem_cons_self) (by decide +kernel)
  rw [word?, quoted?_of_head?_ne mark, Option.none_or, atom?_append blank atom stops]

theorem word?_eq_none (mark : s.head? ≠ some '"') (stops : Stops (s.dropWhile isGap)) :
    word? s = none := by
  rw [word?, quoted?_of_head?_ne mark, Option.none_or, atom?_of_stops stops]

theorem namePart?_dot (rest : List Char) : namePart? ('.' :: rest) = some (['.'], rest) := by
  have closed : word? ('.' :: rest) = none :=
    word?_eq_none (by simp) (stops_cons (by decide +kernel) rest)
  rw [namePart?, closed, Option.none_or]

theorem namePart?_append {space chars rest : List Char} (blank : ∀ c ∈ space, isGap c)
    (atom : MailAddress.isAtom chars) (stops : Stops rest) :
    namePart? (space ++ (chars ++ rest)) = some (space.take 1 ++ chars, rest) := by
  unfold namePart?
  rw [word?_append blank atom stops]
  rfl

theorem ends_of_word? {c : Char} (atom : ¬ MailAddress.isAtomChar c) (dot : c ≠ '.')
    {rest : List Char} (word : word? (c :: rest) = none) : Ends (c :: rest) := by
  refine ⟨closes_cons atom dot rest, ?_⟩
  unfold namePart?
  rw [word, Option.none_or]
  split
  · rename_i eq
    cases eq
    exact absurd rfl dot
  · rfl

theorem ends_at (rest : List Char) : Ends ('@' :: rest) := by
  refine ends_of_word? (by decide +kernel) (by decide) (word?_eq_none (by simp) ?_)
  exact stops_cons (by decide +kernel) rest

theorem ends_bracket (rest : List Char) : Ends (' ' :: '<' :: rest) := by
  refine ends_of_word? (by decide +kernel) (by decide) (word?_eq_none (by simp) ?_)
  exact stops_cons (by decide +kernel) rest

theorem nameRest_of_ends (ends : Ends tail) (fuel : Nat) : nameRest fuel tail = ([], tail) := by
  cases fuel with
  | zero => rfl
  | succ fuel => rw [nameRest, ends.part]

theorem nameRest_of_part {part rest more : List Char} (next : namePart? s = some (part, rest))
    {fuel : Nat} (read : nameRest fuel rest = (more, tail)) :
    nameRest (fuel + 1) s = (part ++ more, tail) := by
  rw [nameRest, next]
  dsimp only
  rw [read]

/-- By induction on the words and dots. -/
theorem Wordy.nameRest (h : Wordy s) : ∃ part, ∀ {tail fuel}, Ends tail → s.length ≤ fuel →
    Mailbox.nameRest fuel (s ++ tail) = (part, tail) := by
  induction h with
  | nil => exact ⟨[], fun ends _ => nameRest_of_ends ends _⟩
  | @dot s rest ih =>
    obtain ⟨part, read⟩ := ih
    refine ⟨'.' :: part, fun {tail fuel} ends enough => ?_⟩
    obtain ⟨fuel, rfl⟩ : ∃ n, fuel = n + 1 := ⟨fuel - 1, by simp at enough; omega⟩
    exact nameRest_of_part (namePart?_dot (s ++ tail)) (read ends (by simpa using enough))
  | @atom space chars s blank atom stops rest ih =>
    obtain ⟨part, read⟩ := ih
    have positive : 0 < chars.length := List.length_pos_iff.mpr (isAtom_iff.mp atom).1
    refine ⟨space.take 1 ++ chars ++ part, fun {tail fuel} ends enough => ?_⟩
    simp only [List.length_append] at enough
    obtain ⟨fuel, rfl⟩ : ∃ n, fuel = n + 1 := ⟨fuel - 1, by omega⟩
    rw [List.append_assoc, List.append_assoc]
    exact nameRest_of_part (namePart?_append blank atom (stops.append ends.closes.1))
      (read ends (by omega))

theorem name?_of_word {part rest more : List Char} (first : word? s = some (part, rest))
    (read : nameRest rest.length rest = (more, tail)) : name? s = some (part ++ more, tail) := by
  rw [name?, first]
  dsimp only [bind, Option.bind]
  rw [read]
  rfl

/-- Words and dots that begin with a word are read as a name. -/
theorem Wordy.name? (h : Wordy s) (nonempty : s ≠ []) (dot : s.head? ≠ some '.') :
    ∃ part, part.head? = s.head? ∧
      ∀ tail, Ends tail → Mailbox.name? (s ++ tail) = some (part, tail) := by
  cases h with
  | nil => exact absurd rfl nonempty
  | dot => exact absurd rfl dot
  | @atom space chars s blank atom stops rest =>
    obtain ⟨more, read⟩ := rest.nameRest
    refine ⟨space.take 1 ++ chars ++ more, ?_, fun tail ends => ?_⟩
    · cases space with
      | cons c space => rfl
      | nil =>
        obtain ⟨c, chars, rfl⟩ := List.exists_cons_of_ne_nil (isAtom_iff.mp atom).1
        rfl
    · rw [List.append_assoc, List.append_assoc]
      exact name?_of_word (word?_append blank atom (stops.append ends.closes.1))
        (read ends (by simp))

/-- Text between quotes is read as a name, which begins as the text does. -/
theorem Quotes.name? (h : Quotes s) : ∃ part,
    (∀ piece c more, Spells piece c → s = piece ++ more → part.head? = some c) ∧
      ∀ tail, Ends tail → Mailbox.name? ('"' :: (s ++ '"' :: tail)) = some (part, tail) := by
  obtain ⟨content, -, read⟩ := h.quoted?
  refine ⟨content, fun piece c more spells split => ?_, fun tail ends => ?_⟩
  · have again := read []
    have inside : s ++ ['"'] = [] ++ (piece ++ (more ++ ['"'])) := by simp [split]
    rw [Mailbox.quoted?, inside] at again
    dsimp only at again
    have length : ([] ++ (piece ++ (more ++ ['"']))).length = (piece ++ more).length + 1 := by
      simp only [List.nil_append, List.length_append, List.length_cons, List.length_nil]
      omega
    rw [length, quotedContent_of_spells (List.forall_mem_nil _) spells] at again
    dsimp only at again
    split at again
    · cases again
      rfl
    · cases again
  · have first : word? ('"' :: (s ++ '"' :: tail)) = some (content, tail) := by
      rw [word?, read, Option.some_or]
    have name := name?_of_word first (nameRest_of_ends ends tail.length)
    rwa [List.append_nil] at name

theorem wordy_dots {atoms : List (List Char)} (all : ∀ a ∈ atoms, MailAddress.isAtom a) :
    Wordy (dots atoms) := by
  induction atoms with
  | nil => exact .nil
  | cons a atoms ih =>
    obtain ⟨atom, all⟩ := List.forall_mem_cons.mp all
    have blank : ∀ c ∈ ([] : List Char), isGap c := List.forall_mem_nil _
    exact .dot (.atom blank atom (stops_dots atoms) (ih all))

theorem IsPlain.wordy (h : IsPlain s) : Wordy s := by
  obtain ⟨first, more, rfl, all⟩ := h
  obtain ⟨atom, all⟩ := List.forall_mem_cons.mp all
  have blank : ∀ c ∈ ([] : List Char), isGap c := List.forall_mem_nil _
  exact .atom blank atom (stops_dots more) (wordy_dots all)

/-- Characters that need no quotes are words, unless there are blanks behind them. By induction on
their number. -/
theorem wordy_of_bare (all : ∀ c ∈ s, isBareChar c) (last : ∀ c ∈ s.getLast?, ¬ isGap c) :
    Wordy s := by
  induction length : s.length using Nat.strong_induction_on generalizing s with | _ n ih
  subst length
  obtain rfl | nonempty := eq_or_ne s []
  · exact .nil
  have split : s.takeWhile isGap ++ s.dropWhile isGap = s := List.takeWhile_append_dropWhile
  generalize space_eq : s.takeWhile isGap = space at split
  generalize words_eq : s.dropWhile isGap = words at split
  have blank : ∀ c ∈ space, isGap c := fun c mem => List.mem_takeWhile_imp (space_eq ▸ mem)
  have some : words ≠ [] := by
    rintro rfl
    rw [List.append_nil] at split
    subst split
    exact last _ (List.getLast?_eq_some_getLast nonempty) (blank _ (List.getLast_mem nonempty))
  have stays := List.head?_dropWhile_not isGap s
  rw [words_eq] at stays
  obtain ⟨c, more, rfl⟩ := List.exists_cons_of_ne_nil some
  have first : MailAddress.isAtomChar c := by
    have bare := all c (split ▸ List.mem_append_right _ List.mem_cons_self)
    simp only [isBareChar, Bool.or_eq_true, Bool.and_eq_true] at bare
    exact (bare.resolve_left (by simpa using stays)).1
  have atoms := List.takeWhile_append_dropWhile (p := MailAddress.isAtomChar) (l := c :: more)
  rw [← split, ← atoms]
  have shorter : ((c :: more).dropWhile MailAddress.isAtomChar).length < (c :: more).length := by
    rw [List.dropWhile_cons_of_pos first]
    exact Nat.lt_succ_of_le (List.dropWhile_suffix _).length_le
  have within : (c :: more).dropWhile MailAddress.isAtomChar <:+ s :=
    (List.dropWhile_suffix _).trans (split ▸ List.suffix_append _ _)
  refine .atom blank (isAtom_iff.mpr ⟨?_, fun d mem => List.mem_takeWhile_imp mem⟩)
    (stops_dropWhile _) (ih _ ?_ (fun d mem => all d (within.subset mem)) (fun d mem => ?_) rfl)
  · rw [List.takeWhile_cons_of_pos first]
    exact List.cons_ne_nil _ _
  · rw [← split]
    simp only [List.length_append]
    omega
  · obtain ⟨front, eq⟩ := within
    exact last d (by rw [← eq, List.getLast?_append, Option.mem_def.mp mem]; rfl)

/-- Holds of characters that are written in a name as they are or behind a backslash. -/
def IsVisible (c : Char) : Prop :=
  c ≠ '\x00' ∧ c ≠ '\n' ∧ c ≠ '\r'

theorem isVisible_iff {c : Char} : IsVisible c ↔ c.toNat ≠ 0 ∧ c.toNat ≠ 10 ∧ c.toNat ≠ 13 := by
  have same (d : Char) : c ≠ d ↔ c.toNat ≠ d.toNat := not_congr Char.toNat_inj.symm
  rw [IsVisible, same, same, same]
  exact Iff.rfl

theorem isQuotedChar_or_isEscapable {c : Char} (h : IsVisible c) :
    isQuotedChar c ∨ isEscapable c := by
  obtain ⟨nul, lineFeed, carriage⟩ := isVisible_iff.mp h
  simp only [isQuotedChar, isEscapable, Bool.or_eq_true, Bool.and_eq_true, beq_iff_eq,
    decide_eq_true_eq, bne_iff_ne]
  omega

theorem spells_quotedPair {c : Char} (h : IsVisible c) (stays : ¬ isGap c) :
    Spells (quotedPair c) c := by
  unfold quotedPair
  split
  · rename_i bare
    exact spells_of_isQuotedChar (by simpa [stays] using bare)
  · rename_i other
    refine spells_of_isEscapable ((isQuotedChar_or_isEscapable h).resolve_left fun quoted => ?_)
    exact other (by simp [quoted])

theorem quotes_flatMap (visible : ∀ c ∈ s, IsVisible c) : Quotes (s.flatMap quotedPair) := by
  induction s with
  | nil => exact .nil
  | cons c s ih =>
    obtain ⟨first, visible⟩ := List.forall_mem_cons.mp visible
    rw [List.flatMap_cons, quotedPair]
    split
    · rename_i bare
      exact .plain (by simpa using bare) (ih visible)
    · rename_i other
      refine .pair ((isQuotedChar_or_isEscapable first).resolve_left fun quoted => ?_) (ih visible)
      exact other (by simp [quoted])

/-- The text of a name that has no blanks at its ends is read as a name with the same beginning. -/
theorem name?_nameText {c : Char} {rest : List Char} (visible : ∀ d ∈ c :: rest, IsVisible d)
    (first : ¬ isBlank c) (last : ∀ d ∈ (c :: rest).getLast?, ¬ isBlank d) :
    ∃ part, part.head? = some c ∧ ∀ tail, Ends tail →
      name? (nameText (c :: rest) ++ tail) = some (part, tail) := by
  have stays (d : Char) (h : ¬ isBlank d) : ¬ isGap d := mt isBlank_of_isGap h
  unfold nameText
  split
  · rename_i bare
    have bare := List.all_eq_true.mp bare
    refine (wordy_of_bare bare fun d mem => stays d (last d mem)).name? (List.cons_ne_nil _ _) ?_
    rintro ⟨⟩
    exact absurd (bare '.' List.mem_cons_self) (by decide +kernel)
  · obtain ⟨part, head, read⟩ := (quotes_flatMap visible).name?
    have spells := spells_quotedPair (visible c List.mem_cons_self) (stays c first)
    refine ⟨part, head _ c _ spells List.flatMap_cons, fun tail ends => ?_⟩
    rw [← read tail ends]
    simp

end Names

/-! ### What a name is read as -/

section Read

variable {s part rest : List Char}

theorem isVisible_of_isGap {c : Char} (h : isGap c) : IsVisible c := by
  have blank : c = ' ' ∨ c = '\t' := by simpa only [isGap, Bool.or_eq_true, beq_iff_eq] using h
  obtain rfl | rfl := blank <;> exact isVisible_iff.mpr (by decide)

theorem isVisible_of_isAtomChar {c : Char} (h : MailAddress.isAtomChar c) : IsVisible c := by
  refine ⟨?_, ?_, ?_⟩ <;> rintro rfl <;> exact absurd h (by decide +kernel)

theorem isVisible_of_mem_gap {c : Char} (h : c ∈ (gap s).1) : IsVisible c :=
  isVisible_of_isGap (List.mem_takeWhile_imp (List.mem_of_mem_take h))

theorem visible_of_atom? (h : atom? s = some (part, rest)) : ∀ c ∈ part, IsVisible c := by
  unfold atom? at h
  dsimp only at h
  split at h
  · exact nomatch h
  · cases h
    refine List.forall_mem_append.mpr ⟨fun c mem => isVisible_of_mem_gap mem, fun c mem => ?_⟩
    exact isVisible_of_isAtomChar (List.mem_takeWhile_imp mem)

theorem visible_of_quotedChar? {c : Char} (h : quotedChar? s = some (c, rest)) : IsVisible c := by
  unfold quotedChar? at h
  split at h
  · split at h
    · rename_i escapable
      cases h
      simp only [isEscapable, Bool.and_eq_true, bne_iff_ne, decide_eq_true_eq] at escapable
      exact isVisible_iff.mpr (by omega)
    · cases h
  · split at h
    · rename_i allowed
      cases h
      simp only [isQuotedChar, Bool.or_eq_true, Bool.and_eq_true, beq_iff_eq,
        decide_eq_true_eq] at allowed
      exact isVisible_iff.mpr (by omega)
    · cases h
  · cases h

/-- By induction on the characters that may follow. -/
theorem visible_quotedContent (fuel : Nat) (s : List Char) :
    ∀ c ∈ (quotedContent fuel s).1, IsVisible c := by
  induction fuel generalizing s with
  | zero => exact List.forall_mem_nil _
  | succ fuel ih =>
    rw [quotedContent]
    dsimp only
    cases read : quotedChar? (gap s).2 with
    | none => exact List.forall_mem_nil _
    | some next =>
      obtain ⟨c, rest⟩ := next
      exact List.forall_mem_append.mpr ⟨fun d mem => isVisible_of_mem_gap mem,
        List.forall_mem_cons.mpr ⟨visible_of_quotedChar? read, ih rest⟩⟩

theorem visible_of_word? (h : word? s = some (part, rest)) : ∀ c ∈ part, IsVisible c := by
  obtain quoted | ⟨-, atom⟩ := Option.or_eq_some_iff.mp h
  · unfold quoted? at quoted
    split at quoted
    · dsimp only at quoted
      split at quoted
      · cases quoted
        exact visible_quotedContent _ _
      · exact nomatch quoted
    · exact nomatch quoted
  · exact visible_of_atom? atom

/-- By induction on the words and dots that may follow. -/
theorem visible_nameRest (fuel : Nat) (s : List Char) :
    ∀ c ∈ (nameRest fuel s).1, IsVisible c := by
  fun_induction nameRest fuel s with
  | case1 | case3 => exact List.forall_mem_nil _
  | case2 fuel s part rest found more after eq ih =>
    rw [eq] at ih
    refine List.forall_mem_append.mpr ⟨?_, ih⟩
    obtain word | ⟨-, dot⟩ := Option.or_eq_some_iff.mp found
    · exact visible_of_word? word
    · split at dot
      · cases dot
        exact List.forall_mem_singleton.mpr (isVisible_iff.mpr (by decide))
      · cases dot

theorem visible_of_name? (h : name? s = some (part, rest)) : ∀ c ∈ part, IsVisible c := by
  obtain ⟨⟨first, after⟩, read, h⟩ := Option.bind_eq_some_iff.mp h
  cases h
  exact List.forall_mem_append.mpr ⟨visible_of_word? read, visible_nameRest _ _⟩

variable {name : Option (List Char)} {user domain : List Char}

theorem isDotted_of_address? (h : address? s = some ((user, domain), rest)) :
    IsDotted domain := by
  obtain ⟨⟨first, after⟩, -, h⟩ := Option.bind_eq_some_iff.mp h
  dsimp only at h
  split at h
  · obtain ⟨⟨second, last⟩, read, h⟩ := Option.bind_eq_some_iff.mp h
    cases h
    rw [domain?_eq] at read
    exact isDotted_of_dottedAtom? read
  · exact nomatch h

theorem isDotted_of_bracketed? (h : bracketed? s = some ((user, domain), rest)) :
    IsDotted domain := by
  unfold bracketed? at h
  split at h
  · obtain ⟨⟨⟨first, second⟩, after⟩, read, h⟩ := Option.bind_eq_some_iff.mp h
    dsimp only at h
    split at h
    · cases h
      exact isDotted_of_address? read
    · exact nomatch h
  · exact nomatch h

/-- Every name that is read can be written, and every domain is a dotted atom. -/
theorem of_front? (h : front? s = some ((name, user, domain), rest)) :
    (∀ c ∈ name.getD [], IsVisible c) ∧ IsDotted domain := by
  obtain named | ⟨-, plain⟩ := Option.or_eq_some_iff.mp h
  · unfold named? at named
    split at named
    · rename_i part after read
      obtain ⟨⟨⟨_, _⟩, _⟩, address, eq⟩ := Option.bind_eq_some_iff.mp named
      cases eq
      exact ⟨visible_of_name? read, isDotted_of_bracketed? address⟩
    · obtain ⟨⟨⟨_, _⟩, _⟩, address, eq⟩ := Option.bind_eq_some_iff.mp named
      cases eq
      exact ⟨List.forall_mem_nil _, isDotted_of_bracketed? address⟩
  · obtain ⟨⟨⟨_, _⟩, _⟩, address, eq⟩ := Option.map_eq_some_iff.mp plain
    cases eq
    exact ⟨List.forall_mem_nil _, isDotted_of_address? address⟩

end Read

end Mailbox

end CleanupCourier
