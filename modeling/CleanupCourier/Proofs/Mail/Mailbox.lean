import CleanupCourier.Mail.Mailbox
import CleanupCourier.Proofs.Text.Trimming

/-!
What a mailbox is read from. Every reader takes a part off the front of a text, and what it gives
stood there in the same order: characters may be left out, as quotes and brackets are, but none is
added, and there is no NUL among those that are taken. So an address is no longer than the text it
is read from, and it is shorter than a text with brackets in it.
-/
namespace CleanupCourier

namespace Mailbox

/-- Holds of a text, of a part that is taken off its front, and of what is left of it. -/
def Takes (s part rest : List Char) : Prop :=
  ∃ taken, s = taken ++ rest ∧ part.Sublist taken ∧ '\x00' ∉ taken

namespace Takes

variable {s part part' rest rest' : List Char} {c : Char}

theorem nil (s : List Char) : Takes s [] s :=
  ⟨[], rfl, List.Sublist.refl _, List.not_mem_nil⟩

theorem one (rest : List Char) (visible : c ≠ '\x00') : Takes (c :: rest) [c] rest :=
  ⟨[c], rfl, List.Sublist.refl _, by simpa using visible.symm⟩

theorem append (first : Takes s part rest) (second : Takes rest part' rest') :
    Takes s (part ++ part') rest' := by
  obtain ⟨taken, rfl, sub, clean⟩ := first
  obtain ⟨taken', rfl, sub', clean'⟩ := second
  refine ⟨taken ++ taken', (List.append_assoc _ _ _).symm, sub.append sub', ?_⟩
  rw [List.mem_append]
  exact not_or.mpr ⟨clean, clean'⟩

/-- Some of what is taken may be left out. -/
theorem sublist (h : Takes s part rest) (sub : part'.Sublist part) : Takes s part' rest := by
  obtain ⟨taken, split, within, clean⟩ := h
  exact ⟨taken, split, sub.trans within, clean⟩

theorem cons (visible : c ≠ '\x00') (h : Takes rest part rest') :
    Takes (c :: rest) (c :: part) rest' :=
  (one rest visible).append h

theorem skip (visible : c ≠ '\x00') (h : Takes rest part rest') : Takes (c :: rest) part rest' :=
  (cons visible h).sublist (List.sublist_cons_self c part)

theorem takeWhile {p : Char → Bool} (visible : p '\x00' = false) (s : List Char) :
    Takes s (s.takeWhile p) (s.dropWhile p) := by
  refine ⟨s.takeWhile p, List.takeWhile_append_dropWhile.symm, List.Sublist.refl _, fun mem => ?_⟩
  exact absurd (List.mem_takeWhile_imp mem) (by simp [visible])

theorem dropWhile {p : Char → Bool} (visible : p '\x00' = false)
    (h : Takes (s.dropWhile p) part rest) : Takes s part rest :=
  ((takeWhile visible s).append h).sublist (List.sublist_append_right _ _)

/-- What is left may be shortened by what is dropped from it. -/
theorem dropWhile_right {p : Char → Bool} (visible : p '\x00' = false) (h : Takes s part rest) :
    Takes s part (rest.dropWhile p) :=
  (h.append (takeWhile visible rest)).sublist (List.sublist_append_left _ _)

end Takes

theorem takes_gap (s : List Char) : Takes s (gap s).1 (gap s).2 :=
  (Takes.takeWhile (by decide) s).sublist (List.take_sublist _ _)

theorem takes_atoms (s : List Char) :
    Takes s (s.takeWhile MailAddress.isAtomChar)
      (s.drop (s.takeWhile MailAddress.isAtomChar).length) := by
  rw [drop_length_takeWhile]
  exact Takes.takeWhile (by decide +kernel) s

section Readers

variable {s part rest : List Char}

theorem takes_of_atom? (h : atom? s = some (part, rest)) : Takes s part rest := by
  unfold atom? at h
  dsimp only at h
  split at h
  · exact nomatch h
  · cases h
    exact (takes_gap s).append (takes_atoms _)

/-- By induction on the dots that may follow. -/
theorem takes_dottedRest (fuel : Nat) (s : List Char) :
    Takes s (dottedRest fuel s).1 (dottedRest fuel s).2 := by
  fun_induction dottedRest fuel s with
  | case1 s => exact .nil s
  | case2 fuel rest chars empty => exact .nil _
  | case3 fuel rest chars some more after eq ih =>
    rw [eq] at ih
    exact .cons (by decide) ((takes_atoms rest).append ih)
  | case4 => exact .nil _

theorem takes_of_dottedAtom? (h : dottedAtom? s = some (part, rest)) : Takes s part rest := by
  obtain ⟨⟨first, after⟩, read, h⟩ := Option.bind_eq_some_iff.mp h
  cases h
  exact (takes_of_atom? read).append (takes_dottedRest _ after)

theorem takes_of_quotedChar? {c : Char} (h : quotedChar? s = some (c, rest)) :
    Takes s [c] rest := by
  unfold quotedChar? at h
  split at h
  · split at h
    · rename_i escapable
      cases h
      refine .skip (by decide) (.one rest fun nul => ?_)
      rw [nul] at escapable
      exact absurd escapable (by decide)
    · exact nomatch h
  · split at h
    · rename_i allowed
      cases h
      refine .one rest fun nul => ?_
      rw [nul] at allowed
      exact absurd allowed (by decide)
    · exact nomatch h
  · exact nomatch h

/-- By induction on the characters that may follow. -/
theorem takes_quotedContent (fuel : Nat) (s : List Char) :
    Takes s (quotedContent fuel s).1 (quotedContent fuel s).2 := by
  induction fuel generalizing s with
  | zero => exact .nil s
  | succ fuel ih =>
    rw [quotedContent]
    dsimp only
    cases read : quotedChar? (gap s).2 with
    | none => exact .nil s
    | some next =>
      obtain ⟨c, rest⟩ := next
      exact (takes_gap s).append ((takes_of_quotedChar? read).append (ih rest))

theorem takes_of_quoted? (h : quoted? s = some (part, rest)) : Takes s part rest := by
  unfold quoted? at h
  split at h
  · rename_i inside
    dsimp only at h
    split at h
    · rename_i after closed
      cases h
      have content := takes_quotedContent inside.length inside
      have closing : Takes ((quotedContent inside.length inside).2.dropWhile isBlank) [] rest := by
        rw [closed]
        exact .skip (by decide) (.nil rest)
      have whole := content.append (.dropWhile (by decide) closing)
      rw [List.append_nil] at whole
      exact .skip (by decide) whole
    · exact nomatch h
  · exact nomatch h

theorem takes_of_word? (h : word? s = some (part, rest)) : Takes s part rest := by
  obtain quoted | ⟨-, atom⟩ := Option.or_eq_some_iff.mp h
  · exact takes_of_quoted? quoted
  · exact takes_of_atom? atom

theorem takes_of_namePart? (h : namePart? s = some (part, rest)) : Takes s part rest := by
  obtain word | ⟨-, dot⟩ := Option.or_eq_some_iff.mp h
  · exact takes_of_word? word
  · split at dot
    · cases dot
      exact .one _ (by decide)
    · exact nomatch dot

/-- By induction on the words and dots that may follow. -/
theorem takes_nameRest (fuel : Nat) (s : List Char) :
    Takes s (nameRest fuel s).1 (nameRest fuel s).2 := by
  fun_induction nameRest fuel s with
  | case1 s => exact .nil s
  | case2 fuel s part rest found more after eq ih =>
    rw [eq] at ih
    exact (takes_of_namePart? found).append ih
  | case3 => exact .nil _

theorem takes_of_name? (h : name? s = some (part, rest)) : Takes s part rest := by
  obtain ⟨⟨first, after⟩, read, h⟩ := Option.bind_eq_some_iff.mp h
  cases h
  exact (takes_of_word? read).append (takes_nameRest _ after)

/-- By induction on the parts that may follow. -/
theorem takes_separated {part? : List Char → Option (List Char × List Char)}
    (takes : ∀ {s part rest}, part? s = some (part, rest) → Takes s part rest) (fuel : Nat)
    (s : List Char) : Takes s (separated part? fuel s).1 (separated part? fuel s).2 := by
  induction fuel generalizing s with
  | zero => exact .nil s
  | succ fuel ih =>
    unfold separated
    split
    · exact .nil _
    · rename_i rest eq
      cases eq
      cases read : part? rest with
      | none => exact .nil _
      | some next =>
        obtain ⟨part, after⟩ := next
        exact .cons (by decide) ((takes read).append (ih after))
    · exact .nil _

theorem takes_of_dotted? {part? : List Char → Option (List Char × List Char)}
    (takes : ∀ {s part rest}, part? s = some (part, rest) → Takes s part rest)
    (h : dotted? part? s = some (part, rest)) : Takes s part rest := by
  obtain ⟨⟨first, after⟩, read, h⟩ := Option.bind_eq_some_iff.mp h
  cases h
  exact (takes read).append (takes_separated takes _ after)

theorem takes_of_user? (h : user? s = some (part, rest)) : Takes s part rest := by
  obtain dotted | ⟨-, h⟩ := Option.or_eq_some_iff.mp h
  · exact takes_of_dottedAtom? dotted
  obtain quoted | ⟨-, words⟩ := Option.or_eq_some_iff.mp h
  · exact takes_of_quoted? quoted
  · exact takes_of_dotted? takes_of_word? words

theorem takes_of_domain? (h : domain? s = some (part, rest)) : Takes s part rest := by
  obtain dotted | ⟨-, atoms⟩ := Option.or_eq_some_iff.mp h
  · exact takes_of_dottedAtom? dotted
  · exact takes_of_dotted? takes_of_atom? atoms

variable {user domain : List Char}

theorem takes_of_address? (h : address? s = some ((user, domain), rest)) :
    Takes s (user ++ '@' :: domain) rest := by
  obtain ⟨⟨first, after⟩, read, h⟩ := Option.bind_eq_some_iff.mp h
  dsimp only at h
  split at h
  · obtain ⟨⟨second, last⟩, read', h⟩ := Option.bind_eq_some_iff.mp h
    cases h
    exact (takes_of_user? read).append (.cons (by decide) (takes_of_domain? read'))
  · exact nomatch h

theorem takes_of_bracketed? (h : bracketed? s = some ((user, domain), rest)) :
    Takes s ('<' :: (user ++ '@' :: domain) ++ ['>']) rest := by
  unfold bracketed? at h
  split at h
  · rename_i inside opened
    obtain ⟨⟨⟨first, second⟩, after⟩, read, h⟩ := Option.bind_eq_some_iff.mp h
    dsimp only at h
    split at h
    · rename_i last
      cases h
      refine .dropWhile (p := isBlank) (by decide) ?_
      rw [opened]
      refine .dropWhile_right (by decide) (.cons (by decide) ?_)
      exact (takes_of_address? read).append (.one last (by decide))
    · exact nomatch h
  · exact nomatch h

theorem takes_of_named? {name : Option (List Char)}
    (h : named? s = some ((name, user, domain), rest)) :
    Takes s ('<' :: (user ++ '@' :: domain) ++ ['>']) rest := by
  unfold named? at h
  split at h
  · rename_i first after named
    obtain ⟨⟨⟨_, _⟩, _⟩, read, h⟩ := Option.bind_eq_some_iff.mp h
    cases h
    exact ((takes_of_name? named).append (takes_of_bracketed? read)).sublist
      (List.sublist_append_right _ _)
  · obtain ⟨⟨⟨_, _⟩, _⟩, read, h⟩ := Option.bind_eq_some_iff.mp h
    cases h
    exact takes_of_bracketed? read

/-- However an address is read, it is taken, and brackets around it are if there is a name. -/
theorem takes_of_front? {name : Option (List Char)}
    (h : front? s = some ((name, user, domain), rest)) :
    Takes s (user ++ '@' :: domain) rest ∧
      (name ≠ none → Takes s ('<' :: (user ++ '@' :: domain) ++ ['>']) rest) := by
  obtain named | ⟨-, plain⟩ := Option.or_eq_some_iff.mp h
  · have takes := takes_of_named? named
    refine ⟨takes.sublist ?_, fun _ => takes⟩
    exact (List.sublist_cons_self _ _).trans (List.sublist_append_left _ _)
  · obtain ⟨⟨⟨_, _⟩, _⟩, read, eq⟩ := Option.map_eq_some_iff.mp plain
    cases eq
    exact ⟨takes_of_address? read, fun named => absurd rfl named⟩

end Readers

theorem make_eq_ok {name : Option (List Char)} {user domain : List Char} {m : Mailbox}
    (h : make name user domain = .ok m) :
    MailAddress.isUser user ∧ MailAddress.isDomain domain ∧
      m = ⟨name.map String.ofList, ⟨String.ofList user, String.ofList domain⟩⟩ := by
  unfold make MailAddress.make at h
  cases user : MailAddress.isUser user <;> rw [user] at h
  · exact nomatch h
  cases domain : MailAddress.isDomain domain <;> rw [domain] at h
  · exact nomatch h
  · cases h
    exact ⟨rfl, rfl, rfl⟩

theorem parse_eq_ok {text : String} {m : Mailbox} (h : parse text = .ok m) :
    ∃ name user domain after, front? (text.toList.dropWhile isBlank) =
        some ((name, user, domain), after) ∧
      after.dropWhile isBlank = [] ∧ make name user domain = .ok m := by
  unfold parse at h
  split at h
  · exact nomatch h
  rename_i name user domain after read
  split at h
  · rename_i blank
    exact ⟨name, user, domain, after, read, List.isEmpty_iff.mp blank, h⟩
  · exact nomatch h

/-- A text that a mailbox is read from has no NUL in it. The address stands in it, and so do
brackets if there is a name. -/
theorem holds_of_parse {text : String} {m : Mailbox} (h : parse text = .ok m) :
    '\x00' ∉ text.toList ∧ m.address.text.toList.Sublist text.toList ∧
      (m.name ≠ none → m.address.text.length + 2 ≤ text.length) := by
  obtain ⟨name, user, domain, after, read, blank, made⟩ := parse_eq_ok h
  obtain ⟨-, -, rfl⟩ := make_eq_ok made
  let address : MailAddress := ⟨String.ofList user, String.ofList domain⟩
  have spelled : address.text.toList = user ++ '@' :: domain := by
    simp [address, MailAddress.text]
  have whole {part : List Char} (takes : Takes (text.toList.dropWhile isBlank) part after) :
      part.Sublist text.toList ∧ '\x00' ∉ text.toList := by
    have takes := (Takes.dropWhile (by decide) takes).dropWhile_right (p := isBlank) (by decide)
    obtain ⟨taken, split, sub, clean⟩ := takes
    rw [blank, List.append_nil] at split
    rw [split]
    exact ⟨sub, clean⟩
  obtain ⟨plain, named⟩ := takes_of_front? read
  obtain ⟨sub, clean⟩ := whole plain
  refine ⟨clean, spelled ▸ sub, fun some => ?_⟩
  have brackets := (whole (named (by simpa using some))).1.length_le
  have length := congrArg List.length spelled
  rw [String.length_toList] at brackets length
  simp only [List.length_append, List.length_cons, List.length_nil] at brackets length
  change address.text.length + 2 ≤ text.length
  omega

end Mailbox

end CleanupCourier
