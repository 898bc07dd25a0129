import CleanupCourier.Proofs.Mail.Names

/-!
What one mailbox is read as from the text that a header has of it. The first of a header is read
from all of its text, every other one without the blanks in front; in both cases the domain comes
back. The user comes back if it is in no quotes and loses no blanks. Otherwise it gets shorter, or
nothing can be read.
-/
namespace CleanupCourier

namespace MailAddress

/-- Holds of an address whose user is in quotes. -/
def IsQuoted (a : MailAddress) : Prop :=
  a.user.toList.head? = some '"'

instance : DecidablePred IsQuoted :=
  fun a => inferInstanceAs (Decidable (a.user.toList.head? = some '"'))

end MailAddress

namespace Mailbox

/-- Holds of a mailbox whose parts can all be written and read again. -/
structure Legible (m : Mailbox) : Prop where
  name : ∀ c ∈ (m.name.getD "").toList, IsVisible c
  user : MailAddress.isUser m.address.user.toList
  domain : IsDotted m.address.domain.toList
  good : MailAddress.isDomain m.address.domain.toList

/-- Whether the text of a mailbox begins with a blank. -/
def beginsBlank (m : Mailbox) : Bool :=
  m.headerText.head?.any isBlank

/-- What decides whether a header gives a mailbox back. -/
def kind (m : Mailbox) : MailAddress × Bool :=
  (m.address, m.beginsBlank)

/-- Holds of text at which a mailbox ends. -/
def AtComma (rest : List Char) : Prop :=
  ∀ c ∈ rest.head?, c = ','

section Items

variable {m m' : Mailbox} {rest : List Char}

theorem AtComma.closes (h : AtComma rest) : Closes rest := by
  refine ⟨fun c mem => ?_, fun c mem => ?_⟩ <;> rw [h c mem] <;> decide +kernel

theorem AtComma.dropWhile (h : AtComma rest) : rest.dropWhile isBlank = rest := by
  cases rest with
  | nil => rfl
  | cons c rest =>
    obtain rfl : c = ',' := h c rfl
    exact List.dropWhile_cons_of_neg (by decide)

theorem address_text (a : MailAddress) : a.text.toList = a.user.toList ++ '@' :: a.domain.toList := by
  simp [MailAddress.text]

/-- What is read from a text that is one mailbox. -/
def item? (s : List Char) : Option Mailbox := do
  let ((name, user, domain), after) ← front? s
  if after.isEmpty then (make name user domain).toOption else none

/-- Holds of a text that is read in front of a comma as it is by itself. -/
def IsItem (s : List Char) : Prop :=
  ∀ rest, AtComma rest → front? (s ++ rest) = (front? s).map fun (parts, _) => (parts, rest)

theorem isItem_of_read {s : List Char} {parts : Option (List Char) × List Char × List Char}
    (read : ∀ rest, AtComma rest → front? (s ++ rest) = some (parts, rest)) :
    IsItem s ∧ front? s = some (parts, []) := by
  have whole : front? s = some (parts, []) := by
    have whole := read [] (fun _ mem => nomatch mem)
    rwa [List.append_nil] at whole
  refine ⟨fun rest comma => ?_, whole⟩
  rw [read rest comma, whole]
  rfl

theorem bracketed?_of_stays {c : Char} (stays : ¬ isBlank c) (mark : c ≠ '<') (rest : List Char) :
    bracketed? (c :: rest) = none := by
  unfold bracketed?
  rw [List.dropWhile_cons_of_neg stays]
  split
  · rename_i eq
    cases eq
    exact absurd rfl mark
  · rfl

theorem bracketed?_append {user again domain : List Char} (dotted : IsDotted domain)
    (read : ∀ rest, user? (user ++ '@' :: rest) = some (again, '@' :: rest))
    (comma : AtComma rest) :
    bracketed? (' ' :: '<' :: (user ++ '@' :: (domain ++ '>' :: rest))) =
      some ((again, domain), rest) := by
  have address := address?_append dotted
    (closes_cons (c := '>') (by decide +kernel) (by decide) rest) read
  unfold bracketed?
  rw [List.dropWhile_cons_of_pos (by decide), List.dropWhile_cons_of_neg (by decide)]
  simp [address, comma.dropWhile]

/-- The user in front of an address is taken for a name first. -/
theorem name?_user {user : List Char} (h : IsUser user) (rest : List Char) :
    ∃ part, name? (user ++ '@' :: rest) = some (part, '@' :: rest) := by
  cases h with
  | plain plain =>
    obtain ⟨c, more, rfl, atom⟩ := plain.exists_cons
    have dot : (c :: more).head? ≠ some '.' := by
      rintro ⟨⟩
      exact absurd atom (by decide +kernel)
    obtain ⟨part, -, read⟩ := plain.wordy.name? (List.cons_ne_nil _ _) dot
    exact ⟨part, read _ (ends_at rest)⟩
  | @quoted s quotes =>
    obtain ⟨part, -, read⟩ := quotes.name?
    refine ⟨part, ?_⟩
    rw [← read _ (ends_at rest)]
    simp

theorem front?_address {user again domain : List Char} (isUser : IsUser user)
    (dotted : IsDotted domain)
    (read : ∀ rest, user? (user ++ '@' :: rest) = some (again, '@' :: rest))
    (comma : AtComma rest) :
    front? (user ++ '@' :: domain ++ rest) = some ((none, again, domain), rest) := by
  obtain ⟨part, name⟩ := name?_user isUser (domain ++ rest)
  have unnamed : named? (user ++ '@' :: (domain ++ rest)) = none := by
    unfold named?
    rw [name]
    dsimp only
    rw [bracketed?_of_stays (by decide) (by decide)]
    rfl
  rw [List.append_assoc, List.cons_append, front?, unnamed,
    address?_append dotted comma.closes read]
  rfl

theorem front?_named {name part user again domain : List Char} (dotted : IsDotted domain)
    (named : ∀ tail, Ends tail → name? (name ++ tail) = some (part, tail))
    (read : ∀ rest, user? (user ++ '@' :: rest) = some (again, '@' :: rest))
    (comma : AtComma rest) :
    front? (name ++ ' ' :: '<' :: (user ++ '@' :: domain) ++ ['>'] ++ rest) =
      some ((some part, again, domain), rest) := by
  have split : name ++ ' ' :: '<' :: (user ++ '@' :: domain) ++ ['>'] ++ rest =
      name ++ ' ' :: '<' :: (user ++ '@' :: (domain ++ '>' :: rest)) := by
    simp
  have found : named? (name ++ ' ' :: '<' :: (user ++ '@' :: (domain ++ '>' :: rest))) =
      some ((some part, again, domain), rest) := by
    unfold named?
    rw [named _ (ends_bracket _)]
    dsimp only
    rw [bracketed?_append dotted read comma]
    rfl
  rw [split, front?, found, Option.some_or]

/-- The name in a header, without the blanks around it. -/
def headerName (m : Mailbox) : List Char :=
  trimBoth isBlank (m.name.getD "").toList

theorem headerText_of_nil (h : m.headerName = []) : m.headerText = m.address.text.toList := by
  unfold headerText
  dsimp only
  rw [show trimBoth isBlank _ = m.headerName from rfl, h]
  rfl

theorem headerText_of_ne (h : m.headerName ≠ []) : m.headerText =
    nameText m.headerName ++ ' ' :: '<' :: m.address.text.toList ++ ['>'] := by
  unfold headerText
  dsimp only
  rw [show trimBoth isBlank _ = m.headerName from rfl, if_neg (by simpa using h)]

theorem beginsBlank_of_ne (h : m.headerName ≠ []) : m.beginsBlank = false := by
  obtain ⟨c, name, split⟩ := List.exists_cons_of_ne_nil h
  have first : ¬ isBlank c := not_of_mem_head?_trimBoth (show c ∈ m.headerName.head? by
    rw [split]; rfl)
  rw [beginsBlank, headerText_of_ne h, split]
  unfold nameText
  split
  · exact Bool.eq_false_iff.mpr first
  · rfl

/-- What a mailbox is read as from all of its text, whatever follows: its name is a name again, its
user is read, and its domain comes back. -/
theorem Legible.exists_front? (h : m.Legible) : ∃ name again,
    (m.address.IsQuoted → again.length < m.address.user.length) ∧
    (¬ m.address.IsQuoted → again = m.address.user.toList) ∧
    (m.headerName = [] → name = none) ∧
    (m.headerName ≠ [] → ∃ c part, name = some (c :: part) ∧ ¬ isBlank c) ∧
    ∀ rest, AtComma rest →
      front? (m.headerText ++ rest) = some ((name, again, m.address.domain.toList), rest) := by
  have isUser := isUser_of_good h.user
  obtain ⟨again, plain, quoted, read⟩ := user?_append isUser
  by_cases nameless : m.headerName = []
  · refine ⟨none, again, quoted, plain, fun _ => rfl, absurd nameless, fun rest comma => ?_⟩
    rw [headerText_of_nil nameless, address_text]
    exact front?_address isUser h.domain read comma
  · obtain ⟨c, more, split⟩ := List.exists_cons_of_ne_nil nameless
    have visible : ∀ d ∈ c :: more, IsVisible d := by
      intro d mem
      obtain ⟨front, back, whole, -⟩ := exists_eq_append_trimBoth isBlank (m.name.getD "").toList
      have inside : d ∈ trimBoth isBlank (m.name.getD "").toList := by
        change d ∈ m.headerName
        rwa [split]
      exact h.name d (whole ▸ List.mem_append_right _ (List.mem_append_left _ inside))
    have first : ¬ isBlank c :=
      not_of_mem_head?_trimBoth (show c ∈ m.headerName.head? by rw [split]; rfl)
    have last : ∀ d ∈ (c :: more).getLast?, ¬ isBlank d := fun d mem =>
      not_of_mem_getLast?_trimBoth (show d ∈ m.headerName.getLast? by rwa [split])
    obtain ⟨part, head, named⟩ := name?_nameText visible first last
    obtain ⟨part, rfl⟩ := List.head?_eq_some_iff.mp head
    refine ⟨some (c :: part), again, quoted, plain, fun none => absurd none nameless,
      fun _ => ⟨c, part, rfl, first⟩, fun rest comma => ?_⟩
    rw [headerText_of_ne nameless, split, address_text]
    exact front?_named h.domain named read comma

/-- What is made of the parts that a text is read as can be read again. -/
theorem legible_of_make {s : List Char} {name : Option (List Char)} {user domain : List Char}
    (read : front? s = some ((name, user, domain), rest)) (made : make name user domain = .ok m) :
    m.Legible := by
  obtain ⟨visible, dotted⟩ := of_front? read
  obtain ⟨good, fits, rfl⟩ := make_eq_ok made
  refine ⟨fun c mem => visible c ?_, by simpa using good, by simpa using dotted,
    by simpa using fits⟩
  cases name with
  | none => exact absurd mem List.not_mem_nil
  | some name => simpa using mem

theorem legible_of_parse {text : String} (h : parse text = .ok m) : m.Legible := by
  obtain ⟨name, user, domain, after, read, -, made⟩ := parse_eq_ok h
  exact legible_of_make read made

theorem item?_of_front? {s : List Char} {parts : Option (List Char) × List Char × List Char}
    (read : front? s = some (parts, [])) :
    item? s = (make parts.1 parts.2.1 parts.2.2).toOption := by
  rw [item?, read]
  rfl

theorem exists_make_of_item? {s : List Char} (h : item? s = some m) :
    ∃ name user domain, front? s = some ((name, user, domain), []) ∧
      make name user domain = .ok m := by
  obtain ⟨⟨⟨name, user, domain⟩, after⟩, read, h⟩ := Option.bind_eq_some_iff.mp h
  dsimp only at h
  split at h
  · rename_i empty
    rw [List.isEmpty_iff.mp empty] at read
    refine ⟨name, user, domain, read, ?_⟩
    cases made : make name user domain with
    | error fault =>
      rw [made] at h
      exact nomatch h
    | ok m' =>
      rw [made] at h
      cases h
      rfl
  · exact nomatch h

theorem legible_of_item? {s : List Char} (h : item? s = some m) : m.Legible := by
  obtain ⟨name, user, domain, read, made⟩ := exists_make_of_item? h
  exact legible_of_make read made

/-- A mailbox is read from its text, with the same address if its user is in no quotes. -/
theorem Legible.item?_headerText (h : m.Legible) : IsItem m.headerText ∧
    (¬ m.address.IsQuoted → ∃ m', item? m.headerText = some m' ∧ m'.kind = m.kind ∧
      (m.name = none → m' = m)) ∧
    ∀ m', m.address.IsQuoted → item? m.headerText = some m' →
      m'.address.user.length < m.address.user.length := by
  obtain ⟨name, again, quoted, plain, nameless, named, read⟩ := h.exists_front?
  obtain ⟨isItem, front⟩ := isItem_of_read read
  refine ⟨isItem, fun unquoted => ?_, fun m' isQuoted found => ?_⟩
  · obtain rfl := plain unquoted
    let m' : Mailbox := ⟨name.map String.ofList, m.address⟩
    have made : make name m.address.user.toList m.address.domain.toList = .ok m' := by
      simp [make, MailAddress.make, h.user, h.good, m', bind, Except.bind, pure, Except.pure]
    refine ⟨m', by rw [item?_of_front? front, made]; rfl, Prod.ext rfl ?_, fun bare => ?_⟩
    swap
    · have unnamed : name = none := nameless (by rw [headerName, bare]; rfl)
      rw [show m' = ⟨none, m.address⟩ by rw [← bare]; simp [m', unnamed, bare], ← bare]
    change m'.beginsBlank = m.beginsBlank
    by_cases none : m.headerName = []
    · have none' : m'.headerName = [] := by
        rw [headerName, show m'.name = Option.none by simp [m', nameless none]]
        rfl
      rw [beginsBlank, beginsBlank, headerText_of_nil none, headerText_of_nil none']
    · obtain ⟨c, part, rfl, first⟩ := named none
      have some' : m'.headerName ≠ [] := by
        intro none'
        have empty : trimBoth isBlank (c :: part) = [] := by
          simpa [headerName, m'] using none'
        rw [trimBoth, List.dropWhile_cons_of_neg first, List.reverse_eq_nil_iff,
          List.dropWhile_eq_nil_iff] at empty
        exact first (empty c (List.mem_reverse.mpr List.mem_cons_self))
      rw [beginsBlank_of_ne some', beginsBlank_of_ne none]
  · obtain ⟨_, _, _, read, made⟩ := exists_make_of_item? found
    cases front.symm.trans read
    obtain ⟨-, -, rfl⟩ := make_eq_ok made
    simpa using quoted isQuoted

/-- The text of a mailbox behind a comma. -/
def laterText (m : Mailbox) : List Char :=
  m.headerText.dropWhile isBlank

theorem laterText_of_not (h : m.beginsBlank = false) : m.laterText = m.headerText := by
  unfold beginsBlank at h
  unfold laterText
  cases text : m.headerText with
  | nil => rfl
  | cons c rest =>
    rw [text] at h
    exact List.dropWhile_cons_of_neg (Bool.eq_false_iff.mp h)

/-- A text is no mailbox if it begins with a mark that no word, quote or bracket begins with. -/
theorem front?_eq_none {c : Char} (mark : c = '.' ∨ c = '@') (rest : List Char) :
    front? (c :: rest) = none := by
  have word : word? (c :: rest) = none := by
    obtain rfl | rfl := mark
    · exact word?_eq_none (by simp) (stops_cons (by decide +kernel) rest)
    · exact word?_eq_none (by simp) (stops_cons (by decide +kernel) rest)
  have name : name? (c :: rest) = none := by
    rw [name?, word]
    rfl
  have bracketed : bracketed? (c :: rest) = none := by
    obtain rfl | rfl := mark
    · exact bracketed?_of_stays (by decide) (by decide) rest
    · exact bracketed?_of_stays (by decide) (by decide) rest
  obtain ⟨quoted, atom⟩ := Option.or_eq_none_iff.mp word
  have user : user? (c :: rest) = none := by
    rw [user?, dottedAtom?, atom, quoted, dotted?, word]
    rfl
  have address : address? (c :: rest) = none := by
    rw [address?, user]
    rfl
  unfold front? named?
  rw [name, address]
  dsimp only
  rw [bracketed]
  rfl

/-- Without the blanks in front, plain atoms are fewer characters, and plain still unless a dot comes
first or nothing is left. -/
theorem IsPlain.dropWhile {user : List Char} (h : IsPlain user) {c : Char}
    (first : c ∈ user.head?) (blank : isBlank c) :
    (user.dropWhile isBlank).length < user.length ∧
      (IsPlain (user.dropWhile isBlank) ∨ user.dropWhile isBlank = [] ∨
        ∃ rest, user.dropWhile isBlank = '.' :: rest) := by
  obtain ⟨a, more, rfl, all⟩ := h
  obtain ⟨atom, others⟩ := List.forall_mem_cons.mp all
  obtain ⟨nonempty, chars⟩ := isAtom_iff.mp atom
  obtain ⟨d, rest, rfl⟩ := List.exists_cons_of_ne_nil nonempty
  cases first
  have shorter : ((c :: rest).dropWhile isBlank).length < (c :: rest).length := by
    rw [List.dropWhile_cons_of_pos blank]
    exact Nat.lt_succ_of_le (List.dropWhile_suffix _).length_le
  have kept : ((c :: rest) ++ dots more).dropWhile isBlank =
      (c :: rest).dropWhile isBlank ++ dots more := by
    cases more with
    | nil => simp [dots]
    | cons a more => exact dropWhile_append_cons (by decide) _ _
  have sub := (List.dropWhile_suffix (p := isBlank) (l := c :: rest)).subset
  rw [kept, List.length_append, List.length_append]
  refine ⟨Nat.add_lt_add_right shorter _, ?_⟩
  generalize (c :: rest).dropWhile isBlank = left at sub
  cases left with
  | cons d left =>
    refine .inl ⟨d :: left, more, rfl, List.forall_mem_cons.mpr ⟨isAtom_iff.mpr ⟨?_, ?_⟩, others⟩⟩
    · exact List.cons_ne_nil _ _
    · exact fun e mem => chars e (sub mem)
  | nil =>
    cases more with
    | nil => exact .inr (.inl rfl)
    | cons a more => exact .inr (.inr ⟨_, rfl⟩)

/-- Without the blanks in front a user gets shorter, or there is none left to be read. -/
theorem Legible.item?_laterText (h : m.Legible) (begins : m.beginsBlank) : IsItem m.laterText ∧
    ∀ m', item? m.laterText = some m' → m'.address.user.length < m.address.user.length := by
  have nameless : m.headerName = [] := by
    by_contra named
    exact absurd begins (by simp [beginsBlank_of_ne named])
  obtain ⟨c, mem, blank⟩ : ∃ c ∈ m.headerText.head?, isBlank c := by
    unfold beginsBlank at begins
    cases head : m.headerText.head? with
    | none => rw [head] at begins; exact nomatch begins
    | some c => rw [head] at begins; exact ⟨c, rfl, begins⟩
  have text : m.headerText = m.address.user.toList ++ '@' :: m.address.domain.toList := by
    rw [headerText_of_nil nameless, address_text]
  have later : m.laterText =
      m.address.user.toList.dropWhile isBlank ++ '@' :: m.address.domain.toList := by
    rw [laterText, text, dropWhile_append_cons (by decide)]
  rw [text] at mem
  rw [later, ← String.length_toList (s := m.address.user)]
  generalize m.address.user.toList = user, isUser_of_good h.user = isUser at mem ⊢
  cases isUser with
  | @quoted s quotes =>
    cases mem
    exact absurd blank (by decide)
  | plain plain =>
    obtain ⟨d, rest, rfl, -⟩ := plain.exists_cons
    obtain ⟨shorter, left⟩ := plain.dropWhile mem blank
    -- A dot, or the at sign if nothing is left, is no beginning of a mailbox.
    have lost {e : Char} (mark : e = '.' ∨ e = '@') {s : List Char} :
        IsItem (e :: s) ∧ ∀ m', item? (e :: s) = some m' →
          m'.address.user.length < (d :: rest).length := by
      refine ⟨fun after _ => ?_, fun m' found => ?_⟩
      · rw [List.cons_append, front?_eq_none mark, front?_eq_none mark]
        rfl
      · rw [item?, front?_eq_none mark] at found
        exact nomatch found
    obtain plain | none | ⟨more, dot⟩ := left
    · obtain ⟨again, same, -, read⟩ := user?_append (.plain plain)
      obtain rfl := same plain.head?_ne
      obtain ⟨isItem, front⟩ := isItem_of_read fun after comma =>
        front?_address (.plain plain) h.domain read comma
      refine ⟨isItem, fun m' found => ?_⟩
      obtain ⟨_, _, _, read', made⟩ := exists_make_of_item? found
      cases front.symm.trans read'
      obtain ⟨-, -, rfl⟩ := make_eq_ok made
      simpa using shorter
    · rw [none]
      exact lost (.inr rfl)
    · rw [dot]
      exact lost (.inl rfl)

end Items

end Mailbox

end CleanupCourier
