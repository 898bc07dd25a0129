import Mathlib.Data.List.Forall2
import CleanupCourier.Proofs.Mail.Items

/-!
What the headers of a mail keep of its mailboxes. Whenever a header is read again, each of its
mailboxes is read from its own text. So a header keeps the addresses that it is given if and only if
none of their users is in quotes and no text but the first begins with a blank; any other user gets
shorter, or the whole header is lost. And the envelope is as it is written if and only if all three
headers keep their addresses.
-/
namespace CleanupCourier

namespace Mailbox

section Lists

variable {m : Mailbox} {l l' : List Mailbox}

/-- Mailboxes behind others, each with a comma in front. -/
def laterTexts (l : List Mailbox) : List Char :=
  l.flatMap fun m => ',' :: ' ' :: m.headerText

theorem listText_cons (m : Mailbox) (l : List Mailbox) :
    listText (m :: l) = m.headerText ++ laterTexts l := by
  rw [listText, List.map_cons, intercalate_cons, List.flatMap_map]
  rfl

theorem atComma_laterTexts (l : List Mailbox) : AtComma (laterTexts l) := by
  cases l with
  | nil => exact fun _ mem => nomatch mem
  | cons m l => exact fun c mem => by cases mem; rfl

theorem length_le_laterTexts (l : List Mailbox) : l.length ≤ (laterTexts l).length := by
  induction l with
  | nil => exact Nat.zero_le _
  | cons m l ih =>
    simp only [laterTexts, List.flatMap_cons, List.length_append, List.length_cons] at ih ⊢
    omega

theorem at_mem_headerText (m : Mailbox) : '@' ∈ m.headerText := by
  by_cases nameless : m.headerName = []
  · simp [headerText_of_nil nameless, address_text]
  · simp [headerText_of_ne nameless, address_text]

theorem dropWhile_headerText (m : Mailbox) (rest : List Char) :
    (m.headerText ++ rest).dropWhile isBlank = m.laterText ++ rest := by
  rw [List.dropWhile_append, if_neg, laterText]
  rw [List.isEmpty_iff, List.dropWhile_eq_nil_iff]
  exact fun all => absurd (all '@' (at_mem_headerText m)) (by decide)

theorem front?_of_isItem {s : List Char} (isItem : IsItem s) :
    front? s = (front? s).map fun (parts, _) => (parts, []) := by
  have alone := isItem [] fun _ mem => nomatch mem
  rwa [List.append_nil] at alone

theorem listFrom?_item {s : List Char} (isItem : IsItem s) (fuel : Nat) :
    listFrom? (fuel + 1) s = (item? s).map fun m => [m] := by
  have alone := front?_of_isItem isItem
  rw [listFrom?, item?]
  cases front : front? s with
  | none => rfl
  | some next =>
    obtain ⟨⟨name, user, domain⟩, after⟩ := next
    rw [front] at alone
    obtain rfl : after = [] := congrArg Prod.snd (Option.some.inj alone)
    simp only [bind, Option.bind, List.isEmpty_nil, if_true]
    cases (make name user domain).toOption <;> rfl

theorem listFrom?_comma {s : List Char} (isItem : IsItem s) (fuel : Nat) (next : Mailbox)
    (l : List Mailbox) : listFrom? (fuel + 1) (s ++ laterTexts (next :: l)) =
      (item? s).bind fun m => (listFrom? fuel (next.laterText ++ laterTexts l)).map (m :: ·) := by
  have alone := front?_of_isItem isItem
  have split : laterTexts (next :: l) = ',' :: ' ' :: (next.headerText ++ laterTexts l) := by
    simp [laterTexts]
  rw [listFrom?, isItem _ (atComma_laterTexts _), item?]
  cases front : front? s with
  | none => rfl
  | some found =>
    obtain ⟨⟨name, user, domain⟩, after⟩ := found
    rw [front] at alone
    obtain rfl : after = [] := congrArg Prod.snd (Option.some.inj alone)
    have behind : (' ' :: (next.headerText ++ laterTexts l)).dropWhile isBlank =
        next.laterText ++ laterTexts l := by
      rw [List.dropWhile_cons_of_pos (by decide), dropWhile_headerText]
    simp only [Option.map_some, bind, Option.bind, List.isEmpty_nil, if_true]
    cases (make name user domain).toOption with
    | none => rfl
    | some m =>
      dsimp only
      rw [(atComma_laterTexts _).dropWhile, split]
      simp only [List.isEmpty_cons, Bool.false_eq_true, if_false, behind]
      cases listFrom? fuel (next.laterText ++ laterTexts l) <;> rfl

/-- By induction on the mailboxes behind the first one. -/
theorem listFrom?_eq_some_iff {s : List Char} {fuel : Nat} (isItem : IsItem s)
    (later : ∀ m ∈ l, IsItem m.laterText) (enough : l.length < fuel) :
    listFrom? fuel (s ++ laterTexts l) = some l' ↔ ∃ m rest, l' = m :: rest ∧
      item? s = some m ∧ List.Forall₂ (fun m m' => item? m.laterText = some m') l rest := by
  obtain ⟨fuel, rfl⟩ : ∃ n, fuel = n + 1 := ⟨fuel - 1, by omega⟩
  induction l generalizing s l' fuel with
  | nil =>
    rw [show laterTexts [] = [] from rfl, List.append_nil, listFrom?_item isItem]
    cases item? s <;> simp [List.forall₂_nil_left_iff, eq_comm]
  | cons next l ih =>
    obtain ⟨first, later⟩ := List.forall_mem_cons.mp later
    obtain ⟨fuel, rfl⟩ : ∃ n, fuel = n + 1 := ⟨fuel - 1, by simp at enough; omega⟩
    have enough : l.length < fuel + 1 := by simpa using enough
    rw [listFrom?_comma isItem, Option.bind_eq_some_iff]
    constructor
    · rintro ⟨m, found, others⟩
      obtain ⟨rest, read, rfl⟩ := Option.map_eq_some_iff.mp others
      obtain ⟨m', rest, rfl, found', others⟩ := (ih first later fuel enough).mp read
      exact ⟨m, m' :: rest, rfl, found, .cons found' others⟩
    · rintro ⟨m, rest, rfl, found, others⟩
      obtain ⟨m', rest, found', others', rfl⟩ := List.forall₂_cons_left_iff.mp others
      exact ⟨m, found, Option.map_eq_some_iff.mpr
        ⟨_, (ih first later fuel enough).mpr ⟨m', rest, rfl, found', others'⟩, rfl⟩⟩

theorem Legible.isItem_laterText (h : m.Legible) : IsItem m.laterText := by
  cases begins : m.beginsBlank with
  | true => exact (h.item?_laterText begins).1
  | false =>
    rw [laterText_of_not begins]
    exact h.item?_headerText.1

/-- Each mailbox of a header is read from its own text. -/
theorem readBack_cons_eq_some_iff (legible : ∀ m' ∈ m :: l, m'.Legible) :
    readBack (m :: l) = some l' ↔ ∃ m' rest, l' = m' :: rest ∧
      item? m.headerText = some m' ∧
      List.Forall₂ (fun m m' => item? m.laterText = some m') l rest := by
  obtain ⟨first, others⟩ := List.forall_mem_cons.mp legible
  have nonempty : (m.headerText ++ laterTexts l).isEmpty = false := by
    have mem := List.mem_append_left (laterTexts l) (at_mem_headerText m)
    exact List.isEmpty_eq_false_iff.mpr (List.ne_nil_of_mem mem)
  have enough : l.length < (m.headerText ++ laterTexts l).length := by
    have := length_le_laterTexts l
    have := List.length_pos_of_mem (at_mem_headerText m)
    simp only [List.length_append]
    omega
  rw [readBack, listText_cons, list?, nonempty]
  exact listFrom?_eq_some_iff first.item?_headerText.1
    (fun m' mem => (others m' mem).isItem_laterText) enough

theorem legible_of_readBack (legible : ∀ m ∈ l, m.Legible) (read : readBack l = some l') :
    ∀ m ∈ l', m.Legible := by
  cases l with
  | nil => cases read; exact List.forall_mem_nil _
  | cons m l =>
    obtain ⟨m', rest, rfl, first, others⟩ := (readBack_cons_eq_some_iff legible).mp read
    refine List.forall_mem_cons.mpr ⟨legible_of_item? first, ?_⟩
    clear read legible
    induction others with
    | nil => exact List.forall_mem_nil _
    | cons next _ ih => exact List.forall_mem_cons.mpr ⟨legible_of_item? next, ih⟩

/-- Holds of mailboxes that a header gives back. -/
structure Kept (l : List Mailbox) : Prop where
  plain : ∀ m ∈ l, ¬ m.address.IsQuoted
  later : ∀ m ∈ l.tail, m.beginsBlank = false

instance : DecidablePred Kept := fun l =>
  decidable_of_iff ((∀ m ∈ l, ¬ m.address.IsQuoted) ∧ ∀ m ∈ l.tail, m.beginsBlank = false)
    ⟨fun h => ⟨h.1, h.2⟩, fun h => ⟨h.plain, h.later⟩⟩

theorem kept_iff (l : List Mailbox) : Kept l ↔ (∀ k ∈ l.map kind, ¬ k.1.IsQuoted) ∧
    ∀ k ∈ (l.map kind).tail, k.2 = false := by
  rw [← List.map_tail, List.forall_mem_map, List.forall_mem_map]
  exact ⟨fun h => ⟨h.plain, h.later⟩, fun h => ⟨h.1, h.2⟩⟩

theorem kept_congr (same : l'.map kind = l.map kind) : Kept l' ↔ Kept l := by
  rw [kept_iff, kept_iff, same]

theorem Kept.init (h : Kept (l ++ [m])) : Kept l := by
  refine ⟨fun n mem => h.plain n (List.mem_append_left _ mem), fun n mem => h.later n ?_⟩
  cases l with
  | nil => exact nomatch mem
  | cons first l => exact List.mem_append_left _ mem

theorem readBack_of_kept (legible : ∀ m ∈ l, m.Legible) (kept : Kept l) :
    ∃ l', readBack l = some l' ∧ l'.map kind = l.map kind := by
  cases l with
  | nil => exact ⟨[], rfl, rfl⟩
  | cons m l =>
    obtain ⟨first, others⟩ := List.forall_mem_cons.mp legible
    obtain ⟨unquoted, plain⟩ := List.forall_mem_cons.mp kept.plain
    obtain ⟨m', found, same, -⟩ := first.item?_headerText.2.1 unquoted
    have read : ∀ m ∈ l, ∃ m', item? m.laterText = some m' ∧ m'.kind = m.kind := by
      intro m mem
      rw [laterText_of_not (kept.later m mem)]
      obtain ⟨m', found, same, -⟩ := (others m mem).item?_headerText.2.1 (plain m mem)
      exact ⟨m', found, same⟩
    have rest : ∃ rest, List.Forall₂ (fun m m' => item? m.laterText = some m') l rest ∧
        rest.map kind = l.map kind := by
      clear legible kept others plain
      induction l with
      | nil => exact ⟨[], .nil, rfl⟩
      | cons n l ih =>
        obtain ⟨⟨n', found, same⟩, read⟩ := List.forall_mem_cons.mp read
        obtain ⟨rest, founds, sames⟩ := ih read
        exact ⟨n' :: rest, .cons found founds, congrArg₂ List.cons same sames⟩
    obtain ⟨rest, founds, sames⟩ := rest
    exact ⟨m' :: rest, (readBack_cons_eq_some_iff legible).mpr ⟨m', rest, rfl, found, founds⟩,
      congrArg₂ List.cons same sames⟩

/-- How much there is to read of users. -/
def size : List Mailbox → Nat
  | [] => 0
  | m :: rest => m.address.user.length + 1 + size rest

theorem size_append (l l' : List Mailbox) : size (l ++ l') = size l + size l' := by
  induction l with
  | nil => exact (Nat.zero_add _).symm
  | cons m l ih =>
    rw [List.cons_append, size, size, ih]
    omega

theorem size_eq_of_address (same : l'.map (·.address) = l.map (·.address)) : size l' = size l := by
  induction l generalizing l' with
  | nil => rw [List.map_eq_nil_iff.mp same]
  | cons m l ih =>
    obtain ⟨m', rest, rfl, first, others⟩ := List.map_eq_cons_iff.mp same
    rw [size, size, first, ih others]

theorem address_eq_of_kind (same : l'.map kind = l.map kind) :
    l'.map (·.address) = l.map (·.address) := by
  have eq (l : List Mailbox) : l.map (·.address) = (l.map kind).map (·.1) := by
    rw [List.map_map]
    rfl
  rw [eq, eq, same]

theorem Legible.length_of_headerText {m' : Mailbox} (h : m.Legible)
    (read : item? m.headerText = some m') :
    m'.address.user.length ≤ m.address.user.length ∧
      (m.address.IsQuoted → m'.address.user.length < m.address.user.length) := by
  obtain ⟨-, plain, quoted⟩ := h.item?_headerText
  by_cases isQuoted : m.address.IsQuoted
  · have shorter := quoted m' isQuoted read
    exact ⟨shorter.le, fun _ => shorter⟩
  · obtain ⟨_, read', same, -⟩ := plain isQuoted
    cases read.symm.trans read'
    have address : m'.address = m.address := congrArg Prod.fst same
    exact ⟨by rw [address], fun contra => absurd contra isQuoted⟩

theorem Legible.length_of_laterText {m' : Mailbox} (h : m.Legible)
    (read : item? m.laterText = some m') :
    m'.address.user.length ≤ m.address.user.length ∧
      (m.address.IsQuoted ∨ m.beginsBlank →
        m'.address.user.length < m.address.user.length) := by
  cases begins : m.beginsBlank with
  | true =>
    have shorter := (h.item?_laterText begins).2 m' read
    exact ⟨shorter.le, fun _ => shorter⟩
  | false =>
    rw [laterText_of_not begins] at read
    obtain ⟨short, shorter⟩ := h.length_of_headerText read
    exact ⟨short, fun either => shorter (either.resolve_right (by simp))⟩

/-- By induction on the mailboxes. -/
theorem size_of_later (legible : ∀ m ∈ l, m.Legible)
    (read : List.Forall₂ (fun m m' => item? m.laterText = some m') l l') :
    size l' ≤ size l ∧
      ((∃ m ∈ l, m.address.IsQuoted ∨ m.beginsBlank) → size l' < size l) := by
  induction read with
  | nil => exact ⟨le_rfl, fun ⟨_, mem, _⟩ => absurd mem List.not_mem_nil⟩
  | cons next others ih =>
    obtain ⟨first, legible⟩ := List.forall_mem_cons.mp legible
    obtain ⟨short, shorter⟩ := first.length_of_laterText next
    obtain ⟨rest, less⟩ := ih legible
    simp only [size] at rest less ⊢
    refine ⟨by omega, fun ⟨m, mem, either⟩ => ?_⟩
    obtain rfl | mem := List.mem_cons.mp mem
    · have := shorter either
      omega
    · have := less ⟨m, mem, either⟩
      omega

/-- What is read back is never more, and it is less if a header does not give it all back. -/
theorem size_readBack (legible : ∀ m ∈ l, m.Legible) :
    size ((readBack l).getD []) ≤ size l ∧
      (¬ Kept l → size ((readBack l).getD []) < size l) := by
  cases l with
  | nil => exact ⟨le_rfl, fun lost => absurd ⟨List.forall_mem_nil _, List.forall_mem_nil _⟩ lost⟩
  | cons m l =>
    cases read : readBack (m :: l) with
    | none =>
      simp only [Option.getD_none, size]
      omega
    | some l' =>
      obtain ⟨first, others⟩ := List.forall_mem_cons.mp legible
      obtain ⟨m', rest, rfl, found, founds⟩ := (readBack_cons_eq_some_iff legible).mp read
      obtain ⟨short, shorter⟩ := first.length_of_headerText found
      obtain ⟨less, lesser⟩ := size_of_later others founds
      simp only [Option.getD_some, size] at less lesser ⊢
      refine ⟨by omega, fun lost => ?_⟩
      by_cases quoted : m.address.IsQuoted
      · have := shorter quoted
        omega
      · have some : ∃ m ∈ l, m.address.IsQuoted ∨ m.beginsBlank := by
          by_contra none
          simp only [not_exists, not_and, not_or, Bool.not_eq_true] at none
          exact lost ⟨List.forall_mem_cons.mpr ⟨quoted, fun n mem => (none n mem).1⟩,
            fun n mem => (none n mem).2⟩
        have := lesser some
        omega

/-! A header to which mailboxes are added one after the other. -/

/-- The mailboxes of such a header as the envelope gets them. -/
def heard (l : List Mailbox) : List Mailbox :=
  (readBack (hold l)).getD []

theorem hold_concat (l : List Mailbox) (m : Mailbox) : hold (l ++ [m]) = heard l ++ [m] := by
  rw [hold, List.foldl_append]
  rfl

theorem legible_hold (legible : ∀ m ∈ l, m.Legible) : ∀ m ∈ hold l, m.Legible := by
  induction l using List.reverseRecOn with
  | nil => exact List.forall_mem_nil _
  | append_singleton l m ih =>
    obtain ⟨others, last⟩ := List.forall_mem_append.mp legible
    rw [hold_concat]
    refine List.forall_mem_append.mpr ⟨?_, last⟩
    unfold heard
    cases read : readBack (hold l) with
    | none => exact List.forall_mem_nil _
    | some l' => exact legible_of_readBack (ih others) read

theorem kind_heard_of_hold (legible : ∀ m ∈ l, m.Legible) (kept : Kept l)
    (same : (hold l).map kind = l.map kind) : (heard l).map kind = l.map kind := by
  obtain ⟨l', read, again⟩ := readBack_of_kept (legible_hold legible) ((kept_congr same).mpr kept)
  rw [heard, read, Option.getD_some, again, same]

/-- By induction on the mailboxes that are added, from the last one. -/
theorem kind_hold (legible : ∀ m ∈ l, m.Legible) (kept : Kept l) :
    (hold l).map kind = l.map kind := by
  induction l using List.reverseRecOn with
  | nil => rfl
  | append_singleton l m ih =>
    have others := (List.forall_mem_append.mp legible).1
    have same := kind_heard_of_hold others kept.init (ih others kept.init)
    rw [hold_concat, List.map_append, List.map_append, same]

/-- By induction on the mailboxes that are added, from the last one. -/
theorem size_heard (legible : ∀ m ∈ l, m.Legible) :
    size (heard l) ≤ size l ∧ (¬ Kept l → size (heard l) < size l) := by
  have final := size_readBack (legible_hold legible)
  change size (heard l) ≤ _ ∧ (_ → size (heard l) < _) at final
  induction l using List.reverseRecOn with
  | nil => exact final
  | append_singleton l m ih =>
    have others := (List.forall_mem_append.mp legible).1
    obtain ⟨less, lesser⟩ := ih others (size_readBack (legible_hold others))
    rw [hold_concat, size_append] at final
    rw [size_append]
    obtain ⟨short, shorter⟩ := final
    refine ⟨by omega, fun lost => ?_⟩
    by_cases kept : Kept l
    · have same := kind_heard_of_hold others kept (kind_hold others kept)
      have lost' : ¬ Kept (heard l ++ [m]) := by
        rwa [kept_congr (l := l ++ [m]) (by rw [List.map_append, List.map_append, same])]
      have := shorter lost'
      omega
    · have := lesser kept
      omega

/-- A header gives the addresses back if and only if no user is in quotes and none but the first
text begins with a blank. -/
theorem address_heard_iff (legible : ∀ m ∈ l, m.Legible) :
    (heard l).map (·.address) = l.map (·.address) ↔ Kept l := by
  refine ⟨fun same => ?_, fun kept => ?_⟩
  · by_contra lost
    have less := (size_heard legible).2 lost
    exact absurd (size_eq_of_address same) less.ne
  · exact address_eq_of_kind (kind_heard_of_hold legible kept (kind_hold legible kept))

/-- A header of bare addresses that it keeps gives back the very mailboxes. -/
theorem readBack_of_bare (legible : ∀ m ∈ l, m.Legible) (kept : Kept l)
    (bare : ∀ m ∈ l, m.name = none) : readBack l = some l := by
  have whole : ∀ m ∈ l, item? m.headerText = some m := by
    intro m mem
    obtain ⟨m', found, -, same⟩ := (legible m mem).item?_headerText.2.1 (kept.plain m mem)
    rw [found, same (bare m mem)]
  cases l with
  | nil => rfl
  | cons m l =>
    refine (readBack_cons_eq_some_iff legible).mpr ⟨m, l, rfl, whole m List.mem_cons_self, ?_⟩
    refine List.forall₂_same.mpr fun n mem => ?_
    rw [laterText_of_not (kept.later n mem)]
    exact whole n (List.mem_cons_of_mem m mem)

/-- By induction on the mailboxes that are added, from the last one. -/
theorem hold_of_bare (legible : ∀ m ∈ l, m.Legible) (kept : Kept l)
    (bare : ∀ m ∈ l, m.name = none) : hold l = l := by
  induction l using List.reverseRecOn with
  | nil => rfl
  | append_singleton l m ih =>
    have others := (List.forall_mem_append.mp legible).1
    have bare := (List.forall_mem_append.mp bare).1
    rw [hold_concat, heard, ih others kept.init bare, readBack_of_bare others kept.init bare]
    rfl

theorem hold_singleton (m : Mailbox) : hold [m] = [m] :=
  rfl

theorem kept_singleton (m : Mailbox) : Kept [m] ↔ ¬ m.address.IsQuoted :=
  ⟨fun h => h.plain m List.mem_cons_self,
    fun h => ⟨List.forall_mem_singleton.mpr h, List.forall_mem_nil _⟩⟩

/-- A header with one mailbox is read as one or not at all. -/
theorem readBack_singleton (h : m.Legible) (read : readBack [m] = some l') :
    ∃ m', l' = [m'] ∧ m'.Legible ∧ m'.address.domain = m.address.domain ∧
      m'.address.user.length ≤ m.address.user.length ∧
      (m'.address = m.address ↔ ¬ m.address.IsQuoted) := by
  have legible : ∀ m' ∈ [m], m'.Legible := List.forall_mem_singleton.mpr h
  obtain ⟨m', rest, rfl, found, others⟩ := (readBack_cons_eq_some_iff legible).mp read
  cases others
  have address := address_heard_iff legible
  rw [heard, hold_singleton, read, kept_singleton] at address
  refine ⟨m', rfl, legible_of_item? found, ?_, (h.length_of_headerText found).1, ?_⟩
  · obtain ⟨name, again, -, -, -, -, front⟩ := h.exists_front?
    obtain ⟨_, _, _, read', made⟩ := exists_make_of_item? found
    cases (isItem_of_read front).2.symm.trans read'
    obtain ⟨-, -, rfl⟩ := make_eq_ok made
    exact String.ofList_toList
  · rw [← address]
    simp

end Lists

end Mailbox

namespace Envelope

variable {sender : Mailbox} {recipients hidden : List Mailbox}

/-- An envelope wants a sender and someone to write to, as the headers are read. -/
theorem ofHeaders_cases (recipients hidden : List Mailbox) (legible : sender.Legible) :
    (Mailbox.readBack [sender] = none ∧
      ofHeaders [sender] (Mailbox.hold recipients) (Mailbox.hold hidden) = .error .noSource) ∨
    ∃ source, Mailbox.readBack [sender] = some [source] ∧
      (Mailbox.heard recipients ++ Mailbox.heard hidden = [] ∧
          ofHeaders [sender] (Mailbox.hold recipients) (Mailbox.hold hidden) =
            .error .noDestination ∨
        Mailbox.heard recipients ++ Mailbox.heard hidden ≠ [] ∧
          ofHeaders [sender] (Mailbox.hold recipients) (Mailbox.hold hidden) =
            .ok ⟨source.address,
              (Mailbox.heard recipients ++ Mailbox.heard hidden).map (·.address)⟩) := by
  unfold ofHeaders
  cases read : Mailbox.readBack [sender] with
  | none => exact .inl ⟨rfl, rfl⟩
  | some l =>
    obtain ⟨source, rfl, -⟩ := Mailbox.readBack_singleton legible read
    refine .inr ⟨source, rfl, ?_⟩
    change (Mailbox.heard recipients ++ Mailbox.heard hidden = [] ∧
      (if (Mailbox.heard recipients ++ Mailbox.heard hidden).isEmpty then _ else _) = _) ∨
      (_ ∧ (if (Mailbox.heard recipients ++ Mailbox.heard hidden).isEmpty then _ else _) = _)
    by_cases nobody : Mailbox.heard recipients ++ Mailbox.heard hidden = []
    · exact .inl ⟨nobody, if_pos (List.isEmpty_iff.mpr nobody)⟩
    · exact .inr ⟨nobody, if_neg fun empty => nobody (List.isEmpty_iff.mp empty)⟩

/-- An envelope has the sender and all the others, each as it is written, if and only if the headers
give all of them back. -/
theorem ofHeaders_eq_written_iff (first : sender.Legible) (second : ∀ m ∈ recipients, m.Legible)
    (third : ∀ m ∈ hidden, m.Legible) (someone : recipients ++ hidden ≠ []) :
    ofHeaders [sender] (Mailbox.hold recipients) (Mailbox.hold hidden) =
        .ok ⟨sender.address, (recipients ++ hidden).map (·.address)⟩ ↔
      ¬ sender.address.IsQuoted ∧ Mailbox.Kept recipients ∧ Mailbox.Kept hidden := by
  have addresses : (Mailbox.heard recipients ++ Mailbox.heard hidden).map (·.address) =
      (recipients ++ hidden).map (·.address) ↔
        Mailbox.Kept recipients ∧ Mailbox.Kept hidden := by
    constructor
    · intro same
      have total := Mailbox.size_eq_of_address same
      rw [Mailbox.size_append, Mailbox.size_append] at total
      obtain ⟨less, lesser⟩ := Mailbox.size_heard second
      obtain ⟨less', lesser'⟩ := Mailbox.size_heard third
      constructor
      · by_contra lost
        have := lesser lost
        omega
      · by_contra lost
        have := lesser' lost
        omega
    · rintro ⟨kept, kept'⟩
      rw [List.map_append, List.map_append, (Mailbox.address_heard_iff second).mpr kept,
        (Mailbox.address_heard_iff third).mpr kept']
  obtain ⟨lost, eq⟩ | ⟨source, read, ⟨nobody, eq⟩ | ⟨-, eq⟩⟩ :=
    ofHeaders_cases recipients hidden first
  · rw [eq]
    refine iff_of_false nofun fun kept => ?_
    obtain ⟨l, read, -⟩ := Mailbox.readBack_of_kept (List.forall_mem_singleton.mpr first)
      ((Mailbox.kept_singleton sender).mpr kept.1)
    exact nomatch lost.symm.trans read
  · rw [eq]
    refine iff_of_false nofun fun kept => ?_
    have same := addresses.mpr kept.2
    rw [nobody] at same
    exact someone (List.map_eq_nil_iff.mp same.symm)
  · obtain ⟨_, single, -, -, -, plain⟩ := Mailbox.readBack_singleton first read
    cases single
    rw [eq, Except.ok.injEq, Envelope.mk.injEq, plain, addresses]

end Envelope

end CleanupCourier
