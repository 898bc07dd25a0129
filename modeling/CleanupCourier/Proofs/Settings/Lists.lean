import CleanupCourier.Credentials.Basic
import CleanupCourier.Proofs.Text.CommaList
import CleanupCourier.Proofs.Text.Utf8
import CleanupCourier.Settings

/-!
Lists that are written by hand: to whom a mail goes, openly and blindly, and which further addresses
a webhook may have. Blanks and surplus commas mean nothing in them, and all else is kept: the items
are those texts between the commas that are not blank, in their order.
-/
namespace CleanupCourier

/-- Holds of a reader of comma-separated lists that loses, merges and repeats nothing. -/
structure KeepsItems (read : String → List String) : Prop where
  append (a b : String) : read (a ++ "," ++ b) = read a ++ read b
  isItem (list : String) : ∀ item ∈ read list, IsItem item
  /-- Items are read from every list in which they are written, and from no other. -/
  eq_iff (list : String) (items : List String) :
    read list = items ↔
      (∀ item ∈ items, IsItem item) ∧
        ∃ pieces, list = ",".intercalate pieces ∧ Written items pieces
  nonBlanks (list : String) :
    (read list).flatMap nonBlanks = (nonBlanks list).filter (· != ',')

theorem keepsItems_commaItems : KeepsItems commaItems where
  append := commaItems_append_comma
  isItem _ := (commaItems_eq_iff.mp rfl).1
  eq_iff _ _ := commaItems_eq_iff
  nonBlanks := nonBlanks_commaItems

namespace Settings

theorem textOf?_insert (env : Environment) (name value : String) :
    textOf? (env.insert name (utf8 value)) name = some value := by
  rw [textOf?, KeyMap.find?_insert_self, Option.bind_some, decode?_utf8]

theorem teamsPatterns_insert (env : Environment) (list : String) :
    (ofEnvironment (env.insert "TEAMS_WEBHOOK_PATTERNS" (utf8 list))).teamsPatterns =
      commaItems list := by
  rw [ofEnvironment, textOf?_insert, Option.map_some, Option.getD_some]

end Settings

/-- The recipients of a mail, its blind recipients and the patterns for a webhook are the items of
the lists that are written for them, whatever else is set for a relay or stands in an
environment. -/
theorem lists_kept :
    (∀ info : SmtpInfo, KeepsItems fun list => { info with recipients := list }.recipientList) ∧
    (∀ info : SmtpInfo, KeepsItems fun list => { info with bcc := list }.bccList) ∧
    ∀ env : Settings.Environment, KeepsItems fun list =>
      (Settings.ofEnvironment
        (env.insert "TEAMS_WEBHOOK_PATTERNS" (utf8 list))).teamsPatterns := by
  refine ⟨fun _ => keepsItems_commaItems, fun _ => keepsItems_commaItems, fun env => ?_⟩
  have patterns : (fun list => (Settings.ofEnvironment
      (env.insert "TEAMS_WEBHOOK_PATTERNS" (utf8 list))).teamsPatterns) = commaItems :=
    funext (Settings.teamsPatterns_insert env)
  rw [patterns]
  exact keepsItems_commaItems

example : commaItems "\u3000dev@example.com ,, \t,,ops@example.com," =
    ["dev@example.com", "ops@example.com"] := by
  decide +kernel

end CleanupCourier
