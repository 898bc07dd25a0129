import CleanupCourier.Mail.Relay

/-!
The headers with the addresses of a mail, while it is made. A header keeps the text of its mailboxes
and not the mailboxes: to add one to them, they are read from the text again, and so they are when
the envelope is made. What a header cannot be read as is lost.
-/
namespace CleanupCourier

namespace Mailbox

/-- Characters of a name that needs no quotes; a nine is none of them. -/
def isBareChar (c : Char) : Bool :=
  isGap c || (MailAddress.isAtomChar c && c != '9')

/-- A character between quotes. -/
def quotedPair (c : Char) : List Char :=
  if isGap c || isQuotedChar c then [c] else ['\\', c]

def nameText (name : List Char) : List Char :=
  if name.all isBareChar then name else '"' :: name.flatMap quotedPair ++ ['"']

/-- The text of a mailbox in a header, where a name of blanks does not count. -/
def headerText (m : Mailbox) : List Char :=
  let name := trimBoth isBlank (m.name.getD "").toList
  let address := m.address.text.toList
  if name.isEmpty then address else nameText name ++ ' ' :: '<' :: address ++ ['>']

def listText (mailboxes : List Mailbox) : List Char :=
  [',', ' '].intercalate (mailboxes.map headerText)

/-- Mailboxes up to the end of a text, with commas between them; blanks around a comma do not
count. -/
def listFrom? : Nat → List Char → Option (List Mailbox)
  | 0, _ => none
  | fuel + 1, s => do
    let ((name, user, domain), after) ← front? s
    let m ← (make name user domain).toOption
    if after.isEmpty then return [m]
    match after.dropWhile isBlank with
    | ',' :: rest => return m :: (← listFrom? fuel (rest.dropWhile isBlank))
    | _ => none

def list? (s : List Char) : Option (List Mailbox) :=
  if s.isEmpty then some [] else listFrom? s.length s

/-- What the mailboxes of a header are read as again. -/
def readBack (mailboxes : List Mailbox) : Option (List Mailbox) :=
  list? (listText mailboxes)

/-- Adds a mailbox to those that a header has. -/
def join (held : List Mailbox) (m : Mailbox) : List Mailbox :=
  (readBack held).getD [] ++ [m]

/-- The mailboxes of a header to which some were added one after the other. -/
def hold (mailboxes : List Mailbox) : List Mailbox :=
  mailboxes.foldl join []

end Mailbox

/-- The envelope of a mail whose headers have these mailboxes; blind copies come last. -/
def Envelope.ofHeaders (source destinations hidden : List Mailbox) : Except MailFault Envelope :=
  match Mailbox.readBack source with
  | none | some [] => .error .noSource
  | some [sender] =>
    let recipients := (Mailbox.readBack destinations).getD [] ++ (Mailbox.readBack hidden).getD []
    if recipients.isEmpty then .error .noDestination
    else .ok ⟨sender.address, recipients.map (·.address)⟩
  | some (_ :: _ :: _) => .error .manySources

end CleanupCourier
