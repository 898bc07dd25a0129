import CleanupCourier.Credentials.Basic
import CleanupCourier.Destination.Delivery
import CleanupCourier.Mail.Header
import CleanupCourier.Work

/-!
Mail: the report goes through a relay as the body of a mail, with the message as its subject. All
addresses are read before anything is said to the relay, and the blind copies are known to the
envelope only. With a password the sender logs in.
-/
namespace CleanupCourier

namespace Mailing

def destination : String := "smtp"

def target : String := logTarget ["notifications", destination]

/-- Reads an address that stands in a field of a Secret. -/
def readAddress (field address : String) : Except DeliveryError Mailbox :=
  match Mailbox.parse (trimBlanks address) with
  | .ok mailbox => .ok mailbox
  | .error fault =>
    .error (.invalidField field (quoted address ++ " is not a valid address: " ++ fault.message))

structure Draft where
  envelope : Envelope
  message : MailMessage

/-- Makes the mail. Its envelope is read from its headers, and is none without a sender and someone
to write to. -/
def compose (info : SmtpInfo) (subject body : String) (isHtml : Bool) :
    Except DeliveryError Draft := do
  let sender ← readAddress "SMTP_SENDER" info.sender
  let recipients ← info.recipientList.mapM (readAddress "SMTP_RECIPIENTS")
  let hidden ← info.bccList.mapM (readAddress "SMTP_BCC")
  let recipients := Mailbox.hold recipients
  match Envelope.ofHeaders [sender] recipients (Mailbox.hold hidden) with
  | .error fault => throw (.mail fault.message)
  | .ok envelope =>
    return { envelope, message := { sender, recipients, subject, isHtml, body } }

/-- The account at the relay; none without a password. -/
def account? (info : SmtpInfo) : Option SmtpAccount :=
  if info.password.isEmpty then none else some ⟨info.sender, info.password⟩

def sendSpan (info : SmtpInfo) : Span :=
  ⟨"smtp.send", target, [("host", .text info.host), ("port", .number info.port),
    ("recipients", .text info.recipients)]⟩

/-- Hands a mail over to the relay and keeps the talk about it. -/
def handOver {σ : Type} (network : Network) (info : SmtpInfo) (draft : Draft) :
    Attempt σ DeliveryError Nat := do
  let outcome := Smtp.submit (network.relay (← get).traffic) (network.reach info.host info.port)
    info.host info.port (info.port == SmtpInfo.implicitTlsPort) (account? info) draft.envelope
    draft.message
  modify fun w => { w with
    traffic := { w.traffic with talks := w.traffic.talks ++ outcome.talk.toList } }
  match outcome.result with
  | .ok code => return code
  | .error fault => throw (.mail fault.message)

def send {σ : Type} (network : Network) (info : SmtpInfo) (subject body : String)
    (isHtml : Bool) : Attempt σ DeliveryError Unit :=
  Attempt.within (sendSpan info) do
    if !info.identity.isEmpty then
      Attempt.log .debug target
        "authorization identity is not sent; authenticating as the sender"
    let draft ← Attempt.ofExcept (compose info subject body isHtml)
    let code ← handOver network info draft
    Attempt.log .debug target s!"smtp relay answered {code}"

end Mailing

end CleanupCourier
