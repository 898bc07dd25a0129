import CleanupCourier.Mail.Message

/-!
Talking to a mail relay. The relay is any rule that answers a command in view of all commands so
far; the talk is written down with a note for each command whether the connection was encrypted
then. On the port for implicit encryption the connection is encrypted from its start; on every other
port it has to become so before anything about the mail is said. That a talk is closed is not
written down: the closing tells nothing, and no answer to it counts.

A relay here offers the log-in in one step if it offers any, and it takes addresses and mails with
characters beyond ASCII. The log-in by challenges, which is for a relay without the other one, and
the check for the extensions that such characters need are left out.
-/
namespace CleanupCourier

inductive SmtpCommand where
  | ehlo
  | startTls
  | auth (token : String)
  | mailFrom (address : String)
  | rcptTo (address : String)
  | data
  | content (message : MailMessage)
deriving DecidableEq, Repr

/-- An answer of the relay; the offers count only in an answer to `ehlo`. -/
structure SmtpReply where
  code : Nat
  text : String := ""
  offersTls : Bool := false
  offersAuth : Bool := false
deriving DecidableEq, Repr

/-- Answers the last of the commands so far; no command asks for the greeting. -/
abbrev SmtpRelay := List SmtpCommand → SmtpReply

/-- Whether a machine takes a connection. -/
inductive Reach where
  | reached
  | unknownHost
  | refused
deriving DecidableEq, Repr

inductive Encryption where
  | none
  | upgraded
  | implicit
deriving DecidableEq, Repr

/-- What was said, with the state of the connection at each command. -/
structure SmtpTalk where
  port : Nat
  encryption : Encryption
  sent : List (Encryption × SmtpCommand) := []
deriving DecidableEq, Repr

/-- Why a mail was not taken. -/
inductive MailFault where
  | noSource
  | manySources
  | noDestination
  | connection (reason : String)
  | client (reason : String)
  | transient (code : Nat) (text : String)
  | permanent (code : Nat) (text : String)
deriving DecidableEq, Repr

def MailFault.message : MailFault → String
  | .noSource => "missing source address, invalid envelope"
  | .manySources => "there can only be one source address"
  | .noDestination => "missing destination address, invalid envelope"
  | .connection reason => "Connection error: " ++ reason
  | .client reason => "internal client error: " ++ reason
  | .transient code text => s!"transient error ({code}): {text}"
  | .permanent code text => s!"permanent error ({code}): {text}"

/-- Whom a mail is from and for, as the relay is told. -/
structure Envelope where
  sender : MailAddress
  recipients : List MailAddress
deriving DecidableEq, Repr

structure SmtpAccount where
  user : String
  password : String
deriving DecidableEq, Repr

def SmtpAccount.token (a : SmtpAccount) : String :=
  "\x00" ++ a.user ++ "\x00" ++ a.password

namespace Smtp

/-- A talk that goes on until something fails. -/
abbrev Talk (α : Type) := ExceptT MailFault (StateM SmtpTalk) α

/-- An answer from 200 on lets the talk go on, one from 400 on ends it. -/
def accept (reply : SmtpReply) : Talk SmtpReply :=
  if reply.code / 100 = 2 ∨ reply.code / 100 = 3 then pure reply
  else if reply.code / 100 = 4 then throw (.transient reply.code reply.text)
  else throw (.permanent reply.code reply.text)

def greet (relay : SmtpRelay) : Talk Unit := do
  let _ ← accept (relay [])

def send (relay : SmtpRelay) (command : SmtpCommand) : Talk SmtpReply := do
  modify fun t => { t with sent := t.sent ++ [(t.encryption, command)] }
  let t ← get
  accept (relay (t.sent.map (·.2)))

def badName : MailFault :=
  .connection "Connection error: domain isn't a valid DNS name"

/-- Makes the connection an encrypted one and asks again what the relay offers. -/
def upgrade (relay : SmtpRelay) (nameFits : Bool) (offer : SmtpReply) : Talk SmtpReply := do
  if !offer.offersTls then throw (.client "STARTTLS is not supported on this server")
  let _ ← send relay .startTls
  if !nameFits then throw badName
  modify fun t => { t with encryption := .upgraded }
  send relay .ehlo

/-- Sees to it that the connection is an encrypted one; gives what the relay offers then. -/
def secure (relay : SmtpRelay) (nameFits : Bool) (offer : SmtpReply) : Talk SmtpReply := do
  if (← get).encryption = .implicit then pure offer else upgrade relay nameFits offer

/-- The code of an answer to a log-in that asks for more. -/
def challengeCode : Nat := 334

/-- A log-in says user and password at once, so there is nothing more to ask for. -/
def logIn (relay : SmtpRelay) (offer : SmtpReply) : Option SmtpAccount → Talk Unit
  | none => pure ()
  | some account => do
    if !offer.offersAuth then
      throw (.client "No compatible authentication mechanism was found")
    let reply ← send relay (.auth account.token)
    if reply.code = challengeCode then
      throw (.client "This mechanism does not expect a challenge")

/-- Tells whom the mail is from and for, and then the mail; gives the code of the last answer. -/
def transfer (relay : SmtpRelay) (envelope : Envelope) (message : MailMessage) : Talk Nat := do
  let _ ← send relay (.mailFrom envelope.sender.text)
  for recipient in envelope.recipients do
    let _ ← send relay (.rcptTo recipient.text)
  let _ ← send relay .data
  let reply ← send relay (.content message)
  return reply.code

/-- The whole talk about one mail. -/
def deliver (relay : SmtpRelay) (nameFits : Bool) (account : Option SmtpAccount)
    (envelope : Envelope) (message : MailMessage) : Talk Nat := do
  greet relay
  let offer ← send relay .ehlo
  let offer ← secure relay nameFits offer
  logIn relay offer account
  transfer relay envelope message

/-- Labels of a name that a certificate can be for. -/
def isCertificateLabel (label : List Char) : Bool :=
  !label.isEmpty && label.length ≤ 63 && label.head? != some '-' && label.getLast? != some '-' &&
    label.all fun c => c.isAlphanum || c == '-' || c == '_'

/-- A host that a certificate can be for: a machine by its number, or a name of at most 253
characters whose last label is no number; it may end in a dot. -/
def fitsCertificate (host : String) : Bool :=
  let s := host.toList
  let labels := Host.labels s
  MailAddress.isMachine s ||
    (s.length ≤ 253 && labels.all isCertificateLabel &&
      labels.getLast?.any fun last => !last.all Char.isDigit)

/-- The outcome of one mail and the talk about it, if there was one. -/
structure Outcome where
  result : Except MailFault Nat
  talk : Option SmtpTalk

/-- Connects and delivers one mail. -/
def submit (relay : SmtpRelay) (reach : Reach) (host : String) (port : Nat) (isImplicit : Bool)
    (account : Option SmtpAccount) (envelope : Envelope) (message : MailMessage) : Outcome :=
  match reach with
  | .unknownHost =>
    ⟨.error (.connection "failed to lookup address information: Name or service not known"), none⟩
  | .refused => ⟨.error (.connection "Connection refused (os error 111)"), none⟩
  | .reached =>
    if isImplicit && !fitsCertificate host then ⟨.error badName, none⟩
    else
      let start : SmtpTalk := { port, encryption := if isImplicit then .implicit else .none }
      let (result, talk) :=
        (deliver relay (fitsCertificate host) account envelope message).run start
      ⟨result, some talk⟩

end Smtp

/-- What an onlooker at the relay has of a mail: how far the talk about it came. -/
structure MailRecord where
  port : Nat
  encryption : Encryption
  auth : Option String
  sender : Option String
  recipients : List String
  content : Option MailMessage
deriving DecidableEq, Repr

/-- The record of a talk. -/
def MailRecord.ofTalk (talk : SmtpTalk) : MailRecord :=
  let commands := talk.sent.map (·.2)
  { port := talk.port
    encryption := talk.encryption
    auth := commands.findSome? fun
      | .auth token => some token
      | _ => none
    sender := commands.findSome? fun
      | .mailFrom address => some address
      | _ => none
    recipients := commands.filterMap fun
      | .rcptTo address => some address
      | _ => none
    content := commands.findSome? fun
      | .content message => some message
      | _ => none }

end CleanupCourier
