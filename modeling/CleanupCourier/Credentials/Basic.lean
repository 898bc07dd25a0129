import CleanupCourier.Cluster.Secret
import CleanupCourier.Failure
import CleanupCourier.Text.CommaList
import CleanupCourier.Text.Decimal
import CleanupCourier.Text.Description
import CleanupCourier.Text.Quoted

/-!
What each destination needs from a Secret. A key that is missing is told by destination and name.
Values are text; octets that are none are replaced. The texts that describe credentials in
diagnostics leave out tokens, passwords and webhook addresses.
-/
namespace CleanupCourier

namespace Credentials

def optional (data : SecretData) (field : String) : Option String :=
  (data.find? field).map textOf

def required (data : SecretData) (destination field : String) : Except DeliveryError String :=
  match optional data field with
  | some value => .ok value
  | none => .error (.missingField destination field)

end Credentials

open Credentials

structure SlackInfo where
  token : String
  channel : String
deriving DecidableEq, Repr

namespace SlackInfo

def ofSecret (data : SecretData) : Except DeliveryError SlackInfo := do
  let token ← required data "slack" "SLACK_TOKEN"
  let channel ← required data "slack" "SLACK_CHANNEL_ID"
  return ⟨token, channel⟩

def describe (i : SlackInfo) : String :=
  Description.record "SlackInfo" [("token", Description.redacted), ("channel", quoted i.channel)]

end SlackInfo

structure TeamsInfo where
  webhookUrl : String
deriving DecidableEq, Repr

namespace TeamsInfo

def ofSecret (data : SecretData) : Except DeliveryError TeamsInfo := do
  let webhookUrl ← required data "teams" "TEAMS_WEBHOOK_URL"
  return ⟨webhookUrl⟩

def describe (_ : TeamsInfo) : String :=
  Description.record "TeamsInfo" [("webhook_url", Description.redacted)]

end TeamsInfo

structure DiscordInfo where
  token : String
  channel : String
deriving DecidableEq, Repr

namespace DiscordInfo

def ofSecret (data : SecretData) : Except DeliveryError DiscordInfo := do
  let token ← required data "discord" "DISCORD_TOKEN"
  let channel ← required data "discord" "DISCORD_CHANNEL_ID"
  return ⟨token, channel⟩

def describe (i : DiscordInfo) : String :=
  Description.record "DiscordInfo" [("token", Description.redacted), ("channel", quoted i.channel)]

end DiscordInfo

structure WebexInfo where
  token : String
  room : String
deriving DecidableEq, Repr

namespace WebexInfo

def ofSecret (data : SecretData) : Except DeliveryError WebexInfo := do
  let token ← required data "webex" "WEBEX_TOKEN"
  let room ← required data "webex" "WEBEX_ROOM_ID"
  return ⟨token, room⟩

def describe (i : WebexInfo) : String :=
  Description.record "WebexInfo" [("token", Description.redacted), ("room", quoted i.room)]

end WebexInfo

/-- How to reach a mail relay and whom to write to. The lists of addresses are kept as written. -/
structure SmtpInfo where
  recipients : String
  bcc : String
  identity : String
  sender : String
  password : String
  host : String
  port : Nat
deriving DecidableEq, Repr

namespace SmtpInfo

def recipientList (i : SmtpInfo) : List String :=
  commaItems i.recipients

def bccList (i : SmtpInfo) : List String :=
  commaItems i.bcc

def defaultPort : Nat := 587

/-- The port on which a connection is encrypted from its start. -/
def implicitTlsPort : Nat := 465

def maxPort : Nat := 65535

def portOf (raw : String) : Except DeliveryError Nat :=
  match boundedNumber maxPort (trimBoth isBlank raw.toList) with
  | .ok port => .ok port
  | .error fault =>
    .error (.invalidField "SMTP_PORT" (quoted raw ++ " is not a valid port: " ++ fault.message))

def ofSecret (data : SecretData) : Except DeliveryError SmtpInfo := do
  let port ← match optional data "SMTP_PORT" with
    | some raw => portOf raw
    | none => .ok defaultPort
  let recipients ← required data "smtp" "SMTP_RECIPIENTS"
  let sender ← required data "smtp" "SMTP_SENDER"
  let host ← required data "smtp" "SMTP_HOST"
  return {
    recipients
    bcc := (optional data "SMTP_BCC").getD ""
    identity := (optional data "SMTP_IDENTITY").getD ""
    sender
    password := (optional data "SMTP_PASSWORD").getD ""
    host
    port }

def describe (i : SmtpInfo) : String :=
  Description.record "SmtpInfo" [("recipients", quoted i.recipients), ("bcc", quoted i.bcc),
    ("identity", quoted i.identity), ("sender", quoted i.sender),
    ("password", Description.redacted), ("host", quoted i.host), ("port", toString i.port)]

/-- The mailer that sends with these settings, in diagnostics. -/
def describeMailer (i : SmtpInfo) : String :=
  Description.record "SmtpMailer" [("info", i.describe)]

end SmtpInfo

end CleanupCourier
