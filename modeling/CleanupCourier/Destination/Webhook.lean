import CleanupCourier.Failure
import CleanupCourier.Pattern.Reader
import CleanupCourier.Settings
import CleanupCourier.Text.Quoted
import CleanupCourier.Url.Parser

/-!
Which addresses a Teams webhook may have. Two patterns tell the hosts that are known; they look at
the host of an `https` address and at nothing else of it. The settings may add patterns, which look
at the whole text, or turn the check off.
-/
namespace CleanupCourier

namespace Pattern

/-- Patterns one after the other. -/
def seqOf (patterns : List Pattern) : Pattern :=
  patterns.foldr .seq .empty

def oneOfTexts (texts : List String) : Pattern :=
  eitherOf (texts.map ofText)

/-- Any character of a line. -/
def anyOfLine : Pattern :=
  .char (.negated (.one '\n'))

def oneOrMore (p : Pattern) : Pattern :=
  .loop p 1 none

def maybe (p : Pattern) : Pattern :=
  .loop p 0 (some 1)

/-- A pattern that has to match a text from end to end. -/
def whole (p : Pattern) : Pattern :=
  seqOf [.anchor .textStart, p, .anchor .textEnd]

end Pattern

namespace Webhook

open Pattern in
/-- Hosts of connectors: `outlook` or a name under `webhook`, at one of two Office domains. -/
def connectorHost : Pattern :=
  whole (seqOf [
    .either (seqOf [oneOrMore anyOfLine, ofText ".webhook"]) (ofText "outlook"),
    ofText ".office", maybe (ofText "365"), ofText ".com"])

open Pattern in
/-- Hosts of workflows: one of three services or a name under one, at one of two top domains. -/
def workflowHost : Pattern :=
  whole (seqOf [
    maybe (seqOf [oneOrMore anyOfLine, ofText "."]),
    oneOfTexts ["azure-api", "logic.azure", "api.powerplatform"],
    ofText ".", oneOfTexts ["com", "net"]])

/-- Whether an address is an `https` address at a known host. -/
def isKnown (url : String) : Bool :=
  match Url.parse? url with
  | none => false
  | some u =>
    u.scheme == "https" && u.hostText?.any fun host =>
      let host := String.ofList (host.toList.map Char.toLower)
      connectorHost.isMatch host || workflowHost.isMatch host

end Webhook

/-- A pattern of the settings, with the text it was read from. -/
structure WebhookPattern where
  source : String
  pattern : Pattern

structure WebhookValidator where
  isEnabled : Bool := true
  extra : List WebhookPattern := []

namespace WebhookValidator

def readPattern (source : String) : Except DeliveryError WebhookPattern :=
  match Pattern.parse? source with
  | some pattern => .ok ⟨source, pattern⟩
  | none => .error (.invalidConfig ("Teams webhook pattern " ++ quoted source ++ ": <regex error>"))

/-- The validator of the settings; every pattern has to be one, even with the check turned off. -/
def ofSettings (s : Settings) : Except DeliveryError WebhookValidator := do
  let extra ← s.teamsPatterns.mapM readPattern
  return ⟨s.teamsValidation, extra⟩

def accepts (v : WebhookValidator) (url : String) : Bool :=
  !v.isEnabled || v.extra.any (·.pattern.isMatch url) || Webhook.isKnown url

def validate (v : WebhookValidator) (url : String) : Except DeliveryError Unit :=
  if v.accepts url then .ok ()
  else .error (.invalidWebhookUrl "URL does not match a known Teams webhook host")

end WebhookValidator

end CleanupCourier
