import CleanupCourier.Destination.Webhook
import CleanupCourier.Text.Description

/-!
How the parts of a notifier describe themselves in diagnostics. Only the addresses and patterns of
the settings are told.
-/
namespace CleanupCourier

def WebhookPattern.describe (p : WebhookPattern) : String :=
  "Regex(" ++ quoted p.source ++ ")"

def WebhookValidator.describe (v : WebhookValidator) : String :=
  Description.record "WebhookValidator" [("enabled", toString v.isEnabled),
    ("extra", "[" ++ ", ".intercalate (v.extra.map (·.describe)) ++ "]")]

namespace Description

/-- A sink that is known by the base address of its service. -/
def apiSink (name url : String) : String :=
  openRecord name [("api_url", quoted (trimSlashes url))]

def slackSink (s : Settings) : String :=
  apiSink "SlackSink" s.slackApiUrl

def discordSink (s : Settings) : String :=
  apiSink "DiscordSink" s.discordApiUrl

def webexSink (s : Settings) : String :=
  apiSink "WebexSink" s.webexApiUrl

def teamsSink (v : WebhookValidator) : String :=
  openRecord "TeamsSink" [("validator", v.describe)]

def smtpSink : String := openRecord "SmtpSink" []

def mailerFactory : String := openRecord "SmtpMailerFactory" []

def sinks : String := openRecord "Sinks" []

def dispatcher : String := openRecord "Dispatcher" [("sinks", sinks)]

def clusterStore : String := openRecord "KubeStore" []

end Description

end CleanupCourier
