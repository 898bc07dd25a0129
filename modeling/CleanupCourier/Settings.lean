import CleanupCourier.KeyMap
import CleanupCourier.Text.CommaList
import CleanupCourier.Text.Decimal
import CleanupCourier.Text.Utf8

/-!
The settings of a notifier process. Each has a default; a host process may take them from its
environment, where a value that is not text counts as not set.
-/
namespace CleanupCourier

structure Settings where
  slackApiUrl : String := "https://slack.com/api"
  discordApiUrl : String := "https://discord.com/api/v10"
  webexApiUrl : String := "https://webexapis.com/v1"
  /-- Seconds that an exchange may take; without it no exchange is cut off. -/
  httpTimeout : Option Nat := none
  /-- Whether Teams webhook addresses are checked. -/
  teamsValidation : Bool := true
  /-- Further patterns that a Teams webhook address may match. -/
  teamsPatterns : List String := []
  logLevel : String := "INFO"
  logFormat : String := "json"
  logColor : Bool := false
deriving DecidableEq, Repr

namespace Settings

/-- Variables and their values. -/
abbrev Environment := KeyMap Bytes

def textOf? (env : Environment) (name : String) : Option String :=
  (env.find? name).bind fun bytes => (Utf8.decode? bytes).map String.ofList

/-- The words for "on", in any case; every other text means "off". -/
def isOn (s : String) : Bool :=
  ["true", "1", "yes", "on"].contains (String.ofList (s.toList.map Char.toLower))

def flag (env : Environment) (name : String) (fallback : Bool) : Bool :=
  ((textOf? env name).map isOn).getD fallback

def maxSeconds : Nat := wordSize 64 - 1

def ofEnvironment (env : Environment) : Settings :=
  let fallback : Settings := {}
  let text (name fallback : String) := (textOf? env name).getD fallback
  { slackApiUrl := text "SLACK_API_URL" fallback.slackApiUrl
    discordApiUrl := text "DISCORD_API_URL" fallback.discordApiUrl
    webexApiUrl := text "WEBEX_API_URL" fallback.webexApiUrl
    httpTimeout := (textOf? env "NOTIFICATION_HTTP_TIMEOUT_SECS").bind fun s =>
      (boundedNumber maxSeconds s.toList).toOption
    teamsValidation := flag env "TEAMS_WEBHOOK_VALIDATION" fallback.teamsValidation
    teamsPatterns := ((textOf? env "TEAMS_WEBHOOK_PATTERNS").map commaItems).getD []
    logLevel := text "LOG_LEVEL" fallback.logLevel
    logFormat := text "LOG_FORMAT" fallback.logFormat
    logColor := flag env "LOG_ENABLE_COLOR" fallback.logColor }

/-- The time limit in thousandths of a second. -/
def httpTimeoutMillis (s : Settings) : Option Nat :=
  s.httpTimeout.map (· * 1000)

end Settings

/-- A base address without the slashes at its end, so that a path can follow. -/
def trimSlashes (url : String) : String :=
  String.ofList (url.toList.reverse.dropWhile (· == '/')).reverse

end CleanupCourier
