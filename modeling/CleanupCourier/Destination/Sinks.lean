import CleanupCourier.Credentials.Reference
import CleanupCourier.Destination.Discord
import CleanupCourier.Destination.Mailing
import CleanupCourier.Destination.Slack
import CleanupCourier.Destination.Teams
import CleanupCourier.Destination.Webex

/-!
The sinks, one for each kind of destination outside the cluster. A sink fetches the credentials for
every delivery anew and keeps nothing between deliveries.
-/
namespace CleanupCourier

/-- Takes a delivery for a notification to its destination. -/
abbrev Sink (σ : Type) := Delivery → Notification → Attempt σ DeliveryError Unit

structure Sinks (σ : Type) where
  slack : Sink σ
  teams : Sink σ
  discord : Sink σ
  webex : Sink σ
  smtp : Sink σ

namespace Sink

variable {σ : Type}

/-- A sink that posts what the credentials of a notification allow. -/
def posting {ι : Type} (store : ObjectStore σ) (network : Network)
    (info : SecretData → Except DeliveryError ι) (posting : ι → Delivery → Posting) : Sink σ :=
  fun d n => do
    let data ← n.credentials store
    let info ← Attempt.ofExcept (info data)
    (posting info d).send network

/-- The sink for mail. It tells the Secret it is about before it reads it. -/
def smtp (store : ObjectStore σ) (network : Network) : Sink σ := fun d n =>
  let secret := match n.ref? with
    | some ref => ref.path
    | none => ""
  Attempt.within ⟨Mailing.destination, Mailing.target, [("secret", .text secret)]⟩ do
    Attempt.log .info Mailing.target "send smtp message"
    let data ← n.credentials store
    let info ← Attempt.ofExcept (SmtpInfo.ofSecret data)
    Mailing.send network info d.message d.payload false

end Sink

namespace Sinks

variable {σ : Type}

def make (store : ObjectStore σ) (network : Network) (settings : Settings)
    (validator : WebhookValidator) : Sinks σ where
  slack := Sink.posting store network SlackInfo.ofSecret (Slack.posting settings.slackApiUrl)
  teams := Sink.posting store network TeamsInfo.ofSecret (Teams.posting validator)
  discord := Sink.posting store network DiscordInfo.ofSecret
    (Discord.posting settings.discordApiUrl)
  webex := Sink.posting store network WebexInfo.ofSecret (Webex.posting settings.webexApiUrl)
  smtp := Sink.smtp store network

/-- The sinks that the settings ask for; they fail if a webhook pattern is none. -/
def ofSettings (store : ObjectStore σ) (network : Network) (settings : Settings) :
    Except DeliveryError (Sinks σ) :=
  (WebhookValidator.ofSettings settings).map (make store network settings)

end Sinks

end CleanupCourier
