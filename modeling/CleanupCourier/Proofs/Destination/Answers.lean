import CleanupCourier.Proofs.Destination.Course
import CleanupCourier.Proofs.Destination.Verdict
import CleanupCourier.Proofs.Http.Answer
import CleanupCourier.Proofs.Json.Octets

/-!
What comes of a delivery to a web service by the final response. A status that is no success is told
with the text of the body, by each service in its name. A success is enough for two of the services;
for one the body has to be readable, and for one it has to say that all is well. Without a final
response the transport has failed.
-/
namespace CleanupCourier

variable {σ : Type}

theorem Posting.conclude_result (p : Posting) (spans : List Span)
    (exchanged : Except TransportFault HttpResponse × World σ) :
    (p.conclude spans exchanged).1 =
      exchanged.1.mapError (.transport p.destination) >>= fun response =>
        (p.outcome response).map fun _ => () := by
  obtain ⟨fault | response, w⟩ := exchanged
  · rfl
  · simp only [conclude]
    cases outcome : p.outcome response <;>
      simp [outcome, Except.mapError, Except.map, bind, Except.bind]

namespace WebService

def destination : WebService → String
  | .slack => Slack.destination
  | .teams => Teams.destination
  | .discord => Discord.destination
  | .webex => Webex.destination

/-- What is posted to a service, once the Secret of a notification is known. -/
def posting (store : ObjectStore σ) (settings : Settings) (validator : WebhookValidator)
    (d : Delivery) (n : Notification) : WebService → Attempt σ DeliveryError Posting
  | .slack => (Slack.posting settings.slackApiUrl · d) <$> Sink.known store SlackInfo.ofSecret n
  | .teams => (Teams.posting validator · d) <$> Sink.known store TeamsInfo.ofSecret n
  | .discord =>
    (Discord.posting settings.discordApiUrl · d) <$> Sink.known store DiscordInfo.ofSecret n
  | .webex => (Webex.posting settings.webexApiUrl · d) <$> Sink.known store WebexInfo.ofSecret n

theorem sink_eq (store : ObjectStore σ) (network : Network) (settings : Settings)
    (validator : WebhookValidator) (service : WebService) (d : Delivery) (n : Notification) :
    service.sink (Sinks.make store network settings validator) d n =
      posting store settings validator d n service >>= fun p => p.send network := by
  cases service
  all_goals
    rw [posting, bind_map_left]
    exact Sink.posting_eq store network _ _ d n

/-- Holds of the statuses of success. -/
def Succeeds (r : HttpResponse) : Prop :=
  200 ≤ r.status ∧ r.status < 300

theorem isSuccess_iff (r : HttpResponse) : r.isSuccess ↔ Succeeds r := by
  rw [HttpResponse.isSuccess, beq_iff_eq, Succeeds]
  omega

/-- What a delivery comes to by the final response, for each service. -/
inductive Judged (r : HttpResponse) : WebService → Except DeliveryError Unit → Prop
  | refused (service : WebService) (fails : ¬ Succeeds r) {bytes : Bytes}
    (body : r.content? = some bytes) :
    Judged r service (.error (.api service.destination r.status (textOf bytes)))
  | refusedUnread (service : WebService) (fails : ¬ Succeeds r) (body : r.content? = none) :
    Judged r service (.error (.api service.destination r.status
      "<unreadable body: error decoding response body>"))
  | teams (succeeds : Succeeds r) : Judged r .teams (.ok ())
  | discord (succeeds : Succeeds r) : Judged r .discord (.ok ())
  | webex (succeeds : Succeeds r) {bytes : Bytes} (body : r.content? = some bytes) :
    Judged r .webex (.ok ())
  | webexUnread (succeeds : Succeeds r) (body : r.content? = none) :
    Judged r .webex (.error (.transport "webex" .decoding))
  | slack (succeeds : Succeeds r) {bytes : Bytes} (body : r.content? = some bytes)
    {error : Option String} (declared : Slack.Declares bytes true error) : Judged r .slack (.ok ())
  | slackDenied (succeeds : Succeeds r) {bytes : Bytes} (body : r.content? = some bytes)
    {error : Option String} (declared : Slack.Declares bytes false error) :
    Judged r .slack (.error (.api "slack" r.status (error.getD "unknown error")))
  | slackSilent (succeeds : Succeeds r)
    (silent : ∀ bytes isOk error, r.content? = some bytes → ¬ Slack.Declares bytes isOk error) :
    Judged r .slack (.error (.transport "slack" .decoding))

/-- What a service makes of a response of success. -/
def judge : WebService → HttpResponse → Except DeliveryError String
  | .slack => Slack.judge
  | .teams => fun _ => .ok "teams message posted"
  | .discord => fun _ => .ok "discord message posted"
  | .webex => Webex.judge

/-- What a service makes of a response. -/
def outcome (service : WebService) (r : HttpResponse) : Except DeliveryError String :=
  if r.isSuccess then service.judge r
  else .error (.api service.destination r.status (Posting.bodyText r))

theorem outcome_of_fails {r : HttpResponse} (fails : ¬ Succeeds r) (service : WebService) :
    service.outcome r = .error (.api service.destination r.status (Posting.bodyText r)) :=
  if_neg (mt (isSuccess_iff r).mp fails)

theorem outcome_of_succeeds {r : HttpResponse} (succeeds : Succeeds r) (service : WebService) :
    service.outcome r = service.judge r :=
  if_pos ((isSuccess_iff r).mpr succeeds)

theorem outcome_of_judged {r : HttpResponse} {service : WebService}
    {result : Except DeliveryError Unit} (judged : Judged r service result) :
    (service.outcome r).map (fun _ => ()) = result := by
  cases judged with
  | refused _ fails body =>
    rw [outcome_of_fails fails, Posting.bodyText, body]
    rfl
  | refusedUnread _ fails body =>
    rw [outcome_of_fails fails, Posting.bodyText, body]
    rfl
  | teams succeeds | discord succeeds =>
    rw [outcome_of_succeeds succeeds]
    rfl
  | webex succeeds body | webexUnread succeeds body =>
    rw [outcome_of_succeeds succeeds, judge, Webex.judge, body]
    rfl
  | slack succeeds body declared | slackDenied succeeds body declared =>
    rw [outcome_of_succeeds succeeds, judge, Slack.judge,
      Slack.verdict?_eq_some_iff.mpr ⟨_, body, declared⟩]
    rfl
  | slackSilent succeeds silent =>
    have none : Slack.verdict? r = none := by
      refine Option.eq_none_iff_forall_ne_some.mpr fun ⟨isOk, error⟩ told => ?_
      obtain ⟨bytes, body, declared⟩ := Slack.verdict?_eq_some_iff.mp told
      exact silent bytes isOk error body declared
    rw [outcome_of_succeeds succeeds, judge, Slack.judge, none]
    rfl

/-- Every response is judged. -/
theorem exists_judged (r : HttpResponse) (service : WebService) :
    ∃ result, Judged r service result := by
  by_cases succeeds : Succeeds r
  · cases service with
    | teams => exact ⟨_, .teams succeeds⟩
    | discord => exact ⟨_, .discord succeeds⟩
    | webex =>
      cases body : r.content? with
      | none => exact ⟨_, .webexUnread succeeds body⟩
      | some bytes => exact ⟨_, .webex succeeds body⟩
    | slack =>
      cases told : Slack.verdict? r with
      | none =>
        refine ⟨_, .slackSilent succeeds fun bytes isOk error body declared => ?_⟩
        have := Slack.verdict?_eq_some_iff.mpr ⟨bytes, body, declared⟩
        exact nomatch told.symm.trans this
      | some v =>
        obtain ⟨isOk, error⟩ := v
        obtain ⟨bytes, body, declared⟩ := Slack.verdict?_eq_some_iff.mp told
        cases isOk with
        | true => exact ⟨_, .slack succeeds body declared⟩
        | false => exact ⟨_, .slackDenied succeeds body declared⟩
  · cases body : r.content? with
    | none => exact ⟨_, .refusedUnread service succeeds body⟩
    | some bytes => exact ⟨_, .refused service succeeds body⟩

theorem judged_iff {r : HttpResponse} {service : WebService} {result : Except DeliveryError Unit} :
    (service.outcome r).map (fun _ => ()) = result ↔ Judged r service result := by
  refine ⟨fun same => ?_, outcome_of_judged⟩
  obtain ⟨result', judged⟩ := exists_judged r service
  rwa [← same, outcome_of_judged judged]

/-- Whatever is posted to a service, it is judged as the service judges. -/
theorem outcome_of_posting {store : ObjectStore σ} {settings : Settings}
    {validator : WebhookValidator} {d : Delivery} {n : Notification} {service : WebService}
    {spans : List Span} {w u : World σ} {p : Posting}
    (made : (posting store settings validator d n service).run spans w = (.ok p, u)) :
    p.destination = service.destination ∧ p.outcome = service.outcome := by
  cases service
  all_goals
    rw [posting, Attempt.run_map] at made
    generalize (Sink.known store _ n).run spans w = read at made
    obtain ⟨error | info, v⟩ := read
    · cases made
    · cases made
      exact ⟨rfl, rfl⟩

/-- What comes of a posting that passes its check, by the final response. -/
theorem result_of_send {p : Posting} (passes : p.check = .ok ()) (network : Network)
    (spans : List Span) (w : World σ) :
    match Http.finalResponse? network p.call w.traffic with
    | some r => ((p.send network).run spans w).1 = (p.outcome r).map fun _ => ()
    | none =>
      ∃ fault, ((p.send network).run spans w).1 = .error (.transport p.destination fault) := by
  have gives := Http.gives_exchange network p.call (spans ++ [p.span])
    (w.noting (p.announcement spans))
  rw [Posting.run_send_checked passes, Posting.conclude_result]
  change Http.Gives (Http.finalResponse? network p.call w.traffic) _ at gives
  generalize ((Http.exchange network p.call).run _ _).1 = exchanged at gives ⊢
  generalize Http.finalResponse? network p.call w.traffic = final at gives ⊢
  cases gives with
  | response r => rfl
  | fault fault => exact ⟨fault, rfl⟩

/-- What a delivery to a web service comes to. Without a Secret for it, or if the check before the
posting fails, it fails alike. Else it is the final response that decides, whatever its status and
its body are, by the rules for that service; and if there is none, the transport has failed. -/
theorem judged_by_final_response (store : ObjectStore σ) (network : Network)
    (settings : Settings) (validator : WebhookValidator) (service : WebService) (d : Delivery)
    (n : Notification) (spans : List Span) (w : World σ) :
    let ended := (service.sink (Sinks.make store network settings validator) d n).run spans w
    let made := (posting store settings validator d n service).run spans w
    (∀ error, made.1 = .error error → ended.1 = .error error) ∧
      ∀ p, made.1 = .ok p →
        (∀ error, p.check = .error error → ended.1 = .error error) ∧
        (p.check = .ok () →
          (∀ r, Http.finalResponse? network p.call made.2.traffic = some r →
            ∀ result, ended.1 = result ↔ Judged r service result) ∧
          (Http.finalResponse? network p.call made.2.traffic = none →
            ∃ fault, ended.1 = .error (.transport service.destination fault))) := by
  dsimp only
  rw [sink_eq, Attempt.run_bind]
  cases ran : (posting store settings validator d n service).run spans w with
  | mk first u =>
    cases first with
    | error error => exact ⟨fun _ same => Except.error.inj same ▸ rfl, nofun⟩
    | ok p =>
      obtain ⟨destination, outcome⟩ := outcome_of_posting ran
      refine ⟨nofun, fun p' same => ?_⟩
      dsimp only at same ⊢
      cases same
      refine ⟨fun error fails => ?_, fun passes => ?_⟩
      · rw [Posting.run_send_refused fails]
      · have result := result_of_send passes network spans u
        refine ⟨fun r final result' => ?_, fun nothing => ?_⟩
        · simp only [final] at result
          rw [result, outcome, judged_iff]
        · simp only [nothing] at result
          rwa [destination] at result

/-- A post to Slack that is redirected to another server, which says that the channel is closed. -/
theorem judged_by_final_response_denied :
    let verdict :=
      Json.object [("ok", .bool false), ("ts", .null), ("error", .string "is_archived")]
    let denied : HttpResponse := { body := utf8 verdict.render }
    let network := Network.scripted
      [.response { status := 307, location := some "https://[::2]/chat" }, .response denied] {}
    let settings : Settings := { slackApiUrl := "https://[::1]" }
    let secret : Secret := {
      metadata := { namespaceName := some "ops", name := some "slack" }
      data := some (KeyMap.ofList
        [("SLACK_TOKEN", utf8 "token"), ("SLACK_CHANNEL_ID", utf8 "C1")]) }
    let w : World MemoryStore := { objects := MemoryStore.empty.insertSecret secret }
    let d : Delivery := ⟨"\x7b\x7d", "nightly"⟩
    let n : Notification := ⟨"chat", .slack, some ⟨"Secret", "ops", "slack", "v1"⟩⟩
    let p := Slack.posting settings.slackApiUrl ⟨"token", "C1"⟩ d
    let made := (posting .memory settings {} d n .slack).run [] w
    let ended := (WebService.slack.sink (Sinks.make .memory network settings {}) d n).run [] w
    made.1 = .ok p ∧ p.check = .ok () ∧
      Http.finalResponse? network p.call made.2.traffic = some denied ∧
      Judged denied .slack (.error (.api "slack" 200 "is_archived")) ∧
      ended.1 = .error (.api "slack" 200 "is_archived") := by
  intro verdict denied network settings secret w d n p made ended
  have known : ((Sink.known .memory SlackInfo.ofSecret n).run [] w).1 = .ok ⟨"token", "C1"⟩ := by
    decide +kernel
  have makes : made.1 = .ok p := by
    rw [show made = _ from Attempt.run_map _ _ _ _, known]
    rfl
  have final : Http.finalResponse? network p.call made.2.traffic = some denied := by
    decide +kernel
  have declared : Slack.Declares denied.body false (some "is_archived") := by
    refine ⟨verdict, Json.readOctets_render ⟨trivial, trivial, trivial, trivial⟩, ?_⟩
    refine .object (by simp [Json.valuesUnder]) ?_
      (by simp [Decode.passOver, Decode.skip, Json.skipFault?])
    simpa [Json.valuesUnder] using Slack.TellsError.text "is_archived"
  have judged : Judged denied .slack (.error (.api "slack" 200 "is_archived")) :=
    .slackDenied ⟨by decide, by decide⟩ rfl declared
  obtain ⟨-, decides⟩ := judged_by_final_response .memory network settings {} .slack d n [] w
  obtain ⟨-, answers⟩ := decides p makes
  obtain ⟨response, -⟩ := answers rfl
  exact ⟨makes, rfl, final, judged, (response denied final _).mpr judged⟩

end WebService

end CleanupCourier
