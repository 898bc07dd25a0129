import CleanupCourier.Proofs.Destination.Confinement
import CleanupCourier.Proofs.Dispatch.Agreement
import CleanupCourier.Proofs.Dispatch.History

/-!
What the log tells of a webhook. As long as each post to Teams is answered, and not by a redirect,
a run writes the same into its journal whatever stands behind the host in the address of a webhook.
The error of a post that gets no answer tells the whole address, and the line about the failed
attempt tells the error; there the secret part of the address stands in the log.
-/
namespace CleanupCourier

/-- Holds of the addresses of webhooks that are both accepted, and that differ at most behind the
host, which is one of some hosts. -/
structure WebhookValidator.Siblings (validator : WebhookValidator) (hosts : List Host)
    (s s' : String) : Prop where
  accepts : validator.accepts s
  accepts' : validator.accepts s'
  entrance : ∃ u u' host, Url.parse? s = some u ∧ Url.parse? s' = some u' ∧
    u.entrance = u'.entrance ∧ u.host = some host ∧ host ∈ hosts

/-- Addresses of webhooks may be replaced by siblings, and nothing else. -/
def Tolerance.webhooks (validator : WebhookValidator) (hosts : List Host) : Tolerance where
  veil := .entrances hosts
  login := Eq
  value key a a' := a = a' ∨
    (key = "TEAMS_WEBHOOK_URL" ∧ validator.Siblings hosts (textOf a) (textOf a'))
  login_refl _ := rfl
  isHeaderText_eq same := congrArg _ same
  request_eq same := congrArg _ (HttpRequest.eq_of_twins same)
  token := by
    rintro key a a' mem (rfl | ⟨rfl, -⟩) before
    · rfl
    · exact absurd mem (by decide)
  password := by
    rintro a a' (rfl | ⟨eq, -⟩)
    · exact ⟨rfl, fun _ => rfl⟩
    · exact absurd eq (by decide)
  open_eq := by
    rintro key a a' shown (same | ⟨rfl, -⟩)
    · exact same
    · exact absurd (by decide) shown

theorem Tolerance.webhooks_value {validator : WebhookValidator} {hosts : List Host} {s s' : String}
    (h : validator.Siblings hosts s s') {a a' : Bytes} (text : textOf a = s)
    (text' : textOf a' = s') : (webhooks validator hosts).value "TEAMS_WEBHOOK_URL" a a' := by
  subst text text'
  exact .inr ⟨rfl, h⟩

namespace WebhookValidator.Siblings

variable {validator : WebhookValidator} {hosts : List Host} {s s' : String}

theorem hostOf_eq (h : validator.Siblings hosts s s') : Teams.hostOf s = Teams.hostOf s' := by
  obtain ⟨u, u', host, parsed, parsed', same, -⟩ := h.entrance
  have hosts : u.host = u'.host := (Url.mk.inj same).2.2.2.1
  rw [Teams.hostOf, Teams.hostOf, parsed, parsed', Option.bind_some, Option.bind_some,
    Url.hostText?, Url.hostText?, hosts]

theorem span_eq (h : validator.Siblings hosts s s') (d : Delivery) :
    (Teams.posting validator ⟨s⟩ d).span = (Teams.posting validator ⟨s'⟩ d).span := by
  simp only [Posting.span, Teams.posting, h.hostOf_eq]
  rfl

theorem announcement_eq (h : validator.Siblings hosts s s') (d : Delivery) (spans : List Span) :
    (Teams.posting validator ⟨s⟩ d).announcement spans =
      (Teams.posting validator ⟨s'⟩ d).announcement spans := by
  simp only [Posting.announcement, h.span_eq d]
  rfl

theorem conclude_eq (h : validator.Siblings hosts s s') (d : Delivery) (spans : List Span)
    {σ : Type} (exchanged : Except TransportFault HttpResponse × World σ) :
    (Teams.posting validator ⟨s⟩ d).conclude spans exchanged =
      (Teams.posting validator ⟨s'⟩ d).conclude spans exchanged := by
  obtain ⟨fault | response, w⟩ := exchanged
  · rfl
  · have outcome : (Teams.posting validator ⟨s⟩ d).outcome response =
        (Teams.posting validator ⟨s'⟩ d).outcome response := rfl
    simp only [Posting.conclude, outcome, Posting.closing, h.span_eq d]
    rfl

/-- The posts to siblings look alike to an onlooker who does not see behind the host. -/
theorem request_eq (h : validator.Siblings hosts s s') {body : HttpBody} {r r' : HttpRequest}
    (prepared : Http.prepare { url := s, body } = .ok r)
    (prepared' : Http.prepare { url := s', body } = .ok r') :
    (Veil.entrances hosts).request (Http.onWire r) =
      (Veil.entrances hosts).request (Http.onWire r') := by
  obtain ⟨v, v', host, parsed, parsed', same, named, mem⟩ := h.entrance
  obtain ⟨u, eq, -, -, -, -, rfl⟩ := Http.prepare_eq_ok prepared
  obtain ⟨u', eq', -, -, -, -, rfl⟩ := Http.prepare_eq_ok prepared'
  cases parsed.symm.trans eq
  cases parsed'.symm.trans eq'
  obtain ⟨scheme, username, password, hostSame, port, -⟩ := Url.mk.inj same
  have user : Http.user? v = Http.user? v' := by rw [Http.user?, Http.user?, username, password]
  have hidden : v'.host.any (hosts.contains ·) := by simpa [← hostSame, named] using mem
  simp only [Http.onWire, Http.withoutUser_target]
  simp only [Veil.entrances, Url.withoutUser, Url.withoutFragment, hidden, if_true, Url.entrance,
    scheme, hostSame, port, user]

end WebhookValidator.Siblings

/-- A posting is concluded alike in worlds that are bound. -/
theorem Posting.alike_conclude {σ : Type} {bond : Bond σ} (p : Posting) (spans : List Span)
    (response : HttpResponse) {w v : World σ} (holds : bond.Holds w v) :
    Alike bond.Holds Eq (p.conclude spans (.ok response, w))
      (p.conclude spans (.ok response, v)) := by
  rw [conclude, conclude]
  cases p.outcome response with
  | error error => exact ⟨.error error, holds⟩
  | ok line => exact ⟨.ok rfl, holds.noting _⟩

namespace Teams

variable {σ : Type}

/-- Holds of an attempt that sends one request at most, and gets a response if it sends one. -/
structure Direct (w : World σ) (ended : Except DeliveryError Unit × World σ) : Prop where
  once : ended.2.traffic.requests.length ≤ w.traffic.requests.length + 1
  answered (fault : TransportFault) : ended.1 ≠ .error (.transport destination fault)

/-- A posting that is direct is judged by the answer to its request. -/
theorem exchange_of_direct {network : Network} {p : Posting} (name : p.destination = destination)
    (check : p.check = .ok ()) {spans : List Span} {w : World σ}
    (direct : Direct w ((p.send network).run spans w)) :
    ∃ request response, Http.prepare p.call = .ok request ∧
      network.reply ((w.noting (p.announcement spans)).requested (Http.onWire request)).traffic =
        .response response ∧
      (p.send network).run spans w = p.conclude spans
        (.ok response, (w.noting (p.announcement spans)).requested (Http.onWire request)) := by
  rw [Posting.run_send_checked check] at direct ⊢
  generalize ran : (Http.exchange network p.call).run (spans ++ [p.span])
    (w.noting (p.announcement spans)) = exchanged at direct ⊢
  obtain ⟨fault | response, v⟩ := exchanged
  · exact absurd (by rw [Posting.conclude, name]) (direct.answered fault)
  · have once := direct.once
    rw [Posting.traffic_conclude] at once
    obtain ⟨request, prepared, rfl, replied⟩ := Http.exchange_direct ran once
    exact ⟨request, response, prepared, replied, rfl⟩

section Siblings

variable {network : Network} {validator : WebhookValidator} {hosts : List Host}
  {objects : σ → σ → Prop} (overlooks : network.Overlooks (.entrances hosts))

include overlooks

theorem alike_send {info info' : TeamsInfo}
    (h : validator.Siblings hosts info.webhookUrl info'.webhookUrl) (d : Delivery)
    {spans : List Span} {w v : World σ} (holds : Bond.Holds ⟨objects, .entrances hosts⟩ w v)
    (direct : Direct w (((posting validator info d).send network).run spans w))
    (direct' : Direct v (((posting validator info' d).send network).run spans v)) :
    Alike (Bond.Holds ⟨objects, .entrances hosts⟩) Eq
      (((posting validator info d).send network).run spans w)
      (((posting validator info' d).send network).run spans v) := by
  have check : (posting validator info d).check = .ok () := if_pos h.accepts
  have check' : (posting validator info' d).check = .ok () := if_pos h.accepts'
  obtain ⟨request, response, prepared, replied, eq⟩ := exchange_of_direct rfl check direct
  obtain ⟨request', response', prepared', replied', eq'⟩ := exchange_of_direct rfl check' direct'
  have after := (holds.noting ((posting validator info d).announcement spans)).requested
    (h.request_eq prepared prepared')
  rw [← h.announcement_eq d spans] at replied' eq'
  have same : response = response' := by
    rw [overlooks.reply after.traffic, replied'] at replied
    exact (HttpReply.response.inj replied).symm
  rw [eq, eq', same, h.conclude_eq]
  exact Posting.alike_conclude _ spans response' after

/-- Two sinks for Teams end alike if both attempts are direct. -/
theorem alike_sink {store store' : ObjectStore σ} (reads : store.ReadsWithin .quiet)
    (reads' : store'.ReadsWithin .quiet)
    (agree : store.Agree (.webhooks validator hosts) objects store') (settings : Settings)
    (d : Delivery) (n : Notification) {spans : List Span} {w v : World σ}
    (holds : Bond.Holds ⟨objects, .entrances hosts⟩ w v)
    (direct : Direct w (((Sinks.make store network settings validator).teams d n).run spans w))
    (direct' : Direct v (((Sinks.make store' network settings validator).teams d n).run spans v)) :
    Alike (Bond.Holds ⟨objects, .entrances hosts⟩) Eq
      (((Sinks.make store network settings validator).teams d n).run spans w)
      (((Sinks.make store' network settings validator).teams d n).run spans v) := by
  change Direct w ((Sink.posting store network TeamsInfo.ofSecret (posting validator) d n).run _ _)
    at direct
  change Direct v ((Sink.posting store' network TeamsInfo.ofSecret (posting validator) d n).run _ _)
    at direct'
  change Alike _ _
    ((Sink.posting store network TeamsInfo.ofSecret (posting validator) d n).run _ _)
    ((Sink.posting store' network TeamsInfo.ofSecret (posting validator) d n).run _ _)
  have knows (m m' : SecretData) (data : (Tolerance.webhooks validator hosts).Data m m') :
      Matches (fun i i' => (Tolerance.webhooks validator hosts).Texts "TEAMS_WEBHOOK_URL"
        i.webhookUrl i'.webhookUrl) (TeamsInfo.ofSecret m) (TeamsInfo.ofSecret m') :=
    (data.required_rel "teams" "TEAMS_WEBHOOK_URL").bind fun url url' texts => .ok texts
  have known := Sink.agree_known agree knows n spans w v holds
  have quiet := Sink.respects_known reads TeamsInfo.ofSecret n spans w
  have quiet' := Sink.respects_known reads' TeamsInfo.ofSecret n spans v
  rw [Sink.posting_eq, Attempt.run_bind_onward] at direct direct' ⊢
  rw [Sink.posting_eq, Attempt.run_bind_onward]
  generalize (Sink.known store TeamsInfo.ofSecret n).run spans w = read at known quiet direct ⊢
  generalize (Sink.known store' TeamsInfo.ofSecret n).run spans v = read' at known quiet' direct' ⊢
  obtain ⟨result, u⟩ := read
  obtain ⟨result', u'⟩ := read'
  obtain ⟨result, state⟩ := known
  cases result with
  | error error => exact ⟨.error error, state⟩
  | @ok info info' texts =>
    have direct : Direct u (((posting validator info d).send network).run spans u) :=
      ⟨quiet ▸ direct.once, direct.answered⟩
    have direct' : Direct u' (((posting validator info' d).send network).run spans u') :=
      ⟨quiet' ▸ direct'.once, direct'.answered⟩
    obtain ⟨a, a', same | ⟨-, siblings⟩, eq, eq'⟩ := texts
    · -- The webhook is the same.
      have same : info = info' := congrArg TeamsInfo.mk (eq.symm.trans (same ▸ eq'))
      subst same
      exact Posting.agree_send (T := .webhooks validator hosts) overlooks (posting validator info d)
        .none spans u u' state
    · rw [eq, eq'] at siblings
      exact alike_send overlooks siblings d state direct direct'

end Siblings

end Teams

namespace Dispatcher

variable {σ : Type} {objects : σ → σ → Prop} {store store' : ObjectStore σ}

/-- Holds if each attempt on Teams in a pass is direct. -/
abbrev EachDirect (dispatcher : Dispatcher σ) (run : Run) (spans : List Span) (w : World σ) :
    Prop :=
  dispatcher.EachAttempt (fun n u ended => n.type = .teams → Teams.Direct u ended) run spans
    run.entries w

/-- Two runs over Secrets that differ in what stands behind the host of a webhook, with a network
whose answers do not depend on that, have the same result and the same log events as long as each
attempt on Teams is direct: it sends one request at most, and does not fail in the transport. -/
theorem perform_hides_webhook (network : Network) (hosts : List Host)
    (overlooks : network.Overlooks (.entrances hosts)) (settings : Settings)
    (validator : WebhookValidator) (reads : store.ReadsWithin .quiet)
    (reads' : store'.ReadsWithin .quiet)
    (agree : store.Agree (.webhooks validator hosts) objects store') (run : Run)
    (spans : List Span) (w v : World σ) (bound : Bond.Holds ⟨objects, .entrances hosts⟩ w v) :
    let dispatcher : Dispatcher σ := ⟨store, Sinks.make store network settings validator⟩
    let dispatcher' : Dispatcher σ := ⟨store', Sinks.make store' network settings validator⟩
    dispatcher.EachDirect run spans w → dispatcher'.EachDirect run spans v →
      ((dispatcher.perform run).run spans w).1 = ((dispatcher'.perform run).run spans v).1 ∧
      ((dispatcher.perform run).run spans w).2.journal =
        ((dispatcher'.perform run).run spans v).2.journal := by
  intro dispatcher dispatcher' each each'
  have step (n : Notification) : EndsAlike ⟨objects, .entrances hosts⟩
      (fun n u ended => n.type = .teams → Teams.Direct u ended) dispatcher dispatcher' run n := by
    intro spans w v holds direct direct'
    by_cases type : n.type = .teams
    · have direct := direct type
      have direct' := direct' type
      unfold outcome handler at direct direct' ⊢
      rw [type] at direct direct' ⊢
      exact Teams.alike_sink overlooks reads reads' agree settings run.delivery n holds direct
        direct'
    · exact agree_handler overlooks agree settings validator run n (fun teams => absurd teams type)
        _ w v holds
  obtain ⟨result, state⟩ := agree_perform step bound each each'
  exact ⟨result.eq, state.journal⟩

/-- The host of the webhooks below. -/
def hookHosts : List Host := [.ipv6 [0, 0, 0, 0, 0, 0, 0, 1]]

/-- Two webhooks on one server. -/
theorem siblings_hook : Teams.hookValidator.Siblings hookHosts "https://[::1]/hook/abc"
    "https://[::1]/hook/xyz" where
  accepts := by decide +kernel
  accepts' := by decide +kernel
  entrance := by
    let webhook (place : String) : Url :=
      { scheme := "https", host := some (.ipv6 [0, 0, 0, 0, 0, 0, 0, 1]),
        path := .segments ["hook", place] }
    exact ⟨webhook "abc", webhook "xyz", _, by decide +kernel, by decide +kernel, rfl, rfl,
      List.mem_cons_self⟩

theorem resembles_hook :
    (MemoryStore.empty.insertSecret (Teams.hookSecret "https://[::1]/hook/abc")).Resembles
      (.webhooks Teams.hookValidator hookHosts)
      (MemoryStore.empty.insertSecret (Teams.hookSecret "https://[::1]/hook/xyz")) := by
  have urls : (Tolerance.webhooks Teams.hookValidator hookHosts).value "TEAMS_WEBHOOK_URL"
      (utf8 "https://[::1]/hook/abc") (utf8 "https://[::1]/hook/xyz") :=
    Tolerance.webhooks_value siblings_hook (by decide +kernel) (by decide +kernel)
  exact (MemoryStore.resembles_empty _).insertSecret ⟨by simp, by simp⟩
    (.some ((Tolerance.data_empty _).insert urls))

/-- A run that notifies Teams. -/
def teamsRun : Run where
  now := ⟨0, 0⟩
  results := []
  cleaner := ⟨.named "nightly", "0 3 * * *", .scan, [Teams.hookNotification]⟩

/-- The dispatcher for it, over a network that plays a script. -/
def teamsDispatcher (replies : List HttpReply) : Dispatcher MemoryStore :=
  inMemory (Sinks.make .memory (.scripted replies {}) {} Teams.hookValidator)

/-- What comes of the run with a webhook. -/
def teamsEnd (replies : List HttpReply) (webhookUrl : String) :
    Except DeliveryError Unit × World MemoryStore :=
  ((teamsDispatcher replies).perform teamsRun).run [] (Teams.hookWorld webhookUrl)

theorem eachDirect_answered {webhookUrl : String}
    (succeeds : ((teamsDispatcher []).outcome teamsRun [] (Teams.hookWorld webhookUrl)
      Teams.hookNotification).1 = .ok ())
    (once : ((teamsDispatcher []).outcome teamsRun [] (Teams.hookWorld webhookUrl)
      Teams.hookNotification).2.traffic.requests.length = 1) :
    (teamsDispatcher []).EachDirect teamsRun [] (Teams.hookWorld webhookUrl) :=
  ⟨fun _ => ⟨once.le, fun _ fails => nomatch succeeds.symm.trans fails⟩, fun _ => trivial⟩

/-- Posts to two webhooks on one server that are answered make one log. -/
theorem perform_hides_webhook_answered :
    (teamsEnd [] "https://[::1]/hook/abc").2.journal =
        (teamsEnd [] "https://[::1]/hook/xyz").2.journal ∧
      (teamsEnd [] "https://[::1]/hook/abc").2.traffic.requests.map (·.url.render) =
        ["https://[::1]/hook/abc"] ∧
      (teamsEnd [] "https://[::1]/hook/xyz").2.traffic.requests.map (·.url.render) =
        ["https://[::1]/hook/xyz"] := by
  have reads := ObjectStore.memory_readsWithin .quiet
  obtain ⟨-, journal⟩ := perform_hides_webhook (.scripted [] {}) hookHosts
    (Network.scripted_overlooks _ _ _) {} Teams.hookValidator reads reads
    (ObjectStore.memory_agree _) teamsRun [] (Teams.hookWorld "https://[::1]/hook/abc")
    (Teams.hookWorld "https://[::1]/hook/xyz") ⟨resembles_hook, rfl, rfl⟩
    (eachDirect_answered (by decide +kernel) (by decide +kernel))
    (eachDirect_answered (by decide +kernel) (by decide +kernel))
  exact ⟨journal, by decide +kernel, by decide +kernel⟩

/-- A post that gets no answer puts the whole address of its webhook into the log: two webhooks on
one server that are both accepted make two different logs. -/
theorem webhook_logged_unanswered :
    (Teams.hookValidator.Siblings hookHosts "https://[::1]/hook/abc" "https://[::1]/hook/xyz" ∧
        (Network.scripted [.closed] {}).Overlooks (.entrances hookHosts)) ∧
      (teamsEnd [.closed] "https://[::1]/hook/abc").2.journal.events ≠
        (teamsEnd [.closed] "https://[::1]/hook/xyz").2.journal.events ∧
      ((teamsEnd [.closed] "https://[::1]/hook/abc").2.journal.events.getLast?.map (·.message)) =
        some ("failed to send notification: teams request failed: " ++
          "error sending request for url (https://[::1]/hook/abc)") := by
  have abc : (teamsEnd [.closed] "https://[::1]/hook/abc").2.journal.events.getLast?.map
      (·.message) = some ("failed to send notification: teams request failed: " ++
        "error sending request for url (https://[::1]/hook/abc)") := by decide +kernel
  have xyz : (teamsEnd [.closed] "https://[::1]/hook/xyz").2.journal.events.getLast?.map
      (·.message) = some ("failed to send notification: teams request failed: " ++
        "error sending request for url (https://[::1]/hook/xyz)") := by decide +kernel
  refine ⟨⟨siblings_hook, Network.scripted_overlooks _ _ _⟩, fun same => ?_, abc⟩
  rw [same, xyz] at abc
  exact absurd abc (by decide)

end Dispatcher

end CleanupCourier
