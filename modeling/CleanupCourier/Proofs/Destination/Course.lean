import CleanupCourier.Network.Scripted
import CleanupCourier.Proofs.Destination.Carrier
import CleanupCourier.Proofs.Destination.Effects
import CleanupCourier.Proofs.Http.Redirect

/-!
The course of a delivery to a web service. It fails before anything is sent, or it posts one request
and then sends what the answers redirect to. So it is over with one request, and its success is an
answer to that request, as long as the first answer leads nowhere else; a redirect that is followed
takes the place of both, since what is judged is the answer to the last request.
-/
namespace CleanupCourier

variable {σ : Type}

namespace Posting

/-- What is taken down before a posting is checked. -/
def announcement (p : Posting) (spans : List Span) : Journal :=
  { events := [⟨.info, p.target, spans ++ [p.span], s!"send {p.destination} message"⟩] }

/-- What is taken down about a posting that succeeds. -/
def closing (p : Posting) (spans : List Span) (line : String) : Journal :=
  { events := [⟨.debug, p.target, spans ++ [p.span], line⟩] }

/-- What a posting comes to once its exchange is over. -/
def conclude (p : Posting) (spans : List Span) :
    Except TransportFault HttpResponse × World σ → Except DeliveryError Unit × World σ
  | (.error fault, w) => (.error (.transport p.destination fault), w)
  | (.ok response, w) =>
    match p.outcome response with
    | .error error => (.error error, w)
    | .ok line => (.ok (), w.noting (p.closing spans line))

theorem traffic_conclude (p : Posting) (spans : List Span)
    (exchanged : Except TransportFault HttpResponse × World σ) :
    (p.conclude spans exchanged).2.traffic = exchanged.2.traffic := by
  obtain ⟨fault | response, w⟩ := exchanged
  · rfl
  · rw [conclude]
    cases p.outcome response <;> rfl

/-- Only a response of success makes a posting succeed. -/
theorem isSuccess_of_conclude {p : Posting} {spans : List Span}
    {exchanged : Except TransportFault HttpResponse × World σ}
    (h : (p.conclude spans exchanged).1 = .ok ()) :
    ∃ response, exchanged.1 = .ok response ∧ response.isSuccess := by
  obtain ⟨fault | response, w⟩ := exchanged
  · exact nomatch h
  · refine ⟨response, rfl, ?_⟩
    by_contra fails
    rw [conclude, outcome, if_neg fails] at h
    exact nomatch h

theorem run_send_refused {p : Posting} {error : DeliveryError} (h : p.check = .error error)
    (network : Network) (spans : List Span) (w : World σ) :
    (p.send network).run spans w = (.error error, w.noting (p.announcement spans)) := by
  simp only [send, Attempt.run_within, Attempt.run_bind, Attempt.run_log_noting, h,
    Attempt.run_ofExcept]
  rfl

theorem run_send_checked {p : Posting} (h : p.check = .ok ()) (network : Network)
    (spans : List Span) (w : World σ) :
    (p.send network).run spans w =
      p.conclude spans ((Http.exchange network p.call).run (spans ++ [p.span])
        (w.noting (p.announcement spans))) := by
  simp only [send, Attempt.run_within, Attempt.run_bind, Attempt.run_log_noting, h,
    Attempt.run_ofExcept, Attempt.run_mapError, announcement]
  generalize (Http.exchange network p.call).run (spans ++ [p.span]) _ = exchanged
  obtain ⟨fault | response, v⟩ := exchanged
  · rfl
  · simp only [Except.mapError, conclude]
    cases p.outcome response <;> rfl

/-- How a posting ends that has sent a request: it has sent what the answers led to as well, and
succeeds only by a response of success to the last request. -/
structure Ends (network : Network) (request : HttpRequest) (w : World σ)
    (ended : Except DeliveryError Unit × World σ) : Prop where
  requests : ended.2.traffic.requests = w.traffic.requests ++
    (request :: Http.trail network Http.maxRedirects (w.traffic.requested (Http.onWire request))
      request).map Http.onWire
  answer : ended.1 = .ok () →
    ∃ response, network.reply ended.2.traffic = .response response ∧ response.isSuccess

theorem send_cases (p : Posting) (network : Network) (spans : List Span) (w : World σ) :
    let ended := (p.send network).run spans w
    (ended.2.traffic = w.traffic ∧ ended.1 ≠ .ok ()) ∨
      ∃ request, p.check = .ok () ∧ Http.prepare p.call = .ok request ∧
        Http.isReached network request ∧ Ends network request w ended := by
  intro ended
  cases check : p.check with
  | error error =>
    left
    rw [show ended = _ from run_send_refused check network spans w]
    exact ⟨rfl, nofun⟩
  | ok checked =>
    have eq : ended = _ := run_send_checked check network spans w
    obtain ⟨fault, failed⟩ | ⟨request, prepared, reached, ends⟩ := Http.exchange_cases network
      p.call (spans ++ [p.span]) (w.noting (p.announcement spans))
    · left
      rw [eq, failed]
      exact ⟨rfl, nofun⟩
    · refine .inr ⟨request, rfl, prepared, reached, ?_, fun succeeds => ?_⟩
      · rw [eq, traffic_conclude, ends.world]
        rfl
      · rw [eq] at succeeds ⊢
        obtain ⟨response, exchanged, success⟩ := isSuccess_of_conclude succeeds
        exact ⟨response, (traffic_conclude p spans _).symm ▸ ends.answer response exchanged,
          success⟩

end Posting

namespace Sink

/-- What a sink for a web service knows of its destination from the Secret of a notification. -/
def known {ι : Type} (store : ObjectStore σ) (info : SecretData → Except DeliveryError ι)
    (n : Notification) : Attempt σ DeliveryError ι := do
  let data ← n.credentials store
  Attempt.ofExcept (info data)

theorem posting_eq {ι : Type} (store : ObjectStore σ) (network : Network)
    (info : SecretData → Except DeliveryError ι) (p : ι → Delivery → Posting) (d : Delivery)
    (n : Notification) :
    posting store network info p d n = known store info n >>= fun i => (p i d).send network := by
  rw [known, posting, bind_assoc]

theorem respects_known {ι : Type} {frame : Frame σ} {store : ObjectStore σ}
    (reads : store.ReadsWithin frame) (info : SecretData → Except DeliveryError ι)
    (n : Notification) : (known store info n).Respects frame :=
  Attempt.respects_bind (n.respects_credentials reads) fun _ => Attempt.respects_ofExcept _

/-- A sink ends as the reading of its Secret does if that fails, and as its posting else. -/
theorem posting_cases {ι : Type} {store : ObjectStore σ} (reads : store.ReadsWithin .quiet)
    (network : Network) (info : SecretData → Except DeliveryError ι) (p : ι → Delivery → Posting)
    (d : Delivery) (n : Notification) (spans : List Span) (w : World σ) :
    ∃ u : World σ, u.traffic = w.traffic ∧
      ((∃ error, (known store info n).run spans w = (.error error, u) ∧
          (posting store network info p d n).run spans w = (.error error, u)) ∨
        ∃ i, (known store info n).run spans w = (.ok i, u) ∧
          (posting store network info p d n).run spans w = ((p i d).send network).run spans u) := by
  have quiet := respects_known reads info n spans w
  rw [posting_eq, Attempt.run_bind]
  generalize (known store info n).run spans w = read at quiet ⊢
  obtain ⟨error | i, u⟩ := read
  · exact ⟨u, quiet, .inl ⟨error, rfl, rfl⟩⟩
  · exact ⟨u, quiet, .inr ⟨i, rfl, rfl⟩⟩

end Sink

/-- The web services that a report can be posted to. -/
inductive WebService where
  | slack
  | teams
  | discord
  | webex
deriving DecidableEq, Repr

namespace WebService

def sink (sinks : Sinks σ) : WebService → Sink σ
  | .slack => sinks.slack
  | .teams => sinks.teams
  | .discord => sinks.discord
  | .webex => sinks.webex

/-- What a service finds in a request. -/
def received? : WebService → HttpRequest → Option Delivery
  | .slack => Slack.received?
  | .teams => Teams.received?
  | .discord => Discord.received?
  | .webex => Webex.received?

/-- Holds of a delivery that is over with one request: no more than one was sent, and the delivery
succeeded only if this was a post that holds it and was answered with success. -/
structure SentOnce (service : WebService) (network : Network) (d : Delivery) (w : World σ)
    (ended : Except DeliveryError Unit × World σ) : Prop where
  atMostOne : ended.2.traffic.requests.length ≤ w.traffic.requests.length + 1
  answered : ended.1 = .ok () → ∃ request response,
    ended.2.traffic.requests = w.traffic.requests ++ [request] ∧ request.method = .post ∧
    service.received? request = some d ∧
    network.reply ended.2.traffic = .response response ∧ response.isSuccess

/-- How a delivery ends that has posted a request. -/
structure Posted (service : WebService) (network : Network) (d : Delivery) (request : HttpRequest)
    (w : World σ) (ended : Except DeliveryError Unit × World σ) : Prop where
  method : request.method = .post
  holds : service.received? (Http.onWire request) = some d
  reached : Http.isReached network request
  ends : Posting.Ends network request w ended

/-- What a service finds in a request it finds in every request with the same body. -/
theorem received?_congr (service : WebService) {r r' : HttpRequest} (h : r.body = r'.body) :
    service.received? r = service.received? r' := by
  cases service with
  | slack => simp only [received?, Slack.received?, h]
  | teams => simp only [received?, Teams.received?, h]
  | discord => simp only [received?, Discord.received?, h]
  | webex => simp only [received?, Webex.received?, h]

/-- Every post of a delivery holds it, to whatever server it goes. -/
theorem Posted.received?_of_post {service : WebService} {network : Network} {d : Delivery}
    {request : HttpRequest} {w : World σ} {ended : Except DeliveryError Unit × World σ}
    (h : Posted service network d request w ended) :
    ∃ sent, ended.2.traffic.requests = w.traffic.requests ++ sent ∧
      ∀ r ∈ sent, r.method = .post → service.received? r = some d := by
  refine ⟨_, h.ends.requests, ?_⟩
  rw [List.forall_mem_map, List.forall_mem_cons]
  refine ⟨fun _ => h.holds, fun later mem post => ?_⟩
  obtain ⟨-, body⟩ | ⟨get, -⟩ := Http.repeats_of_mem_trail mem
  · rw [← h.holds]
    exact service.received?_congr body
  · exact absurd (post.symm.trans get) (by decide)

theorem Posted.sentOnce_iff {service : WebService} {network : Network} {d : Delivery}
    {request : HttpRequest} {w : World σ} {ended : Except DeliveryError Unit × World σ}
    (h : Posted service network d request w ended) :
    SentOnce service network d w ended ↔
      Http.next? network (w.traffic.requested (Http.onWire request)) request = none := by
  have some : Http.maxRedirects ≠ 0 := by decide
  rw [← Http.trail_eq_nil_iff network some]
  have requests := h.ends.requests
  constructor
  · intro once
    have length := once.atMostOne
    rw [requests, List.length_append, List.length_map, List.length_cons] at length
    exact List.eq_nil_of_length_eq_zero (by omega)
  · intro alone
    rw [alone] at requests
    refine ⟨by simp [requests], fun succeeds => ?_⟩
    obtain ⟨response, replied, success⟩ := h.ends.answer succeeds
    exact ⟨Http.onWire request, response, requests, h.method, h.holds, replied, success⟩

/-- A request that a posting has sent holds a delivery if its service can read the body. -/
theorem posted_of_ends {service : WebService} {network : Network} {d : Delivery} {p : Posting}
    {request : HttpRequest} {u w : World σ} {ended : Except DeliveryError Unit × World σ}
    (body : ∀ r : HttpRequest, r.body = p.call.body → service.received? r = some d)
    (prepared : Http.prepare p.call = .ok request) (reached : Http.isReached network request)
    (same : u.traffic = w.traffic) (ends : Posting.Ends network request u ended) :
    Posted service network d request w ended where
  method := by
    obtain ⟨address, -, -, -, -, -, rfl⟩ := Http.prepare_eq_ok prepared
    rfl
  holds := body _ (Http.body_of_prepare prepared)
  reached := reached
  ends := ⟨same ▸ ends.requests, ends.answer⟩

variable {store : ObjectStore σ} (reads : store.ReadsWithin .quiet)

include reads

/-- A sink whose posting has a body that its service can read sends nothing, or posts a delivery. -/
theorem posted_of_body {ι : Type} {service : WebService} {d : Delivery}
    {p : ι → Delivery → Posting}
    (body : ∀ i (request : HttpRequest),
      request.body = (p i d).call.body → service.received? request = some d)
    (network : Network) (info : SecretData → Except DeliveryError ι) (n : Notification)
    (spans : List Span) (w : World σ) :
    let ended := (Sink.posting store network info p d n).run spans w
    (ended.2.traffic = w.traffic ∧ ended.1 ≠ .ok ()) ∨
      ∃ request, Posted service network d request w ended := by
  intro ended
  obtain ⟨u, quiet, ⟨error, -, eq⟩ | ⟨i, -, eq⟩⟩ :=
    Sink.posting_cases reads network info p d n spans w
  · exact .inl (by simpa [ended, eq] using quiet)
  · rw [show ended = _ from eq]
    obtain ⟨same, fails⟩ | ⟨request, -, prepared, reached, ends⟩ :=
      (p i d).send_cases network spans u
    · exact .inl ⟨same.trans quiet, fails⟩
    · exact .inr ⟨request, posted_of_ends (body i) prepared reached quiet ends⟩

/-- A delivery to a web service sends nothing and fails, or it posts a request that holds it, once,
and then sends as many as ten requests more: those that the answers redirect to, each with the body
of the post or with none. It is over with one request, and successful only by the answer to that
post, if and only if the answer to the post does not lead on to another request. -/
theorem sentOnce_iff_not_redirected (network : Network) (settings : Settings)
    (validator : WebhookValidator) (service : WebService) (d : Delivery) (n : Notification)
    (spans : List Span) (w : World σ) :
    let sinks := Sinks.make store network settings validator
    let ended := (service.sink sinks d n).run spans w
    (ended.2.traffic = w.traffic ∧ ended.1 ≠ .ok ()) ∨
      ∃ request, Posted service network d request w ended ∧
        let posted := w.traffic.requested (Http.onWire request)
        let more := Http.trail network Http.maxRedirects posted request
        (more.length ≤ 10 ∧ ∀ later ∈ more, Http.Repeats request later) ∧
        (SentOnce service network d w ended ↔ Http.next? network posted request = none) := by
  intro sinks ended
  have posts : (ended.2.traffic = w.traffic ∧ ended.1 ≠ .ok ()) ∨
      ∃ request, Posted service network d request w ended := by
    cases service with
    | slack => exact posted_of_body reads (fun _ _ => Slack.received?_body) _ _ n spans w
    | teams => exact posted_of_body reads (fun _ _ => Teams.received?_body) _ _ n spans w
    | discord => exact posted_of_body reads (fun _ _ => Discord.received?_body) _ _ n spans w
    | webex => exact posted_of_body reads (fun _ _ => Webex.received?_body) _ _ n spans w
  obtain nothing | ⟨request, posted⟩ := posts
  · exact .inl nothing
  · refine .inr ⟨request, posted, ⟨?_, fun later mem => ?_⟩, posted.sentOnce_iff⟩
    · exact Http.length_trail_le network Http.maxRedirects _ request
    · exact Http.repeats_of_mem_trail mem

end WebService

namespace Teams

/-- A notification whose Secret is `ops/teams`. -/
def hookNotification : Notification :=
  ⟨"team", .teams, some ⟨"Secret", "ops", "teams", "v1"⟩⟩

/-- This Secret, for a webhook. -/
def hookSecret (webhookUrl : String) : Secret where
  metadata := { namespaceName := some "ops", name := some "teams" }
  data := some (KeyMap.empty.insert "TEAMS_WEBHOOK_URL" (utf8 webhookUrl))

@[simp]
theorem namespaceName_hookSecret (webhookUrl : String) :
    (hookSecret webhookUrl).namespaceName = "ops" := rfl

@[simp]
theorem anyName_hookSecret (webhookUrl : String) : (hookSecret webhookUrl).anyName = "teams" := rfl

/-- A world with the Secret and nothing else. -/
def hookWorld (webhookUrl : String) : World MemoryStore where
  objects := MemoryStore.empty.insertSecret (hookSecret webhookUrl)

/-- Allows webhooks whose address has `hook` in it. -/
def hookValidator : WebhookValidator where
  extra := [⟨"hook", .ofText "hook"⟩]

end Teams

namespace WebService

/-- A post that is answered with success is the only request of its delivery. -/
theorem sentOnce_iff_not_redirected_answered :
    let network := Network.scripted [] {}
    let d : Delivery := ⟨"\x7b\x7d", "nightly"⟩
    let w := Teams.hookWorld "https://[::1]/hook"
    let ended := ((Sinks.make .memory network {} Teams.hookValidator).teams d
      Teams.hookNotification).run [] w
    ObjectStore.memory.ReadsWithin .quiet ∧ ended.1 = .ok () ∧
      SentOnce .teams network d w ended := by
  intro network d w ended
  have reads := ObjectStore.memory_readsWithin .quiet
  have succeeds : ended.1 = .ok () := by decide +kernel
  refine ⟨reads, succeeds, ?_⟩
  obtain ⟨-, fails⟩ | ⟨request, -, -, once⟩ := sentOnce_iff_not_redirected reads network {}
    Teams.hookValidator .teams d Teams.hookNotification [] w
  · exact absurd succeeds fails
  · exact once.mpr rfl

/-- A post that is answered with a redirect is given up for another request without the report, and
the answer to that one makes the delivery a success. -/
theorem not_sentOnce_redirected :
    let network := Network.scripted
      [.response { status := 302, location := some "https://[::2]/out" }] {}
    let d : Delivery := ⟨"\x7b\x7d", "nightly"⟩
    let w := Teams.hookWorld "https://[::1]/hook"
    let ended := ((Sinks.make .memory network {} Teams.hookValidator).teams d
      Teams.hookNotification).run [] w
    ended.1 = .ok () ∧ ended.2.traffic.requests.map (fun r => (r.method, r.url.render)) =
        [(.post, "https://[::1]/hook"), (.get, "https://[::2]/out")] ∧
      ¬ SentOnce .teams network d w ended := by
  intro network d w ended
  have two : ended.2.traffic.requests.length = 2 := by decide +kernel
  refine ⟨by decide +kernel, by decide +kernel, fun once => ?_⟩
  have atMostOne : ended.2.traffic.requests.length ≤ 0 + 1 := once.atMostOne
  omega

end WebService

end CleanupCourier
