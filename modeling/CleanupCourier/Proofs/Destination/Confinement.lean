import CleanupCourier.Proofs.Destination.Course

/-!
Where a delivery to Teams goes. A webhook that is not accepted gets no request, and one that is
accepted gets the first. The check is made once, on the address in the Secret; where the requests
after the first go is up to the servers. So a delivery stays where it is allowed to be if and only
if every redirect that is followed leads to such a place.
-/
namespace CleanupCourier

namespace Teams

/-- Holds of a request that goes to the webhook, or to an address that is accepted like one. -/
def Permits (validator : WebhookValidator) (webhook : Url) (request : HttpRequest) : Prop :=
  request.url = webhook.withoutUser.withoutFragment ∨ validator.accepts request.url.render

/-- Holds if every request that was added may go where it went. -/
def Confined {σ : Type} (validator : WebhookValidator) (webhook : Url) (w : World σ)
    (ended : Except DeliveryError Unit × World σ) : Prop :=
  ∀ request ∈ ended.2.traffic.requests.drop w.traffic.requests.length,
    Permits validator webhook request

instance (validator : WebhookValidator) (webhook : Url) (request : HttpRequest) :
    Decidable (Permits validator webhook request) :=
  inferInstanceAs (Decidable (_ ∨ _))

instance {σ : Type} (validator : WebhookValidator) (webhook : Url) (w : World σ)
    (ended : Except DeliveryError Unit × World σ) :
    Decidable (Confined validator webhook w ended) :=
  inferInstanceAs (Decidable (∀ request ∈ _, _))

theorem check_posting {validator : WebhookValidator} {info : TeamsInfo} {d : Delivery}
    (h : (posting validator info d).check = .ok ()) : validator.accepts info.webhookUrl := by
  by_contra refused
  rw [posting, WebhookValidator.validate, if_neg refused] at h
  exact nomatch h

section

variable {σ : Type} {network : Network} {validator : WebhookValidator} {webhook : Url}
  {d : Delivery} {request : HttpRequest} {w : World σ}
  {ended : Except DeliveryError Unit × World σ}

/-- Once the webhook has its request, all depends on the requests that follow. -/
theorem confined_iff (first : (Http.onWire request).url = webhook.withoutUser.withoutFragment)
    (ends : Posting.Ends network request w ended) :
    Confined validator webhook w ended ↔
      ∀ later ∈ Http.trail network Http.maxRedirects
        (w.traffic.requested (Http.onWire request)) request,
        Permits validator webhook (Http.onWire later) := by
  have here : Permits validator webhook (Http.onWire request) := .inl first
  rw [Confined, ends.requests, List.drop_left, List.forall_mem_map, List.forall_mem_cons]
  exact and_iff_right here

end

variable {σ : Type} {store : ObjectStore σ} (reads : store.ReadsWithin .quiet)

include reads

/-- A delivery to Teams whose Secret cannot be read, or has no webhook, fails with that error and
sends nothing. With a webhook that is not accepted it fails for that reason, and sends nothing.
With one that is accepted it sends nothing, or it posts the delivery to the webhook, and then stays
within the webhook and what is accepted like it if and only if each redirect that it follows leads
there. -/
theorem confined_iff_redirects_permitted (network : Network) (settings : Settings)
    (validator : WebhookValidator) (d : Delivery) (n : Notification) (spans : List Span)
    (w : World σ) :
    let sinks := Sinks.make store network settings validator
    let ended := (sinks.teams d n).run spans w
    let known := ((Sink.known store TeamsInfo.ofSecret n).run spans w).1
    (∀ error, known = .error error → ended.1 = .error error ∧ ended.2.traffic = w.traffic) ∧
    ∀ info, known = .ok info →
      (¬ validator.accepts info.webhookUrl →
        ended.1 = .error (.invalidWebhookUrl "URL does not match a known Teams webhook host") ∧
          ended.2.traffic = w.traffic) ∧
      (ended.2.traffic = w.traffic ∨ ∃ webhook request,
        validator.accepts info.webhookUrl ∧ Url.parse? info.webhookUrl = some webhook ∧
        (Http.onWire request).url = webhook.withoutUser.withoutFragment ∧
        WebService.teams.Posted network d request w ended ∧
        (Confined validator webhook w ended ↔
          ∀ later ∈ Http.trail network Http.maxRedirects
            (w.traffic.requested (Http.onWire request)) request,
            Permits validator webhook (Http.onWire later))) := by
  intro sinks ended known
  obtain ⟨u, quiet, ⟨error, read, eq⟩ | ⟨info, read, eq⟩⟩ :=
    Sink.posting_cases reads network TeamsInfo.ofSecret (posting validator) d n spans w
  · -- The Secret gives no webhook.
    have known_eq : known = .error error := congrArg Prod.fst read
    refine ⟨fun error' eq' => ?_, fun info eq' => ?_⟩
    · cases known_eq.symm.trans eq'
      exact ⟨congrArg Prod.fst eq, (congrArg (·.2.traffic) eq).trans quiet⟩
    · exact nomatch known_eq.symm.trans eq'
  · have known_eq : known = .ok info := congrArg Prod.fst read
    refine ⟨fun error' eq' => (nomatch known_eq.symm.trans eq'), fun info' eq' => ?_⟩
    cases known_eq.symm.trans eq'
    rw [show ended = _ from eq]
    refine ⟨fun refused => ?_, ?_⟩
    · have check : (posting validator info d).check = .error (.invalidWebhookUrl
          "URL does not match a known Teams webhook host") := if_neg refused
      rw [Posting.run_send_refused check]
      exact ⟨rfl, quiet⟩
    · obtain ⟨same, -⟩ | ⟨request, check, prepared, reached, ends⟩ :=
        (posting validator info d).send_cases network spans u
      · exact .inl (same.trans quiet)
      · obtain ⟨webhook, parsed, -, -, -, -, made⟩ := Http.prepare_eq_ok prepared
        have first : (Http.onWire request).url = webhook.withoutUser.withoutFragment := by
          rw [made]
          exact Http.withoutUser_target webhook
        have posted := WebService.teams.posted_of_ends (fun _ => received?_body) prepared reached
          quiet ends
        exact .inr ⟨webhook, request, check_posting check, parsed, first, posted,
          confined_iff first posted.ends⟩

omit reads

/-- A webhook that answers with success is all that a delivery goes to. -/
theorem confined_iff_redirects_permitted_answered :
    let network := Network.scripted [] {}
    let d : Delivery := ⟨"\x7b\x7d", "nightly"⟩
    let w := hookWorld "https://[::1]/hook"
    let ended := ((Sinks.make .memory network {} hookValidator).teams d hookNotification).run [] w
    ObjectStore.memory.ReadsWithin .quiet ∧ ended.1 = .ok () ∧
      ∃ webhook, Url.parse? "https://[::1]/hook" = some webhook ∧
        Confined hookValidator webhook w ended := by
  intro network d w ended
  have quiet := ObjectStore.memory_readsWithin .quiet
  obtain ⟨-, allowed⟩ := confined_iff_redirects_permitted quiet network {} hookValidator d
    hookNotification [] w
  have known : ((Sink.known .memory TeamsInfo.ofSecret hookNotification).run [] w).1 =
      .ok ⟨"https://[::1]/hook"⟩ := by decide +kernel
  have sent : ended.2.traffic.requests.length = 1 := by decide +kernel
  refine ⟨quiet, by decide +kernel, ?_⟩
  obtain ⟨-, nothing | ⟨webhook, request, -, parsed, -, -, confined⟩⟩ := allowed _ known
  · exact absurd (congrArg (·.requests.length) (nothing : ended.2.traffic = w.traffic).symm)
      (by rw [sent]; decide)
  · refine ⟨webhook, parsed, confined.mpr ?_⟩
    rw [Http.trail_of_none rfl]
    exact fun _ mem => nomatch mem

/-- A webhook that answers with a redirect has the report posted to an address that is not accepted,
and the delivery succeeds. -/
theorem not_confined_redirected :
    let network := Network.scripted
      [.response { status := 307, location := some "https://[::2]/collect" }] {}
    let d : Delivery := ⟨"\x7b\x7d", "nightly"⟩
    let w := hookWorld "https://[::1]/hook"
    let ended := ((Sinks.make .memory network {} hookValidator).teams d hookNotification).run [] w
    hookValidator.isEnabled ∧ ended.1 = .ok () ∧
      (ended.2.traffic.requests.map fun r =>
        (r.method, r.url.render, hookValidator.accepts r.url.render)) =
          [(.post, "https://[::1]/hook", true), (.post, "https://[::2]/collect", false)] ∧
      (∀ r ∈ ended.2.traffic.requests, received? r = some d) ∧
      ∀ webhook, Url.parse? "https://[::1]/hook" = some webhook →
        ¬ Confined hookValidator webhook w ended := by
  intro network d w ended
  have posts : ∀ r ∈ ended.2.traffic.requests, r.method = .post := by decide +kernel
  have succeeds : ended.1 = .ok () := by decide +kernel
  refine ⟨rfl, succeeds, by decide +kernel, fun r mem => ?_, fun webhook parsed => ?_⟩
  · have posted : (ended.2.traffic = w.traffic ∧ ended.1 ≠ .ok ()) ∨
        ∃ request, WebService.teams.Posted network d request w ended :=
      WebService.posted_of_body (ObjectStore.memory_readsWithin .quiet)
        (fun _ _ => received?_body) network TeamsInfo.ofSecret hookNotification [] w
    obtain ⟨-, fails⟩ | ⟨request, posted⟩ := posted
    · exact absurd succeeds fails
    · obtain ⟨sent, requests, holds⟩ := posted.received?_of_post
      have requests : ended.2.traffic.requests = sent := requests
      exact holds r (requests ▸ mem) (posts r mem)
  have parsed' : Url.parse? "https://[::1]/hook" =
      some ⟨"https", "", none, some (.ipv6 [0, 0, 0, 0, 0, 0, 0, 1]), none, .segments ["hook"],
        none, none⟩ := by decide +kernel
  cases parsed.symm.trans parsed'
  decide +kernel

end Teams

end CleanupCourier
