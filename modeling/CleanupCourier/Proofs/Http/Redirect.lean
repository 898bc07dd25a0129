import CleanupCourier.Proofs.Http.Exchange

/-!
Where an exchange goes. After the first request it goes on as long as the answers lead on: each
further request is the one that the answer to the request before it redirects to. The servers
decide, as far as the limit on redirects lets them; the program has no say in it. An exchange that
succeeds gives the answer to its last request.
-/
namespace CleanupCourier

namespace World

variable {σ : Type}

/-- The world after several requests. -/
def requestedAll (w : World σ) (requests : List HttpRequest) : World σ :=
  { w with traffic := { w.traffic with requests := w.traffic.requests ++ requests } }

theorem requestedAll_cons (w : World σ) (request : HttpRequest) (more : List HttpRequest) :
    w.requestedAll (request :: more) = (w.requested request).requestedAll more := by
  simp only [requestedAll, requested, List.append_assoc, List.singleton_append]

end World

/-- The traffic after one more request. -/
def Traffic.requested (t : Traffic) (request : HttpRequest) : Traffic :=
  { t with requests := t.requests ++ [request] }

namespace Http

variable {σ : Type}

instance (network : Network) (request : HttpRequest) : Decidable (isReached network request) :=
  inferInstanceAs (Decidable (_ = _))

/-- The request that is led to. -/
def Lead.next? : Lead → Option HttpRequest
  | .on next => some next
  | .nowhere | .astray => none

/-- The request that the answer to a request leads on to, if it leads to a web server that is
reached. The traffic is that up to the request which is answered. -/
def next? (network : Network) (t : Traffic) (request : HttpRequest) : Option HttpRequest :=
  match network.reply t with
  | .closed => none
  | .response response =>
    (lead request response).next?.filter fun next =>
      isWebScheme next.url && isReached network next

/-- The requests after one that has just been sent, while some redirects are left. -/
def trail (network : Network) : Nat → Traffic → HttpRequest → List HttpRequest
  | 0, _, _ => []
  | left + 1, t, request =>
    match next? network t request with
    | none => []
    | some next => next :: trail network left (t.requested (onWire next)) next

theorem trail_of_none {network : Network} {t : Traffic} {request : HttpRequest}
    (h : next? network t request = none) (left : Nat) : trail network left t request = [] := by
  cases left with
  | zero => rfl
  | succ left => rw [trail, h]

theorem trail_eq_nil_iff (network : Network) {left : Nat} (allowed : left ≠ 0) (t : Traffic)
    (request : HttpRequest) :
    trail network left t request = [] ↔ next? network t request = none := by
  obtain ⟨fewer, rfl⟩ := Nat.exists_eq_succ_of_ne_zero allowed
  rw [trail]
  cases next? network t request <;> simp

theorem length_trail_le (network : Network) (left : Nat) (t : Traffic) (request : HttpRequest) :
    (trail network left t request).length ≤ left := by
  induction left generalizing t request with
  | zero => exact Nat.le_refl 0
  | succ left ih =>
    rw [trail]
    cases next? network t request with
    | none => exact Nat.zero_le _
    | some next => exact Nat.succ_le_succ (ih _ next)

theorem next?_eq_none_of_closed {network : Network} {t : Traffic}
    (h : network.reply t = .closed) (request : HttpRequest) : next? network t request = none := by
  rw [next?, h]

theorem next?_of_response {network : Network} {t : Traffic} {response : HttpResponse}
    (h : network.reply t = .response response) (request : HttpRequest) :
    next? network t request = (lead request response).next?.filter fun next =>
      isWebScheme next.url && isReached network next := by
  rw [next?, h]

/-- A redirect repeats the request, or asks for the new address without a body. -/
theorem repeated?_eq_some {status : Nat} {request next : HttpRequest}
    (h : repeated? status request = some next) :
    next = request ∨ next = { request with method := .get, body := .empty } := by
  unfold repeated? at h
  split at h
  · exact .inr (Option.some.inj h).symm
  · split at h
    · split at h
      · exact nomatch h
      · exact .inl (Option.some.inj h).symm
    · exact nomatch h

/-- Holds of a later request that has the body of an earlier one, posted again, or none. -/
def Repeats (request next : HttpRequest) : Prop :=
  (next.method = request.method ∧ next.body = request.body) ∨
    (next.method = .get ∧ next.body = .empty)

theorem Repeats.trans {a b c : HttpRequest} (h : Repeats a b) (h' : Repeats b c) :
    Repeats a c := by
  obtain ⟨method, body⟩ | got := h'
  · rw [Repeats, method, body]
    exact h
  · exact .inr got

/-- What a response leads on to is the request again but for its address and its log-in, which it
keeps or loses. -/
theorem lead_eq_on {request next : HttpRequest} {response : HttpResponse}
    (h : lead request response = .on next) :
    ∃ again, repeated? response.status request = some again ∧ ∃ url,
      next = { again with
        url, authorization := if isSameServer request.url url then again.authorization else [] } := by
  unfold lead at h
  split at h
  · rename_i again target repeated _
    split at h
    · exact nomatch h
    · cases h
      exact ⟨again, repeated, _, rfl⟩
  · exact nomatch h

theorem repeats_of_lead {request next : HttpRequest} {response : HttpResponse}
    (h : lead request response = .on next) : Repeats request next := by
  obtain ⟨again, repeated, url, rfl⟩ := lead_eq_on h
  obtain rfl | rfl := repeated?_eq_some repeated
  · exact .inl ⟨rfl, rfl⟩
  · exact .inr ⟨rfl, rfl⟩

theorem Lead.eq_on_of_next? {l : Lead} {next : HttpRequest} (h : l.next? = some next) :
    l = .on next := by
  cases l with
  | nowhere | astray => exact nomatch h
  | on other => exact congrArg Lead.on (Option.some.inj h)

theorem lead_of_next? {network : Network} {t : Traffic} {request next : HttpRequest}
    (h : next? network t request = some next) :
    ∃ response, lead request response = .on next := by
  unfold next? at h
  split at h
  · exact nomatch h
  · exact ⟨_, Lead.eq_on_of_next? (Option.eq_some_of_filter_eq_some h)⟩

theorem repeats_of_next? {network : Network} {t : Traffic} {request next : HttpRequest}
    (h : next? network t request = some next) : Repeats request next := by
  obtain ⟨response, led⟩ := lead_of_next? h
  exact repeats_of_lead led

/-- What is handed on from each request to the one it leads to holds of all that are led to. By
induction on the redirects that are left. -/
theorem forall_mem_trail {P : HttpRequest → Prop} {network : Network}
    (step : ∀ {t request next}, next? network t request = some next → P request → P next)
    {left : Nat} {t : Traffic} {request later : HttpRequest} (first : P request)
    (h : later ∈ trail network left t request) : P later := by
  induction left generalizing t request with
  | zero => exact nomatch h
  | succ left ih =>
    rw [trail] at h
    cases led : next? network t request with
    | none =>
      rw [led] at h
      exact nomatch h
    | some next =>
      rw [led] at h
      obtain rfl | h := List.mem_cons.mp h
      · exact step led first
      · exact ih (step led first) h

theorem repeats_of_mem_trail {network : Network} {left : Nat} {t : Traffic}
    {request later : HttpRequest} (h : later ∈ trail network left t request) :
    Repeats request later :=
  forall_mem_trail (fun led earlier => earlier.trans (repeats_of_next? led)) (.inl ⟨rfl, rfl⟩) h

/-- How an exchange ends that has sent a request: with the requests that the answers led to, and
with success only if it gives the answer to the last of them. -/
structure Ends (network : Network) (left : Nat) (request : HttpRequest) (w : World σ)
    (ended : Except TransportFault HttpResponse × World σ) : Prop where
  world : ended.2 = w.requestedAll
    ((request :: trail network left (w.traffic.requested (onWire request)) request).map onWire)
  answer (response : HttpResponse) : ended.1 = .ok response →
    network.reply ended.2.traffic = .response response

/-- An exchange that is led on ends as the rest of it does. -/
theorem Ends.cons {network : Network} {left : Nat} {request next : HttpRequest} {w : World σ}
    {ended : Except TransportFault HttpResponse × World σ}
    (led : next? network (w.traffic.requested (onWire request)) request = some next)
    (h : Ends network left next (w.requested (onWire request)) ended) :
    Ends network (left + 1) request w ended where
  world := by
    rw [h.world, List.map_cons, List.map_cons, World.requestedAll_cons w, trail, led]
    rfl
  answer := h.answer

/-- An exchange that is not led on ends with its only request. -/
theorem Ends.single {network : Network} {left : Nat} {request : HttpRequest} {w : World σ}
    {result : Except TransportFault HttpResponse}
    (alone : trail network left (w.traffic.requested (onWire request)) request = [])
    (answer : ∀ response, result = .ok response →
      network.reply (w.requested (onWire request)).traffic = .response response) :
    Ends network left request w (result, w.requested (onWire request)) where
  world := by
    rw [alone]
    rfl
  answer := answer

/-- What comes of a request whose machine is reached, by the reply to it: it ends there, with the
response or with a fault, or it goes on with the request that the response leads on to. -/
inductive Turn (network : Network) (origin : Url) (left : Nat) (request : HttpRequest)
    (spans : List Span) (w : World σ) : Except TransportFault HttpResponse × World σ → Prop
  | closed (replied : network.reply (w.requested (onWire request)).traffic = .closed)
    (fault : TransportFault) :
    Turn network origin left request spans w (.error fault, w.requested (onWire request))
  | stays {response : HttpResponse}
    (replied : network.reply (w.requested (onWire request)).traffic = .response response)
    (nowhere : lead request response = .nowhere) :
    Turn network origin left request spans w (.ok response, w.requested (onWire request))
  | misled {response : HttpResponse}
    (replied : network.reply (w.requested (onWire request)).traffic = .response response)
    (leads : lead request response ≠ .nowhere)
    (alone : trail network left (w.traffic.requested (onWire request)) request = [])
    (fault : TransportFault) :
    Turn network origin left request spans w (.error fault, w.requested (onWire request))
  | led {fewer : Nat} (some : left = fewer + 1) {next : HttpRequest}
    (led : next? network (w.traffic.requested (onWire request)) request = .some next)
    (reached : isReached network next) :
    Turn network origin left request spans w
      ((follow network origin fewer next).run spans (w.requested (onWire request)))

theorem turn_follow {network : Network} {request : HttpRequest}
    (reached : isReached network request) (origin : Url) (left : Nat) (spans : List Span)
    (w : World σ) :
    Turn network origin left request spans w
      ((follow network origin left request).run spans w) := by
  rw [follow_eq, Attempt.run_bind, run_transmit_reached reached]
  cases replied : network.reply (w.requested (onWire request)).traffic with
  | closed => exact .closed replied _
  | response response =>
    have led := next?_of_response replied request
    simp only [received, proceed]
    cases leads : lead request response with
    | nowhere => exact .stays replied leads
    | astray =>
      rw [leads] at led
      exact .misled replied (by rw [leads]; nofun) (trail_of_none led _) _
    | on next =>
      have away : lead request response ≠ .nowhere := by rw [leads]; nofun
      rw [leads, Lead.next?, Option.filter_some] at led
      cases left with
      | zero => exact .misled replied away rfl _
      | succ fewer =>
        dsimp only
        by_cases web : isWebScheme next.url
        · rw [if_pos web]
          by_cases there : isReached network next
          · rw [web, decide_eq_true there] at led
            exact .led rfl led there
          · -- The machine that is led to takes no connection, so nothing more goes out.
            rw [web, decide_eq_false there] at led
            rw [follow_eq, Attempt.run_bind, run_transmit_unreached there]
            exact .misled replied away (trail_of_none led _) _
        · rw [if_neg web]
          rw [Bool.eq_false_iff.mpr web] at led
          exact .misled replied away (trail_of_none led _) _

/-- By induction on the redirects that are left. -/
theorem ends_follow {network : Network} {request : HttpRequest}
    (reached : isReached network request) (origin : Url) (left : Nat) (spans : List Span)
    (w : World σ) :
    Ends network left request w ((follow network origin left request).run spans w) := by
  induction left using Nat.strongRecOn generalizing request w with
  | _ left ih =>
    have turn := turn_follow reached origin left spans w
    generalize (follow network origin left request).run spans w = ended at turn
    cases turn with
    | closed replied fault =>
      exact .single (trail_of_none (next?_eq_none_of_closed replied request) left)
        fun _ eq => nomatch eq
    | stays replied nowhere =>
      have led := next?_of_response replied request
      rw [nowhere] at led
      exact .single (trail_of_none led left) fun _ eq =>
        replied.trans (congrArg _ (Except.ok.inj eq))
    | misled replied leads alone fault => exact .single alone fun _ eq => nomatch eq
    | led some led there =>
      subst some
      exact .cons led (ih _ (Nat.lt_succ_self _) there (w.requested (onWire request)))

/-- An exchange ends before anything is sent and without success, or it sends a request and ends as
the answers to it have it. -/
theorem exchange_cases (network : Network) (call : HttpCall) (spans : List Span) (w : World σ) :
    (∃ fault, (exchange network call).run spans w = (.error fault, w)) ∨
      ∃ request, prepare call = .ok request ∧ isReached network request ∧
        Ends network maxRedirects request w ((exchange network call).run spans w) := by
  rw [exchange, Attempt.run_bind, Attempt.run_ofExcept]
  cases prepared : prepare call with
  | error fault => exact .inl ⟨fault, rfl⟩
  | ok request =>
    by_cases reached : isReached network request
    · exact .inr ⟨request, rfl, reached, ends_follow reached request.url maxRedirects spans w⟩
    · refine .inl ⟨.sending request.url.render, ?_⟩
      dsimp only
      rw [follow_eq, Attempt.run_bind, run_transmit_unreached reached]

/-- An exchange with a response that was over with one request: the response is the answer to the
request that the call asks for. -/
theorem exchange_direct {network : Network} {call : HttpCall} {spans : List Span} {w v : World σ}
    {response : HttpResponse} (h : (exchange network call).run spans w = (.ok response, v))
    (once : v.traffic.requests.length ≤ w.traffic.requests.length + 1) :
    ∃ request, prepare call = .ok request ∧ v = w.requested (onWire request) ∧
      network.reply v.traffic = .response response := by
  obtain ⟨fault, failed⟩ | ⟨request, prepared, -, ends⟩ := exchange_cases network call spans w
  · exact nomatch failed.symm.trans h
  · have world := ends.world
    have answer := ends.answer response
    rw [h] at world answer
    dsimp only at world answer
    refine ⟨request, prepared, ?_, answer rfl⟩
    rw [world] at once ⊢
    rw [World.requestedAll, List.length_append, List.length_map, List.length_cons] at once
    have alone : trail network maxRedirects (w.traffic.requested (onWire request)) request = [] :=
      List.eq_nil_of_length_eq_zero (by omega)
    rw [alone]
    rfl

/-- Whether a user in the address logs in or not, no request names him. -/
theorem withoutUser_target (address : Url) :
    (target address).withoutUser.withoutFragment = address.withoutUser.withoutFragment := by
  unfold target
  split <;> rfl

end Http

end CleanupCourier
