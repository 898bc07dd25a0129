import CleanupCourier.Proofs.Http.Redirect

/-!
The final response of an exchange: the reply to the last of its requests, if that leads nowhere
else. It is a matter of the network and of what was sent before. An exchange gives this response
whatever its status and its body are, and fails just if there is none.
-/
namespace CleanupCourier

/-- The traffic after several requests. -/
def Traffic.requestedAll (t : Traffic) (requests : List HttpRequest) : Traffic :=
  { t with requests := t.requests ++ requests }

theorem Traffic.requestedAll_nil (t : Traffic) : t.requestedAll [] = t := by
  simp only [requestedAll, List.append_nil]

theorem Traffic.requestedAll_cons (t : Traffic) (request : HttpRequest)
    (more : List HttpRequest) :
    t.requestedAll (request :: more) = (t.requested request).requestedAll more := by
  simp only [requestedAll, requested, List.append_assoc, List.singleton_append]

namespace Http

variable {σ : Type} {network : Network} {left : Nat} {t : Traffic} {request : HttpRequest}

/-- The response in a reply to a request, unless it leads elsewhere. -/
def settled? (request : HttpRequest) : HttpReply → Option HttpResponse
  | .closed => none
  | .response response =>
    match lead request response with
    | .nowhere => some response
    | .astray | .on _ => none

theorem settled?_of_led {response : HttpResponse} (h : lead request response ≠ .nowhere) :
    settled? request (.response response) = none := by
  unfold settled?
  dsimp only
  split
  · rename_i nowhere
    exact absurd nowhere h
  · rfl
  · rfl

/-- The final response after a request that has just been sent, while some redirects are left. -/
def finalTo? (network : Network) (left : Nat) (t : Traffic) (request : HttpRequest) :
    Option HttpResponse :=
  let more := trail network left t request
  settled? ((request :: more).getLast (List.cons_ne_nil request more))
    (network.reply (t.requestedAll (more.map onWire)))

/-- The final response to a call, if its request can be made and gets one. -/
def finalResponse? (network : Network) (call : HttpCall) (t : Traffic) : Option HttpResponse :=
  match prepare call with
  | .error _ => none
  | .ok request =>
    if isReached network request then
      finalTo? network maxRedirects (t.requested (onWire request)) request
    else none

theorem finalTo?_of_alone (alone : trail network left t request = []) :
    finalTo? network left t request = settled? request (network.reply t) := by
  simp only [finalTo?, alone, List.map_nil, Traffic.requestedAll_nil, List.getLast_singleton]

theorem finalTo?_of_led {next : HttpRequest} (led : next? network t request = some next) :
    finalTo? network (left + 1) t request =
      finalTo? network left (t.requested (onWire next)) next := by
  have more : trail network (left + 1) t request =
      next :: trail network left (t.requested (onWire next)) next := by
    rw [trail, led]
  simp only [finalTo?, more, List.map_cons, Traffic.requestedAll_cons]
  rw [List.getLast_cons (List.cons_ne_nil _ _)]

/-- Holds of an exchange that gives the final response, or fails as there is none. -/
inductive Gives : Option HttpResponse → Except TransportFault HttpResponse → Prop
  | response (response : HttpResponse) : Gives (some response) (.ok response)
  | fault (fault : TransportFault) : Gives none (.error fault)

/-- By induction on the redirects that are left. -/
theorem gives_follow (reached : isReached network request) (origin : Url) (left : Nat)
    (spans : List Span) (w : World σ) :
    Gives (finalTo? network left (w.traffic.requested (onWire request)) request)
      ((follow network origin left request).run spans w).1 := by
  induction left using Nat.strongRecOn generalizing request w with
  | _ left ih =>
    have turn := turn_follow reached origin left spans w
    generalize (follow network origin left request).run spans w = ended at turn
    change Gives (finalTo? network left (w.requested (onWire request)).traffic request) _
    cases turn with
    | closed replied fault =>
      have alone := trail_of_none (next?_eq_none_of_closed replied request) left
      rw [finalTo?_of_alone alone, replied]
      exact .fault fault
    | stays replied nowhere =>
      have led := next?_of_response replied request
      rw [nowhere] at led
      rw [finalTo?_of_alone (trail_of_none led left), replied, settled?, nowhere]
      exact .response _
    | misled replied leads alone fault =>
      have alone : trail network left (w.requested (onWire request)).traffic request = [] := alone
      rw [finalTo?_of_alone alone, replied, settled?_of_led leads]
      exact .fault fault
    | led some led there =>
      subst some
      have led : next? network (w.requested (onWire request)).traffic request = _ := led
      rw [finalTo?_of_led led]
      exact ih _ (Nat.lt_succ_self _) there (w.requested (onWire request))

theorem gives_exchange (network : Network) (call : HttpCall) (spans : List Span) (w : World σ) :
    Gives (finalResponse? network call w.traffic) ((exchange network call).run spans w).1 := by
  rw [exchange, Attempt.run_bind, Attempt.run_ofExcept, finalResponse?]
  cases prepare call with
  | error fault => exact .fault fault
  | ok request =>
    dsimp only
    by_cases reached : isReached network request
    · rw [if_pos reached]
      exact gives_follow reached request.url maxRedirects spans w
    · rw [if_neg reached, follow_eq, Attempt.run_bind, run_transmit_unreached reached]
      exact .fault _

end Http

end CleanupCourier
