import CleanupCourier.Http.Client
import CleanupCourier.Proofs.Work.Frame

/-!
What an exchange with a web server sends. If it sends anything, the first request is the one that
the call asks for; whatever the servers answer, later requests only come after it.
-/
namespace CleanupCourier

namespace Http

variable {σ : Type} {frame : Frame σ}

/-- Whether the machine that a request goes to takes connections. -/
def isReached (network : Network) (request : HttpRequest) : Prop :=
  request.url.hostText?.map (network.reach · (request.url.portOrDefault.getD 0)) = some .reached

/-- What a reply comes to. -/
def received (origin : Url) : HttpReply → Except TransportFault HttpResponse
  | .closed => .error (.sending origin.render)
  | .response response => .ok response

theorem run_transmit_reached {network : Network} {request : HttpRequest}
    (h : isReached network request) (origin : Url) (spans : List Span) (w : World σ) :
    (transmit network origin request).run spans w =
      (received origin (network.reply (w.requested (onWire request)).traffic),
        w.requested (onWire request)) := by
  unfold isReached at h
  simp only [transmit, h, ne_eq, not_true_eq_false, if_false, Attempt.run_bind,
    Attempt.run_modify, Attempt.run_get]
  change (match network.reply (w.requested (onWire request)).traffic with
    | .closed => throw (TransportFault.sending origin.render)
    | .response response => pure response : Attempt σ _ _).run spans _ = _
  cases network.reply (w.requested (onWire request)).traffic <;> rfl

theorem run_transmit_unreached {network : Network} {request : HttpRequest}
    (h : ¬ isReached network request) (origin : Url) (spans : List Span) (w : World σ) :
    (transmit network origin request).run spans w = (.error (.sending origin.render), w) := by
  unfold isReached at h
  simp only [transmit, ne_eq, h, not_false_eq_true, if_true, Attempt.run_bind]
  rfl

theorem respects_transmit (h : frame.AllowsRequests) (network : Network) (origin : Url)
    (request : HttpRequest) :
    (transmit network origin request : Attempt σ _ _).Respects frame := by
  intro spans w
  by_cases reached : isReached network request
  · rw [run_transmit_reached reached]
    exact h w (onWire request)
  · rw [run_transmit_unreached reached]
    exact frame.refl w

/-- What is done about a response while some redirects are left. -/
def proceed (network : Network) (origin : Url) (left : Nat) (request : HttpRequest)
    (response : HttpResponse) : Attempt σ TransportFault HttpResponse :=
  match lead request response with
  | .nowhere => pure response
  | .astray => throw (.builder (some origin.render))
  | .on next =>
    match left with
    | 0 => throw (.redirect request.url.render)
    | left + 1 =>
      if isWebScheme next.url then follow network origin left next
      else throw (.builder (some next.url.render))

theorem follow_eq (network : Network) (origin : Url) (left : Nat) (request : HttpRequest) :
    (follow network origin left request : Attempt σ _ _) =
      transmit network origin request >>= proceed network origin left request := by
  have after (response : HttpResponse) :
      (match lead request response with
        | .nowhere => pure response
        | .astray => throw (.builder (some origin.render))
        | .on next =>
          match left with
          | 0 => throw (.redirect request.url.render)
          | left + 1 =>
            if isWebScheme next.url then follow network origin left next
            else throw (.builder (some next.url.render)) : Attempt σ _ _) =
      proceed network origin left request response := rfl
  cases left with
  | zero => rw [follow]; exact congrArg _ (funext after)
  | succ left => rw [follow]; exact congrArg _ (funext after)

/-- What follows a response respects what the requests of further redirects do. -/
theorem respects_proceed_of {network : Network} {origin : Url} {left : Nat}
    (rest : ∀ fewer < left, ∀ next,
      (follow network origin fewer next : Attempt σ _ _).Respects frame)
    (request : HttpRequest) (response : HttpResponse) :
    (proceed network origin left request response : Attempt σ _ _).Respects frame := by
  unfold proceed
  cases lead request response with
  | nowhere => exact Attempt.respects_pure _
  | astray => exact Attempt.respects_throw _
  | on next =>
    cases left with
    | zero => exact Attempt.respects_throw _
    | succ fewer =>
      dsimp only
      split
      · exact rest fewer fewer.lt_succ_self next
      · exact Attempt.respects_throw _

/-- By induction on the redirects that are left: each is one more request. -/
theorem respects_follow (h : frame.AllowsRequests) (network : Network) (origin : Url) (left : Nat)
    (request : HttpRequest) :
    (follow network origin left request : Attempt σ _ _).Respects frame := by
  induction left using Nat.strongRecOn generalizing request with
  | _ left ih =>
    rw [follow_eq]
    exact Attempt.respects_bind (respects_transmit h network origin request)
      (respects_proceed_of ih request)

theorem respects_exchange (h : frame.AllowsRequests) (network : Network) (call : HttpCall) :
    (exchange network call : Attempt σ _ _).Respects frame :=
  Attempt.respects_bind (Attempt.respects_ofExcept _) fun request =>
    respects_follow h network request.url maxRedirects request

/-- A request whose machine is reached is sent, whatever comes after it. -/
theorem follow_sends {network : Network} {request : HttpRequest} (h : isReached network request)
    (origin : Url) (left : Nat) (spans : List Span) (w : World σ) :
    ∃ more, ((follow network origin left request).run spans w).2.traffic.requests =
      w.traffic.requests ++ onWire request :: more := by
  rw [follow_eq, Attempt.run_bind, run_transmit_reached h]
  cases received origin (network.reply (w.requested (onWire request)).traffic) with
  | error fault => exact ⟨[], rfl⟩
  | ok response =>
    have rest := fun fewer (_ : fewer < left) =>
      respects_follow (σ := σ) Frame.growing_allowsRequests network origin fewer
    obtain ⟨more, added⟩ :=
      (respects_proceed_of rest request response spans (w.requested (onWire request))).1
    exact ⟨more, by simpa [World.requested] using added.symm⟩

theorem respects_follow_beginning (network : Network) (origin : Url) (left : Nat)
    (request : HttpRequest) :
    (follow network origin left request : Attempt σ _ _).Respects
      (.beginning (· = onWire request)) := by
  intro spans w
  by_cases reached : isReached network request
  · obtain ⟨more, added⟩ := follow_sends reached origin left spans w
    exact .inr ⟨_, more, rfl, added⟩
  · rw [follow_eq, Attempt.run_bind, run_transmit_unreached reached]
    exact .inl rfl

/-- The first request of an exchange is the one that the call asks for. -/
theorem respects_exchange_beginning {P : HttpRequest → Prop} {call : HttpCall}
    (h : ∀ request, prepare call = .ok request → P (onWire request)) (network : Network) :
    (exchange network call : Attempt σ _ _).Respects (.beginning P) := by
  intro spans w
  rw [exchange, Attempt.run_bind, Attempt.run_ofExcept]
  cases prepared : prepare call with
  | error fault => exact .inl rfl
  | ok request =>
    obtain same | ⟨first, more, rfl, added⟩ :=
      respects_follow_beginning network request.url maxRedirects request spans w
    · exact .inl same
    · exact .inr ⟨onWire request, more, h request prepared, added⟩

/-- An exchange whose request can be made and whose machine is reached sends that request. -/
theorem exchange_sends {network : Network} {call : HttpCall} {request : HttpRequest}
    (prepared : prepare call = .ok request) (reached : isReached network request)
    (spans : List Span) (w : World σ) :
    ∃ more, ((exchange network call).run spans w).2.traffic.requests =
      w.traffic.requests ++ onWire request :: more := by
  rw [exchange, Attempt.run_bind, Attempt.run_ofExcept, prepared]
  exact follow_sends reached request.url maxRedirects spans w

/-- An exchange that succeeds has sent the request that the call asks for. -/
theorem achieves_exchange {P : HttpRequest → Prop} {call : HttpCall}
    (h : ∀ request, prepare call = .ok request → P (onWire request)) (network : Network) :
    (exchange network call : Attempt σ _ _).Achieves (Traffic.Asked P) := by
  intro spans w response v ran
  obtain ⟨request, u, prepared, followed⟩ := Attempt.run_eq_ok_of_bind ran
  obtain ⟨made, rfl⟩ := Prod.mk.inj prepared
  by_cases reached : isReached network request
  · obtain ⟨more, added⟩ := follow_sends reached request.url maxRedirects spans w
    rw [followed] at added
    exact ⟨onWire request, more, h request made, added⟩
  · rw [follow_eq, Attempt.run_bind, run_transmit_unreached reached] at followed
    exact nomatch followed

/-- Where a user is named in an address, the request goes to the address without. -/
def target (address : Url) : Url :=
  if (user? address).isSome then address.withoutUser else address

/-- What is known of a call once a request has been made of it, and the request. -/
theorem prepare_eq_ok {call : HttpCall} {request : HttpRequest} (h : prepare call = .ok request) :
    ∃ address, Url.parse? call.url = some address ∧ address.hostText?.isSome ∧
      call.authorization.all isHeaderText ∧
      isWebScheme (target address) ∧ isSendable (target address) ∧
      request = {
        method := .post
        url := target address
        authorization := ((user? address).map fun (name, password) =>
          basicAuthorization name password).toList ++ call.authorization.toList
        body := call.body } := by
  unfold prepare at h
  cases parsed : Url.parse? call.url with
  | none =>
    rw [parsed] at h
    exact nomatch h
  | some address =>
    rw [parsed] at h
    obtain ⟨host, h⟩ := Attempt.eq_ok_of_guard h
    obtain ⟨header, h⟩ := Attempt.eq_ok_of_guard h
    obtain ⟨place, h⟩ := Attempt.eq_ok_of_guard h
    have fits : isWebScheme (target address) ∧ isSendable (target address) := by
      simpa [target] using place
    exact ⟨address, rfl, by simpa [Option.isNone_iff_eq_none, Option.isSome_iff_ne_none] using host,
      by simpa using header, fits.1, fits.2, (Except.ok.inj h).symm⟩

theorem body_of_prepare {call : HttpCall} {request : HttpRequest}
    (h : prepare call = .ok request) : (onWire request).body = call.body := by
  obtain ⟨address, -, -, -, -, -, rfl⟩ := prepare_eq_ok h
  rfl

end Http

end CleanupCourier
