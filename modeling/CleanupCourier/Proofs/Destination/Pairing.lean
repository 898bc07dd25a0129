import CleanupCourier.Proofs.Destination.Effects
import CleanupCourier.Proofs.Work.Agreement

/-!
Deliveries in two worlds. All that a sink goes by is the Secret that it reads and what the network
does in view of the traffic. So where these are the same in two worlds a delivery comes to the same
in both, and a relation between the two outlasts it if it outlasts what a delivery does: to write
lines into the log, to send requests and to talk to relays.
-/
namespace CleanupCourier

variable {σ : Type} {network network' : Network} {R : World σ → World σ → Prop}

/-- Holds if two networks do the same in worlds that are related, and worlds stay related when the
same is logged or sent in both. -/
structure Parallel (network network' : Network) (R : World σ → World σ → Prop) : Prop where
  reach : network.reach = network'.reach
  reply {w v : World σ} : R w v → network.reply w.traffic = network'.reply v.traffic
  relay {w v : World σ} : R w v → network.relay w.traffic = network'.relay v.traffic
  logged {w v : World σ} : R w v → ∀ events, R (w.noting { events }) (v.noting { events })
  requested {w v : World σ} : R w v → ∀ request, R (w.requested request) (v.requested request)
  talked {w v : World σ} : R w v → ∀ talks, R (w.talked talks) (v.talked talks)

section Parallel

variable (parallel : Parallel network network' R)

include parallel

theorem Attempt.paired_log {ε : Type} (level : Level) (target message : String) :
    Paired R Eq (log level target message : Attempt σ ε Unit) (log level target message) := by
  intro spans w v related
  rw [run_log_noting, run_log_noting]
  exact ⟨.ok rfl, parallel.logged related _⟩

namespace Http

theorem paired_transmit (origin : Url) (request : HttpRequest) :
    Attempt.Paired R Eq (transmit network origin request) (transmit network' origin request) := by
  intro spans w v related
  have machines : isReached network request ↔ isReached network' request := by
    rw [isReached, isReached, parallel.reach]
  by_cases reached : isReached network request
  · have after := parallel.requested related (onWire request)
    rw [run_transmit_reached reached, run_transmit_reached (machines.mp reached),
      parallel.reply after]
    exact ⟨.refl _, after⟩
  · rw [run_transmit_unreached reached, run_transmit_unreached (mt machines.mpr reached)]
    exact ⟨.error _, related⟩

/-- By induction on the redirects that are left. -/
theorem paired_follow (origin : Url) (left : Nat) (request : HttpRequest) :
    Attempt.Paired R Eq (follow network origin left request)
      (follow network' origin left request) := by
  induction left using Nat.strongRecOn generalizing request with
  | _ left ih =>
    rw [follow_eq, follow_eq]
    refine Attempt.paired_bind_eq (paired_transmit parallel origin request) fun response => ?_
    unfold proceed
    cases lead request response with
    | nowhere => exact Attempt.paired_pure rfl
    | astray => exact Attempt.paired_throw _
    | on next =>
      cases left with
      | zero => exact Attempt.paired_throw _
      | succ fewer =>
        dsimp only
        split
        · exact ih fewer fewer.lt_succ_self next
        · exact Attempt.paired_throw _

theorem paired_exchange (call : HttpCall) :
    Attempt.Paired R Eq (exchange network call) (exchange network' call) :=
  Attempt.paired_bind_eq (Attempt.paired_ofExcept (.refl _)) fun request =>
    paired_follow parallel request.url maxRedirects request

end Http

theorem Posting.paired_send (p : Posting) :
    Attempt.Paired R Eq (p.send network) (p.send network') := by
  refine Attempt.paired_within ?_ p.span
  refine Attempt.paired_bind_eq (Attempt.paired_log parallel _ _ _) fun _ => ?_
  refine Attempt.paired_bind_eq (Attempt.paired_ofExcept (.refl p.check)) fun _ => ?_
  refine Attempt.paired_bind_eq ?_ fun response => ?_
  · exact Attempt.paired_mapError (Http.paired_exchange parallel p.call) _
  exact Attempt.paired_bind_eq (Attempt.paired_ofExcept (.refl (p.outcome response))) fun line =>
    Attempt.paired_log parallel _ _ _

namespace Mailing

theorem paired_handOver (info : SmtpInfo) (draft : Draft) :
    Attempt.Paired R Eq (handOver network info draft) (handOver network' info draft) := by
  intro spans w v related
  have same : outcome network info draft w.traffic = outcome network' info draft v.traffic := by
    rw [outcome, outcome, parallel.relay related, parallel.reach]
  rw [run_handOver, run_handOver, same]
  exact ⟨.refl _, parallel.talked related _⟩

theorem paired_remark (info : SmtpInfo) : Attempt.Paired R Eq (remark info) (remark info) := by
  unfold remark
  split
  · exact Attempt.paired_log parallel _ _ _
  · exact Attempt.paired_pure rfl

theorem paired_send (info : SmtpInfo) (subject body : String) (isHtml : Bool) :
    Attempt.Paired R Eq (send network info subject body isHtml)
      (send network' info subject body isHtml) := by
  rw [send_eq, send_eq]
  refine Attempt.paired_within ?_ (sendSpan info)
  refine Attempt.paired_bind_eq (paired_remark parallel info) fun _ => ?_
  refine Attempt.paired_bind_eq (Attempt.paired_ofExcept (.refl _)) fun draft => ?_
  exact Attempt.paired_bind_eq (paired_handOver parallel info draft) fun code =>
    Attempt.paired_log parallel _ _ _

end Mailing

section Secrets

variable {store store' : ObjectStore σ} {n : Notification}
  (reads : ∀ ref, n.secretRef = .ok ref → Attempt.Paired R Eq
    (store.getSecret ref.namespaceName ref.name) (store'.getSecret ref.namespaceName ref.name))

include reads

theorem Notification.paired_credentials :
    Attempt.Paired R Eq (n.credentials store) (n.credentials store') := by
  unfold credentials
  cases named : n.secretRef with
  | error error => exact Attempt.paired_throw error
  | ok ref =>
    refine Attempt.paired_bind (V := fun a b => a = ref ∧ b = ref)
      (Attempt.paired_pure ⟨rfl, rfl⟩) ?_
    rintro _ _ ⟨rfl, rfl⟩
    refine Attempt.paired_bind_eq (Attempt.paired_log parallel _ _ _) fun _ => ?_
    refine Attempt.paired_bind_eq ?_ fun secret => Attempt.paired_ofExcept (.refl _)
    exact Attempt.paired_mapError (reads _ named) _

namespace Sink

theorem paired_posting {ι : Type} (info : SecretData → Except DeliveryError ι)
    (p : ι → Delivery → Posting) (d : Delivery) :
    Attempt.Paired R Eq (posting store network info p d n)
      (posting store' network' info p d n) := by
  refine Attempt.paired_bind_eq (Notification.paired_credentials parallel reads) fun data => ?_
  refine Attempt.paired_bind_eq (Attempt.paired_ofExcept (.refl (info data))) fun i => ?_
  exact Posting.paired_send parallel (p i d)

theorem paired_smtp (d : Delivery) :
    Attempt.Paired R Eq (smtp store network d n) (smtp store' network' d n) := by
  refine Attempt.paired_within ?_ _
  refine Attempt.paired_bind_eq (Attempt.paired_log parallel _ _ _) fun _ => ?_
  refine Attempt.paired_bind_eq (Notification.paired_credentials parallel reads) fun data => ?_
  refine Attempt.paired_bind_eq (Attempt.paired_ofExcept (.refl _)) fun info => ?_
  exact Mailing.paired_send parallel info _ _ _

end Sink

/-- Every sink does the same about a notification whose Secret reads the same. -/
theorem Sinks.paired_make (settings : Settings) (validator : WebhookValidator) (d : Delivery) :
    let sinks := make store network settings validator
    let sinks' := make store' network' settings validator
    Attempt.Paired R Eq (sinks.slack d n) (sinks'.slack d n) ∧
      Attempt.Paired R Eq (sinks.teams d n) (sinks'.teams d n) ∧
      Attempt.Paired R Eq (sinks.discord d n) (sinks'.discord d n) ∧
      Attempt.Paired R Eq (sinks.webex d n) (sinks'.webex d n) ∧
      Attempt.Paired R Eq (sinks.smtp d n) (sinks'.smtp d n) :=
  ⟨Sink.paired_posting parallel reads _ _ d, Sink.paired_posting parallel reads _ _ d,
    Sink.paired_posting parallel reads _ _ d, Sink.paired_posting parallel reads _ _ d,
    Sink.paired_smtp parallel reads d⟩

end Secrets

end Parallel

end CleanupCourier
