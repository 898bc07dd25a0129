import CleanupCourier.Proofs.Destination.Course
import CleanupCourier.Proofs.Http.Agreement
import CleanupCourier.Proofs.Mail.Agreement
import CleanupCourier.Proofs.Store.Agreement

/-!
Deliveries side by side, with credentials that differ within a tolerance. A token goes nowhere but
into a header and a password nowhere but into a log-in, so a sink that gets other ones does the same
as far as an onlooker can see, and writes the same into its journal. That holds of the sink for
Teams too as long as the webhook is the same.
-/
namespace CleanupCourier

variable {σ : Type} {T : Tolerance} {network : Network} {objects : σ → σ → Prop}

/-- A posting with another value that logs in. -/
def Posting.withLogin (p : Posting) (authorization : Option String) : Posting :=
  { p with call := { p.call with authorization } }

namespace Mailing

/-- The accounts of two mailers that differ in a password are both there, and look alike. -/
theorem account?_rel {info : SmtpInfo} {password : String}
    (h : T.Passwords info.password password) :
    Option.Rel (fun a a' => T.veil.token a.token = T.veil.token a'.token) (account? info)
      (account? { info with password }) := by
  unfold account?
  rw [h.1]
  split
  · exact .none
  · exact .some (h.2 info.sender)

end Mailing

section Deliveries

variable (overlooks : network.Overlooks T.veil)

include overlooks

theorem Posting.agree_send (p : Posting) {authorization : Option String}
    (h : Option.Rel T.login p.call.authorization authorization) :
    Attempt.Agree (σ := σ) ⟨objects, T.veil⟩ Eq (p.send network)
      ((p.withLogin authorization).send network) := by
  refine Attempt.agree_within ?_ p.span
  refine Attempt.agree_bind_eq (Attempt.agree_log _ _ _) fun _ => ?_
  refine Attempt.agree_bind_eq (Attempt.agree_ofExcept (.refl p.check)) fun _ => ?_
  refine Attempt.agree_bind_eq ?_ fun response => ?_
  · exact Attempt.agree_mapError (Http.agree_exchange overlooks p.call h) _
  refine Attempt.agree_bind_eq (Attempt.agree_ofExcept (.refl (p.outcome response))) fun line => ?_
  exact Attempt.agree_log _ _ _

namespace Mailing

theorem agree_handOver {info : SmtpInfo} {password : String}
    (h : T.Passwords info.password password) (draft : Draft) :
    Attempt.Agree (σ := σ) ⟨objects, T.veil⟩ Eq (handOver network info draft)
      (handOver network { info with password } draft) := by
  intro spans w v holds
  rw [run_handOver, run_handOver]
  obtain ⟨result, talk⟩ := Smtp.submit_veiled
    (fun commands commands' seen => overlooks.relay holds.traffic seen)
    (network.reach info.host info.port) info.host info.port
    (info.port == SmtpInfo.implicitTlsPort) (account?_rel h) draft.envelope draft.message
  constructor
  · change Matches Eq ((Smtp.submit _ _ _ _ _ _ _ _).result.mapError _)
      ((Smtp.submit _ _ _ _ _ _ _ _).result.mapError _)
    rw [result]
    exact .refl _
  · refine holds.talked ?_
    rw [← Option.toList_map, ← Option.toList_map]
    exact congrArg Option.toList talk

omit overlooks in
theorem agree_remark (info : SmtpInfo) :
    Attempt.Agree (σ := σ) ⟨objects, T.veil⟩ Eq (remark info) (remark info) := by
  unfold remark
  split
  · exact Attempt.agree_log _ _ _
  · exact Attempt.agree_pure rfl

theorem agree_send {info : SmtpInfo} {password : String} (h : T.Passwords info.password password)
    (subject body : String) (isHtml : Bool) :
    Attempt.Agree (σ := σ) ⟨objects, T.veil⟩ Eq (send network info subject body isHtml)
      (send network { info with password } subject body isHtml) := by
  rw [send_eq, send_eq]
  refine Attempt.agree_within ?_ (sendSpan info)
  refine Attempt.agree_bind_eq (agree_remark info) fun _ => ?_
  refine Attempt.agree_bind_eq (Attempt.agree_ofExcept (.refl _)) fun draft => ?_
  exact Attempt.agree_bind_eq (agree_handOver overlooks h draft) fun code =>
    Attempt.agree_log _ _ _

end Mailing

namespace Sink

variable {store store' : ObjectStore σ} (agree : store.Agree T objects store')

include agree

omit overlooks in
theorem agree_known {ι : Type} {related : ι → ι → Prop}
    {info : SecretData → Except DeliveryError ι}
    (knows : ∀ m m', T.Data m m' → Matches related (info m) (info m')) (n : Notification) :
    Attempt.Agree ⟨objects, T.veil⟩ related (known store info n) (known store' info n) :=
  Attempt.agree_bind (T.agree_credentials agree.getSecret n) fun m m' data =>
    Attempt.agree_ofExcept (knows m m' data)

theorem agree_posting {ι : Type} {related : ι → ι → Prop}
    {info : SecretData → Except DeliveryError ι}
    (knows : ∀ m m', T.Data m m' → Matches related (info m) (info m'))
    {p : ι → Delivery → Posting} {d : Delivery}
    (posts : ∀ i i', related i i' → ∃ authorization,
      Option.Rel T.login (p i d).call.authorization authorization ∧
        p i' d = (p i d).withLogin authorization) (n : Notification) :
    Attempt.Agree ⟨objects, T.veil⟩ Eq (posting store network info p d n)
      (posting store' network info p d n) := by
  rw [posting_eq, posting_eq]
  refine Attempt.agree_bind (agree_known agree knows n) fun i i' same => ?_
  obtain ⟨authorization, login, eq⟩ := posts i i' same
  rw [eq]
  exact Posting.agree_send overlooks (p i d) login

/-- A sink that logs in with a token. -/
theorem agree_token {ι : Type} (make : String → String → ι) {destination : String}
    {tokenKey placeKey : String} (secret : tokenKey ∈ Credentials.tokenKeys)
    (shown : placeKey ∉ Credentials.secretKeys) {p : ι → Delivery → Posting} (before : String)
    (header : ∀ token token' place d, p (make token' place) d =
      (p (make token place) d).withLogin (some (before ++ token')))
    (d : Delivery) (n : Notification) :
    Attempt.Agree ⟨objects, T.veil⟩ Eq
      (posting store network (fun m => do
        let token ← Credentials.required m destination tokenKey
        let place ← Credentials.required m destination placeKey
        return make token place) p d n)
      (posting store' network (fun m => do
        let token ← Credentials.required m destination tokenKey
        let place ← Credentials.required m destination placeKey
        return make token place) p d n) := by
  refine agree_posting overlooks agree
    (fun m m' data => data.matches_token make destination secret shown) ?_ n
  rintro _ _ ⟨token, token', place, login, rfl, rfl⟩
  refine ⟨some (before ++ token'), ?_, header token token' place d⟩
  rw [header token token place d]
  exact .some (login before)

theorem agree_smtp (d : Delivery) (n : Notification) :
    Attempt.Agree ⟨objects, T.veil⟩ Eq (smtp store network d n) (smtp store' network d n) := by
  refine Attempt.agree_within ?_ _
  refine Attempt.agree_bind_eq (Attempt.agree_log _ _ _) fun _ => ?_
  refine Attempt.agree_bind (T.agree_credentials agree.getSecret n) fun m m' data => ?_
  refine Attempt.agree_bind (Attempt.agree_ofExcept data.matches_smtp) fun i i' same => ?_
  obtain ⟨password, login, rfl⟩ := same
  exact Mailing.agree_send overlooks login _ _ _

variable (settings : Settings) (validator : WebhookValidator)

theorem agree_teams (same : ∀ a a', T.value "TEAMS_WEBHOOK_URL" a a' → a = a') (d : Delivery)
    (n : Notification) :
    Attempt.Agree ⟨objects, T.veil⟩ Eq ((Sinks.make store network settings validator).teams d n)
      ((Sinks.make store' network settings validator).teams d n) := by
  have knows (m m' : SecretData) (data : T.Data m m') :
      Matches Eq (TeamsInfo.ofSecret m) (TeamsInfo.ofSecret m') := by
    refine (data.required_rel "teams" "TEAMS_WEBHOOK_URL").bind fun url url' texts => ?_
    obtain ⟨a, a', related, rfl, rfl⟩ := texts
    rw [same a a' related]
    exact .refl _
  refine agree_posting overlooks agree knows (fun i i' eq => ⟨none, .none, ?_⟩) n
  rw [eq]
  rfl

/-- Every sink but the one for Teams, where more than the log-in is secret. -/
theorem agree_make (d : Delivery) (n : Notification) :
    let sinks := Sinks.make store network settings validator
    let sinks' := Sinks.make store' network settings validator
    Attempt.Agree ⟨objects, T.veil⟩ Eq (sinks.slack d n) (sinks'.slack d n) ∧
      Attempt.Agree ⟨objects, T.veil⟩ Eq (sinks.discord d n) (sinks'.discord d n) ∧
      Attempt.Agree ⟨objects, T.veil⟩ Eq (sinks.webex d n) (sinks'.webex d n) ∧
      Attempt.Agree ⟨objects, T.veil⟩ Eq (sinks.smtp d n) (sinks'.smtp d n) := by
  intro sinks sinks'
  refine ⟨?_, ?_, ?_, agree_smtp overlooks agree d n⟩
  · exact agree_token overlooks agree SlackInfo.mk (by decide) (by decide) "Bearer "
      (fun _ _ _ _ => rfl) d n
  · exact agree_token overlooks agree DiscordInfo.mk (by decide) (by decide) "Bot "
      (fun _ _ _ _ => rfl) d n
  · exact agree_token overlooks agree WebexInfo.mk (by decide) (by decide) "Bearer "
      (fun _ _ _ _ => rfl) d n

end Sink

end Deliveries

end CleanupCourier
