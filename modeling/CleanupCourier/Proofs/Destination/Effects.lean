import CleanupCourier.Destination.Sinks
import CleanupCourier.Proofs.Http.Exchange
import CleanupCourier.Proofs.Mail.Talk
import CleanupCourier.Store.Cluster
import CleanupCourier.Store.Memory

/-!
What a delivery may do to the world. A sink for a web service reads a Secret and sends requests, the
one for mail reads a Secret and talks to a relay; beyond that they write into the journal only. So a
sink respects every frame that allows as much, and what it sends if it succeeds is what its exchange
or its talk sends.
-/
namespace CleanupCourier

variable {σ : Type} {frame : Frame σ}

/-- The reading of Secrets respects a frame. -/
def ObjectStore.ReadsWithin (store : ObjectStore σ) (frame : Frame σ) : Prop :=
  ∀ namespaceName name, (store.getSecret namespaceName name).Respects frame

theorem Notification.respects_credentials {store : ObjectStore σ} (h : store.ReadsWithin frame)
    (n : Notification) : (n.credentials store).Respects frame := by
  unfold credentials
  refine Attempt.respects_bind (Attempt.respects_ofExcept _) fun ref => ?_
  refine Attempt.respects_bind (Attempt.respects_log _ _ _) fun _ => ?_
  refine Attempt.respects_bind (Attempt.respects_mapError (h _ _) _) fun secret => ?_
  exact Attempt.respects_ofExcept _

/-- A posting does to the world what its exchange does. -/
theorem Posting.respects_send {p : Posting} {network : Network}
    (h : (Http.exchange network p.call : Attempt σ _ _).Respects frame) :
    (p.send network : Attempt σ _ _).Respects frame := by
  refine Attempt.respects_within ?_ p.span
  refine Attempt.respects_bind (Attempt.respects_log _ _ _) fun _ => ?_
  refine Attempt.respects_bind (Attempt.respects_ofExcept _) fun _ => ?_
  refine Attempt.respects_bind ?_ fun response => ?_
  · exact Attempt.respects_mapError h _
  refine Attempt.respects_bind (Attempt.respects_ofExcept _) fun line => ?_
  exact Attempt.respects_log _ _ _

/-- A posting that succeeds has sent what its exchange sends. -/
theorem Posting.achieves_send {goal : Traffic → Traffic → Prop} {p : Posting} {network : Network}
    (h : (Http.exchange network p.call : Attempt σ _ _).Achieves goal) :
    (p.send network : Attempt σ _ _).Achieves goal := by
  refine Attempt.achieves_within ?_ p.span
  refine Attempt.achieves_last (Attempt.respects_log _ _ _) fun _ => ?_
  refine Attempt.achieves_last (Attempt.respects_ofExcept _) fun _ => ?_
  refine Attempt.achieves_first (Attempt.achieves_mapError h _) fun response => ?_
  refine Attempt.respects_bind (Attempt.respects_ofExcept _) fun line => ?_
  exact Attempt.respects_log _ _ _

/-- A posting that passes its check is sent, if a request can be made of it and the machine that
the request goes to is reached. -/
theorem Posting.sends {p : Posting} {network : Network} {request : HttpRequest}
    (check : p.check = .ok ()) (prepared : Http.prepare p.call = .ok request)
    (reached : Http.isReached network request) (spans : List Span) (w : World σ) :
    ∃ more, ((p.send network).run spans w).2.traffic.requests =
      w.traffic.requests ++ Http.onWire request :: more := by
  obtain ⟨more, added⟩ := Http.exchange_sends prepared reached (spans ++ [p.span])
    (w.noting
      { events := [⟨.info, p.target, spans ++ [p.span], s!"send {p.destination} message"⟩] })
  refine ⟨more, ?_⟩
  simp only [World.noting, List.append_nil] at added
  simp only [send, Attempt.run_within, Attempt.run_bind, Attempt.run_log, check,
    Attempt.run_ofExcept, Attempt.run_mapError]
  generalize (Http.exchange network p.call).run (spans ++ [p.span]) _ = exchanged at added ⊢
  obtain ⟨fault | response, w'⟩ := exchanged
  · exact added
  · dsimp only [Except.mapError]
    cases p.outcome response <;> exact added

namespace Mailing

/-- What is known once a mail has been made, and the mail. -/
theorem compose_eq_ok {info : SmtpInfo} {subject body : String} {isHtml : Bool} {draft : Draft}
    (h : compose info subject body isHtml = .ok draft) :
    ∃ sender recipients hidden,
      readAddress "SMTP_SENDER" info.sender = .ok sender ∧
      info.recipientList.mapM (readAddress "SMTP_RECIPIENTS") = .ok recipients ∧
      info.bccList.mapM (readAddress "SMTP_BCC") = .ok hidden ∧
      Envelope.ofHeaders [sender] (Mailbox.hold recipients) (Mailbox.hold hidden) =
        .ok draft.envelope ∧
      draft.message = { sender, recipients := Mailbox.hold recipients, subject, isHtml, body } := by
  obtain ⟨sender, senderRead, h⟩ := Attempt.eq_ok_of_bind h
  obtain ⟨recipients, recipientsRead, h⟩ := Attempt.eq_ok_of_bind h
  obtain ⟨hidden, hiddenRead, h⟩ := Attempt.eq_ok_of_bind h
  refine ⟨sender, recipients, hidden, senderRead, recipientsRead, hiddenRead, ?_⟩
  dsimp only at h
  split at h
  · exact nomatch h
  · rename_i made
    cases h
    exact ⟨made, rfl⟩

/-- The talk about a mail that is handed over, if it comes to one. -/
def outcome (network : Network) (info : SmtpInfo) (draft : Draft) (traffic : Traffic) :
    Smtp.Outcome :=
  Smtp.submit (network.relay traffic) (network.reach info.host info.port) info.host info.port
    (info.port == SmtpInfo.implicitTlsPort) (account? info) draft.envelope draft.message

theorem run_handOver (network : Network) (info : SmtpInfo) (draft : Draft) (spans : List Span)
    (w : World σ) :
    (handOver network info draft).run spans w =
      ((outcome network info draft w.traffic).result.mapError fun fault => .mail fault.message,
        w.talked (outcome network info draft w.traffic).talk.toList) := by
  simp only [handOver, outcome, Attempt.run_bind, Attempt.run_get, Attempt.run_modify]
  generalize Smtp.submit _ _ _ _ _ _ _ _ = submitted
  cases submitted.result <;> rfl

/-- The remark about an identity that is not sent. -/
def remark (info : SmtpInfo) : Attempt σ DeliveryError Unit :=
  if !info.identity.isEmpty then
    Attempt.log .debug target "authorization identity is not sent; authenticating as the sender"
  else pure ()

/-- Makes a mail and hands it over. -/
def deliver (network : Network) (info : SmtpInfo) (subject body : String) (isHtml : Bool) :
    Attempt σ DeliveryError Unit := do
  let draft ← Attempt.ofExcept (compose info subject body isHtml)
  let code ← handOver network info draft
  Attempt.log .debug target s!"smtp relay answered {code}"

theorem send_eq (network : Network) (info : SmtpInfo) (subject body : String) (isHtml : Bool) :
    (send network info subject body isHtml : Attempt σ _ _) =
      Attempt.within (sendSpan info)
        (remark info >>= fun _ => deliver network info subject body isHtml) := by
  rw [send, remark]
  cases !info.identity.isEmpty with
  | true =>
    simp only [if_true]
    rfl
  | false =>
    simp only [Bool.false_eq_true, if_false, pure_bind]
    rfl

theorem respects_remark (info : SmtpInfo) : (remark info).Respects frame := by
  unfold remark
  split
  · exact Attempt.respects_log _ _ _
  · exact Attempt.respects_pure _

/-- A mail does to the world what the talk about it does. -/
theorem respects_send {network : Network} {info : SmtpInfo} {subject body : String} {isHtml : Bool}
    (h : ∀ draft, compose info subject body isHtml = .ok draft → ∀ w : World σ,
      frame.Rel w (w.talked (outcome network info draft w.traffic).talk.toList)) :
    (send network info subject body isHtml : Attempt σ _ _).Respects frame := by
  rw [send_eq]
  refine Attempt.respects_within ?_ _
  refine Attempt.respects_bind (respects_remark info) fun _ => ?_
  intro spans w
  rw [deliver, Attempt.run_bind, Attempt.run_ofExcept]
  cases composed : compose info subject body isHtml with
  | error error => exact frame.refl w
  | ok draft =>
    have handed : (handOver network info draft : Attempt σ _ _).Respects frame := by
      intro spans w
      rw [run_handOver]
      exact h draft composed w
    exact Attempt.respects_bind handed (fun code => Attempt.respects_log _ _ _) spans w

/-- A mail that is sent with success was handed over in a talk. -/
theorem achieves_send {P : SmtpTalk → Prop} {network : Network} {info : SmtpInfo}
    {subject body : String} {isHtml : Bool}
    (h : ∀ draft, compose info subject body isHtml = .ok draft → ∀ talk : SmtpTalk,
      .content draft.message ∈ talk.sent.map (·.2) → P talk) :
    (send network info subject body isHtml : Attempt σ _ _).Achieves (Traffic.Told P) := by
  rw [send_eq]
  refine Attempt.achieves_within ?_ _
  refine Attempt.achieves_last (respects_remark info) fun _ => ?_
  intro spans w done v ran
  obtain ⟨draft, u, composed, ran⟩ := Attempt.run_eq_ok_of_bind ran
  obtain ⟨made, rfl⟩ := Prod.mk.inj composed
  have handed : (handOver network info draft : Attempt σ _ _).Achieves (Traffic.Told P) := by
    intro spans w code v ran
    rw [run_handOver] at ran
    obtain ⟨result, rfl⟩ := Prod.mk.inj ran
    cases submitted : (outcome network info draft w.traffic).result with
    | error fault =>
      rw [submitted] at result
      exact nomatch result
    | ok code =>
      obtain ⟨talk, kept, mem⟩ := Smtp.submit_hands submitted
      exact ⟨talk, h draft made talk mem, by rw [World.talked, outcome, kept]; rfl⟩
  exact Attempt.achieves_first handed (fun code => Attempt.respects_log _ _ _) spans w done v ran

end Mailing

namespace Sink

theorem respects_posting {ι : Type} {store : ObjectStore σ} (reads : store.ReadsWithin frame)
    {network : Network} {p : ι → Delivery → Posting} {d : Delivery}
    (h : ∀ info, ((p info d).send network : Attempt σ _ _).Respects frame)
    (info : SecretData → Except DeliveryError ι) (n : Notification) :
    (posting store network info p d n).Respects frame := by
  refine Attempt.respects_bind (n.respects_credentials reads) fun data => ?_
  exact Attempt.respects_bind (Attempt.respects_ofExcept _) h

theorem respects_smtp {store : ObjectStore σ} (reads : store.ReadsWithin frame)
    {network : Network} {d : Delivery}
    (h : ∀ info, (Mailing.send network info d.message d.payload false : Attempt σ _ _).Respects
      frame) (n : Notification) : (smtp store network d n).Respects frame := by
  refine Attempt.respects_within ?_ _
  refine Attempt.respects_bind (Attempt.respects_log _ _ _) fun _ => ?_
  refine Attempt.respects_bind (n.respects_credentials reads) fun data => ?_
  exact Attempt.respects_bind (Attempt.respects_ofExcept _) h

section Achieves

variable {goal : Traffic → Traffic → Prop} {store : ObjectStore σ}
  (reads : store.ReadsWithin .quiet) {network : Network} {d : Delivery}

include reads

theorem achieves_posting {ι : Type} {p : ι → Delivery → Posting}
    (h : ∀ info, ((p info d).send network : Attempt σ _ _).Achieves goal)
    (info : SecretData → Except DeliveryError ι) (n : Notification) :
    (posting store network info p d n).Achieves goal := by
  refine Attempt.achieves_last (n.respects_credentials reads) fun data => ?_
  exact Attempt.achieves_last (Attempt.respects_ofExcept _) h

theorem achieves_smtp
    (h : ∀ info, (Mailing.send network info d.message d.payload false : Attempt σ _ _).Achieves
      goal) (n : Notification) : (smtp store network d n).Achieves goal := by
  refine Attempt.achieves_within ?_ _
  refine Attempt.achieves_last (Attempt.respects_log _ _ _) fun _ => ?_
  refine Attempt.achieves_last (n.respects_credentials reads) fun data => ?_
  exact Attempt.achieves_last (Attempt.respects_ofExcept _) h

end Achieves

end Sink

namespace Sinks

/-- Whoever a delivery is for, `P` holds of the work of each sink on it. -/
structure Each (sinks : Sinks σ) (d : Delivery)
    (P : NotificationType → Attempt σ DeliveryError Unit → Prop) : Prop where
  slack (n : Notification) : P .slack (sinks.slack d n)
  teams (n : Notification) : P .teams (sinks.teams d n)
  discord (n : Notification) : P .discord (sinks.discord d n)
  webex (n : Notification) : P .webex (sinks.webex d n)
  smtp (n : Notification) : P .smtp (sinks.smtp d n)

/-- Each sink respects the frame for its type. -/
abbrev Respect (sinks : Sinks σ) (d : Delivery) (frame : NotificationType → Frame σ) : Prop :=
  sinks.Each d fun type attempt => attempt.Respects (frame type)

/-- Sinks respect every frame that lets a Secret be read and things be sent. -/
theorem respect_make {store : ObjectStore σ} (reads : store.ReadsWithin frame)
    (requests : frame.AllowsRequests) (talks : frame.AllowsTalks) (network : Network)
    (settings : Settings) (validator : WebhookValidator) (d : Delivery) :
    (make store network settings validator).Respect d fun _ => frame := by
  have posts (p : Posting) : (p.send network : Attempt σ _ _).Respects frame :=
    Posting.respects_send (Http.respects_exchange requests network p.call)
  exact {
    slack := Sink.respects_posting reads (fun _ => posts _) _
    teams := Sink.respects_posting reads (fun _ => posts _) _
    discord := Sink.respects_posting reads (fun _ => posts _) _
    webex := Sink.respects_posting reads (fun _ => posts _) _
    smtp := Sink.respects_smtp reads fun _ => Mailing.respects_send fun _ _ w => talks w _ }

end Sinks

/-- The store in memory is not changed by being read. -/
theorem ObjectStore.memory_readsWithin (frame : Frame MemoryStore) :
    memory.ReadsWithin frame :=
  fun _ _ _ w => frame.refl w

theorem ObjectStore.cluster_readsWithin_quiet (server : ApiServer) :
    (cluster server).ReadsWithin .quiet := by
  intro namespaceName name
  refine Attempt.respects_mapError ?_ _
  cases Api.getSecret? namespaceName name with
  | none => exact Attempt.respects_throw _
  | some request =>
    refine Attempt.respects_bind (Attempt.respects_modify fun w => rfl) fun _ => ?_
    exact Attempt.respects_bind Attempt.respects_get fun w => Attempt.respects_ofExcept _

end CleanupCourier
