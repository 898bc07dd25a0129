import CleanupCourier.Network.Scripted
import CleanupCourier.Proofs.Destination.Carrier
import CleanupCourier.Proofs.Dispatch.Pass
import CleanupCourier.Proofs.Report.Payload

/-!
What arrives of a run. Every destination that hears of a run reads the same report out of what it
gets, and that report is the content of every Report that the run writes. No sink succeeds unless
its destination has heard.
-/
namespace CleanupCourier

variable {σ : Type}

/-- Holds of a mail that shows the payload of a delivery as it is. -/
def Delivery.IsShownBy (d : Delivery) (m : MailMessage) : Prop :=
  m.isHtml = false ∧ m.shownBody = d.payload

/-- What a world has beyond an earlier one once a delivery was brought to a destination: the first
request, or every mail, holds the delivery. -/
def Frame.delivering (d : Delivery) : NotificationType → Frame σ
  | .slack => .beginning fun request => Slack.received? request = some d
  | .teams => .beginning fun request => Teams.received? request = some d
  | .discord => .beginning fun request => Discord.received? request = some d
  | .webex => .beginning fun request => Webex.received? request = some d
  | .smtp => .talking fun talk => ∀ m, .content m ∈ talk.sent.map (·.2) → d.IsShownBy m
  | .cleanerReport | .unsupported _ => .quiet

/-- What was sent once a delivery was brought with success: a request that holds the delivery, with
others after it at most, or a mail in a talk of its own. -/
def Traffic.Delivered (d : Delivery) : NotificationType → Traffic → Traffic → Prop
  | .slack => Asked fun request => Slack.received? request = some d
  | .teams => Asked fun request => Teams.received? request = some d
  | .discord => Asked fun request => Discord.received? request = some d
  | .webex => Asked fun request => Webex.received? request = some d
  | .smtp => Told fun talk => ∃ m, .content m ∈ talk.sent.map (·.2) ∧ d.IsShownBy m
  | .cleanerReport | .unsupported _ => fun _ _ => False

section Postings

variable {P : HttpRequest → Prop} {p : Posting}
  (h : ∀ request : HttpRequest, request.body = p.call.body → P request) (network : Network)

include h

/-- The first request of a posting has the body of its call. -/
theorem Posting.respects_beginning : (p.send network : Attempt σ _ _).Respects (.beginning P) := by
  refine Posting.respects_send (Http.respects_exchange_beginning (fun request prepared => ?_) _)
  exact h _ (Http.body_of_prepare prepared)

/-- A posting that succeeds has sent such a request. -/
theorem Posting.achieves_asked : (p.send network : Attempt σ _ _).Achieves (Traffic.Asked P) := by
  refine Posting.achieves_send (Http.achieves_exchange (fun request prepared => ?_) _)
  exact h _ (Http.body_of_prepare prepared)

end Postings

namespace Mailing

variable {d : Delivery} (visible : ∀ c ∈ d.payload.toList, 32 ≤ c.toNat)

include visible

theorem isShownBy_of_compose {info : SmtpInfo} {draft : Draft}
    (h : compose info d.message d.payload false = .ok draft) : d.IsShownBy draft.message := by
  obtain ⟨sender, recipients, hidden, -, -, -, -, message⟩ := compose_eq_ok h
  rw [message]
  exact ⟨rfl, MailMessage.shownBody_of_visible visible⟩

variable (network : Network) (info : SmtpInfo)

/-- Every mail that is sent has the body that was to be sent. -/
theorem respects_talking :
    (send network info d.message d.payload false : Attempt σ _ _).Respects
      (.delivering d .smtp) := by
  refine respects_send fun draft composed w => ⟨_, rfl, fun talk mem m handed => ?_⟩
  have handsOver : Smtp.HandsOver draft.message talk :=
    Smtp.submit_talk (Smtp.stable_handsOver draft.message) (fun _ mem => nomatch mem)
      (Option.mem_toList.mp mem)
  rw [handsOver m handed]
  exact isShownBy_of_compose visible composed

theorem achieves_told :
    (send network info d.message d.payload false : Attempt σ _ _).Achieves
      (Traffic.Delivered d .smtp) :=
  achieves_send fun draft composed _ handed =>
    ⟨draft.message, handed, isShownBy_of_compose visible composed⟩

end Mailing

namespace Sinks

/-- Each sink brings a delivery to its destination as it is, and succeeds only if it does. -/
def Carry (sinks : Sinks σ) (d : Delivery) : Prop :=
  sinks.Each d fun type attempt =>
    attempt.Respects (.delivering d type) ∧ attempt.Achieves (Traffic.Delivered d type)

section Make

variable {store : ObjectStore σ} (reads : store.ReadsWithin .quiet) {network : Network}

include reads

/-- A sink for a web service brings what its service can read back. -/
theorem carries_posting {ι : Type} {P : HttpRequest → Prop} {p : ι → Delivery → Posting}
    {d : Delivery}
    (h : ∀ info (request : HttpRequest), request.body = (p info d).call.body → P request)
    (info : SecretData → Except DeliveryError ι) (n : Notification) :
    (Sink.posting store network info p d n).Respects (.beginning P) ∧
      (Sink.posting store network info p d n).Achieves (Traffic.Asked P) := by
  have begins : store.ReadsWithin (.beginning P) :=
    fun place name => (reads place name).mono fun _ _ => Frame.beginning_of_quiet
  constructor
  · exact Sink.respects_posting begins
      (fun found => Posting.respects_beginning (h found) network) info n
  · exact Sink.achieves_posting reads
      (fun found => Posting.achieves_asked (h found) network) info n

theorem carry_make (settings : Settings) (validator : WebhookValidator) {d : Delivery}
    (visible : ∀ c ∈ d.payload.toList, 32 ≤ c.toNat) :
    (make store network settings validator).Carry d := by
  have talks : store.ReadsWithin (.delivering d .smtp) :=
    fun place name => (reads place name).mono fun _ _ => Frame.talking_of_quiet
  exact {
    slack := carries_posting reads (fun _ _ => Slack.received?_body) _
    teams := carries_posting reads (fun _ _ => Teams.received?_body) _
    discord := carries_posting reads (fun _ _ => Discord.received?_body) _
    webex := carries_posting reads (fun _ _ => Webex.received?_body) _
    smtp := fun n => ⟨Sink.respects_smtp talks (Mailing.respects_talking visible network) n,
      Sink.achieves_smtp reads (Mailing.achieves_told visible network) n⟩ }

end Make

end Sinks

/-- The objects of a world come from those of an earlier one by looking up a name and then writing
a Report with a content. -/
def ObjectStore.Persists (store : ObjectStore σ) (name : String) (spec : ReportSpec)
    (spans : List Span) (u v : World σ) : Prop :=
  ∃ (report written : Report) (looked done : World σ), report.spec = spec ∧
    looked.objects = ((store.getReport name).run spans u).2.objects ∧
    ((store.createReport report).run spans looked = (.ok written, done) ∨
      (store.replaceReport report).run spans looked = (.ok written, done)) ∧
    v.objects = done.objects

namespace Report

/-- What a look-up finds does not matter to the world it leaves. -/
theorem world_found? (store : ObjectStore σ) (name : String) (spans : List Span) (u : World σ) :
    ((found? store name).run spans u).2 = ((store.getReport name).run spans u).2 := by
  rw [found?, Attempt.run_tryCatch, Attempt.run_map]
  generalize (store.getReport name).run spans u = looked
  obtain ⟨error | report, w⟩ := looked
  · simp only [Except.map]
    split <;> rfl
  · rfl

theorem persists_upsert {store : ObjectStore σ} {name : String} {spec : ReportSpec}
    {spans : List Span} {u v : World σ} {written : Report}
    (h : (upsert store name spec).run spans u = (.ok written, v)) :
    store.Persists name spec spans u v := by
  have lookedUp := world_found? store name spans u
  rw [upsert, Attempt.run_bind] at h
  generalize (found? store name).run spans u = looked at h lookedUp
  obtain ⟨error | found, looked⟩ := looked
  · exact nomatch h
  have objects : looked.objects = ((store.getReport name).run spans u).2.objects :=
    congrArg World.objects lookedUp
  cases found with
  | none =>
    simp only [write, Attempt.run_bind, Attempt.run_log] at h
    generalize created : (store.createReport (.new name spec)).run spans _ = result at h
    obtain ⟨error | report, done⟩ := result
    · exact nomatch h
    · cases h
      refine ⟨_, written, _, done, rfl, ?_, .inl created, rfl⟩
      exact objects
  | some report =>
    simp only [write, Attempt.run_bind, Attempt.run_log] at h
    generalize replaced : (store.replaceReport { report with spec }).run spans _ = result at h
    obtain ⟨error | report, done⟩ := result
    · exact nomatch h
    · cases h
      refine ⟨_, written, _, done, rfl, ?_, .inr replaced, rfl⟩
      exact objects

end Report

namespace Dispatcher

variable {dispatcher : Dispatcher σ} {run : Run} {n : Notification}

theorem handler_persists {spans : List Span} {u v : World σ} (type : n.type = .cleanerReport)
    (h : (dispatcher.handler run n).run spans u = (.ok (), v)) :
    dispatcher.store.Persists run.name run.report spans u v := by
  rw [handler, type] at h
  simp only [Attempt.run_bind, Attempt.run_mapError] at h
  generalize upserted : (Report.upsert dispatcher.store run.name run.report).run spans u = result
    at h
  obtain ⟨error | written, done⟩ := result
  · exact nomatch h
  · cases h
    exact Report.persists_upsert upserted

/-- The text of a report has no control characters, and every sink brings it to its destination as
it is, together with the message, and succeeds only if it does; a posting that is allowed and finds
its machine is sent even where it fails later. A run is a chain of steps, one for each entry that is
attempted: for a destination the step delivers the text of the report of the run, the same at every
step, and for the store it writes a Report whose content is that report. -/
theorem payload_carried (store : ObjectStore σ) (reads : store.ReadsWithin .quiet)
    (network : Network) (settings : Settings) (validator : WebhookValidator) :
    let sinks := Sinks.make store network settings validator
    let dispatcher : Dispatcher σ := ⟨store, sinks⟩
    (∀ (report : ReportSpec) (message : String),
      (∀ c ∈ report.payload.toList, 32 ≤ c.toNat) ∧ sinks.Carry ⟨report.payload, message⟩) ∧
    (∀ (p : Posting) (request : HttpRequest), p.check = .ok () → Http.prepare p.call = .ok request →
      Http.isReached network request → ∀ (spans : List Span) (w : World σ),
        ∃ more, ((p.send network).run spans w).2.traffic.requests =
          w.traffic.requests ++ Http.onWire request :: more) ∧
    ∀ (run : Run) (spans : List Span) (w : World σ),
      let attempted := dispatcher.attempted run spans run.entries w
      (∃ said, ((dispatcher.perform run).run spans w).2 =
        (dispatcher.afterAll run spans attempted w).noting said) ∧
      ∀ before n later, attempted = before ++ n :: later →
        let u := dispatcher.afterAll run spans before w
        let v := dispatcher.afterAll run spans (before ++ [n]) w
        let d : Delivery := ⟨run.report.payload, reportMessage run.name⟩
        (n.type ≠ .cleanerReport → (Frame.delivering d n.type).Rel u v ∧
          ((dispatcher.outcome run spans u n).1 = .ok () →
            Traffic.Delivered d n.type u.traffic v.traffic)) ∧
        (n.type = .cleanerReport → (dispatcher.outcome run spans u n).1 = .ok () →
          store.Persists run.name run.report (spans ++ [span n]) u v) := by
  intro sinks dispatcher
  have carries (report : ReportSpec) (message : String) :
      sinks.Carry ⟨report.payload, message⟩ :=
    Sinks.carry_make reads settings validator report.payload_visible
  refine ⟨fun report message => ⟨report.payload_visible, carries report message⟩, ?_, ?_⟩
  · exact fun p request check prepared reached => Posting.sends check prepared reached
  intro run spans w attempted
  refine ⟨world_perform dispatcher run spans w, ?_⟩
  intro before n later _ u v d
  have step : v = dispatcher.after run spans u n := by
    simp only [v, u, afterAll, List.foldl_append, List.foldl_cons, List.foldl_nil]
  rw [step]
  constructor
  · intro other
    have carry : dispatcher.sinks.Carry run.delivery := carries run.report (reportMessage run.name)
    obtain ⟨respects, achieves⟩ := handler_of_each carry
      (fun _ error => ⟨Attempt.respects_throw error, Attempt.achieves_throw error⟩) other
    constructor
    · exact Frame.trans _ (respects (spans ++ [span n]) u) (Frame.journal _ _ _)
    · exact fun succeeds => achieves _ u () (dispatcher.outcome run spans u n).2
        (Prod.ext succeeds rfl)
  · intro type succeeds
    have handled : (dispatcher.handler run n).run (spans ++ [span n]) u =
        (.ok (), (dispatcher.outcome run spans u n).2) := Prod.ext succeeds rfl
    obtain ⟨report, written, looked, done, content, lookedUp, wrote, objects⟩ :=
      handler_persists type handled
    exact ⟨report, written, looked, done, content, lookedUp, wrote, objects⟩

/-- Both stores are read without anything being sent, so the sinks over either carry a report whose
message has quotes and control characters in it. -/
theorem payload_carried_escaped :
    let report : ReportSpec :=
      ⟨.delete, [⟨⟨"", "old", "ConfigMap", "v1"⟩, "said \"gone\"\r\n\t\\ done"⟩]⟩
    let network := Network.scripted [] {}
    let server := ApiServer.scripted []
    (ObjectStore.memory.ReadsWithin .quiet ∧
      (Sinks.make .memory network {} {}).Carry ⟨report.payload, "nightly"⟩) ∧
    ((ObjectStore.cluster server).ReadsWithin .quiet ∧
      (Sinks.make (.cluster server) network {} {}).Carry ⟨report.payload, "nightly"⟩) := by
  intro report network server
  have inMemory := ObjectStore.memory_readsWithin .quiet
  have inCluster := ObjectStore.cluster_readsWithin_quiet server
  obtain ⟨overMemory, -, -⟩ := payload_carried .memory inMemory network {} {}
  obtain ⟨overCluster, -, -⟩ := payload_carried (.cluster server) inCluster network {} {}
  exact ⟨⟨inMemory, (overMemory report "nightly").2⟩, inCluster, (overCluster report "nightly").2⟩

end Dispatcher

end CleanupCourier
