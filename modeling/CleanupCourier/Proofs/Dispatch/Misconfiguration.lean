import CleanupCourier.Dispatch
import CleanupCourier.Proofs.Destination.Course
import CleanupCourier.Proofs.Work.Foresight

/-!
Mistakes in the configuration are silent and do not depend on the network. A delivery finds them,
and a Secret that is not there, before it sends anything; so whoever is on the network, it fails in
the same way, and nobody but the journal hears of it.
-/
namespace CleanupCourier

/-- Holds of errors of configuration, and of those of the store. -/
def DeliveryError.IsForeseen (error : DeliveryError) : Prop :=
  error.isConfiguration ∨ ∃ fault, error = .store fault

variable {σ : Type}

section Errors

open DeliveryError

theorem not_isForeseen_transport (destination : String) (fault : TransportFault) :
    ¬ (transport destination fault).IsForeseen := by
  simp [IsForeseen, isConfiguration]

theorem not_isForeseen_api (destination : String) (status : Nat) (message : String) :
    ¬ (api destination status message).IsForeseen := by
  simp [IsForeseen, isConfiguration]

theorem not_isForeseen_mail (reason : String) : ¬ (mail reason).IsForeseen := by
  simp [IsForeseen, isConfiguration]

end Errors

namespace Posting

/-- Holds of a posting that finds fault in an answer for no reason of configuration. -/
def JudgesAnswers (p : Posting) : Prop :=
  ∀ response error, p.judge response = .error error → ¬ error.IsForeseen

theorem JudgesAnswers.outcome {p : Posting} (h : p.JudgesAnswers) {response : HttpResponse}
    {error : DeliveryError} (failed : p.outcome response = .error error) : ¬ error.IsForeseen := by
  unfold Posting.outcome at failed
  split at failed
  · exact h response error failed
  · cases failed
    exact not_isForeseen_api _ _ _

/-- After its check a posting has no failure to foresee. -/
theorem foretells_send {p : Posting} (h : p.JudgesAnswers) (network network' : Network) :
    Attempt.Foretells DeliveryError.IsForeseen (p.send network : Attempt σ _ _)
      (p.send network') := by
  refine Attempt.foretells_within ?_ p.span
  refine Attempt.foretells_bind (Attempt.respects_log _ _ _) fun _ => ?_
  refine Attempt.foretells_bind (Attempt.respects_ofExcept _) fun _ => ?_
  refine Attempt.Avoids.foretells (Attempt.avoids_bind ?_ fun response => ?_)
  · exact Attempt.avoids_mapError _ (not_isForeseen_transport p.destination)
  · refine Attempt.avoids_bind (Attempt.avoids_ofExcept fun error failed => h.outcome failed) ?_
    exact fun _ => Attempt.avoids_log _ _ _

end Posting

theorem Slack.judgesAnswers (apiUrl : String) (info : SlackInfo) (d : Delivery) :
    (posting apiUrl info d).JudgesAnswers := by
  intro response error failed
  change judge response = _ at failed
  unfold judge at failed
  split at failed
  · cases failed
    exact not_isForeseen_transport _ _
  · split at failed
    · exact nomatch failed
    · cases failed
      exact not_isForeseen_api _ _ _

theorem Teams.judgesAnswers (validator : WebhookValidator) (info : TeamsInfo) (d : Delivery) :
    (posting validator info d).JudgesAnswers :=
  fun _ _ failed => nomatch failed

theorem Discord.judgesAnswers (apiUrl : String) (info : DiscordInfo) (d : Delivery) :
    (posting apiUrl info d).JudgesAnswers :=
  fun _ _ failed => nomatch failed

theorem Webex.judgesAnswers (apiUrl : String) (info : WebexInfo) (d : Delivery) :
    (posting apiUrl info d).JudgesAnswers := by
  intro response error failed
  change judge response = _ at failed
  unfold judge at failed
  split at failed
  · exact nomatch failed
  · cases failed
    exact not_isForeseen_transport _ _

namespace Mailing

theorem avoids_handOver (network : Network) (info : SmtpInfo) (draft : Draft) :
    (handOver network info draft : Attempt σ _ _).Avoids DeliveryError.IsForeseen := by
  intro spans w error v ran
  rw [run_handOver] at ran
  cases result : (outcome network info draft w.traffic).result with
  | ok code =>
    rw [result] at ran
    exact nomatch ran
  | error fault =>
    rw [result] at ran
    cases ran
    exact not_isForeseen_mail _

/-- Once it is made a mail has no failure to foresee. -/
theorem foretells_send (network network' : Network) (info : SmtpInfo) (subject body : String)
    (isHtml : Bool) :
    Attempt.Foretells DeliveryError.IsForeseen
      (send network info subject body isHtml : Attempt σ _ _)
      (send network' info subject body isHtml) := by
  rw [send_eq, send_eq]
  refine Attempt.foretells_within ?_ _
  refine Attempt.foretells_bind (respects_remark info) fun _ => ?_
  refine Attempt.foretells_bind (Attempt.respects_ofExcept _) fun draft => ?_
  refine Attempt.Avoids.foretells (Attempt.avoids_bind (avoids_handOver network info draft) ?_)
  exact fun _ => Attempt.avoids_log _ _ _

end Mailing

namespace Sink

variable {store : ObjectStore σ} (reads : store.ReadsWithin .quiet) (network network' : Network)
  (d : Delivery) (n : Notification)

include reads

theorem foretells_posting {ι : Type} (info : SecretData → Except DeliveryError ι)
    {p : ι → Delivery → Posting} (h : ∀ i, (p i d).JudgesAnswers) :
    Attempt.Foretells DeliveryError.IsForeseen (posting store network info p d n)
      (posting store network' info p d n) := by
  refine Attempt.foretells_bind (n.respects_credentials reads) fun data => ?_
  refine Attempt.foretells_bind (Attempt.respects_ofExcept _) fun i => ?_
  exact Posting.foretells_send (h i) network network'

theorem foretells_smtp :
    Attempt.Foretells DeliveryError.IsForeseen (smtp store network d n)
      (smtp store network' d n) := by
  refine Attempt.foretells_within ?_ _
  refine Attempt.foretells_bind (Attempt.respects_log _ _ _) fun _ => ?_
  refine Attempt.foretells_bind (n.respects_credentials reads) fun data => ?_
  refine Attempt.foretells_bind (Attempt.respects_ofExcept _) fun info => ?_
  exact Mailing.foretells_send network network' info _ _ _

end Sink

namespace Sinks

/-- The ways to one of the sinks. -/
def all : List (Sinks σ → Sink σ) :=
  [slack, teams, discord, webex, smtp]

theorem foretells_make {store : ObjectStore σ} (reads : store.ReadsWithin .quiet)
    (network network' : Network) (settings : Settings) (validator : WebhookValidator)
    (d : Delivery) (n : Notification) :
    ∀ sink ∈ all, Attempt.Foretells DeliveryError.IsForeseen
      (sink (make store network settings validator) d n)
      (sink (make store network' settings validator) d n) := by
  simp only [all, List.forall_mem_cons, List.not_mem_nil, false_implies, implies_true, and_true]
  refine ⟨?_, ?_, ?_, ?_, ?_⟩
  · exact Sink.foretells_posting reads network network' d n _ fun i => Slack.judgesAnswers _ i d
  · exact Sink.foretells_posting reads network network' d n _ fun i => Teams.judgesAnswers _ i d
  · exact Sink.foretells_posting reads network network' d n _ fun i => Discord.judgesAnswers _ i d
  · exact Sink.foretells_posting reads network network' d n _ fun i => Webex.judgesAnswers _ i d
  · exact Sink.foretells_smtp reads network network' d n

end Sinks

/-- A change of what is in memory sends nothing. -/
theorem respects_edit {α : Type} (edit : MemoryStore → Except StoreError α × MemoryStore) :
    (do
      let (result, objects) := edit (← get).objects
      modify fun w => { w with objects }
      Attempt.ofExcept result : Attempt MemoryStore StoreError α).Respects .quiet := by
  refine Attempt.respects_bind Attempt.respects_get fun _ => ?_
  refine Attempt.respects_bind (Attempt.respects_modify fun _ => rfl) fun _ => ?_
  exact Attempt.respects_ofExcept _

theorem Report.respects_upsert_memory (name : String) (spec : ReportSpec) :
    (upsert .memory name spec).Respects .quiet := by
  have found : (found? .memory name).Respects .quiet := by
    refine Attempt.respects_tryCatch (Attempt.respects_map ?_ _) fun error => ?_
    · exact Attempt.respects_bind Attempt.respects_get fun _ => Attempt.respects_ofExcept _
    · split
      · exact Attempt.respects_pure _
      · exact Attempt.respects_throw _
  refine Attempt.respects_bind found fun report? => ?_
  cases report? with
  | none =>
    refine Attempt.respects_bind (Attempt.respects_log _ _ _) fun _ => ?_
    refine Attempt.respects_bind (respects_edit (·.createReport (.new name spec))) fun _ => ?_
    exact Attempt.respects_bind (Attempt.respects_observe _) fun _ => Attempt.respects_pure _
  | some report =>
    refine Attempt.respects_bind (Attempt.respects_log _ _ _) fun _ => ?_
    refine Attempt.respects_bind (respects_edit (·.replaceReport { report with spec })) fun _ => ?_
    exact Attempt.respects_bind (Attempt.respects_observe _) fun _ => Attempt.respects_pure _

namespace Dispatcher

variable (network network' : Network) (settings : Settings) (n : Notification)

theorem foretells_deliver (validator : WebhookValidator) (cleanerName : String)
    (report : ReportSpec) (kept : Option String) :
    Attempt.Foretells DeliveryError.IsForeseen
      (deliver ⟨.memory, Sinks.make .memory network settings validator⟩ cleanerName report kept n)
      (deliver ⟨.memory, Sinks.make .memory network' settings validator⟩ cleanerName report kept
        n) := by
  have sinks := Sinks.foretells_make (ObjectStore.memory_readsWithin .quiet) network network'
    settings validator ⟨kept.getD report.payload, reportMessage cleanerName⟩ n
  have brings : ∀ sink ∈ Sinks.all, Attempt.Foretells DeliveryError.IsForeseen
      (bring cleanerName report kept
        (sink (Sinks.make ObjectStore.memory network settings validator)) n)
      (bring cleanerName report kept
        (sink (Sinks.make ObjectStore.memory network' settings validator)) n) :=
    fun sink mem => Attempt.foretells_bind_of_avoids (sinks sink mem) fun _ => Attempt.avoids_pure _
  simp only [Sinks.all, List.forall_mem_cons] at brings
  obtain ⟨slack, teams, discord, webex, smtp, -⟩ := brings
  unfold deliver
  cases n.type with
  | cleanerReport =>
    refine Attempt.foretells_bind_of_avoids (Attempt.foretells_of_quiet ?_) fun _ =>
      Attempt.avoids_pure _
    exact Attempt.respects_mapError (Report.respects_upsert_memory cleanerName report) _
  | slack => exact slack
  | teams => exact teams
  | discord => exact discord
  | webex => exact webex
  | smtp => exact smtp
  | unsupported name => exact Attempt.foretells_of_quiet (Attempt.respects_throw _)

/-- A delivery that fails for its configuration, or for its Secret that cannot be looked up, fails
so on every network, from the setting up of the notifier on, and it sends nothing: neither if the
text that goes out is the one of the dispatcher, nor for any other message and report that a sink
is handed. -/
theorem misconfiguration_foretold (cleanerName : String) (report : ReportSpec)
    (kept : Option String) (d : Delivery) :
    Attempt.Foretells DeliveryError.IsForeseen
      (do
        let dispatcher ← Attempt.ofExcept (ofSettings .memory network settings)
        dispatcher.deliver cleanerName report kept n)
      (do
        let dispatcher ← Attempt.ofExcept (ofSettings .memory network' settings)
        dispatcher.deliver cleanerName report kept n) ∧
    ∀ sink ∈ Sinks.all, Attempt.Foretells DeliveryError.IsForeseen
      (do
        let sinks ← Attempt.ofExcept (Sinks.ofSettings .memory network settings)
        sink sinks d n)
      (do
        let sinks ← Attempt.ofExcept (Sinks.ofSettings .memory network' settings)
        sink sinks d n) := by
  unfold ofSettings Sinks.ofSettings
  cases WebhookValidator.ofSettings settings with
  | error error =>
    refine ⟨fun spans w _ v ran _ => ?_, fun sink _ spans w _ v ran _ => ?_⟩
    · cases ran
      exact ⟨rfl, rfl⟩
    · cases ran
      exact ⟨rfl, rfl⟩
  | ok validator =>
    refine ⟨foretells_deliver network network' settings n validator cleanerName report kept, ?_⟩
    exact Sinks.foretells_make (ObjectStore.memory_readsWithin .quiet) network network' settings
      validator d n

/-- A webhook at a host that is not known is not contacted, even if nobody could answer. -/
theorem misconfiguration_foretold_unknown_host :
    let network := Network.scripted [] {}
    let silent : Network := { network with reach := fun _ _ => .refused }
    let w := Teams.hookWorld "https://[::1]/hook"
    let error : DeliveryError := .invalidWebhookUrl "URL does not match a known Teams webhook host"
    let delivered (network : Network) := (do
      let sinks ← Attempt.ofExcept (Sinks.ofSettings .memory network {})
      sinks.teams ⟨"", "nightly"⟩ Teams.hookNotification : Attempt _ _ _).run [] w
    (delivered network).1 = .error error ∧ error.IsForeseen ∧
      delivered silent = delivered network ∧ (delivered network).2.traffic = w.traffic := by
  intro network silent w error delivered
  have failed : (delivered network).1 = .error error := by decide +kernel
  have foreseen : error.IsForeseen := .inl rfl
  obtain ⟨-, sinks⟩ := misconfiguration_foretold network silent {} Teams.hookNotification "nightly"
    {} none ⟨"", "nightly"⟩
  obtain ⟨same, quiet⟩ := sinks Sinks.teams (by simp [Sinks.all]) [] w error (delivered network).2
    (Prod.ext failed rfl) foreseen
  exact ⟨failed, foreseen, same.trans (Prod.ext failed.symm rfl), quiet⟩

end Dispatcher

end CleanupCourier
