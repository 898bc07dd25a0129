import CleanupCourier.Proofs.Destination.Effects
import CleanupCourier.Proofs.Work.Telling
import CleanupCourier.Report.Upsert

/-!
What deliveries and stores tell in the log. All their lines begin in ways of their own; none of them
begins like the line about a notification that failed, not even one that ends with the words of a
server.
-/
namespace CleanupCourier

variable {σ : Type}

/-- Holds of the text of a line about a notification that failed. -/
def TellsFailure (message : String) : Prop :=
  "failed to send notification: ".toList <+: message.toList

/-- Holds of the other texts. -/
def TellsOther (message : String) : Prop :=
  ¬ TellsFailure message

theorem tellsOther_append (start : String) {c : Char} {more : List Char}
    (h : start.toList = c :: more) (differs : c ≠ 'f') (rest : String) :
    TellsOther (start ++ rest) := by
  intro failure
  rw [TellsFailure, String.toList_append, h] at failure
  exact differs (List.cons_prefix_cons.mp failure).1.symm

theorem tellsOther_of {message : String} {c : Char} {more : List Char}
    (h : message.toList = c :: more) (differs : c ≠ 'f') : TellsOther message := by
  have alone := tellsOther_append message h differs ""
  rwa [String.append_empty] at alone

/-- Holds of a store whose operations tell only messages that `P` holds of. -/
structure ObjectStore.Tells (P : String → Prop) (store : ObjectStore σ) : Prop where
  getReport (name : String) : (store.getReport name).Tells P
  createReport (report : Report) : (store.createReport report).Tells P
  replaceReport (report : Report) : (store.replaceReport report).Tells P
  getSecret (namespaceName name : String) : (store.getSecret namespaceName name).Tells P

theorem ObjectStore.memory_tells (P : String → Prop) : memory.Tells P where
  getReport _ := Attempt.tells_of_events fun _ _ => rfl
  createReport _ := Attempt.tells_of_events fun _ _ => rfl
  replaceReport _ := Attempt.tells_of_events fun _ _ => rfl
  getSecret _ _ := Attempt.tells_of_events fun _ _ => rfl

theorem Api.tells_perform {α : Type} (P : String → Prop) (server : ApiServer) (decode : Decoder α)
    (request : Option ApiRequest) : (perform server decode request).Tells P := by
  cases request with
  | none => exact Attempt.tells_throw _
  | some request => exact Attempt.tells_of_events fun _ _ => rfl

theorem ObjectStore.cluster_tells (server : ApiServer) : (cluster server).Tells TellsOther where
  getReport _ := Attempt.tells_mapError (Api.tells_perform _ server _ _) _
  createReport report := by
    refine Attempt.tells_bind (Attempt.tells_log ?_ _ _) fun _ => ?_
    · exact tellsOther_append "Creating Report " rfl (by decide) _
    · exact Attempt.tells_mapError (Api.tells_perform _ server _ _) _
  replaceReport report := by
    refine Attempt.tells_bind (Attempt.tells_log ?_ _ _) fun _ => ?_
    · exact tellsOther_append "Replacing Report " rfl (by decide) _
    · exact Attempt.tells_mapError (Api.tells_perform _ server _ _) _
  getSecret _ _ := Attempt.tells_mapError (Api.tells_perform _ server _ _) _

namespace Report

variable {store : ObjectStore σ} (tells : store.Tells TellsOther)

include tells

theorem tells_found? (name : String) : (found? store name).Tells TellsOther := by
  refine Attempt.tells_tryCatch (Attempt.tells_map (tells.getReport name) _) fun error => ?_
  split
  case isTrue => exact Attempt.tells_pure _
  case isFalse => exact Attempt.tells_throw _

theorem tells_write (name : String) (spec : ReportSpec) (found : Option Report) :
    (write store name spec found).Tells TellsOther := by
  cases found with
  | none =>
    refine Attempt.tells_bind (Attempt.tells_log (tellsOther_of rfl (by decide)) _ _) fun _ => ?_
    refine Attempt.tells_bind (tells.createReport _) fun written => ?_
    exact Attempt.tells_bind (Attempt.tells_observe _) fun _ => Attempt.tells_pure _
  | some report =>
    refine Attempt.tells_bind (Attempt.tells_log (tellsOther_of rfl (by decide)) _ _) fun _ => ?_
    refine Attempt.tells_bind (tells.replaceReport _) fun written => ?_
    exact Attempt.tells_bind (Attempt.tells_observe _) fun _ => Attempt.tells_pure _

theorem tells_upsert (name : String) (spec : ReportSpec) :
    (upsert store name spec).Tells TellsOther :=
  Attempt.tells_bind (tells_found? tells name) fun found => tells_write tells name spec found

end Report

theorem Notification.tells_credentials {store : ObjectStore σ} (h : store.Tells TellsOther)
    (n : Notification) : (n.credentials store).Tells TellsOther := by
  refine Attempt.tells_bind (Attempt.tells_ofExcept _) fun ref => ?_
  refine Attempt.tells_bind (Attempt.tells_log ?_ _ _) fun _ => ?_
  · exact tellsOther_append "reading credentials from secret " rfl (by decide) _
  refine Attempt.tells_bind (Attempt.tells_mapError (h.getSecret _ _) _) fun secret => ?_
  exact Attempt.tells_ofExcept _

namespace Http

variable (P : String → Prop) (network : Network)

theorem tells_transmit (origin : Url) (request : HttpRequest) :
    (transmit network origin request : Attempt σ _ _).Tells P := by
  refine Attempt.tells_of_events fun spans w => ?_
  by_cases reached : isReached network request
  · rw [run_transmit_reached reached]
    rfl
  · rw [run_transmit_unreached reached]

/-- By induction on the redirects that are left. -/
theorem tells_follow (origin : Url) (left : Nat) (request : HttpRequest) :
    (follow network origin left request : Attempt σ _ _).Tells P := by
  induction left using Nat.strongRecOn generalizing request with
  | _ left ih =>
    rw [follow_eq]
    refine Attempt.tells_bind (tells_transmit P network origin request) fun response => ?_
    unfold proceed
    cases lead request response with
    | nowhere => exact Attempt.tells_pure _
    | astray => exact Attempt.tells_throw _
    | on next =>
      cases left with
      | zero => exact Attempt.tells_throw _
      | succ fewer =>
        dsimp only
        split
        · exact ih fewer fewer.lt_succ_self next
        · exact Attempt.tells_throw _

theorem tells_exchange (call : HttpCall) : (exchange network call : Attempt σ _ _).Tells P :=
  Attempt.tells_bind (Attempt.tells_ofExcept _) fun request =>
    tells_follow P network request.url maxRedirects request

end Http

/-- Holds of a posting whose closing line is not about a notification that failed. -/
def Posting.ClosesWell (p : Posting) : Prop :=
  ∀ response line, p.judge response = .ok line → TellsOther line

theorem Posting.tells_send {p : Posting} (h : p.ClosesWell) (network : Network) :
    (p.send network : Attempt σ _ _).Tells TellsOther := by
  refine Attempt.tells_within ?_ p.span
  refine Attempt.tells_bind (Attempt.tells_log ?_ _ _) fun _ => ?_
  · rw [String.append_assoc]
    exact tellsOther_append "send " rfl (by decide) _
  refine Attempt.tells_bind (Attempt.tells_ofExcept _) fun _ => ?_
  refine Attempt.tells_bind ?_ fun response => ?_
  · exact Attempt.tells_mapError (Http.tells_exchange _ network p.call) _
  refine Attempt.tells_bind_ofExcept fun line judged => Attempt.tells_log ?_ _ _
  unfold outcome at judged
  split at judged
  · exact h response line judged
  · exact nomatch judged

theorem Slack.closesWell (apiUrl : String) (info : SlackInfo) (d : Delivery) :
    (posting apiUrl info d).ClosesWell := by
  intro response line judged
  change judge response = .ok line at judged
  unfold judge at judged
  split at judged
  · exact nomatch judged
  · split at judged
    · cases judged
      exact tellsOther_of rfl (by decide)
    · exact nomatch judged

theorem Teams.closesWell (validator : WebhookValidator) (info : TeamsInfo) (d : Delivery) :
    (posting validator info d).ClosesWell := by
  intro response line judged
  cases judged
  exact tellsOther_of rfl (by decide)

theorem Discord.closesWell (apiUrl : String) (info : DiscordInfo) (d : Delivery) :
    (posting apiUrl info d).ClosesWell := by
  intro response line judged
  cases judged
  exact tellsOther_of rfl (by decide)

/-- The words of the server come behind words of the program. -/
theorem Webex.closesWell (apiUrl : String) (info : WebexInfo) (d : Delivery) :
    (posting apiUrl info d).ClosesWell := by
  intro response line judged
  change judge response = .ok line at judged
  unfold judge at judged
  split at judged
  · cases judged
    exact tellsOther_append "response: " rfl (by decide) _
  · exact nomatch judged

theorem Mailing.tells_send (network : Network) (info : SmtpInfo) (subject body : String)
    (isHtml : Bool) :
    (send network info subject body isHtml : Attempt σ _ _).Tells TellsOther := by
  rw [send_eq]
  refine Attempt.tells_within (Attempt.tells_bind ?_ fun _ => ?_) _
  · unfold remark
    split
    · exact Attempt.tells_log (tellsOther_of rfl (by decide)) _ _
    · exact Attempt.tells_pure _
  refine Attempt.tells_bind (Attempt.tells_ofExcept _) fun draft => ?_
  refine Attempt.tells_bind (Attempt.tells_of_events fun spans w => ?_) fun code => ?_
  · rw [run_handOver]
    rfl
  · exact Attempt.tells_log (tellsOther_append "smtp relay answered " rfl (by decide) _)
      _ _

namespace Sink

variable {store : ObjectStore σ} (tells : store.Tells TellsOther)

include tells

theorem tells_posting {ι : Type} {p : ι → Delivery → Posting} {d : Delivery}
    (h : ∀ i, (p i d).ClosesWell) (network : Network)
    (info : SecretData → Except DeliveryError ι) (n : Notification) :
    (posting store network info p d n).Tells TellsOther := by
  refine Attempt.tells_bind (n.tells_credentials tells) fun data => ?_
  exact Attempt.tells_bind (Attempt.tells_ofExcept _) fun i => Posting.tells_send (h i) network

theorem tells_smtp (network : Network) (d : Delivery) (n : Notification) :
    (smtp store network d n).Tells TellsOther := by
  refine Attempt.tells_within ?_ _
  refine Attempt.tells_bind (Attempt.tells_log (tellsOther_of rfl (by decide)) _ _) fun _ => ?_
  refine Attempt.tells_bind (n.tells_credentials tells) fun data => ?_
  refine Attempt.tells_bind (Attempt.tells_ofExcept _) fun info => ?_
  exact Mailing.tells_send network info _ _ _

end Sink

/-- No sink tells that a notification failed; that is left to the one who hands out deliveries. -/
theorem Sinks.tells_make {store : ObjectStore σ} (tells : store.Tells TellsOther)
    (network : Network) (settings : Settings) (validator : WebhookValidator) (d : Delivery) :
    (make store network settings validator).Each d fun _ attempt => attempt.Tells TellsOther where
  slack := Sink.tells_posting tells (Slack.closesWell _ · d) network _
  teams := Sink.tells_posting tells (Teams.closesWell _ · d) network _
  discord := Sink.tells_posting tells (Discord.closesWell _ · d) network _
  webex := Sink.tells_posting tells (Webex.closesWell _ · d) network _
  smtp := Sink.tells_smtp tells network d

end CleanupCourier
