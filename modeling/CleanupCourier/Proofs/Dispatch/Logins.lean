import CleanupCourier.Proofs.Dispatch.Agreement
import CleanupCourier.Proofs.Dispatch.History

/-!
Who logs in shows nowhere but in the log-in. Over the store in memory a run is the same to every
onlooker whatever tokens and passwords stand in the Secrets, as long as a header can hold the tokens
and the passwords are not empty: the values that log in differ, and nothing else that is sent,
logged, counted, stored or told as an error. The texts that describe credentials in diagnostics do
not tell them either.
-/
namespace CleanupCourier

open Credentials

theorem Http.isHeaderText_append (before s : String) :
    isHeaderText (before ++ s) = (isHeaderText before && isHeaderText s) := by
  simp only [isHeaderText, String.toList_append, List.all_append]

/-- Tokens may be replaced by any that a header can hold as well, and passwords by any. -/
def Tolerance.logins : Tolerance where
  veil := .logins
  login s s' := Http.isHeaderText s = Http.isHeaderText s'
  value key a a' := a = a' ∨
    (key ∈ tokenKeys ∧ Http.isHeaderText (textOf a) ∧ Http.isHeaderText (textOf a')) ∨
    (key = "SMTP_PASSWORD" ∧ (textOf a).isEmpty = false ∧ (textOf a').isEmpty = false)
  login_refl _ := rfl
  isHeaderText_eq same := same
  request_eq := Veil.logins_request_eq
  token := by
    intro key a a' mem related before
    obtain rfl | ⟨-, holds, holds'⟩ | ⟨rfl, -⟩ := related
    · rfl
    · rw [Http.isHeaderText_append, Http.isHeaderText_append, holds, holds']
    · exact absurd mem (by decide)
  password := by
    intro a a' related
    obtain rfl | ⟨mem, -⟩ | ⟨-, some, some'⟩ := related
    · exact ⟨rfl, fun _ => rfl⟩
    · exact absurd mem (by decide)
    · exact ⟨some.trans some'.symm, fun _ => rfl⟩
  open_eq := by
    intro key a a' shown related
    obtain same | ⟨mem, -⟩ | ⟨rfl, -⟩ := related
    · exact same
    · exact absurd (List.mem_cons_of_mem _ (List.mem_cons_of_mem _ mem)) shown
    · exact absurd (by decide) shown

theorem Tolerance.webhook_eq_of_logins {a a' : Bytes}
    (h : logins.value "TEAMS_WEBHOOK_URL" a a') : a = a' := by
  obtain same | ⟨mem, -⟩ | ⟨eq, -⟩ := h
  · exact same
  · exact absurd mem (by decide)
  · exact absurd eq (by decide)

namespace Dispatcher

/-- A run over Secrets of which only tokens and passwords are changed has the same result, sends
the same but for the values that log in, logs and counts the same and leaves the same Reports. What
describes credentials in diagnostics does not tell a token or a password. -/
theorem perform_hides_logins (network : Network) (overlooks : network.Overlooks .logins)
    (settings : Settings) (validator : WebhookValidator) (run : Run) (spans : List Span)
    (w : World MemoryStore) (objects : MemoryStore)
    (changed : w.objects.Resembles .logins objects) :
    let dispatcher := inMemory (Sinks.make .memory network settings validator)
    let ended := (dispatcher.perform run).run spans w
    let ended' := (dispatcher.perform run).run spans { w with objects }
    (ended.1 = ended'.1 ∧
      Veil.logins.traffic ended.2.traffic = Veil.logins.traffic ended'.2.traffic ∧
      ended.2.journal = ended'.2.journal ∧
      ended.2.objects.reports = ended'.2.objects.reports) ∧
    (∀ (i : SlackInfo) (token : String), { i with token }.describe = i.describe) ∧
    (∀ (i : DiscordInfo) (token : String), { i with token }.describe = i.describe) ∧
    (∀ (i : WebexInfo) (token : String), { i with token }.describe = i.describe) ∧
    ∀ (i : SmtpInfo) (password : String), { i with password }.describe = i.describe ∧
      { i with password }.describeMailer = i.describeMailer := by
  intro dispatcher ended ended'
  have agree := ObjectStore.memory_agree .logins
  have step (n : Notification) : EndsAlike ⟨MemoryStore.Resembles .logins, .logins⟩
      (fun _ _ _ => True) dispatcher dispatcher run n := by
    intro spans w v holds _ _
    refine agree_handler overlooks agree settings validator run n (fun _ => ?_) _ w v holds
    exact Sink.agree_teams overlooks agree settings validator
      (fun _ _ => Tolerance.webhook_eq_of_logins) run.delivery n
  have each (u : World MemoryStore) :
      dispatcher.EachAttempt (fun _ _ _ => True) run spans run.entries u :=
    eachAttempt_of_forall (fun _ _ _ => trivial) run spans run.entries u
  have bound : Bond.Holds ⟨MemoryStore.Resembles .logins, .logins⟩ w { w with objects } :=
    ⟨changed, rfl, rfl⟩
  obtain ⟨result, state⟩ := agree_perform step bound (each _) (each _)
  refine ⟨⟨result.eq, state.traffic, state.journal, state.objects.reports⟩, ?_⟩
  exact ⟨fun _ _ => rfl, fun _ _ => rfl, fun _ _ => rfl, fun _ _ => ⟨rfl, rfl⟩⟩

/-- A Secret for Slack. -/
def slackSecret (token : String) : Secret where
  metadata := { namespaceName := some "ops", name := some "slack" }
  data := some ((KeyMap.empty.insert "SLACK_TOKEN" (utf8 token)).insert "SLACK_CHANNEL_ID"
    (utf8 "reports"))

/-- A run that notifies Slack. -/
def slackRun : Run where
  now := ⟨0, 0⟩
  results := []
  cleaner := ⟨.named "nightly", "0 3 * * *", .scan,
    [⟨"team", .slack, some ⟨"Secret", "ops", "slack", "v1"⟩⟩]⟩

/-- What comes of this run over a store with nothing but a Secret. -/
def slackEnd (secret : Secret) : Except DeliveryError Unit × World MemoryStore :=
  ((inMemory (Sinks.make .memory (.scripted [] {}) { slackApiUrl := "https://[::1]/api" }
    {})).perform slackRun).run [] { objects := MemoryStore.empty.insertSecret secret }

/-- Two tokens for Slack make two runs that differ in the header that logs in. -/
theorem perform_hides_logins_slack :
    let one := slackSecret "one"
    let two := slackSecret "two"
    ((Network.scripted [] {}).Overlooks .logins ∧ Tolerance.logins.Secret one two) ∧
      ((slackEnd one).1 = (slackEnd two).1 ∧
        (slackEnd one).2.journal = (slackEnd two).2.journal) ∧
      (slackEnd one).2.traffic.requests.map (·.authorization) = [["Bearer one"]] ∧
      (slackEnd two).2.traffic.requests.map (·.authorization) = [["Bearer two"]] := by
  intro one two
  have overlooks : (Network.scripted [] {}).Overlooks .logins := Network.scripted_overlooks _ _ _
  have tokens : Tolerance.logins.value "SLACK_TOKEN" (utf8 "one") (utf8 "two") :=
    .inr (.inl ⟨by decide, by decide +kernel, by decide +kernel⟩)
  have secrets : Tolerance.logins.Secret one two :=
    .some (((Tolerance.data_empty _).insert tokens).insert (.inl rfl))
  have changed : (MemoryStore.empty.insertSecret one).Resembles .logins
      (MemoryStore.empty.insertSecret two) :=
    (MemoryStore.resembles_empty .logins).insertSecret ⟨rfl, rfl⟩ secrets
  obtain ⟨⟨result, -, journal, -⟩, -⟩ := perform_hides_logins (.scripted [] {}) overlooks
    { slackApiUrl := "https://[::1]/api" } {} slackRun [] { objects := .insertSecret .empty one }
    (.insertSecret .empty two) changed
  exact ⟨⟨overlooks, secrets⟩, ⟨result, journal⟩, by decide +kernel, by decide +kernel⟩

end Dispatcher

end CleanupCourier
