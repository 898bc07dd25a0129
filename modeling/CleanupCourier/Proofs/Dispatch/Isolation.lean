import CleanupCourier.Proofs.Destination.Pairing
import CleanupCourier.Proofs.Dispatch.Agreement
import CleanupCourier.Proofs.Dispatch.History
import CleanupCourier.Proofs.Store.Calls

/-!
What a run takes from the past. Whatever happened to a dispatcher and its store in memory before, a
run goes by the Secrets that its own notifications refer to, as they are by then, and by nothing
else: Reports in the store only decide whether one is said to be created or updated. So it comes to
the same, and sends the same, as on a dispatcher that has just been made.
-/
namespace CleanupCourier

/-- What was sent, with more after it. -/
def Traffic.andThen (before more : Traffic) : Traffic :=
  ⟨before.requests ++ more.requests, before.talks ++ more.talks⟩

/-- The network as it goes on after some traffic. -/
def Network.after (network : Network) (before : Traffic) : Network where
  reach := network.reach
  reply traffic := network.reply (before.andThen traffic)
  relay traffic := network.relay (before.andThen traffic)

namespace Journal

/-- What was taken down, with more after it. -/
def andThen (before more : Journal) : Journal :=
  ⟨before.events ++ more.events, before.observations ++ more.observations⟩

theorem andThen_assoc (j k l : Journal) : (j.andThen k).andThen l = j.andThen (k.andThen l) := by
  simp only [andThen, List.append_assoc]

/-- Holds of journals with the same entries, but that a Report that is written may be said to be
created in one where it is said to be updated in the other. -/
inductive SameButWrites : Journal → Journal → Prop
  | start : SameButWrites {} {}
  | noting {j k : Journal} (same : SameButWrites j k) (more : Journal) :
    SameButWrites (j.andThen more) (k.andThen more)
  | written {j k : Journal} (same : SameButWrites j k) (spans : List Span)
      (found found' : Option Report) :
    SameButWrites (j.andThen (Report.writeNote spans found))
      (k.andThen (Report.writeNote spans found'))

end Journal

/-- The Secret of a namespace and a name is one that some notifications refer to. -/
def Refers (entries : List Notification) (namespaceName name : String) : Prop :=
  ∃ n ∈ entries, ∃ ref, n.secretRef = .ok ref ∧ ref.namespaceName = namespaceName ∧ ref.name = name

/-- Holds of a world that came about from an earlier one as another world did from nothing, as far
as a run with some entries is concerned. -/
structure World.Resumes (earlier : World MemoryStore) (entries : List Notification)
    (w v : World MemoryStore) : Prop where
  keyed : w.objects.Keyed
  keyed' : v.objects.Keyed
  secrets (namespaceName name : String) : Refers entries namespaceName name →
    w.objects.secret? namespaceName name = v.objects.secret? namespaceName name
  traffic : w.traffic = earlier.traffic.andThen v.traffic
  journal : ∃ said, w.journal = earlier.journal.andThen said ∧ said.SameButWrites v.journal

namespace World.Resumes

variable {earlier w v : World MemoryStore} {entries : List Notification}

theorem noting (h : earlier.Resumes entries w v) (j : Journal) :
    earlier.Resumes entries (w.noting j) (v.noting j) :=
  { h with
    journal := by
      obtain ⟨said, eq, same⟩ := h.journal
      refine ⟨said.andThen j, ?_, same.noting j⟩
      rw [← Journal.andThen_assoc, ← eq]
      rfl }

/-- A Report may be new to one world and known to the other. -/
theorem written (h : earlier.Resumes entries w v) (run : Run) (spans : List Span) :
    earlier.Resumes entries
      (({ w with objects := w.objects.put (w.objects.revised run.name run.report) } :
        World _).noting (Report.writeNote spans (w.objects.report? run.name)))
      (({ v with objects := v.objects.put (v.objects.revised run.name run.report) } :
        World _).noting (Report.writeNote spans (v.objects.report? run.name))) where
  keyed := h.keyed.put _
  keyed' := h.keyed'.put _
  secrets := h.secrets
  traffic := h.traffic
  journal := by
    obtain ⟨said, eq, same⟩ := h.journal
    refine ⟨said.andThen (Report.writeNote spans (w.objects.report? run.name)), ?_,
      same.written spans _ _⟩
    rw [← Journal.andThen_assoc, ← eq]
    rfl

/-- To a network that goes on after the earlier traffic the two worlds look the same. -/
theorem parallel (earlier : World MemoryStore) (entries : List Notification) (network : Network) :
    Parallel network (network.after earlier.traffic) (earlier.Resumes entries) where
  reach := rfl
  reply h := congrArg network.reply h.traffic
  relay h := congrArg network.relay h.traffic
  logged h events := h.noting { events }
  requested h request := { h with
    traffic := by simp only [World.requested, h.traffic, Traffic.andThen, List.append_assoc] }
  talked h talks := { h with
    traffic := by simp only [World.talked, h.traffic, Traffic.andThen, List.append_assoc] }

/-- A Secret that is referred to reads the same in both worlds. -/
theorem paired_getSecret {n : Notification} (mem : n ∈ entries) {ref : NotificationRef}
    (named : n.secretRef = .ok ref) :
    Attempt.Paired (earlier.Resumes entries) Eq
      (ObjectStore.memory.getSecret ref.namespaceName ref.name)
      (ObjectStore.memory.getSecret ref.namespaceName ref.name) := by
  intro spans w v related
  rw [ObjectStore.run_getSecret_memory, ObjectStore.run_getSecret_memory, MemoryStore.getSecret,
    MemoryStore.getSecret, related.secrets _ _ ⟨n, mem, ref, named, rfl, rfl⟩]
  exact ⟨.refl _, related⟩

end World.Resumes

namespace Dispatcher

/-- The dispatcher of the program over the store in memory, on a network. -/
abbrev onNetwork (settings : Settings) (validator : WebhookValidator) (network : Network) :
    Dispatcher MemoryStore :=
  inMemory (Sinks.make .memory network settings validator)

section Outcome

variable (settings : Settings) (validator : WebhookValidator) (network : Network)
  (earlier : World MemoryStore)

/-- The step of a run: an entry ends alike, whether it is for the store or for a sink. -/
theorem alike_outcome {run : Run} {n : Notification} (mem : n ∈ run.entries) (spans : List Span)
    {w v : World MemoryStore} (h : earlier.Resumes run.entries w v) :
    Alike (earlier.Resumes run.entries) Eq
      ((onNetwork settings validator network).outcome run spans w n)
      ((onNetwork settings validator (network.after earlier.traffic)).outcome run spans v n) := by
  by_cases type : n.type = .cleanerReport
  · rw [outcome_report h.keyed type, outcome_report h.keyed' type]
    exact ⟨.ok rfl, h.written run _⟩
  · obtain ⟨slack, teams, discord, webex, smtp⟩ := Sinks.paired_make
      (World.Resumes.parallel earlier run.entries network)
      (fun ref named => World.Resumes.paired_getSecret mem named) settings validator run.delivery
    refine (?_ : Attempt.Paired (earlier.Resumes run.entries) Eq _ _) (spans ++ [span n]) w v h
    unfold handler
    cases sort : n.type with
    | cleanerReport => exact absurd sort type
    | slack => exact slack
    | teams => exact teams
    | discord => exact discord
    | webex => exact webex
    | smtp => exact smtp
    | unsupported name => exact Attempt.paired_throw _

theorem alike_run (run : Run) (spans : List Span) {w v : World MemoryStore}
    (h : earlier.Resumes run.entries w v) :
    Alike (earlier.Resumes run.entries) Eq
      (((onNetwork settings validator network).perform run).run spans w)
      (((onNetwork settings validator (network.after earlier.traffic)).perform run).run spans v) :=
  alike_perform (P := fun _ _ _ => True) (fun _ _ j related => related.noting j)
    (fun _ mem _ _ related _ _ => alike_outcome settings validator network earlier mem spans
      related) h (eachAttempt_of_forall (fun _ _ _ => trivial) run spans _ w)
    (eachAttempt_of_forall (fun _ _ _ => trivial) run spans _ v)

end Outcome

end Dispatcher

/-- What may happen to a dispatcher over a store in memory: a call of its store, or a run, with the
network as it is by then. -/
inductive Happening where
  | called (call : MemoryCall)
  | ran (network : Network) (run : Run)

namespace Happening

section Past

variable (settings : Settings) (validator : WebhookValidator) (spans : List Span)

def after (w : World MemoryStore) : Happening → World MemoryStore
  | .called call => (call.perform.run spans w).2
  | .ran network run =>
    (Dispatcher.onNetwork settings validator network).afterRun spans w run

/-- The world after all that happened, whatever failed of it. -/
def afterAll (past : List Happening) (w : World MemoryStore) : World MemoryStore :=
  past.foldl (after settings validator spans) w

end Past

def call? : Happening → Option MemoryCall
  | .called call => some call
  | .ran _ _ => none

/-- The current version of a Secret: the one that was inserted last. -/
def current? (past : List Happening) (namespaceName name : String) : Option Secret :=
  MemoryCall.lastSecret? namespaceName name (past.filterMap call?)

/-- The current versions of the Secrets that some notifications refer to. -/
def referred (past : List Happening) (entries : List Notification) : List Secret :=
  entries.filterMap fun n =>
    n.secretRef.toOption.bind fun ref => current? past ref.namespaceName ref.name

/-- What the store keeps through all that happens: everything is under its own name, and the Secrets
are the current ones. -/
structure Kept (past : List Happening) (store : MemoryStore) : Prop where
  keyed : store.Keyed
  secrets (namespaceName name : String) :
    store.secret? namespaceName name = current? past namespaceName name

section Kept

variable {settings : Settings} {validator : WebhookValidator} {spans : List Span}
  {past : List Happening} {w : World MemoryStore}

theorem afterAll_snoc (past : List Happening) (last : Happening) (w : World MemoryStore) :
    afterAll settings validator spans (past ++ [last]) w =
      last.after settings validator spans (afterAll settings validator spans past w) := by
  rw [afterAll, List.foldl_append]
  rfl

theorem current?_called (past : List Happening) (call : MemoryCall) (namespaceName name : String) :
    current? (past ++ [.called call]) namespaceName name =
      (call.secret? namespaceName name).or (current? past namespaceName name) := by
  rw [current?, List.filterMap_append]
  exact MemoryCall.lastSecret?_snoc namespaceName name (past.filterMap call?) call

theorem current?_ran (past : List Happening) (network : Network) (run : Run)
    (namespaceName name : String) :
    current? (past ++ [.ran network run]) namespaceName name =
      current? past namespaceName name := by
  rw [current?, List.filterMap_append]
  exact congrArg _ (List.append_nil (past.filterMap call?))

theorem Kept.called (h : Kept past w.objects) (call : MemoryCall) :
    Kept (past ++ [.called call]) (call.perform.run spans w).2.objects := by
  obtain ⟨none, same | ⟨report, put⟩⟩ | ⟨secret, rfl, inserted⟩ := call.perform_objects spans w
  · refine ⟨same ▸ h.keyed, fun namespaceName name => ?_⟩
    rw [same, current?_called, none, Option.none_or, h.secrets]
  · refine ⟨put ▸ h.keyed.put report, fun namespaceName name => ?_⟩
    rw [put, current?_called, none, Option.none_or]
    exact h.secrets namespaceName name
  · refine ⟨inserted ▸ h.keyed, fun namespaceName name => ?_⟩
    rw [inserted, current?_called, MemoryStore.secret?_insertSecret, h.secrets]

theorem Kept.ran (h : Kept past w.objects) (network : Network) (run : Run) :
    Kept (past ++ [.ran network run])
      ((Dispatcher.onNetwork settings validator network).afterRun spans w run).objects := by
  obtain ⟨writes, keeps⟩ := Dispatcher.afterRun_objects
    (Dispatcher.onlyRead_make network settings validator) run spans h.keyed
  by_cases reaches : (Dispatcher.onNetwork settings validator network).Reaches spans run w
  · have wrote := writes reaches
    refine ⟨wrote.keyed h.keyed, fun namespaceName name => ?_⟩
    rw [current?_ran, ← h.secrets, MemoryStore.secret?, MemoryStore.secret?, wrote.secrets]
  · refine ⟨(keeps reaches).symm ▸ h.keyed, fun namespaceName name => ?_⟩
    rw [current?_ran, keeps reaches, h.secrets]

/-- By induction on the past from its end. -/
theorem kept_afterAll (past : List Happening) (start : w.objects = .empty) :
    Kept past (afterAll settings validator spans past w).objects := by
  induction past using List.reverseRecOn with
  | nil =>
    change Kept [] w.objects
    rw [start]
    exact ⟨fun _ _ found => (nomatch found), fun _ _ => rfl⟩
  | append_singleton past last ih =>
    rw [afterAll_snoc]
    cases last with
    | called call => exact ih.called call
    | ran network run => exact ih.ran network run

end Kept

section Fresh

variable {past : List Happening} {entries : List Notification} {secret : Secret}

theorem mem_referred : secret ∈ referred past entries ↔
    ∃ n ∈ entries, ∃ ref, n.secretRef = .ok ref ∧
      current? past ref.namespaceName ref.name = some secret := by
  simp only [referred, List.mem_filterMap, Option.bind_eq_some_iff]
  refine exists_congr fun n => and_congr_right fun _ => exists_congr fun ref => ?_
  refine and_congr_left fun _ => ?_
  cases n.secretRef with
  | error error => exact iff_of_false nofun nofun
  | ok ref' =>
    exact ⟨fun eq => congrArg _ (Option.some.inj eq), fun eq => congrArg _ (Except.ok.inj eq)⟩

/-- A store with the Secrets that are referred to has each of them in its current version, and no
other Secret. -/
theorem secret?_holding_referred (namespaceName name : String) :
    (MemoryStore.holding (referred past entries)).secret? namespaceName name = some secret ↔
      Refers entries namespaceName name ∧ current? past namespaceName name = some secret := by
  rw [(MemoryStore.recalls_holding _).secrets]
  have found {secret : Secret} (h : MemoryCall.lastSecret? namespaceName name
      ((referred past entries).map .insertSecret) = some secret) :
      Refers entries namespaceName name ∧ current? past namespaceName name = some secret := by
    obtain ⟨inserted, rfl, rfl⟩ := MemoryCall.mem_of_lastSecret? h
    obtain ⟨_, mem, eq⟩ := List.mem_map.mp inserted
    cases eq
    obtain ⟨n, mem, ref, named, current⟩ := mem_referred.mp mem
    obtain ⟨-, inside, called⟩ := MemoryCall.mem_of_lastSecret? current
    exact ⟨⟨n, mem, ref, named, inside.symm, called.symm⟩, by rw [inside, called, current]⟩
  refine ⟨found, ?_⟩
  rintro ⟨⟨n, mem, ref, named, rfl, rfl⟩, current⟩
  obtain ⟨-, inside, called⟩ := MemoryCall.mem_of_lastSecret? current
  have listed : secret ∈ referred past entries := mem_referred.mpr ⟨n, mem, ref, named, current⟩
  have inserted := MemoryCall.isSome_lastSecret?
    (List.mem_map_of_mem (f := MemoryCall.insertSecret) listed)
  rw [inside, called] at inserted
  obtain ⟨other, last⟩ := Option.isSome_iff_exists.mp inserted
  rw [last, ← current, (found last).2]

end Fresh

/-- A run comes to the same, whatever happened before, as on a dispatcher that has just been made,
over a store with the Secrets that the notifications of the run refer to, in their current versions,
and with nothing else. The result is the same, and so are the requests and the talks about mails, if
the network goes on for the new dispatcher as it does for the old one. All that is taken down is the
same too, but that a Report may be said to be created in one place and updated in the other. -/
theorem run_isolated (settings : Settings) (validator : WebhookValidator) (past : List Happening)
    (network : Network) (run : Run) (spans : List Span) :
    let dispatcher := Dispatcher.onNetwork settings validator
    let w := afterAll settings validator spans past { objects := .empty }
    let fresh : World MemoryStore := { objects := .holding (referred past run.entries) }
    let ended := ((dispatcher network).perform run).run spans w
    let ended' := ((dispatcher (network.after w.traffic)).perform run).run spans fresh
    (∀ namespaceName name secret, fresh.objects.secret? namespaceName name = some secret ↔
      Refers run.entries namespaceName name ∧ current? past namespaceName name = some secret) ∧
    (∀ name, fresh.objects.report? name = none) ∧
    ended.1 = ended'.1 ∧
    ended.2.traffic = w.traffic.andThen ended'.2.traffic ∧
    ∃ said, ended.2.journal = w.journal.andThen said ∧ said.SameButWrites ended'.2.journal := by
  intro dispatcher w fresh ended ended'
  have kept : Kept past w.objects := kept_afterAll past rfl
  have inserted := MemoryStore.recalls_holding (referred past run.entries)
  have secrets (namespaceName name : String) (refers : Refers run.entries namespaceName name) :
      w.objects.secret? namespaceName name = fresh.objects.secret? namespaceName name := by
    rw [kept.secrets]
    refine Option.ext fun secret => ?_
    rw [secret?_holding_referred, and_iff_right refers]
  have related : w.Resumes run.entries w fresh := {
    keyed := kept.keyed
    keyed' := inserted.keyed
    secrets := secrets
    traffic := by simp only [Traffic.andThen, fresh, List.append_nil]
    journal := ⟨{}, by simp only [Journal.andThen, List.append_nil], .start⟩ }
  obtain ⟨result, state⟩ :=
    Dispatcher.alike_run settings validator network w run spans related
  refine ⟨fun namespaceName name secret => secret?_holding_referred namespaceName name,
    fun name => ?_, result.eq, state.traffic, state.journal⟩
  change (MemoryStore.holding _).report? name = none
  rw [inserted.reports, MemoryCall.lastReport?, List.filterMap_map]
  exact congrArg _ (List.filterMap_eq_nil_iff.mpr fun _ _ => rfl)

/-- A token that is replaced between two runs. -/
example :
    let secret (token : String) : Secret := {
      metadata := { namespaceName := some "ops", name := some "slack" }
      data := some (KeyMap.ofList [("SLACK_TOKEN", utf8 token), ("SLACK_CHANNEL_ID", utf8 "C1")]) }
    let nightly : Run := ⟨⟨0, 0⟩, [], ⟨.named "nightly", ⟨"0 3 * * *", .delete,
      [⟨"chat", .slack, some ⟨"Secret", "ops", "slack", "v1"⟩⟩]⟩⟩⟩
    let run := ran (Network.scripted [] {}) nightly
    let past := [called (.insertSecret (secret "old")), run,
      called (.insertSecret (secret "new")), run]
    let w := afterAll { slackApiUrl := "https://[::1]" } {} [] past { objects := .empty }
    w.traffic.requests.map (·.authorization) = [["Bearer old"], ["Bearer new"]] := by
  decide +kernel

end Happening

end CleanupCourier
