import CleanupCourier.Proofs.Destination.Telling
import CleanupCourier.Proofs.Dispatch.Pass

/-!
The log of a run, entry by entry. What is said while an entry is attempted is said in the span of
this entry, by whatever part of the program, and so a log falls into blocks, one for each attempt.
Only the line that closes the block of an entry tells that the entry failed, and only one entry of a
run can fail, the last that is attempted.
-/
namespace CleanupCourier

namespace Dispatcher

variable {σ : Type}

/-- What is said last about an entry that failed. -/
def failureLine (spans : List Span) (n : Notification) (error : DeliveryError) : Event :=
  ⟨.info, target, spans ++ [span n], "failed to send notification: " ++ error.message⟩

/-- Holds of events none of which tells that a notification failed. -/
def Unfailing (events : List Event) : Prop :=
  ∀ e ∈ events, TellsOther e.message

/-- Holds of events that close with the failure of an entry if it fails, and tell of none before. -/
def ClosesWith (spans : List Span) (n : Notification) (events : List Event) :
    Except DeliveryError Unit → Prop
  | .ok () => Unfailing events
  | .error error => ∃ before, events = before ++ [failureLine spans n error] ∧ Unfailing before

/-- Holds of the events of an attempt that has come to a result. -/
structure Block (spans : List Span) (n : Notification) (result : Except DeliveryError Unit)
    (events : List Event) : Prop where
  inside : ∀ e ∈ events, ∃ inner, e.spans = spans ++
    ⟨"notification", target, [("notification", .text (n.type.name ++ ":" ++ n.name))]⟩ :: inner
  closing : ClosesWith spans n events result

theorem Unfailing.append {events more : List Event} (h : Unfailing events)
    (h' : Unfailing more) : Unfailing (events ++ more) :=
  fun e mem => (List.mem_append.mp mem).elim (h e) (h' e)

section Log

variable (dispatcher : Dispatcher σ) (run : Run) (spans : List Span)

/-- Relates entries that are attempted one after another, from a world on, to the blocks that the
attempts add to the log. -/
inductive Chronicle : World σ → List Notification → List (List Event) → Prop where
  | nil (w : World σ) : Chronicle w [] []
  | cons {w : World σ} {n : Notification} {block : List Event} {rest : List Notification}
      {blocks : List (List Event)}
      (added : (dispatcher.after run spans w n).journal.events = w.journal.events ++ block)
      (head : Block spans n (dispatcher.outcome run spans w n).1 block)
      (tail : Chronicle (dispatcher.after run spans w n) rest blocks) :
      Chronicle w (n :: rest) (block :: blocks)

/-- Relates the result of a run, from a world on, to what is added to the log. -/
inductive Logged (w : World σ) : Except DeliveryError Unit → List Event → Prop where
  | idle (none : run.entries = []) :
      Logged w (.ok ()) [⟨.debug, target, spans, "no notifications configured"⟩]
  | succeeded {blocks : List (List Event)} (some : run.entries ≠ [])
      (succeed : dispatcher.AllSucceed run spans run.entries w)
      (chronicle : Chronicle dispatcher run spans w run.entries blocks)
      (unfailing : Unfailing blocks.flatten) :
      Logged w (.ok ()) blocks.flatten
  | failed {before later : List Notification} {n : Notification} {error : DeliveryError}
      {blocks : List (List Event)} (split : run.entries = before ++ n :: later)
      (fails : dispatcher.FailsFirst run spans before n error w)
      (chronicle : Chronicle dispatcher run spans w (before ++ [n]) blocks)
      (closing : ClosesWith spans n blocks.flatten (.error error)) :
      Logged w (.error error) blocks.flatten

end Log

/-- Holds of a dispatcher all of whose runs are logged by their attempts. -/
def Chronicles (dispatcher : Dispatcher σ) : Prop :=
  ∀ run spans w, ∃ said,
    ((dispatcher.perform run).run spans w).2.journal.events = w.journal.events ++ said ∧
      Logged dispatcher run spans w ((dispatcher.perform run).run spans w).1 said

variable {dispatcher : Dispatcher σ} {run : Run} {spans : List Span} {w : World σ}

theorem tells_handler (store : dispatcher.store.Tells TellsOther)
    (sinks : dispatcher.sinks.Each run.delivery fun _ attempt => attempt.Tells TellsOther)
    (n : Notification) : (dispatcher.handler run n).Tells TellsOther := by
  by_cases type : n.type = .cleanerReport
  · rw [handler, type]
    refine Attempt.tells_bind (Attempt.tells_mapError ?_ _) fun _ => Attempt.tells_pure _
    exact Report.tells_upsert store run.name run.report
  · exact handler_of_each sinks (fun _ _ => Attempt.tells_throw _) type

/-- The step of a log: an attempt adds its block. -/
theorem block_after {n : Notification} (tells : (dispatcher.handler run n).Tells TellsOther)
    (spans : List Span) (w : World σ) :
    ∃ block, (dispatcher.after run spans w n).journal.events = w.journal.events ++ block ∧
      Block spans n (dispatcher.outcome run spans w n).1 block := by
  obtain ⟨said, eq, all⟩ := tells (spans ++ [span n]) w
  change (dispatcher.outcome run spans w n).2.journal.events = _ at eq
  have inside : ∀ e ∈ said, ∃ inner, e.spans = spans ++ span n :: inner := fun e mem =>
    (all e mem).1.imp fun inner split => by rw [← split, List.append_assoc, List.singleton_append]
  have unfailing : Unfailing said := fun e mem => (all e mem).2
  cases result : (dispatcher.outcome run spans w n).1 with
  | ok done =>
    refine ⟨said, ?_, inside, unfailing⟩
    rw [after, result, ← eq]
    exact List.append_nil _
  | error error =>
    -- The failure is told when the handler is done, so its line is in no span of a sink.
    refine ⟨said ++ [failureLine spans n error], ?_, ?_, said, rfl, unfailing⟩
    · rw [after, result, ← List.append_assoc, ← eq]
      rfl
    · intro e mem
      obtain mem | mem := List.mem_append.mp mem
      · exact inside e mem
      · rw [List.mem_singleton.mp mem]
        exact ⟨[], rfl⟩

namespace Chronicle

variable {entries before : List Notification} {n : Notification} {error : DeliveryError}
  {blocks : List (List Event)}

/-- The log of several attempts, by induction on them. -/
theorem exists_of_tells (tells : ∀ n, (dispatcher.handler run n).Tells TellsOther)
    (spans : List Span) (entries : List Notification) (w : World σ) :
    ∃ blocks, Chronicle dispatcher run spans w entries blocks ∧
      (dispatcher.afterAll run spans entries w).journal.events =
        w.journal.events ++ blocks.flatten := by
  induction entries generalizing w with
  | nil => exact ⟨[], .nil w, (List.append_nil _).symm⟩
  | cons n rest ih =>
    obtain ⟨block, added, head⟩ := block_after (tells n) spans w
    obtain ⟨blocks, tail, eq⟩ := ih (dispatcher.after run spans w n)
    refine ⟨block :: blocks, .cons added head tail, ?_⟩
    rw [List.flatten_cons, ← List.append_assoc, ← added]
    exact eq

theorem unfailing (h : Chronicle dispatcher run spans w entries blocks)
    (succeed : dispatcher.AllSucceed run spans entries w) : Unfailing blocks.flatten := by
  induction h with
  | nil w => exact nofun
  | cons added head tail ih =>
    have closing := head.closing
    rw [succeed.1] at closing
    exact Unfailing.append closing (ih succeed.2)

/-- The failure that ends a run is what its log ends with; nothing before it has failed. -/
theorem closesWith (h : Chronicle dispatcher run spans w (before ++ [n]) blocks)
    (fails : dispatcher.FailsFirst run spans before n error w) :
    ClosesWith spans n blocks.flatten (.error error) := by
  obtain ⟨succeed, fails⟩ := fails
  induction before generalizing w blocks with
  | nil =>
    obtain _ | ⟨added, head, tail⟩ := h
    cases tail
    have closing := head.closing
    change (dispatcher.outcome run spans w n).1 = .error error at fails
    rw [fails] at closing
    rwa [List.flatten_singleton]
  | cons m rest ih =>
    obtain _ | ⟨added, head, tail⟩ := h
    have quiet := head.closing
    rw [succeed.1] at quiet
    obtain ⟨said, split, unfailing⟩ := ih tail succeed.2 fails
    refine ⟨_ ++ said, ?_, Unfailing.append quiet unfailing⟩
    rw [List.flatten_cons, split, List.append_assoc]

end Chronicle

theorem chronicles_of_tells (store : dispatcher.store.Tells TellsOther)
    (sinks : ∀ d, dispatcher.sinks.Each d fun _ attempt => attempt.Tells TellsOther) :
    dispatcher.Chronicles := by
  intro run spans w
  by_cases none : run.entries = []
  · rw [perform_of_nil dispatcher none, Attempt.run_log]
    exact ⟨_, rfl, .idle none⟩
  · rw [perform_of_ne_nil dispatcher none]
    have tells := tells_handler store (sinks run.delivery)
    obtain ⟨succeed, ran⟩ | ⟨before, n, later, error, split, fails, ran⟩ :=
      run_attemptAll dispatcher run.entries (keeps_none _) spans w
    · obtain ⟨blocks, chronicle, eq⟩ := Chronicle.exists_of_tells tells spans run.entries w
      rw [ran]
      exact ⟨_, eq, .succeeded none succeed chronicle (chronicle.unfailing succeed)⟩
    · obtain ⟨blocks, chronicle, eq⟩ := Chronicle.exists_of_tells tells spans (before ++ [n]) w
      rw [ran]
      exact ⟨_, eq, .failed split fails chronicle (chronicle.closesWith fails)⟩

/-- Every run is logged by its attempts, whoever is on the network and whatever the server of a
cluster answers. The log grows by one block for each entry that is attempted, in order; all events
of a block are in the span of its entry; and a failure is told once, at the end of the last block,
if the run fails. A run without entries says so in one line, in no span of its own. -/
theorem perform_logged (network : Network) (settings : Settings) (validator : WebhookValidator) :
    Chronicles ⟨.memory, .make .memory network settings validator⟩ ∧
      ∀ server, Chronicles ⟨.cluster server, .make (.cluster server) network settings validator⟩ :=
  ⟨chronicles_of_tells (ObjectStore.memory_tells _) fun d =>
      Sinks.tells_make (ObjectStore.memory_tells _) network settings validator d,
    fun server => chronicles_of_tells (ObjectStore.cluster_tells server) fun d =>
      Sinks.tells_make (ObjectStore.cluster_tells server) network settings validator d⟩

end Dispatcher

end CleanupCourier
