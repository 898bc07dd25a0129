import Mathlib.Data.List.Induction
import CleanupCourier.Proofs.Store.Memory

/-!
The store in memory over any calls. It is told by the calls that succeeded so far: under each key
there is what was last written there, and nothing else. So everything stands under its own key, no
two keys share a place, and a call that fails has not been made as far as the store can tell.
-/
namespace CleanupCourier

/-- What may be asked of a store in memory. -/
inductive MemoryCall where
  | getReport (name : String)
  | createReport (report : Report)
  | replaceReport (report : Report)
  | insertSecret (secret : Secret)
  | getSecret (namespaceName name : String)

namespace MemoryCall

/-- Does what is asked; the object that comes back is left aside. -/
def perform : MemoryCall → Attempt MemoryStore StoreError Unit
  | .getReport name => (fun _ => ()) <$> ObjectStore.memory.getReport name
  | .createReport report => (fun _ => ()) <$> ObjectStore.memory.createReport report
  | .replaceReport report => (fun _ => ()) <$> ObjectStore.memory.replaceReport report
  | .insertSecret secret => modify fun w => { w with objects := w.objects.insertSecret secret }
  | .getSecret namespaceName name =>
    (fun _ => ()) <$> ObjectStore.memory.getSecret namespaceName name

/-- The world after calls, whether they fail or not. -/
def performAll (spans : List Span) (calls : List MemoryCall) (w : World MemoryStore) :
    World MemoryStore :=
  calls.foldl (fun w call => (call.perform.run spans w).2) w

/-- Whether a call succeeds. -/
def succeeds (spans : List Span) (call : MemoryCall) (w : World MemoryStore) : Bool :=
  (call.perform.run spans w).1.toBool

/-- Those of some calls that succeed. -/
def succeeded (spans : List Span) : List MemoryCall → World MemoryStore → List MemoryCall
  | [], _ => []
  | call :: rest, w =>
    let later := succeeded spans rest (call.perform.run spans w).2
    if call.succeeds spans w then call :: later else later

/-- The Report that a call writes under a name if it succeeds. -/
def report? (name : String) : MemoryCall → Option Report
  | .createReport report | .replaceReport report =>
    if report.anyName = name then some report else none
  | _ => none

/-- The Secret that a call writes under a namespace and a name. -/
def secret? (namespaceName name : String) : MemoryCall → Option Secret
  | .insertSecret secret =>
    if secret.namespaceName = namespaceName ∧ secret.anyName = name then some secret else none
  | _ => none

def lastReport? (name : String) (calls : List MemoryCall) : Option Report :=
  (calls.filterMap (report? name)).getLast?

def lastSecret? (namespaceName name : String) (calls : List MemoryCall) : Option Secret :=
  (calls.filterMap (secret? namespaceName name)).getLast?

section Last

variable {calls : List MemoryCall} {call : MemoryCall} {namespaceName name : String}

theorem lastReport?_snoc (name : String) (calls : List MemoryCall) (call : MemoryCall) :
    lastReport? name (calls ++ [call]) = (call.report? name).or (lastReport? name calls) := by
  rw [lastReport?, List.filterMap_append, List.getLast?_append]
  cases written : call.report? name <;> simp [written, lastReport?]

theorem lastSecret?_snoc (namespaceName name : String) (calls : List MemoryCall)
    (call : MemoryCall) :
    lastSecret? namespaceName name (calls ++ [call]) =
      (call.secret? namespaceName name).or (lastSecret? namespaceName name calls) := by
  rw [lastSecret?, List.filterMap_append, List.getLast?_append]
  cases written : call.secret? namespaceName name <;> simp [written, lastSecret?]

theorem anyName_of_lastReport? {report : Report} (h : lastReport? name calls = some report) :
    report.anyName = name := by
  obtain ⟨call, -, written⟩ := List.mem_filterMap.mp (List.mem_of_getLast? h)
  cases call with
  | createReport report | replaceReport report =>
    simp only [report?, Option.ite_none_right_eq_some, Option.some.injEq] at written
    obtain ⟨named, rfl⟩ := written
    exact named
  | _ => exact nomatch written

theorem mem_of_lastSecret? {secret : Secret}
    (h : lastSecret? namespaceName name calls = some secret) :
    .insertSecret secret ∈ calls ∧ secret.namespaceName = namespaceName ∧
      secret.anyName = name := by
  obtain ⟨call, mem, written⟩ := List.mem_filterMap.mp (List.mem_of_getLast? h)
  cases call with
  | insertSecret secret =>
    simp only [secret?, Option.ite_none_right_eq_some, Option.some.injEq] at written
    obtain ⟨key, rfl⟩ := written
    exact ⟨mem, key⟩
  | _ => exact nomatch written

theorem isSome_lastSecret? {secret : Secret} (mem : .insertSecret secret ∈ calls) :
    (lastSecret? secret.namespaceName secret.anyName calls).isSome := by
  rw [lastSecret?, List.getLast?_isSome]
  exact List.ne_nil_of_mem (List.mem_filterMap.mpr ⟨_, mem, if_pos ⟨rfl, rfl⟩⟩)

end Last

theorem performAll_snoc (spans : List Span) (calls : List MemoryCall) (call : MemoryCall)
    (w : World MemoryStore) :
    performAll spans (calls ++ [call]) w =
      (call.perform.run spans (performAll spans calls w)).2 := by
  rw [performAll, List.foldl_append]
  rfl

theorem succeeded_snoc (spans : List Span) (calls : List MemoryCall) (call : MemoryCall)
    (w : World MemoryStore) :
    succeeded spans (calls ++ [call]) w =
      succeeded spans calls w ++
        if call.succeeds spans (performAll spans calls w) then [call] else [] := by
  induction calls generalizing w with
  | nil => rfl
  | cons first rest ih =>
    simp only [List.cons_append, succeeded, ih]
    split <;> rfl

end MemoryCall

namespace MemoryStore

open MemoryCall

/-- The store holds under each key what was last written there. -/
structure Recalls (written : List MemoryCall) (store : MemoryStore) : Prop where
  reports (name : String) : store.report? name = lastReport? name written
  secrets (namespaceName name : String) :
    store.secret? namespaceName name = lastSecret? namespaceName name written

/-- Everything stands under its own key. -/
structure InPlace (store : MemoryStore) : Prop where
  reports : ∀ e ∈ store.reports.entries, e.1 = e.2.anyName
  secrets : ∀ inNamespace ∈ store.secrets.entries, ∀ e ∈ inNamespace.2.entries,
    inNamespace.1 = e.2.namespaceName ∧ e.1 = e.2.anyName

theorem recalls_empty : empty.Recalls [] where
  reports _ := rfl
  secrets _ _ := rfl

/-- What is found after the insertion of a Secret: this one in its place, or what was there. -/
theorem secret?_insertSecret (store : MemoryStore) (secret : Secret) (namespaceName name : String) :
    (store.insertSecret secret).secret? namespaceName name =
      ((MemoryCall.insertSecret secret).secret? namespaceName name).or
        (store.secret? namespaceName name) := by
  rw [MemoryCall.secret?]
  by_cases key : secret.namespaceName = namespaceName ∧ secret.anyName = name
  · obtain ⟨rfl, rfl⟩ := key
    rw [secret?_insertSecret_self, if_pos ⟨rfl, rfl⟩, Option.some_or]
  · have elsewhere : namespaceName ≠ secret.namespaceName ∨ name ≠ secret.anyName := by
      rw [← not_and_or]
      exact fun ⟨inside, named⟩ => key ⟨inside.symm, named.symm⟩
    rw [secret?_insertSecret_of_ne store secret elsewhere, if_neg key, Option.none_or]

section Recalls

variable {written : List MemoryCall} {store : MemoryStore} (h : store.Recalls written)

include h

theorem Recalls.keyed : store.Keyed := by
  intro name report found
  rw [h.reports] at found
  exact anyName_of_lastReport? found

theorem Recalls.isSome_lastReport? (name : String) :
    (lastReport? name written).isSome = store.reports.contains name := by
  rw [← h.reports]
  rfl

theorem Recalls.inPlace : store.InPlace where
  reports e mem := by
    have found : store.report? e.1 = some e.2 := KeyMap.find?_of_mem mem
    exact (h.keyed e.1 e.2 found).symm
  secrets inNamespace there e mem := by
    have found : store.secret? inNamespace.1 e.1 = some e.2 := by
      rw [secret?, KeyMap.find?_of_mem there]
      exact KeyMap.find?_of_mem mem
    rw [h.secrets] at found
    obtain ⟨-, inside, named⟩ := mem_of_lastSecret? found
    exact ⟨inside.symm, named.symm⟩

/-- A call that changes nothing and writes nothing is soon forgotten. -/
theorem Recalls.idle {call : MemoryCall} (noReport : ∀ name, call.report? name = none)
    (noSecret : ∀ namespaceName name, call.secret? namespaceName name = none) :
    store.Recalls (written ++ [call]) where
  reports name := by rw [lastReport?_snoc, noReport, Option.none_or, h.reports]
  secrets namespaceName name := by rw [lastSecret?_snoc, noSecret, Option.none_or, h.secrets]

/-- A call that puts a Report there. -/
theorem Recalls.put {report : Report} {call : MemoryCall}
    (writes : ∀ name, call.report? name = if report.anyName = name then some report else none)
    (noSecret : ∀ namespaceName name, call.secret? namespaceName name = none) :
    (store.put report).Recalls (written ++ [call]) where
  reports name := by
    rw [lastReport?_snoc, writes]
    by_cases named : report.anyName = name
    · rw [report?_put_of_named store named, if_pos named, Option.some_or]
    · rw [report?_put_of_ne store report (Ne.symm named), if_neg named, Option.none_or, h.reports]
  secrets namespaceName name := by
    rw [lastSecret?_snoc, noSecret, Option.none_or]
    exact h.secrets namespaceName name

theorem Recalls.insertSecret (secret : Secret) :
    (store.insertSecret secret).Recalls (written ++ [.insertSecret secret]) where
  reports name := by
    rw [lastReport?_snoc]
    exact h.reports name
  secrets namespaceName name := by
    rw [lastSecret?_snoc, secret?_insertSecret, h.secrets]

end Recalls

/-- The store that has some Secrets and nothing else. -/
def holding (secrets : List Secret) : MemoryStore :=
  secrets.foldl insertSecret empty

theorem recalls_holding (secrets : List Secret) :
    (holding secrets).Recalls (secrets.map .insertSecret) := by
  induction secrets using List.reverseRecOn with
  | nil => exact recalls_empty
  | append_singleton secrets secret ih =>
    rw [holding, List.foldl_append, List.map_append]
    exact ih.insertSecret secret

end MemoryStore

namespace ObjectStore

variable (spans : List Span) (w : World MemoryStore)

theorem memory_createReport_of_taken {report : Report}
    (taken : w.objects.reports.contains report.anyName = true) :
    (memory.createReport report).run spans w =
      (.error (.backend s!"Report {report.anyName} already exists"), w) := by
  rw [run_createReport_memory, MemoryStore.createReport, if_pos taken]

theorem memory_createReport_of_free {report : Report}
    (free : w.objects.reports.contains report.anyName = false) :
    (memory.createReport report).run spans w =
      (.ok report, { w with objects := w.objects.put report }) := by
  rw [run_createReport_memory, MemoryStore.createReport, if_neg (Bool.eq_false_iff.mp free)]

theorem memory_replaceReport_of_there {report : Report}
    (there : w.objects.reports.contains report.anyName = true) :
    (memory.replaceReport report).run spans w =
      (.ok report, { w with objects := w.objects.put report }) := by
  rw [run_replaceReport_memory, MemoryStore.replaceReport, if_pos there]

theorem memory_replaceReport_of_absent {report : Report}
    (absent : w.objects.reports.contains report.anyName = false) :
    (memory.replaceReport report).run spans w =
      (.error (.notFound "Report" report.anyName), w) := by
  rw [run_replaceReport_memory, MemoryStore.replaceReport, if_neg (Bool.eq_false_iff.mp absent)]

end ObjectStore

namespace MemoryCall

open ObjectStore

variable {written : List MemoryCall} {w : World MemoryStore} (call : MemoryCall)
  (spans : List Span)

/-- A call changes nothing, or it puts a Report, or it is the insertion of a Secret. -/
theorem perform_objects (w : World MemoryStore) :
    ((∀ namespaceName name, call.secret? namespaceName name = none) ∧
      ((call.perform.run spans w).2.objects = w.objects ∨
        ∃ report, (call.perform.run spans w).2.objects = w.objects.put report)) ∨
    ∃ secret, call = .insertSecret secret ∧
      (call.perform.run spans w).2.objects = w.objects.insertSecret secret := by
  cases call with
  | getReport name | getSecret namespaceName name =>
    rw [perform, Attempt.run_map]
    exact .inl ⟨fun _ _ => rfl, .inl rfl⟩
  | insertSecret secret => exact .inr ⟨secret, rfl, rfl⟩
  | createReport report =>
    refine .inl ⟨fun _ _ => rfl, ?_⟩
    rw [perform, Attempt.run_map, run_createReport_memory, MemoryStore.createReport]
    split
    · exact .inl rfl
    · exact .inr ⟨report, rfl⟩
  | replaceReport report =>
    refine .inl ⟨fun _ _ => rfl, ?_⟩
    rw [perform, Attempt.run_map, run_replaceReport_memory, MemoryStore.replaceReport]
    split
    · exact .inr ⟨report, rfl⟩
    · exact .inl rfl

/-- The step: a call that fails leaves the world as it was, and what one that succeeds writes is
recalled from then on. -/
theorem perform_cases (h : w.objects.Recalls written) :
    (call.succeeds spans w = false ∧ (call.perform.run spans w).2 = w) ∨
      (call.succeeds spans w = true ∧
        (call.perform.run spans w).2.objects.Recalls (written ++ [call])) := by
  unfold succeeds
  cases call with
  | getReport name =>
    rw [perform, Attempt.run_map, run_getReport_memory]
    cases w.objects.getReport name with
    | error => exact .inl ⟨rfl, rfl⟩
    | ok => exact .inr ⟨rfl, h.idle (fun _ => rfl) fun _ _ => rfl⟩
  | getSecret namespaceName name =>
    rw [perform, Attempt.run_map, run_getSecret_memory]
    cases w.objects.getSecret namespaceName name with
    | error => exact .inl ⟨rfl, rfl⟩
    | ok => exact .inr ⟨rfl, h.idle (fun _ => rfl) fun _ _ => rfl⟩
  | insertSecret secret => exact .inr ⟨rfl, h.insertSecret secret⟩
  | createReport report =>
    rw [perform, Attempt.run_map]
    cases taken : w.objects.reports.contains report.anyName with
    | true =>
      rw [memory_createReport_of_taken spans w taken]
      exact .inl ⟨rfl, rfl⟩
    | false =>
      rw [memory_createReport_of_free spans w taken]
      exact .inr ⟨rfl, h.put (fun _ => rfl) fun _ _ => rfl⟩
  | replaceReport report =>
    rw [perform, Attempt.run_map]
    cases there : w.objects.reports.contains report.anyName with
    | true =>
      rw [memory_replaceReport_of_there spans w there]
      exact .inr ⟨rfl, h.put (fun _ => rfl) fun _ _ => rfl⟩
    | false =>
      rw [memory_replaceReport_of_absent spans w there]
      exact .inl ⟨rfl, rfl⟩

/-- The run of any calls, by induction from their end. -/
theorem recalls_performAll (calls : List MemoryCall) (start : w.objects = .empty) :
    (performAll spans calls w).objects.Recalls (succeeded spans calls w) := by
  induction calls using List.reverseRecOn with
  | nil =>
    change w.objects.Recalls []
    rw [start]
    exact MemoryStore.recalls_empty
  | append_singleton calls call ih =>
    rw [performAll_snoc, succeeded_snoc]
    obtain ⟨failed, same⟩ | ⟨done, recalls⟩ := perform_cases call spans ih
    · rw [same, failed, if_neg Bool.false_ne_true, List.append_nil]
      exact ih
    · rw [done, if_pos rfl]
      exact recalls

/-- After any calls a store that was empty is the two maps of what those that succeeded wrote last.
Everything is under its own key; what is looked for is what was last written under that very key, or
is not there; a Report can be created exactly under a name that nothing was written under, and
replaced exactly under any other; a call that fails changes nothing; a Secret is not in the way of
any with another namespace or another name, even if the two of them join to one text; and as many
Reports are counted as there are names that one was written under. -/
theorem calls_recalled (calls : List MemoryCall) (spans : List Span) (traffic : Traffic)
    (journal : Journal) :
    let start : World MemoryStore := ⟨.empty, traffic, journal⟩
    let w := performAll spans calls start
    let written := succeeded spans calls start
    w.objects.InPlace ∧
    (∀ name, (memory.getReport name).run spans w =
      ((lastReport? name written).elim (.error (.notFound "Report" name)) .ok, w)) ∧
    (∀ namespaceName name, (memory.getSecret namespaceName name).run spans w =
      ((lastSecret? namespaceName name written).elim
        (.error (.notFound "Secret" (namespaceName ++ "/" ++ name))) .ok, w)) ∧
    (∀ report, ((memory.createReport report).run spans w).1 =
      if (lastReport? report.anyName written).isSome then
        .error (.backend s!"Report {report.anyName} already exists")
      else .ok report) ∧
    (∀ report, ((memory.replaceReport report).run spans w).1 =
      if (lastReport? report.anyName written).isSome then .ok report
      else .error (.notFound "Report" report.anyName)) ∧
    (∀ call : MemoryCall, call.succeeds spans w = false → (call.perform.run spans w).2 = w) ∧
    (∀ secret namespaceName name,
      (namespaceName, name) ≠ (secret.namespaceName, secret.anyName) →
      (((insertSecret secret).perform.run spans w).2.objects).secret? namespaceName name =
        w.objects.secret? namespaceName name) ∧
    ∃ names : Finset String, w.objects.reportCount = names.card ∧
      ∀ name, name ∈ names ↔ (lastReport? name written).isSome := by
  intro start w written
  have recalls : w.objects.Recalls written := recalls_performAll spans calls rfl
  refine ⟨recalls.inPlace, fun name => ?_, fun namespaceName name => ?_, fun report => ?_,
    fun report => ?_, fun call failed => ?_, fun secret namespaceName name ne => ?_, ?_⟩
  · rw [run_getReport_memory, MemoryStore.getReport, recalls.reports]
    cases lastReport? name written <;> rfl
  · rw [run_getSecret_memory, MemoryStore.getSecret, recalls.secrets]
    cases lastSecret? namespaceName name written <;> rfl
  · rw [recalls.isSome_lastReport?]
    cases taken : w.objects.reports.contains report.anyName with
    | true => rw [memory_createReport_of_taken spans w taken, if_pos rfl]
    | false => rw [memory_createReport_of_free spans w taken, if_neg Bool.false_ne_true]
  · rw [recalls.isSome_lastReport?]
    cases there : w.objects.reports.contains report.anyName with
    | true => rw [memory_replaceReport_of_there spans w there, if_pos rfl]
    | false => rw [memory_replaceReport_of_absent spans w there, if_neg Bool.false_ne_true]
  · obtain ⟨-, same⟩ | ⟨done, -⟩ := perform_cases call spans recalls
    · exact same
    · exact absurd (failed.symm.trans done) Bool.false_ne_true
  · refine MemoryStore.secret?_insertSecret_of_ne w.objects secret ?_
    rw [← not_and_or]
    rintro ⟨inside, named⟩
    exact ne (by rw [inside, named])
  · refine ⟨w.objects.reports.keys, w.objects.reports.card_keys.symm, fun name => ?_⟩
    rw [KeyMap.mem_keys, recalls.isSome_lastReport?]
    rfl

/-- Two Secrets whose namespaces and names join to one text, the first of which is replaced. -/
theorem calls_recalled_slashes :
    let first : Secret := { metadata := { namespaceName := some "a/b", name := some "c" } }
    let second : Secret := { metadata := { namespaceName := some "a", name := some "b/c" } }
    let renewed : Secret := { first with data := some (KeyMap.empty.insert "KEY" []) }
    let w := performAll [] [.insertSecret first, .insertSecret second, .insertSecret renewed]
      ⟨.empty, {}, {}⟩
    ((memory.getSecret "a/b" "c").run [] w).1 = .ok renewed ∧
      ((memory.getSecret "a" "b/c").run [] w).1 = .ok second := by
  intro first second renewed w
  obtain ⟨-, -, secrets, -⟩ := calls_recalled
    [.insertSecret first, .insertSecret second, .insertSecret renewed] [] {} {}
  exact ⟨congrArg Prod.fst (secrets "a/b" "c"), congrArg Prod.fst (secrets "a" "b/c")⟩

end MemoryCall

end CleanupCourier
