import Mathlib.Logic.Function.Basic
import CleanupCourier.Proofs.Store.Memory

/-!
Upserts that go on at the same time. A call takes two turns, its look-up and its write, and other
calls may take theirs in between; a schedule tells who has the next turn. On the store in memory
every schedule leaves under a name what the last write with success put there. A write fails only
where another call has created the Report since the look-up, and then it changes nothing.
-/
namespace CleanupCourier

/-- A call for a Report to be written, with the spans that it is made in. -/
structure UpsertCall where
  name : String
  spec : ReportSpec
  spans : List Span

namespace UpsertCall

/-- How far a call has come. -/
inductive Phase where
  | ready
  | looked (found : Option Report)
  | ended (result : Except StoreError Report)

/-- Holds of the phases before and after a turn in which a call wrote with success. -/
def wrote : Phase → Phase → Bool
  | .looked _, .ended (.ok _) => true
  | _, _ => false

variable {σ : Type}

/-- The next turn of a call: its look-up, and after that its write. -/
def turn (store : ObjectStore σ) (call : UpsertCall) (phase : Phase) (w : World σ) :
    Phase × World σ :=
  match phase with
  | .ready =>
    match (Report.found? store call.name).run call.spans w with
    | (.ok found, w) => (.looked found, w)
    | (.error error, w) => (.ended (.error error), w)
  | .looked found =>
    match (Report.write store call.name call.spec found).run call.spans w with
    | (result, w) => (.ended result, w)
  | .ended result => (.ended result, w)

/-- Two turns in a row are an upsert. -/
theorem turn_turn (store : ObjectStore σ) (call : UpsertCall) (w : World σ) :
    call.turn store (call.turn store .ready w).1 (call.turn store .ready w).2 =
      (.ended ((Report.upsert store call.name call.spec).run call.spans w).1,
        ((Report.upsert store call.name call.spec).run call.spans w).2) := by
  rw [Report.upsert, Attempt.run_bind]
  simp only [turn]
  cases look : (Report.found? store call.name).run call.spans w with
  | mk result v => cases result <;> rfl

/-- What a turn can do to the store in memory. -/
inductive Moves (call : UpsertCall) : Phase → MemoryStore → Phase → MemoryStore → Prop
  | look (store : MemoryStore) :
    Moves call .ready store (.looked (store.report? call.name)) store
  | create {store : MemoryStore} (free : store.report? call.name = none) :
    Moves call (.looked none) store (.ended (.ok (.new call.name call.spec)))
      (store.put (.new call.name call.spec))
  | refuse {store : MemoryStore} {there : Report} (taken : store.report? call.name = some there) :
    Moves call (.looked none) store
      (.ended (.error (.backend s!"Report {call.name} already exists"))) store
  | replace {store : MemoryStore} {report there : Report} (named : report.anyName = call.name)
    (taken : store.report? call.name = some there) :
    Moves call (.looked (some report)) store (.ended (.ok { report with spec := call.spec }))
      (store.put { report with spec := call.spec })
  | rest (result : Except StoreError Report) (store : MemoryStore) :
    Moves call (.ended result) store (.ended result) store

/-- Holds where what a look-up found is still there, under the name that was looked up. -/
def IsCurrent (call : UpsertCall) (store : MemoryStore) : Phase → Prop
  | .looked (some report) =>
    report.anyName = call.name ∧ ∃ there, store.report? call.name = some there
  | _ => True

theorem moves_turn (call : UpsertCall) {phase : Phase} {w : World MemoryStore}
    (current : call.IsCurrent w.objects phase) :
    call.Moves phase w.objects (call.turn .memory phase w).1
      (call.turn .memory phase w).2.objects := by
  cases phase with
  | ready =>
    simp only [turn, Report.run_found?_memory]
    exact .look _
  | looked found =>
    cases found with
    | none =>
      simp only [turn, Report.write, Attempt.run_bind, Attempt.run_log,
        ObjectStore.run_createReport_memory, MemoryStore.createReport]
      cases found : w.objects.report? call.name with
      | none =>
        have free : w.objects.reports.contains (Report.new call.name call.spec).anyName = false :=
          congrArg Option.isSome found
        simp only [free]
        exact .create found
      | some there =>
        have taken : w.objects.reports.contains (Report.new call.name call.spec).anyName = true :=
          congrArg Option.isSome found
        simp only [taken]
        exact .refuse found
    | some report =>
      obtain ⟨named, there, found⟩ := current
      have taken : w.objects.reports.contains
          ({ report with spec := call.spec } : Report).anyName = true := by
        have same : ({ report with spec := call.spec } : Report).anyName = call.name := named
        rw [same]
        exact congrArg Option.isSome found
      simp only [turn, Report.write, Attempt.run_bind, Attempt.run_log,
        ObjectStore.run_replaceReport_memory, MemoryStore.replaceReport, taken]
      exact .replace named found
  | ended result => exact .rest _ _

namespace Moves

variable {call : UpsertCall} {phase phase' ended ended' : Phase} {store store' u u' : MemoryStore}

/-- A write is under the name of the call and nowhere else. -/
theorem elsewhere (moves : call.Moves phase store ended store') {name : String}
    (other : name ≠ call.name) : store'.report? name = store.report? name := by
  cases moves with
  | look | refuse | rest => rfl
  | create free => exact MemoryStore.report?_put_of_ne _ _ other
  | replace named taken => exact MemoryStore.report?_put_of_ne _ _ (by rwa [← named] at other)

theorem keyed (moves : call.Moves phase store ended store') (keyed : store.Keyed) :
    store'.Keyed := by
  cases moves with
  | look | refuse | rest => exact keyed
  | create free => exact MemoryStore.Keyed.put keyed _
  | replace named taken => exact MemoryStore.Keyed.put keyed _

/-- What is there stays there. -/
theorem stays (moves : call.Moves phase store ended store') {name : String} {report : Report}
    (found : store.report? name = some report) : ∃ report', store'.report? name = some report' := by
  by_cases here : name = call.name
  · subst here
    cases moves with
    | look | refuse | rest => exact ⟨report, found⟩
    | create free => exact ⟨_, MemoryStore.report?_put_of_named _ rfl⟩
    | replace named taken => exact ⟨_, MemoryStore.report?_put_of_named _ named⟩
  · exact ⟨report, (moves.elsewhere here).trans found⟩

/-- A look-up that found something is borne out when it is made, -/
theorem current_self (moves : call.Moves phase store ended store') (keyed : store.Keyed) :
    call.IsCurrent store' ended := by
  cases moves with
  | look =>
    cases found : store.report? call.name with
    | none => trivial
    | some report => exact ⟨keyed _ _ found, report, found⟩
  | create | refuse | replace | rest => trivial

/-- and stays so while other calls have their turns. -/
theorem current (moves : call.Moves phase store ended store') {other : UpsertCall}
    {phase : Phase} (current : other.IsCurrent store phase) : other.IsCurrent store' phase := by
  cases phase with
  | ready | ended => trivial
  | looked found =>
    cases found with
    | none => trivial
    | some report =>
      obtain ⟨named, there, found⟩ := current
      exact ⟨named, moves.stays found⟩

/-- A turn that writes puts the content of the call under its name. -/
theorem writes (moves : call.Moves phase store ended store') (h : wrote phase ended) :
    ∃ report, store'.report? call.name = some report ∧ report.spec = call.spec := by
  cases moves with
  | look | refuse | rest => simp [wrote] at h
  | create free => exact ⟨_, MemoryStore.report?_put_of_named _ rfl, rfl⟩
  | replace named taken => exact ⟨_, MemoryStore.report?_put_of_named _ named, rfl⟩

/-- Any other turn changes nothing there. -/
theorem report?_eq (moves : call.Moves phase store ended store') {name : String}
    (h : ¬ (wrote phase ended ∧ call.name = name)) : store'.report? name = store.report? name := by
  by_cases here : name = call.name
  · cases moves with
    | look | refuse | rest => rfl
    | create | replace => simp [wrote, here] at h
  · exact moves.elsewhere here

theorem of_ready (moves : call.Moves .ready store ended store') : ∃ found, ended = .looked found := by
  cases moves with
  | look => exact ⟨_, rfl⟩

theorem of_write {found : Option Report} (moves : call.Moves (.looked found) store ended store') :
    ∃ result, ended = .ended result := by
  cases moves with
  | create | refuse | replace => exact ⟨_, rfl⟩

theorem of_rest {result : Except StoreError Report}
    (moves : call.Moves (.ended result) store ended store') : ended = .ended result := by
  cases moves with
  | rest => rfl

theorem of_looked {found : Option Report} (moves : call.Moves phase store (.looked found) store') :
    phase = .ready ∧ store.report? call.name = found ∧ store' = store := by
  cases moves with
  | look => exact ⟨rfl, rfl, rfl⟩

theorem of_ended {result : Except StoreError Report}
    (moves : call.Moves phase store (.ended result) store') :
    (∃ found, phase = .looked found) ∨ phase = .ended result := by
  cases moves with
  | create | refuse | replace => exact .inl ⟨_, rfl⟩
  | rest => exact .inr rfl

/-- A replacement succeeds. -/
theorem of_found {report : Report}
    (moves : call.Moves (.looked (some report)) store ended store') :
    ∃ written, ended = .ended (.ok written) := by
  cases moves with
  | replace => exact ⟨_, rfl⟩

/-- A write that fails found something where the look-up had found nothing, and changes nothing. -/
theorem of_error {found : Option Report} {error : StoreError}
    (moves : call.Moves (.looked found) store (.ended (.error error)) store') :
    found = none ∧ (∃ there, store.report? call.name = some there) ∧ store' = store ∧
      error = .backend s!"Report {call.name} already exists" := by
  cases moves with
  | refuse taken => exact ⟨rfl, ⟨_, taken⟩, rfl, rfl⟩

/-- A turn after which there is something that was not there before creates it. -/
theorem of_appeared (moves : call.Moves phase store ended store') {name : String}
    (absent : store.report? name = none) (present : store'.report? name ≠ none) :
    call.name = name ∧ phase = .looked none ∧ ∃ report, ended = .ended (.ok report) := by
  have here : call.name = name := by
    by_contra other
    exact present ((moves.elsewhere (Ne.symm other)).trans absent)
  subst here
  cases moves with
  | look | refuse | rest => exact absurd absent present
  | create free => exact ⟨rfl, rfl, _, rfl⟩
  | replace named taken => simp [taken] at absent

/-- A turn goes by what is under the name of the call. -/
theorem determined (moves : call.Moves phase store ended store')
    (moves' : call.Moves phase u ended' u') (same : store.report? call.name = u.report? call.name) :
    ended = ended' ∧ store'.report? call.name = u'.report? call.name := by
  cases moves with
  | look =>
    cases moves' with
    | look => exact ⟨by rw [same], same⟩
  | create free =>
    cases moves' with
    | create =>
      let report : Report := .new call.name call.spec
      have named : report.anyName = call.name := rfl
      have here := MemoryStore.report?_put_of_named store named
      exact ⟨rfl, here.trans (MemoryStore.report?_put_of_named u rfl).symm⟩
    | refuse taken => simp [free, taken] at same
  | refuse taken =>
    cases moves' with
    | create free => simp [free, taken] at same
    | refuse => exact ⟨rfl, same⟩
  | @replace _ report _ named taken =>
    cases moves' with
    | replace =>
      have kept : ({ report with spec := call.spec } : Report).anyName = call.name := named
      have here := MemoryStore.report?_put_of_named store kept
      exact ⟨rfl, here.trans (MemoryStore.report?_put_of_named u kept).symm⟩
  | rest =>
    cases moves' with
    | rest => exact ⟨rfl, same⟩

end Moves

end UpsertCall

/-- Calls that take turns, the world that they share, and those of them that have written, in the
order in which they did. -/
structure Upserts (ι σ : Type) where
  phase : ι → UpsertCall.Phase
  world : World σ
  written : List ι := []

namespace Upserts

variable {ι σ : Type} [DecidableEq ι]

/-- A call has its next turn. -/
def next (store : ObjectStore σ) (calls : ι → UpsertCall) (u : Upserts ι σ) (i : ι) :
    Upserts ι σ :=
  let moved := (calls i).turn store (u.phase i) u.world
  { phase := Function.update u.phase i moved.1
    world := moved.2
    written := if UpsertCall.wrote (u.phase i) moved.1 then u.written ++ [i] else u.written }

/-- The calls of a schedule have their turns, all of them being at their beginning. -/
def after (store : ObjectStore σ) (calls : ι → UpsertCall) (schedule : List ι) (w : World σ) :
    Upserts ι σ :=
  schedule.foldl (next store calls) { phase := fun _ => .ready, world := w }

theorem after_snoc (store : ObjectStore σ) (calls : ι → UpsertCall) (schedule : List ι) (i : ι)
    (w : World σ) :
    after store calls (schedule ++ [i]) w = next store calls (after store calls schedule w) i :=
  List.foldl_concat ..

theorem phase_next_self (store : ObjectStore σ) (calls : ι → UpsertCall) (u : Upserts ι σ)
    (i : ι) :
    (next store calls u i).phase i = ((calls i).turn store (u.phase i) u.world).1 :=
  Function.update_self ..

theorem phase_next_of_ne (store : ObjectStore σ) (calls : ι → UpsertCall) (u : Upserts ι σ)
    {i j : ι} (other : j ≠ i) : (next store calls u i).phase j = u.phase j :=
  Function.update_of_ne other ..

/-- A call that has both of its turns in a row is an upsert. -/
theorem next_next (store : ObjectStore σ) (calls : ι → UpsertCall) {u : Upserts ι σ} {i : ι}
    (unstarted : u.phase i = .ready) :
    let upserted := (Report.upsert store (calls i).name (calls i).spec).run (calls i).spans u.world
    let v := next store calls (next store calls u i) i
    v.phase i = .ended upserted.1 ∧ v.world = upserted.2 := by
  intro upserted v
  have both : (calls i).turn store ((next store calls u i).phase i) (next store calls u i).world =
      (.ended upserted.1, upserted.2) := by
    rw [phase_next_self, next, unstarted]
    exact (calls i).turn_turn store u.world
  exact ⟨(phase_next_self ..).trans (congrArg Prod.fst both), congrArg Prod.snd both⟩

/-- The last call that has written under a name. -/
def lastWriter (calls : ι → UpsertCall) (u : Upserts ι σ) (name : String) : Option ι :=
  (u.written.filter fun i => (calls i).name = name).getLast?

theorem mem_written_next (store : ObjectStore σ) (calls : ι → UpsertCall) (u : Upserts ι σ)
    (i j : ι) :
    j ∈ (next store calls u i).written ↔ j ∈ u.written ∨
      j = i ∧ UpsertCall.wrote (u.phase i) ((next store calls u i).phase i) := by
  rw [phase_next_self]
  by_cases wrote : UpsertCall.wrote (u.phase i) ((calls i).turn store (u.phase i) u.world).1 <;>
    simp [next, wrote]

theorem lastWriter_next (store : ObjectStore σ) (calls : ι → UpsertCall) (u : Upserts ι σ)
    (i : ι) (name : String) :
    (next store calls u i).lastWriter calls name =
      if UpsertCall.wrote (u.phase i) ((next store calls u i).phase i) ∧ (calls i).name = name then
        some i
      else u.lastWriter calls name := by
  rw [phase_next_self]
  by_cases wrote : UpsertCall.wrote (u.phase i) ((calls i).turn store (u.phase i) u.world).1
  · by_cases named : (calls i).name = name <;> simp [lastWriter, next, wrote, named]
  · simp [lastWriter, next, wrote]

/-- What has come about in some turn was not there before it. -/
theorem exists_turn (store : ObjectStore σ) (calls : ι → UpsertCall) {P : Upserts ι σ → Prop}
    (base more : List ι) (w : World σ) (before : ¬ P (after store calls base w))
    (now : P (after store calls (base ++ more) w)) :
    ∃ earlier i later, more = earlier ++ i :: later ∧
      ¬ P (after store calls (base ++ earlier) w) ∧
      P (next store calls (after store calls (base ++ earlier) w) i) := by
  induction more using List.reverseRecOn with
  | nil => exact absurd (by simpa using now) before
  | append_singleton more j ih =>
    by_cases already : P (after store calls (base ++ more) w)
    · obtain ⟨earlier, i, later, rfl, absent, present⟩ := ih already
      exact ⟨earlier, i, later ++ [j], by simp, absent, present⟩
    · rw [← List.append_assoc, after_snoc] at now
      exact ⟨more, j, [], rfl, already, now⟩

/-! On the store in memory. -/

section Memory

variable {calls : ι → UpsertCall} {w : World MemoryStore} {u : Upserts ι MemoryStore}

/-- What holds after any number of turns: Reports have their own names, look-ups are borne out, and
under each name is what the last call put there that has written. -/
structure Orderly (calls : ι → UpsertCall) (w : World MemoryStore) (u : Upserts ι MemoryStore) :
    Prop where
  keyed : u.world.objects.Keyed
  current (i : ι) : (calls i).IsCurrent u.world.objects (u.phase i)
  unwritten (name : String) : u.lastWriter calls name = none →
    u.world.objects.report? name = w.objects.report? name
  written (name : String) (i : ι) : u.lastWriter calls name = some i →
    ∃ report, u.world.objects.report? name = some report ∧ report.spec = (calls i).spec

theorem Orderly.moves (h : Orderly calls w u) (i : ι) :
    (calls i).Moves (u.phase i) u.world.objects ((next .memory calls u i).phase i)
      (next .memory calls u i).world.objects := by
  rw [phase_next_self]
  exact UpsertCall.moves_turn _ (h.current i)

/-- The step of a schedule. -/
theorem Orderly.next (h : Orderly calls w u) (i : ι) :
    Orderly calls w (next .memory calls u i) := by
  have moves := h.moves i
  refine ⟨moves.keyed h.keyed, fun j => ?_, fun name none => ?_, fun name j last => ?_⟩
  · by_cases same : j = i
    · subst same
      exact moves.current_self h.keyed
    · rw [phase_next_of_ne _ _ _ same]
      exact moves.current (h.current j)
  · rw [lastWriter_next] at none
    split at none
    · cases none
    · rename_i other
      rw [moves.report?_eq other]
      exact h.unwritten name none
  · rw [lastWriter_next] at last
    split at last
    · rename_i wrote
      obtain ⟨wrote, rfl⟩ := wrote
      cases last
      exact moves.writes wrote
    · rename_i other
      rw [moves.report?_eq other]
      exact h.written name j last

theorem orderly_after (calls : ι → UpsertCall) (keyed : w.objects.Keyed) (schedule : List ι) :
    Orderly calls w (after .memory calls schedule w) := by
  induction schedule using List.reverseRecOn with
  | nil =>
    refine ⟨keyed, fun _ => trivial, fun _ _ => rfl, fun name i last => ?_⟩
    simp [after, lastWriter] at last
  | append_singleton schedule i ih =>
    rw [after_snoc]
    exact ih.next i

/-- What was there at some time is there at all later times. -/
theorem isSome_after (keyed : w.objects.Keyed) (schedule more : List ι) (name : String)
    (there : ((after .memory calls schedule w).world.objects.report? name).isSome) :
    ((after .memory calls (schedule ++ more) w).world.objects.report? name).isSome := by
  induction more using List.reverseRecOn with
  | nil => simpa using there
  | append_singleton more i ih =>
    obtain ⟨report, found⟩ := Option.isSome_iff_exists.mp ih
    rw [← List.append_assoc, after_snoc]
    obtain ⟨report', found'⟩ := ((orderly_after calls keyed _).moves i).stays found
    rw [found']
    rfl

/-- A call that has come to its end stays there. -/
theorem ended_after (store : ObjectStore MemoryStore) (schedule more : List ι) (i : ι)
    {result : Except StoreError Report}
    (ended : (after store calls schedule w).phase i = .ended result) :
    (after store calls (schedule ++ more) w).phase i = .ended result := by
  induction more using List.reverseRecOn with
  | nil => simpa using ended
  | append_singleton more j ih =>
    rw [← List.append_assoc, after_snoc]
    by_cases same : i = j
    · subst same
      rw [phase_next_self, ih]
      rfl
    · rw [phase_next_of_ne _ _ _ same, ih]

/-- How far a call is told by how many turns it has had. -/
def HasHad (turns : Nat) : UpsertCall.Phase → Prop
  | .ready => turns = 0
  | .looked _ => turns = 1
  | .ended _ => 2 ≤ turns

theorem hasHad_count (keyed : w.objects.Keyed) (schedule : List ι) (i : ι) :
    HasHad (schedule.count i) ((after .memory calls schedule w).phase i) := by
  induction schedule using List.reverseRecOn with
  | nil => rfl
  | append_singleton schedule j ih =>
    rw [after_snoc, List.count_append]
    by_cases same : i = j
    · subst same
      have moves := (orderly_after calls keyed schedule).moves i
      generalize (after .memory calls schedule w).phase i = phase at moves ih
      generalize (next .memory calls (after .memory calls schedule w) i).phase i = ended at moves ⊢
      rw [List.count_singleton_self]
      cases phase with
      | ready =>
        obtain ⟨found, rfl⟩ := moves.of_ready
        simp only [HasHad] at ih ⊢
        omega
      | looked found =>
        obtain ⟨result, rfl⟩ := moves.of_write
        simp only [HasHad] at ih ⊢
        omega
      | ended result =>
        obtain rfl := moves.of_rest
        simp only [HasHad] at ih ⊢
        omega
    · rw [phase_next_of_ne _ _ _ same]
      simpa [List.count_singleton, Ne.symm same] using ih

/-- Those that have written are those that have come to an end with success. -/
theorem mem_written_iff (keyed : w.objects.Keyed) (schedule : List ι) (i : ι) :
    i ∈ (after .memory calls schedule w).written ↔
      ∃ report, (after .memory calls schedule w).phase i = .ended (.ok report) := by
  induction schedule using List.reverseRecOn with
  | nil => simp [after]
  | append_singleton schedule j ih =>
    rw [after_snoc, mem_written_next, ih]
    by_cases same : i = j
    · subst same
      have moves := (orderly_after calls keyed schedule).moves i
      generalize (after .memory calls schedule w).phase i = phase at moves ⊢
      generalize (next .memory calls (after .memory calls schedule w) i).phase i = ended at moves ⊢
      cases phase with
      | ready =>
        obtain ⟨found, rfl⟩ := moves.of_ready
        simp [UpsertCall.wrote]
      | looked found =>
        obtain ⟨result, rfl⟩ := moves.of_write
        cases result <;> simp [UpsertCall.wrote]
      | ended result =>
        obtain rfl := moves.of_rest
        simp [UpsertCall.wrote]
    · simp [phase_next_of_ne _ _ _ same, same]

/-- Names without a turn of a call for them keep what is there. -/
theorem report?_after_of_notMem (keyed : w.objects.Keyed) (schedule : List ι) (name : String)
    (other : ∀ i ∈ schedule, (calls i).name ≠ name) :
    (after .memory calls schedule w).world.objects.report? name = w.objects.report? name := by
  induction schedule using List.reverseRecOn with
  | nil => rfl
  | append_singleton schedule i ih =>
    rw [after_snoc]
    have elsewhere := ((orderly_after calls keyed schedule).moves i).elsewhere
      (Ne.symm (other i (by simp)))
    exact elsewhere.trans (ih fun j mem => other j (List.mem_append_left _ mem))

/-- What goes on under a name is the same if only the calls for that name have their turns. -/
theorem after_filter (keyed : w.objects.Keyed) (schedule : List ι) (name : String) :
    let alone := after .memory calls (schedule.filter fun i => (calls i).name = name) w
    (∀ i, (calls i).name = name → (after .memory calls schedule w).phase i = alone.phase i) ∧
      (after .memory calls schedule w).world.objects.report? name =
        alone.world.objects.report? name := by
  induction schedule using List.reverseRecOn with
  | nil => exact ⟨fun _ _ => rfl, rfl⟩
  | append_singleton schedule j ih =>
    obtain ⟨phases, content⟩ := ih
    have moves := (orderly_after calls keyed schedule).moves j
    by_cases named : (calls j).name = name
    · have kept : (schedule ++ [j]).filter (fun i => (calls i).name = name) =
          schedule.filter (fun i => (calls i).name = name) ++ [j] := by
        simp [named]
      rw [kept, after_snoc, after_snoc]
      have moves' := (orderly_after calls keyed
        (schedule.filter fun i => (calls i).name = name)).moves j
      rw [← phases j named] at moves'
      subst named
      obtain ⟨same, content⟩ := moves.determined moves' content
      refine ⟨fun i name => ?_, content⟩
      by_cases eq : i = j
      · rw [eq]
        exact same
      · rw [phase_next_of_ne _ _ _ eq, phase_next_of_ne _ _ _ eq]
        exact phases i name
    · have dropped : (schedule ++ [j]).filter (fun i => (calls i).name = name) =
          schedule.filter (fun i => (calls i).name = name) := by
        simp [named]
      rw [dropped, after_snoc, moves.elsewhere (Ne.symm named)]
      refine ⟨fun i name => ?_, content⟩
      rw [phase_next_of_ne _ _ _ (by rintro rfl; exact named name)]
      exact phases i name

section Turns

variable {schedule : List ι} {i : ι}

/-- A call that has come to its end had its write before. -/
theorem exists_write (keyed : w.objects.Keyed) {result : Except StoreError Report}
    (ended : (after .memory calls schedule w).phase i = .ended result) :
    ∃ earlier later found, schedule = earlier ++ i :: later ∧
      (after .memory calls earlier w).phase i = .looked found ∧
      (after .memory calls (earlier ++ [i]) w).phase i = .ended result := by
  obtain ⟨earlier, j, later, split, unended, ended⟩ := exists_turn .memory calls
    (P := fun u => u.phase i = .ended result) [] schedule w (fun h => nomatch h) ended
  rw [List.nil_append] at unended ended
  by_cases same : i = j
  · subst same
    have moves := (orderly_after calls keyed earlier).moves i
    rw [ended] at moves
    obtain ⟨found, looked⟩ | already := moves.of_ended
    · exact ⟨earlier, later, found, split, looked, by rwa [after_snoc]⟩
    · exact absurd already unended
  · rw [phase_next_of_ne _ _ _ same] at ended
    exact absurd ended unended

/-- A call that waits to write had its look-up before. -/
theorem exists_look (keyed : w.objects.Keyed) {found : Option Report}
    (looked : (after .memory calls schedule w).phase i = .looked found) :
    ∃ earlier later, schedule = earlier ++ i :: later ∧
      (after .memory calls earlier w).phase i = .ready ∧
      (after .memory calls earlier w).world.objects.report? (calls i).name = found ∧
      (after .memory calls (earlier ++ [i]) w).world.objects =
        (after .memory calls earlier w).world.objects := by
  obtain ⟨earlier, j, later, split, unlooked, looked⟩ := exists_turn .memory calls
    (P := fun u => u.phase i = .looked found) [] schedule w (fun h => nomatch h) looked
  rw [List.nil_append] at unlooked looked
  by_cases same : i = j
  · subst same
    have moves := (orderly_after calls keyed earlier).moves i
    rw [looked] at moves
    obtain ⟨ready, found, kept⟩ := moves.of_looked
    exact ⟨earlier, later, split, ready, found, by rwa [after_snoc]⟩
  · rw [phase_next_of_ne _ _ _ same] at looked
    exact absurd looked unlooked

/-- Something that was not there has been created by a call that had found nothing. -/
theorem exists_creation (keyed : w.objects.Keyed) {base more : List ι} {name : String}
    (absent : (after .memory calls base w).world.objects.report? name = none)
    (present : (after .memory calls (base ++ more) w).world.objects.report? name ≠ none) :
    ∃ earlier j later, more = earlier ++ j :: later ∧ (calls j).name = name ∧
      (after .memory calls (base ++ earlier) w).phase j = .looked none ∧
      ∃ report, (after .memory calls (base ++ earlier ++ [j]) w).phase j = .ended (.ok report) := by
  obtain ⟨earlier, j, later, split, absent, present⟩ := exists_turn .memory calls
    (P := fun u => u.world.objects.report? name ≠ none) base more w (fun h => h absent) present
  have moves := (orderly_after calls keyed (base ++ earlier)).moves j
  obtain ⟨named, looked, created⟩ := moves.of_appeared (not_not.mp absent) present
  exact ⟨earlier, j, later, split, named, looked, by rwa [after_snoc]⟩

/-- Holds if a call found nothing under its name, another one created the Report of that name before
its write, and the write then failed without a trace. -/
def Overtaken (calls : ι → UpsertCall) (schedule : List ι) (w : World MemoryStore) (i : ι)
    (error : StoreError) : Prop :=
  let at_ (turns : List ι) := after .memory calls turns w
  ∃ before between later, schedule = before ++ i :: (between ++ i :: later) ∧
    error = .backend s!"Report {(calls i).name} already exists" ∧
    (at_ before).phase i = .ready ∧
    (at_ before).world.objects.report? (calls i).name = none ∧
    (at_ (before ++ i :: (between ++ [i]))).phase i = .ended (.error error) ∧
    (at_ (before ++ i :: (between ++ [i]))).world.objects =
      (at_ (before ++ i :: between)).world.objects ∧
    ∃ earlier j rest, between = earlier ++ j :: rest ∧ j ≠ i ∧ (calls j).name = (calls i).name ∧
      (at_ (before ++ i :: earlier)).phase j = .looked none ∧
      ∃ report, (at_ (before ++ i :: (earlier ++ [j]))).phase j = .ended (.ok report)

/-- A call that has failed was overtaken. -/
theorem overtaken (keyed : w.objects.Keyed) {error : StoreError}
    (failed : (after .memory calls schedule w).phase i = .ended (.error error)) :
    Overtaken calls schedule w i error := by
  obtain ⟨toWrite, later, found, rfl, looked, failed⟩ := exists_write keyed failed
  have moves := (orderly_after calls keyed toWrite).moves i
  rw [← after_snoc, looked, failed] at moves
  obtain ⟨rfl, ⟨there, taken⟩, kept, rfl⟩ := moves.of_error
  obtain ⟨before, between, rfl, ready, absent, same⟩ := exists_look keyed looked
  have absent' : (after .memory calls (before ++ [i]) w).world.objects.report? (calls i).name =
      none := by rw [same, absent]
  have present : (after .memory calls ((before ++ [i]) ++ between) w).world.objects.report?
      (calls i).name ≠ none := by
    rw [List.append_assoc, List.singleton_append, taken]
    exact Option.some_ne_none there
  obtain ⟨earlier, j, rest, rfl, named, free, report, created⟩ :=
    exists_creation keyed absent' present
  simp only [List.append_assoc, List.cons_append, List.nil_append]
    at free created kept failed looked ⊢
  refine ⟨before, earlier ++ j :: rest, later, by simp, rfl, ready, absent, by simpa using failed,
    by simpa using kept, earlier, j, rest, rfl, ?_, named, free, report, by simpa using created⟩
  -- The call itself has not written yet: what it then came to would be there still.
  rintro rfl
  have still := ended_after .memory _ rest j created
  simp only [List.append_assoc, List.cons_append, List.nil_append] at still
  rw [looked] at still
  cases still

end Turns

omit [DecidableEq ι] in
theorem exists_lastWriter (calls : ι → UpsertCall) {i : ι} (mem : i ∈ u.written) :
    ∃ j, u.lastWriter calls (calls i).name = some j := by
  have named : i ∈ u.written.filter fun j => (calls j).name = (calls i).name := by simp [mem]
  exact ⟨_, List.getLast?_eq_some_getLast (List.ne_nil_of_mem named)⟩

/-- Calls for Reports that go on at the same time over a store in memory, whatever the order of
their turns. Under a name that was written there is one Report, with the content of the last call
that wrote it; what is there stays there, and other names keep what they had. A replacement
succeeds, a call fails only if it was overtaken, and goes as it would without the calls for other
names. After two turns a call has come to its end, and if it has them in a row it is an upsert. -/
theorem upserts_by_turns (calls : ι → UpsertCall) (w : World MemoryStore)
    (keyed : w.objects.Keyed) (schedule : List ι) :
    let at_ (turns : List ι) := after .memory calls turns w
    let u := at_ schedule
    (∀ i, i ∈ u.written ↔ ∃ report, u.phase i = .ended (.ok report)) ∧
    (∀ i ∈ u.written, ∃ last report, u.lastWriter calls (calls i).name = some last ∧
      report.spec = (calls last).spec ∧
      ∀ e, e ∈ u.world.objects.reports.entries ∧ e.2.anyName = (calls i).name ↔
        e = ((calls i).name, report)) ∧
    (∀ more name, (u.world.objects.report? name).isSome →
      ((at_ (schedule ++ more)).world.objects.report? name).isSome) ∧
    (∀ name, (∀ i ∈ schedule, (calls i).name ≠ name) →
      u.world.objects.report? name = w.objects.report? name) ∧
    (∀ i found, u.phase i = .looked (some found) →
      ∃ report, (at_ (schedule ++ [i])).phase i = .ended (.ok report)) ∧
    (∀ i error, u.phase i = .ended (.error error) → Overtaken calls schedule w i error) ∧
    (∀ i, u.phase i =
      (at_ (schedule.filter fun j => (calls j).name = (calls i).name)).phase i) ∧
    (∀ i, 2 ≤ schedule.count i → ∃ result, u.phase i = .ended result) ∧
    ∀ i, u.phase i = .ready →
      let upserted :=
        (Report.upsert .memory (calls i).name (calls i).spec).run (calls i).spans u.world
      let v := at_ (schedule ++ [i, i])
      v.phase i = .ended upserted.1 ∧ v.world = upserted.2 := by
  intro at_ u
  have orderly : Orderly calls w u := orderly_after calls keyed schedule
  refine ⟨mem_written_iff keyed schedule, fun i mem => ?_, isSome_after keyed schedule,
    report?_after_of_notMem keyed schedule, fun i found looked => ?_, fun i error => overtaken keyed,
    fun i => (after_filter keyed schedule (calls i).name).1 i rfl, fun i twice => ?_,
    fun i unstarted => ?_⟩
  · obtain ⟨last, eq⟩ := exists_lastWriter calls mem
    obtain ⟨report, found, content⟩ := orderly.written _ _ eq
    exact ⟨last, report, eq, content, MemoryStore.mem_iff_of_found orderly.keyed found⟩
  · have moves := orderly.moves i
    rw [looked] at moves
    obtain ⟨written, ended⟩ := moves.of_found
    exact ⟨written, by rwa [← after_snoc] at ended⟩
  · have had : HasHad (schedule.count i) (u.phase i) := hasHad_count keyed schedule i
    cases phase : u.phase i with
    | ended result => exact ⟨result, rfl⟩
    | ready => rw [phase] at had; simp only [HasHad] at had; omega
    | looked found => rw [phase] at had; simp only [HasHad] at had; omega
  · have twice : at_ (schedule ++ [i, i]) = next .memory calls (next .memory calls u i) i := by
      rw [← after_snoc, ← after_snoc, List.append_assoc, List.singleton_append]
    rw [twice]
    exact next_next .memory calls unstarted

/-- Two calls look up one name before either of them writes: the second one to write fails, and the
Report has the content of the first. -/
theorem upserts_by_turns_overtaken :
    let calls (scans : Bool) : UpsertCall :=
      ⟨"nightly", ⟨if scans then .scan else .delete, []⟩, []⟩
    let w : World MemoryStore := ⟨.empty, {}, {}⟩
    let u := after .memory calls [true, false, true, false] w
    w.objects.Keyed ∧ u.phase false = .ended (.error (.backend "Report nightly already exists")) ∧
      Overtaken calls [true, false, true, false] w false
        (.backend "Report nightly already exists") ∧
      u.world.objects.reports.entries = [("nightly", .new "nightly" ⟨.scan, []⟩)] := by
  intro calls w u
  have keyed : w.objects.Keyed := fun _ _ found => nomatch found
  have failed : u.phase false = .ended (.error (.backend "Report nightly already exists")) := rfl
  obtain ⟨-, -, -, -, -, fails, -⟩ := upserts_by_turns calls w keyed [true, false, true, false]
  exact ⟨keyed, failed, fails false _ failed, rfl⟩

end Memory

end Upserts

end CleanupCourier
