import CleanupCourier.Proofs.Cluster.Registry
import CleanupCourier.Proofs.Store.Memory

/-!
The two stores agree. A store in the cluster whose server keeps what a store in memory holds,
written as JSON, answers every call as that one does, and afterwards the server keeps again what the
store in memory holds. So calls may go on for as long as they will, and no difference shows.
-/
namespace CleanupCourier

/-- What an API server keeps that has the contents of a store. -/
def Registry.of (store : MemoryStore) : Registry where
  reports := store.reports.mapValues Report.encode
  secrets := store.secrets.mapValues fun inNamespace => inNamespace.mapValues Secret.encode

/-- Each Report is under its own name, and an API server can hold whatever is there. -/
structure MemoryStore.OnWire (store : MemoryStore) : Prop where
  keyed : store.Keyed
  reports : ∀ name report, store.report? name = some report → report.metadata.OnWire
  secrets : ∀ namespaceName name secret, store.secret? namespaceName name = some secret →
    secret.metadata.OnWire

namespace Registry

theorem find?_reports_of (store : MemoryStore) (name : String) :
    (of store).reports.find? name = (store.report? name).map Report.encode :=
  KeyMap.find?_mapValues _ _ _

theorem secret?_of (store : MemoryStore) (namespaceName name : String) :
    (of store).secret? namespaceName name =
      (store.secret? namespaceName name).map Secret.encode := by
  simp only [secret?, of, KeyMap.find?_mapValues, MemoryStore.secret?]
  cases store.secrets.find? namespaceName with
  | none => rfl
  | some inNamespace => simp [KeyMap.find?_mapValues]

theorem contains_of (store : MemoryStore) (name : String) :
    (of store).reports.contains name = store.reports.contains name :=
  KeyMap.contains_mapValues _ _ _

theorem of_put (store : MemoryStore) (report : Report) :
    of (store.put report) = (of store).put report.anyName report.encode := by
  simp only [of, put, MemoryStore.put, KeyMap.mapValues_insert]

end Registry

namespace MemoryStore

theorem OnWire.put {store : MemoryStore} (h : store.OnWire) {report : Report}
    (onWire : report.metadata.OnWire) : (store.put report).OnWire where
  keyed := h.keyed.put report
  reports := by
    intro name found present
    by_cases named : report.anyName = name
    · rw [report?_put_of_named store named] at present
      cases present
      exact onWire
    · rw [report?_put_of_ne store report (Ne.symm named)] at present
      exact h.reports name found present
  secrets := h.secrets

theorem onWire_empty : empty.OnWire where
  keyed _ report found := nomatch (found : none = some report)
  reports _ report found := nomatch (found : none = some report)
  secrets _ _ secret found := nomatch (found : none = some secret)

end MemoryStore

/-- A world in the cluster whose server keeps what the store of a world in memory holds. -/
structure Mirrors (start : Registry) (u : World (List ApiRequest)) (w : World MemoryStore) :
    Prop where
  kept : start.after u.objects = .of w.objects
  onWire : w.objects.OnWire

/-- How two results of one operation agree: the same object comes back, or the same object is
missing; and where a name is taken, both fail in other ways. -/
inductive Agrees {α : Type} (taken : Prop) :
    Except StoreError α → Except StoreError α → Prop where
  | found (a : α) (free : ¬ taken) : Agrees taken (.ok a) (.ok a)
  | missing (kind name : String) (free : ¬ taken) :
    Agrees taken (.error (.notFound kind name)) (.error (.notFound kind name))
  | refused {error error' : StoreError} (h : taken) (other : error.isNotFound = false)
    (other' : error'.isNotFound = false) : Agrees taken (.error error) (.error error')

theorem Agrees.map {α β : Type} {taken : Prop} {result result' : Except StoreError α}
    (h : Agrees taken result result') (f : α → β) :
    Agrees taken (result.map f) (result'.map f) := by
  cases h with
  | found a free => exact .found (f a) free
  | missing kind name free => exact .missing kind name free
  | refused h other other' => exact .refused h other other'

/-- Where a name is taken, both results are failures of another kind than that nothing is there. -/
theorem Agrees.refusal {α : Type} {taken : Prop} {result result' : Except StoreError α}
    (h : Agrees taken result result') (holds : taken) :
    (∃ error, result = .error error ∧ error.isNotFound = false) ∧
      ∃ error, result' = .error error ∧ error.isNotFound = false := by
  cases h with
  | found _ free | missing _ _ free => exact absurd holds free
  | refused _ other other' => exact ⟨⟨_, rfl, other⟩, ⟨_, rfl, other'⟩⟩

/-- Two runs that end alike, in worlds that mirror each other. -/
structure EndAlike {α : Type} (start : Registry) (taken : Prop)
    (r : Except StoreError α × World (List ApiRequest))
    (r' : Except StoreError α × World MemoryStore) : Prop where
  agrees : Agrees taken r.1 r'.1
  mirrors : Mirrors start r.2 r'.2

theorem EndAlike.of_free {α : Type} {start : Registry} {taken : Prop}
    {r : Except StoreError α × World (List ApiRequest)}
    {r' : Except StoreError α × World MemoryStore} (h : EndAlike start taken r r')
    (free : ¬ taken) : EndAlike start False r r' := by
  rwa [eq_false free] at h

/-- A Report that can be sent to an API server, under a name of its own. -/
structure Report.IsSendable (report : Report) : Prop where
  named : report.metadata.name = some report.anyName
  valid : IsObjectName report.anyName
  onWire : report.metadata.OnWire

theorem Report.isSendable_new {name : String} (valid : IsObjectName name) (spec : ReportSpec) :
    (new name spec).IsSendable :=
  ⟨rfl, valid, Metadata.onWire_named name⟩

section Requests

variable {start : Registry} {m : Registry.Manner} {u : World (List ApiRequest)}
  {w : World MemoryStore} {spans : List Span}

open Api Registry

/-- What is taken down in a journal does not count. -/
theorem Mirrors.noting (h : Mirrors start u w) (journal : Journal) :
    Mirrors start (u.noting journal) w :=
  ⟨h.kept, h.onWire⟩

theorem Mirrors.answered (h : Mirrors start u w) (m : Manner) (request : ApiRequest) :
    start.server m (u.asked request).objects =
      m.answer request ((Registry.of w.objects).serve request).1 := by
  rw [World.asked, server_snoc, h.kept]

/-- A request that does to the server what was done in memory. -/
theorem Mirrors.asked (h : Mirrors start u w) {request : ApiRequest} {store : MemoryStore}
    (served : ((Registry.of w.objects).serve request).2 = .of store) (onWire : store.OnWire) :
    Mirrors start (u.asked request) { w with objects := store } where
  kept := by rw [World.asked, after_snoc, h.kept, served]
  onWire := onWire

section Answers

variable {α : Type} {decode : Decoder α} {encode : α → Json} {errorOf : ApiFault → StoreError}
  {taken : Prop} {request : ApiRequest}

theorem endsAlike_of_document (h : Mirrors start u w) {a : α} {status : Nat}
    {store : MemoryStore}
    (served : (Registry.of w.objects).serve request = (.document status (encode a), .of store))
    (accepts : status < 400) (back : decode.Recovers encode a) (written : (encode a).Writable)
    (onWire : store.OnWire) (free : ¬ taken) :
    EndAlike start taken
      ((objectOf decode (start.server m (u.asked request).objects)).mapError errorOf,
        u.asked request)
      (.ok a, { w with objects := store }) where
  agrees := by
    rw [h.answered, served, m.objectOf_document request back written accepts]
    exact .found a free
  mirrors := h.asked (by rw [served]) onWire

theorem endsAlike_of_refusal (h : Mirrors start u w) {code : Nat} {error : StoreError}
    (served : (Registry.of w.objects).serve request = (.refusal code, .of w.objects))
    (refuses : 400 ≤ code ∧ code < 600)
    (agrees : Agrees taken (.error (errorOf (.refused code (m.reason code) (m.message request))))
      (.error error : Except StoreError α)) :
    EndAlike start taken
      ((objectOf decode (start.server m (u.asked request).objects)).mapError errorOf,
        u.asked request)
      (.error error, w) where
  agrees := by
    rw [h.answered, served, m.objectOf_refusal decode request refuses]
    exact agrees
  mirrors := h.asked (by rw [served]) h.onWire

end Answers

/-! Every operation ends alike in the cluster and in memory. -/

variable (m spans)

theorem getReport_endsAlike (h : Mirrors start u w) {name : String} (named : IsObjectName name) :
    EndAlike start False (((ObjectStore.cluster (start.server m)).getReport name).run spans u)
      ((ObjectStore.memory.getReport name).run spans w) := by
  have served := serve_inquiry (.of w.objects) named
  rw [find?_reports_of] at served
  rw [ObjectStore.run_getReport_cluster _ named, ObjectStore.run_getReport_memory,
    MemoryStore.getReport]
  cases found : w.objects.report? name with
  | none =>
    rw [found] at served
    exact endsAlike_of_refusal h served (by decide) (.missing _ _ not_false)
  | some report =>
    rw [found] at served
    have onWire := h.onWire.reports name report found
    exact endsAlike_of_document h served (by decide) (Report.recovers onWire)
      (Report.writable onWire) h.onWire not_false

theorem getSecret_endsAlike (h : Mirrors start u w) {namespaceName name : String}
    (inside : IsObjectName namespaceName) (named : IsObjectName name) :
    EndAlike start False
      (((ObjectStore.cluster (start.server m)).getSecret namespaceName name).run spans u)
      ((ObjectStore.memory.getSecret namespaceName name).run spans w) := by
  have served := serve_secretInquiry (.of w.objects) inside named
  rw [secret?_of] at served
  rw [ObjectStore.run_getSecret_cluster _ inside named, ObjectStore.run_getSecret_memory,
    MemoryStore.getSecret]
  cases found : w.objects.secret? namespaceName name with
  | none =>
    rw [found] at served
    exact endsAlike_of_refusal h served (by decide) (.missing _ _ not_false)
  | some secret =>
    rw [found] at served
    have onWire := h.onWire.secrets namespaceName name secret found
    exact endsAlike_of_document h served (by decide) (Secret.recovers onWire)
      (Secret.writable onWire) h.onWire not_false

/-- A creation is refused, in the cluster as in memory, if its name is taken, and only then. -/
theorem createReport_endsAlike (h : Mirrors start u w) {report : Report}
    (sendable : report.IsSendable) :
    EndAlike start (w.objects.reports.contains report.anyName)
      (((ObjectStore.cluster (start.server m)).createReport report).run spans u)
      ((ObjectStore.memory.createReport report).run spans w) := by
  have served := serve_creation (.of w.objects) report
  have name : nameOf? report.encode = some report.anyName :=
    (nameOf?_encodeObject _ _ _).trans sendable.named
  simp only [add, name, contains_of, ← of_put] at served
  rw [ObjectStore.run_createReport_cluster, ObjectStore.run_createReport_memory,
    MemoryStore.createReport]
  have noted := h.noting
    { events := [⟨.debug, target, spans, s!"Creating Report {report.anyName}"⟩] }
  split
  case isTrue taken =>
    rw [if_pos taken] at served
    exact endsAlike_of_refusal noted served (by decide) (.refused taken rfl rfl)
  case isFalse free =>
    rw [if_neg free] at served
    exact endsAlike_of_document noted served (by decide) (Report.recovers sendable.onWire)
      (Report.writable sendable.onWire) (h.onWire.put sendable.onWire) free

theorem replaceReport_endsAlike (h : Mirrors start u w) {report : Report}
    (named : IsObjectName report.anyName) (onWire : report.metadata.OnWire) :
    EndAlike start False (((ObjectStore.cluster (start.server m)).replaceReport report).run spans u)
      ((ObjectStore.memory.replaceReport report).run spans w) := by
  have served := serve_replacement (.of w.objects) named
  simp only [replace, contains_of, ← of_put] at served
  rw [ObjectStore.run_replaceReport_cluster _ named, ObjectStore.run_replaceReport_memory,
    MemoryStore.replaceReport]
  have noted := h.noting
    { events := [⟨.debug, target, spans, s!"Replacing Report {report.anyName}"⟩] }
  split
  case isTrue there =>
    rw [if_pos there] at served
    exact endsAlike_of_document noted served (by decide) (Report.recovers onWire)
      (Report.writable onWire) (h.onWire.put onWire) not_false
  case isFalse absent =>
    rw [if_neg absent] at served
    exact endsAlike_of_refusal noted served (by decide) (.missing _ _ not_false)

end Requests

/-! So does an upsert, which is made of them. -/

section Upsert

variable {start : Registry} {m : Registry.Manner} {u : World (List ApiRequest)}
  {w : World MemoryStore} {spans : List Span}

/-- Runs that end alike may be followed by any that do. -/
theorem EndAlike.bind {α β : Type} {p : Attempt (List ApiRequest) StoreError α}
    {q : Attempt MemoryStore StoreError α} {f : α → Attempt (List ApiRequest) StoreError β}
    {g : α → Attempt MemoryStore StoreError β} {taken : Prop}
    (first : EndAlike start taken (p.run spans u) (q.run spans w))
    (next : ∀ a u', Mirrors start u' (q.run spans w).2 →
      EndAlike start taken ((f a).run spans u') ((g a).run spans (q.run spans w).2)) :
    EndAlike start taken ((p >>= f).run spans u) ((q >>= g).run spans w) := by
  rw [Attempt.run_bind, Attempt.run_bind]
  obtain ⟨agrees, mirrors⟩ := first
  generalize p.run spans u = ended at *
  generalize q.run spans w = ended' at *
  obtain ⟨result, u'⟩ := ended
  obtain ⟨result', w'⟩ := ended'
  cases agrees with
  | found a free => exact next a u' mirrors
  | missing kind name free => exact ⟨.missing kind name free, mirrors⟩
  | refused h other other' => exact ⟨.refused h other other', mirrors⟩

section Steps

variable (spans) {taken : Prop} (free : ¬ taken)
include free

theorem endsAlike_pure {α : Type} (h : Mirrors start u w) (a : α) :
    EndAlike start taken ((pure a : Attempt _ _ α).run spans u)
      ((pure a : Attempt _ _ α).run spans w) :=
  ⟨.found a free, h⟩

theorem endsAlike_log (h : Mirrors start u w) (level : Level) (target message : String) :
    EndAlike start taken ((Attempt.log level target message : Attempt _ _ Unit).run spans u)
      ((Attempt.log level target message : Attempt _ _ Unit).run spans w) :=
  ⟨.found () free, h.kept, h.onWire⟩

theorem endsAlike_observe (h : Mirrors start u w) (observation : Observation) :
    EndAlike start taken ((Attempt.observe observation : Attempt _ _ Unit).run spans u)
      ((Attempt.observe observation : Attempt _ _ Unit).run spans w) :=
  ⟨.found () free, h.kept, h.onWire⟩

end Steps

variable (m spans)

/-- A look-up finds in the cluster what is there in memory. -/
theorem run_found?_cluster (h : Mirrors start u w) {name : String} (named : IsObjectName name) :
    ∃ u', (Report.found? (.cluster (start.server m)) name).run spans u =
      (.ok (w.objects.report? name), u') ∧ Mirrors start u' w := by
  obtain ⟨agrees, mirrors⟩ := getReport_endsAlike m spans h named
  rw [ObjectStore.run_getReport_memory, MemoryStore.getReport] at agrees mirrors
  rw [Report.run_found?]
  generalize ((ObjectStore.cluster (start.server m)).getReport name).run spans u = ended at *
  obtain ⟨result, u'⟩ := ended
  refine ⟨u', ?_, mirrors⟩
  cases found : w.objects.report? name with
  | none =>
    rw [found] at agrees
    cases agrees with
    | missing => rfl
    | refused h => exact h.elim
  | some report =>
    rw [found] at agrees
    cases agrees
    rfl

theorem write_endsAlike (h : Mirrors start u w) {name : String} (named : IsObjectName name)
    (spec : ReportSpec) :
    EndAlike start False
      ((Report.write (.cluster (start.server m)) name spec (w.objects.report? name)).run spans u)
      ((Report.write .memory name spec (w.objects.report? name)).run spans w) := by
  have ends (written : Report) (observation : Observation) {u' : World (List ApiRequest)}
      {w' : World MemoryStore} (h' : Mirrors start u' w') :=
    (endsAlike_observe spans not_false h' observation).bind fun _ _ h'' =>
      endsAlike_pure spans not_false h'' written
  cases found : w.objects.report? name with
  | none =>
    refine (endsAlike_log spans not_false h _ _ _).bind fun _ u' h' => ?_
    refine EndAlike.bind ?_ fun written _ h'' => ends written _ h''
    have free : w.objects.reports.contains (Report.new name spec).anyName = false := by
      change (w.objects.report? name).isSome = false
      rw [found, Option.isSome_none]
    exact (createReport_endsAlike m spans h' (Report.isSendable_new named spec)).of_free
      (Bool.eq_false_iff.mp free)
  | some report =>
    have onWire := h.onWire.reports name report found
    have same : report.anyName = name := h.onWire.keyed name report found
    refine (endsAlike_log spans not_false h _ _ _).bind fun _ u' h' => ?_
    refine EndAlike.bind ?_ fun written _ h'' => ends written _ h''
    exact replaceReport_endsAlike m spans h' (same ▸ named) onWire

theorem upsert_endsAlike (h : Mirrors start u w) {name : String} (named : IsObjectName name)
    (spec : ReportSpec) :
    EndAlike start False ((Report.upsert (.cluster (start.server m)) name spec).run spans u)
      ((Report.upsert .memory name spec).run spans w) := by
  obtain ⟨u', looked, mirrors⟩ := run_found?_cluster m spans h named
  simp only [Report.upsert, Attempt.run_bind, looked, Report.run_found?_memory]
  exact write_endsAlike m spans mirrors named spec

end Upsert

/-- What may be asked of a store. -/
inductive StoreCall where
  | getReport (name : String)
  | createReport (report : Report)
  | replaceReport (report : Report)
  | getSecret (namespaceName name : String)
  | upsert (name : String) (spec : ReportSpec)

/-- What a store may give. -/
inductive Stored where
  | report (report : Report)
  | secret (secret : Secret)

namespace StoreCall

/-- Does what is asked. -/
def perform {σ : Type} (store : ObjectStore σ) : StoreCall → Attempt σ StoreError Stored
  | .getReport name => .report <$> store.getReport name
  | .createReport report => .report <$> store.createReport report
  | .replaceReport report => .report <$> store.replaceReport report
  | .getSecret namespaceName name => .secret <$> store.getSecret namespaceName name
  | .upsert name spec => .report <$> Report.upsert store name spec

/-- Does one thing after the other, whether they fail or not. -/
def performAll {σ : Type} (store : ObjectStore σ) (spans : List Span) (calls : List StoreCall)
    (w : World σ) : World σ :=
  calls.foldl (fun w call => ((call.perform store).run spans w).2) w

/-- The names are those of objects, and what is sent can be sent. -/
def Valid : StoreCall → Prop
  | .getReport name | .upsert name _ => IsObjectName name
  | .createReport report | .replaceReport report => report.IsSendable
  | .getSecret namespaceName name => IsObjectName namespaceName ∧ IsObjectName name

/-- The call is to create what is there already. -/
def Taken (store : MemoryStore) : StoreCall → Prop
  | .createReport report => (store.report? report.anyName).isSome
  | _ => False

section Runs

variable {start : Registry} {u : World (List ApiRequest)} {w : World MemoryStore}

theorem endsAlike_map {α β : Type} {p : Attempt (List ApiRequest) StoreError α}
    {q : Attempt MemoryStore StoreError α} {taken : Prop} {spans : List Span}
    (h : EndAlike start taken (p.run spans u) (q.run spans w)) (f : α → β) :
    EndAlike start taken ((f <$> p).run spans u) ((f <$> q).run spans w) := by
  rw [Attempt.run_map, Attempt.run_map]
  exact ⟨h.agrees.map f, h.mirrors⟩

/-- One call ends alike in worlds that mirror each other. -/
theorem perform_endsAlike (m : Registry.Manner) (h : Mirrors start u w) {call : StoreCall}
    (valid : call.Valid) (spans : List Span) :
    EndAlike start (call.Taken w.objects) ((call.perform (.cluster (start.server m))).run spans u)
      ((call.perform .memory).run spans w) := by
  cases call with
  | getReport name => exact endsAlike_map (getReport_endsAlike m spans h valid) _
  | createReport report => exact endsAlike_map (createReport_endsAlike m spans h valid) _
  | replaceReport report =>
    exact endsAlike_map (replaceReport_endsAlike m spans h valid.valid valid.onWire) _
  | getSecret namespaceName name =>
    exact endsAlike_map (getSecret_endsAlike m spans h valid.1 valid.2) _
  | upsert name spec => exact endsAlike_map (upsert_endsAlike m spans h valid spec) _

/-- So worlds mirror each other after any calls. -/
theorem mirrors_performAll (m : Registry.Manner) {calls : List StoreCall}
    (valid : ∀ call ∈ calls, call.Valid) (spans : List Span) (h : Mirrors start u w) :
    Mirrors start (performAll (.cluster (start.server m)) spans calls u)
      (performAll .memory spans calls w) := by
  induction calls generalizing u w with
  | nil => exact h
  | cons call rest ih =>
    obtain ⟨first, others⟩ := List.forall_mem_cons.mp valid
    exact ih others (perform_endsAlike m h first spans).mirrors

end Runs

end StoreCall

/-- The stores agree for as long as they are asked, whatever is asked of them, and however the
server words its answers: a call after any calls gives the same object in both, or misses the same
object in both; it fails otherwise only where the name of a new Report is taken, and there in both.
And what the server keeps in the end is what is kept in memory. -/
theorem stores_agree (m : Registry.Manner) {store : MemoryStore} (onWire : store.OnWire)
    (earlier : List StoreCall) (call : StoreCall) (valid : ∀ c ∈ earlier ++ [call], c.Valid)
    (spans : List Span) (traffic traffic' : Traffic) (journal journal' : Journal) :
    let cluster := ObjectStore.cluster ((Registry.of store).server m)
    let u := StoreCall.performAll cluster spans earlier ⟨[], traffic, journal⟩
    let w := StoreCall.performAll .memory spans earlier ⟨store, traffic', journal'⟩
    let inCluster := (call.perform cluster).run spans u
    let inMemory := (call.perform .memory).run spans w
    Agrees (call.Taken w.objects) inCluster.1 inMemory.1 ∧
      (Registry.of store).after inCluster.2.objects = .of inMemory.2.objects := by
  intro cluster u w inCluster inMemory
  obtain ⟨before, last⟩ := List.forall_mem_append.mp valid
  have start : Mirrors (.of store) ⟨[], traffic, journal⟩ ⟨store, traffic', journal'⟩ :=
    ⟨rfl, onWire⟩
  have ends := StoreCall.perform_endsAlike m (StoreCall.mirrors_performAll m before spans start)
    (List.forall_mem_singleton.mp last) spans
  exact ⟨ends.agrees, ends.mirrors.kept⟩

/-- A creation is refused in both stores where an upsert has taken the name before it. -/
theorem stores_agree_taken :
    let cluster := ObjectStore.cluster ((Registry.of .empty).server .plain)
    let earlier : List StoreCall := [.upsert "nightly" {}]
    let u := StoreCall.performAll cluster [] earlier ⟨[], {}, {}⟩
    let w := StoreCall.performAll .memory [] earlier ⟨.empty, {}, {}⟩
    let creation := StoreCall.createReport (.new "nightly" ⟨.scan, []⟩)
    (∃ error, ((creation.perform cluster).run [] u).1 = .error error ∧
        error.isNotFound = false) ∧
      ∃ error, ((creation.perform .memory).run [] w).1 = .error error ∧
        error.isNotFound = false := by
  intro cluster earlier u w creation
  have name : IsObjectName "nightly" := by decide
  have valid : ∀ c ∈ earlier ++ [creation], c.Valid := by
    simp only [earlier, creation, List.singleton_append, List.forall_mem_cons]
    exact ⟨name, Report.isSendable_new name _, List.forall_mem_nil _⟩
  have unnamed := MemoryStore.onWire_empty.keyed "nightly"
  have upserted := Report.run_upsert_memory (w := ⟨.empty, {}, {}⟩) unnamed {} []
  have stored : w.objects = MemoryStore.empty.put (MemoryStore.empty.revised "nightly" {}) := by
    simp only [w, earlier, StoreCall.performAll, List.foldl_cons, List.foldl_nil,
      StoreCall.perform, Attempt.run_map, upserted, World.noting]
  have taken : creation.Taken w.objects := by
    have found := (MemoryStore.wrote_put unnamed {}).here
    rw [stored]
    exact Option.isSome_of_eq_some found
  have agree := stores_agree .plain MemoryStore.onWire_empty earlier creation valid [] {} {} {} {}
  exact agree.1.refusal taken

end CleanupCourier
