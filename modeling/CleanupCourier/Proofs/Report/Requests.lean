import CleanupCourier.Proofs.Cluster.Objects
import CleanupCourier.Proofs.Store.Cluster

/-!
The requests of an upsert in the cluster. The first asks for the Report under the name. What it
finds is replaced, whatever name and version it came with; if the server has no such Report, a new
one is added; and after every other failure nothing more is asked.
-/
namespace CleanupCourier

/-- A refusal that says that the object is not there. -/
def ApiFault.IsAbsence (fault : ApiFault) : Prop :=
  ∃ reason message, fault = .refused 404 reason message

theorem Api.absentOr_of_isAbsence {kind name : String} {fault : ApiFault} (h : fault.IsAbsence) :
    absentOr kind name fault = .notFound kind name := by
  obtain ⟨reason, message, rfl⟩ := h
  rfl

theorem Api.absentOr_of_not {kind name : String} {fault : ApiFault} (h : ¬ fault.IsAbsence) :
    absentOr kind name fault = .api fault := by
  cases fault with
  | refused code reason message =>
    unfold absentOr
    split
    case h_1 _ _ same => exact absurd ⟨_, _, same⟩ h
    case h_2 => rfl
  | unsendable | undecodable => rfl

namespace Report

open Api

variable {server : ApiServer} {name : String} {spec : ReportSpec} {spans : List Span}
  {w : World (List ApiRequest)}

theorem run_upsert_of_found {σ : Type} {store : ObjectStore σ} {found : Option Report}
    {u v : World σ} (h : (found? store name).run spans u = (.ok found, v)) :
    (upsert store name spec).run spans u = (write store name spec found).run spans v := by
  rw [upsert, Attempt.run_bind, h]

theorem run_upsert_of_error {σ : Type} {store : ObjectStore σ} {error : StoreError}
    {u v : World σ} (h : (found? store name).run spans u = (.error error, v)) :
    (upsert store name spec).run spans u = (.error error, v) := by
  rw [upsert, Attempt.run_bind, h]

/-- How an upsert ends whose second request is `second`: the request follows the look-up and is the
last one; it decides the result; and `observation` is made if it succeeds, and only then. -/
structure EndsWith (server : ApiServer) (w : World (List ApiRequest)) (first second : ApiRequest)
    (observation : Observation) (errorOf : ApiFault → StoreError)
    (result : Except StoreError Report) (v : World (List ApiRequest)) : Prop where
  sent : v.objects = w.objects ++ [first, second]
  ok_iff (written : Report) :
    result = .ok written ↔ (server v.objects).Holds Report.decode written
  error_iff (error : StoreError) :
    result = .error error ↔
      ∃ fault, (server v.objects).FailsWith Report.decode fault ∧ error = errorOf fault
  counted : v.journal.observations =
    w.journal.observations ++ if result.isOk then [observation] else []
  quiet : v.traffic = w.traffic

section LookUp

variable (named : IsObjectName name)
include named

theorem run_found?_of_holds {report : Report}
    (h : (server (w.asked (inquiry name)).objects).Holds Report.decode report) :
    (found? (.cluster server) name).run spans w = (.ok (some report), w.asked (inquiry name)) := by
  rw [run_found?, ObjectStore.run_getReport_cluster _ named, objectOf_eq_ok_iff.mpr h]
  rfl

theorem run_found?_of_absence {fault : ApiFault}
    (h : (server (w.asked (inquiry name)).objects).FailsWith Report.decode fault)
    (absence : fault.IsAbsence) :
    (found? (.cluster server) name).run spans w = (.ok none, w.asked (inquiry name)) := by
  rw [run_found?, ObjectStore.run_getReport_cluster _ named, objectOf_eq_error_iff.mpr h,
    Except.mapError, absentOr_of_isAbsence absence]
  rfl

theorem run_found?_of_fault {fault : ApiFault}
    (h : (server (w.asked (inquiry name)).objects).FailsWith Report.decode fault)
    (other : ¬ fault.IsAbsence) :
    (found? (.cluster server) name).run spans w =
      (.error (.api fault), w.asked (inquiry name)) := by
  rw [run_found?, ObjectStore.run_getReport_cluster _ named, objectOf_eq_error_iff.mpr h,
    Except.mapError, absentOr_of_not other]
  rfl

end LookUp

/-- How a write in the cluster ends that asks for `second` and goes by the answer. -/
theorem endsWith_save {first second : ApiRequest} {observation : Observation}
    {errorOf : ApiFault → StoreError} {save : Attempt (List ApiRequest) StoreError Report}
    {journal : Journal} (silent : journal.observations = [])
    (run : ∀ u : World (List ApiRequest), save.run spans u =
      ((objectOf Report.decode (server (u.objects ++ [second]))).mapError errorOf,
        (u.noting journal).asked second)) (text : String) :
    let after := (do
      Attempt.log .info upsertTarget text
      let written ← save
      Attempt.observe observation
      return written : Attempt (List ApiRequest) StoreError Report).run spans (w.asked first)
    EndsWith server w first second observation errorOf after.1 after.2 := by
  intro after
  simp only [after, Attempt.run_bind, Attempt.run_log, run, World.asked, World.noting, silent,
    List.append_assoc, List.append_nil, List.cons_append, List.nil_append]
  cases answer : objectOf Report.decode (server (w.objects ++ [first, second])) with
  | ok written =>
    simp only [Except.mapError, Attempt.run_observe, Attempt.run_pure]
    refine ⟨rfl, fun a => ?_, fun error => ?_, rfl, rfl⟩
    · simp [← objectOf_eq_ok_iff, answer]
    · simp [← objectOf_eq_error_iff, answer]
  | error fault =>
    simp only [Except.mapError]
    refine ⟨rfl, fun a => ?_, fun error => ?_, by simp [Except.isOk, Except.toBool], rfl⟩
    · simp [← objectOf_eq_ok_iff, answer]
    · simp [← objectOf_eq_error_iff, answer, eq_comm]

section Cases

variable (server : ApiServer) (named : IsObjectName name) (spec : ReportSpec) (spans : List Span)
  {ended : Except StoreError Report × World (List ApiRequest)}
  (run : (upsert (.cluster server) name spec).run spans w = ended)
include named run

theorem upsert_of_holds {report : Report}
    (holds : (server (w.asked (inquiry name)).objects).Holds Report.decode report)
    (valid : IsObjectName report.anyName) :
    EndsWith server w (inquiry name) (replacement { report with spec }) (.reportWritten .update)
      (absentOr "Report" report.anyName) ended.1 ended.2 := by
  have same : ({ report with spec } : Report).anyName = report.anyName := rfl
  rw [← same] at valid ⊢
  rw [← run, run_upsert_of_found (run_found?_of_holds named holds)]
  exact endsWith_save rfl (ObjectStore.run_replaceReport_cluster server valid spans) _

theorem upsert_of_absence {fault : ApiFault}
    (fails : (server (w.asked (inquiry name)).objects).FailsWith Report.decode fault)
    (absence : fault.IsAbsence) :
    EndsWith server w (inquiry name) (creation (.new name spec)) (.reportWritten .create) .api
      ended.1 ended.2 := by
  rw [← run, run_upsert_of_found (run_found?_of_absence named fails absence)]
  exact endsWith_save rfl (ObjectStore.run_createReport_cluster server _ spans) _

end Cases

/-- The requests of an upsert and its end, for each answer to the look-up. A Report that is found is
replaced under its own name, with its metadata and the new content; where the server has none, one
is added under the name that was asked for; and every other failure is the failure of the whole,
with nothing asked or counted after it. -/
theorem upsert_cluster (server : ApiServer) {name : String} (named : IsObjectName name)
    (spec : ReportSpec) (spans : List Span) (w : World (List ApiRequest))
    (honest : ∀ report, (server (w.objects ++ [inquiry name])).Holds Report.decode report →
      IsObjectName report.anyName) :
    let first := inquiry name
    let answer := server (w.objects ++ [first])
    let after := (upsert (.cluster server) name spec).run spans w
    (∀ report, answer.Holds Report.decode report →
      EndsWith server w first (replacement { report with spec }) (.reportWritten .update)
        (absentOr "Report" report.anyName) after.1 after.2) ∧
    (∀ fault, answer.FailsWith Report.decode fault → fault.IsAbsence →
      EndsWith server w first (creation (.new name spec)) (.reportWritten .create) .api
        after.1 after.2) ∧
    (∀ fault, answer.FailsWith Report.decode fault → ¬ fault.IsAbsence →
      after = (.error (.api fault), w.asked first)) := by
  intro first answer after
  refine ⟨fun report holds => ?_, fun fault fails absence => ?_, fun fault fails other => ?_⟩
  · exact upsert_of_holds server named spec spans rfl holds (honest report holds)
  · exact upsert_of_absence server named spec spans rfl fails absence
  · exact run_upsert_of_error (run_found?_of_fault named fails other)

/-- An answer with a Report in it that an API server can hold. -/
theorem holds_of_render {report : Report} (h : report.metadata.OnWire) {status : Nat}
    (accepts : status < 400) :
    (ApiAnswer.mk status report.encode.render).Holds Report.decode report :=
  ⟨fun refuses => Nat.not_le.mpr accepts refuses.1,
    Decode.text_of_read (Report.recovers h) (Json.read_render (Report.writable h))⟩

/-- A Report that is there keeps its version when it is replaced. -/
theorem upsert_cluster_nightly :
    let kept : Report := ⟨{ name := some "nightly", resourceVersion := some "7" }, {}⟩
    let answer : ApiAnswer := ⟨200, kept.encode.render⟩
    let server := ApiServer.scripted [answer, answer]
    let w : World (List ApiRequest) := ⟨[], {}, {}⟩
    let after := (upsert (.cluster server) "nightly" ⟨.scan, []⟩).run [] w
    EndsWith server w (inquiry "nightly") (replacement { kept with spec := ⟨.scan, []⟩ })
      (.reportWritten .update) (absentOr "Report" "nightly") after.1 after.2 := by
  intro kept answer server w after
  have onWire : kept.metadata.OnWire := ⟨nofun, nofun, nofun, nofun, nofun⟩
  have holds : answer.Holds Report.decode kept := holds_of_render onWire (by decide)
  refine (upsert_cluster server (by decide) _ _ w fun report found => ?_).1 kept holds
  have same : Except.ok kept = .ok report := holds.2.symm.trans found.2
  cases same
  decide

/-- An answer need not be a success to be taken for one: a redirect with a Report in it is followed
by a replacement, and a redirect that answers that is the success of the whole. And the status of a
refusal does not count where the server states another code. -/
theorem upsert_cluster_redirected :
    let kept : Report := .new "nightly" {}
    let moved : ApiAnswer := ⟨301, kept.encode.render⟩
    let refused : ApiAnswer := ⟨404, (statusJson 410 "Gone" "gone").render⟩
    let w : World (List ApiRequest) := ⟨[], {}, {}⟩
    let after (answers : List ApiAnswer) :=
      (upsert (.cluster (.scripted answers)) "nightly" {}).run [] w
    (¬ (200 ≤ moved.status ∧ moved.status < 300) ∧
      (after [moved, moved]).2.objects = [inquiry "nightly", replacement kept] ∧
      (after [moved, moved]).1 = .ok kept) ∧
    (after [moved, refused]).1 = .error (.api (.refused 410 "Gone" "gone")) := by
  intro kept moved refused w after
  have holds : moved.Holds Report.decode kept :=
    holds_of_render (Metadata.onWire_named _) (by decide)
  have named : IsObjectName "nightly" := by decide
  have ends (second : ApiAnswer) := upsert_of_holds (.scripted [moved, second]) named {} []
    (rfl : _ = after [moved, second]) holds named
  have sent (second : ApiAnswer) :
      (after [moved, second]).2.objects = [inquiry "nightly", replacement kept] :=
    (ends second).sent
  have answered (second : ApiAnswer) :
      ApiServer.scripted [moved, second] (after [moved, second]).2.objects = second := by
    rw [sent]
    rfl
  have redirect : ¬ (200 ≤ moved.status ∧ moved.status < 300) := by simp [moved]
  refine ⟨⟨redirect, sent moved, ?_⟩, ?_⟩
  · rw [(ends moved).ok_iff, answered]
    exact holds
  · rw [(ends refused).error_iff, answered]
    refine ⟨.refused 410 "Gone" "gone", .inl ⟨⟨by simp [refused], by simp [refused]⟩, ?_⟩, rfl⟩
    exact refusal_of_read (by decide) (Json.read_render (writable_statusJson _ _ _))

end Report

end CleanupCourier
