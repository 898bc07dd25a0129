import CleanupCourier.Proofs.Cluster.ObjectName
import CleanupCourier.Proofs.Work.Frame
import CleanupCourier.Report.Upsert
import CleanupCourier.Store.Cluster

/-!
Work with the store of the cluster. Every operation is one request, and what comes of it is decided
by the answer alone: an answer holds an object, or it fails with a fault. An upsert is a look-up and
at most one request after it; which one is told by the answer to the look-up.
-/
namespace CleanupCourier

namespace ApiAnswer

/-- The status is that of an error, be it one of the client or of the server. -/
def Refuses (answer : ApiAnswer) : Prop :=
  400 ≤ answer.status ∧ answer.status < 600

/-- The answer is no refusal, and its body decodes. -/
def Holds {α : Type} (answer : ApiAnswer) (decode : Decoder α) (a : α) : Prop :=
  ¬ answer.Refuses ∧ Decode.text decode answer.body = .ok a

/-- The answer is a refusal, or its body does not decode. -/
def FailsWith {α : Type} (answer : ApiAnswer) (decode : Decoder α) (fault : ApiFault) : Prop :=
  (answer.Refuses ∧ Api.refusal answer = fault) ∨
    (¬ answer.Refuses ∧ (∃ error, Decode.text decode answer.body = .error error) ∧
      .undecodable = fault)

end ApiAnswer

namespace Api

variable {α : Type} {decode : Decoder α} {answer : ApiAnswer}

theorem objectOf_eq_ok_iff {a : α} : objectOf decode answer = .ok a ↔ answer.Holds decode a := by
  unfold objectOf ApiAnswer.Holds ApiAnswer.Refuses
  split
  case isTrue refuses => simp [refuses]
  case isFalse accepts =>
    cases Decode.text decode answer.body <;> simp [accepts]

theorem objectOf_eq_error_iff {fault : ApiFault} :
    objectOf decode answer = .error fault ↔ answer.FailsWith decode fault := by
  unfold objectOf ApiAnswer.FailsWith ApiAnswer.Refuses
  split
  case isTrue refuses => simp [refuses]
  case isFalse accepts =>
    cases Decode.text decode answer.body <;> simp [accepts]

theorem run_perform (server : ApiServer) (decode : Decoder α) (request : ApiRequest)
    (spans : List Span) (w : World (List ApiRequest)) :
    (perform server decode (some request)).run spans w =
      (objectOf decode (server (w.objects ++ [request])),
        { w with objects := w.objects ++ [request] }) := rfl

end Api

namespace World

/-- The world after a request to the API server. -/
def asked (w : World (List ApiRequest)) (request : ApiRequest) : World (List ApiRequest) :=
  { w with objects := w.objects ++ [request] }

end World

namespace ObjectStore

variable (server : ApiServer)

open Api

theorem run_getReport_cluster {name : String} (named : IsObjectName name) (spans : List Span)
    (w : World (List ApiRequest)) :
    ((cluster server).getReport name).run spans w =
      ((objectOf Report.decode (server (w.asked (inquiry name)).objects)).mapError
        (absentOr "Report" name), w.asked (inquiry name)) := by
  simp only [cluster, Attempt.run_mapError, getReport?_of_name named, run_perform]
  rfl

theorem run_createReport_cluster (report : Report) (spans : List Span)
    (w : World (List ApiRequest)) :
    ((cluster server).createReport report).run spans w =
      let v := w.noting
        { events := [⟨.debug, target, spans, s!"Creating Report {report.anyName}"⟩] }
      ((objectOf Report.decode (server (v.asked (creation report)).objects)).mapError .api,
        v.asked (creation report)) := by
  simp only [cluster, Attempt.run_bind, Attempt.run_log, Attempt.run_mapError, createReport?_eq,
    run_perform]
  simp [World.noting, World.asked]

theorem run_replaceReport_cluster {report : Report} (named : IsObjectName report.anyName)
    (spans : List Span) (w : World (List ApiRequest)) :
    ((cluster server).replaceReport report).run spans w =
      let v := w.noting
        { events := [⟨.debug, target, spans, s!"Replacing Report {report.anyName}"⟩] }
      ((objectOf Report.decode (server (v.asked (replacement report)).objects)).mapError
        (absentOr "Report" report.anyName), v.asked (replacement report)) := by
  simp only [cluster, Attempt.run_bind, Attempt.run_log, Attempt.run_mapError,
    replaceReport?_of_name named, run_perform]
  simp [World.noting, World.asked]

theorem run_getSecret_cluster {namespaceName name : String} (inside : IsObjectName namespaceName)
    (named : IsObjectName name) (spans : List Span) (w : World (List ApiRequest)) :
    ((cluster server).getSecret namespaceName name).run spans w =
      ((objectOf Secret.decode
          (server (w.asked (secretInquiry namespaceName name)).objects)).mapError
        (absentOr "Secret" (namespaceName ++ "/" ++ name)),
        w.asked (secretInquiry namespaceName name)) := by
  simp only [cluster, Attempt.run_mapError, getSecret?_of_name inside named, run_perform]
  rfl

end ObjectStore

end CleanupCourier
