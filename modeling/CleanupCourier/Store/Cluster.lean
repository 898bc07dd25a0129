import CleanupCourier.Cluster.Api
import CleanupCourier.Store.Basic

/-!
The store of the cluster, behind its API server. The server is any rule that answers a request in
view of all requests so far; those are the state of the store. A request that cannot be written down
is not sent.
-/
namespace CleanupCourier

/-- Answers the last of the requests so far. -/
abbrev ApiServer := List ApiRequest → ApiAnswer

namespace ApiServer

/-- What a server says about an object that it does not have. -/
def gone : ApiAnswer where
  status := 404
  body := (Json.object [("kind", .string "Status"), ("apiVersion", .string "v1"),
    ("status", .string "Failure"), ("message", .string "gone"), ("reason", .string "NotFound"),
    ("code", .nat 404)]).render

/-- A server that gives the listed answers one after the other, and then has nothing. -/
def scripted (answers : List ApiAnswer) : ApiServer := fun requests =>
  (answers[requests.length - 1]?).getD gone

end ApiServer

namespace Api

/-- Sends a request and decodes the object in the answer. -/
def perform {α : Type} (server : ApiServer) (decode : Decoder α) (request : Option ApiRequest) :
    Attempt (List ApiRequest) ApiFault α := do
  let some request := request | throw .unsendable
  modify fun w => { w with objects := w.objects ++ [request] }
  Attempt.ofExcept (objectOf decode (server (← get).objects))

def target : String := logTarget ["store", "cluster"]

end Api

open Api in
def ObjectStore.cluster (server : ApiServer) : ObjectStore (List ApiRequest) where
  getReport name :=
    (perform server Report.decode (getReport? name)).mapError (absentOr "Report" name)
  createReport report := do
    Attempt.log .debug target s!"Creating Report {report.anyName}"
    (perform server Report.decode (createReport? report)).mapError .api
  replaceReport report := do
    Attempt.log .debug target s!"Replacing Report {report.anyName}"
    (perform server Report.decode (replaceReport? report)).mapError
      (absentOr "Report" report.anyName)
  getSecret namespaceName name :=
    (perform server Secret.decode (getSecret? namespaceName name)).mapError
      (absentOr "Secret" (namespaceName ++ "/" ++ name))

end CleanupCourier
