import CleanupCourier.Cluster.Secret
import CleanupCourier.Failure
import CleanupCourier.Report.Basic

/-!
Requests to the API server of the cluster and the answers to them. A request is a method, a target
made of the place of an object, and for writing an object as JSON. A target with characters that
cannot stand in one is not sent.
-/
namespace CleanupCourier

structure ApiRequest where
  method : String
  target : String
  body : Option Json := none
deriving Repr

structure ApiAnswer where
  status : Nat
  body : String
deriving DecidableEq, Repr

namespace Api

/-- Characters that may stand in the path of a target. -/
def isPathChar (c : Char) : Bool :=
  let n := c.toNat
  n == 0x21 || n == 0x22 || (0x24 ≤ n && n ≤ 0x3B) || n == 0x3D || (0x40 ≤ n && n ≤ 0x5F) ||
    (0x61 ≤ n && n ≤ 0x7E) || 0x7F ≤ n

/-- Characters that may stand in the query of a target. -/
def isQueryChar (c : Char) : Bool :=
  let n := c.toNat
  n == 0x21 || (0x24 ≤ n && n ≤ 0x3B) || n == 0x3D || 0x3F ≤ n

/-- The longest target in octets. -/
def maxTargetSize : Nat := 65534

/-- The target as it is sent: all from a number sign on is left out. -/
def target? (text : String) : Option String :=
  let kept := text.toList.takeWhile (· != '#')
  let path := kept.takeWhile (· != '?')
  let query := (kept.dropWhile (· != '?')).drop 1
  if path.all isPathChar && query.all isQueryChar && text.utf8ByteSize ≤ maxTargetSize then
    some (String.ofList kept)
  else none

def reportsPath : String := "/apis/" ++ apiGroupVersion ++ "/reports"

def secretsPath (namespaceName : String) : String :=
  "/api/v1/namespaces/" ++ namespaceName ++ "/secrets"

/-- A request for an object that has to have a name. -/
def named? (method path name ending : String) (body : Option Json := none) : Option ApiRequest :=
  if name.isEmpty then none
  else (target? (path ++ "/" ++ name ++ ending)).map fun target => ⟨method, target, body⟩

def getReport? (name : String) : Option ApiRequest :=
  named? "GET" reportsPath name ""

def getSecret? (namespaceName name : String) : Option ApiRequest :=
  named? "GET" (secretsPath namespaceName) name ""

def createReport? (report : Report) : Option ApiRequest :=
  (target? (reportsPath ++ "?")).map fun target => ⟨"POST", target, some report.encode⟩

def replaceReport? (report : Report) : Option ApiRequest :=
  named? "PUT" reportsPath report.anyName "?" (some report.encode)

/-- What a server says about a request it refuses. -/
structure Status where
  status : Option String := none
  message : Option String := none
  reason : Option String := none
  code : Option Nat := none

open Decode in
def statusRecord : Record Status ApiFault where
  name := "Status"
  draft := {}
  fields := [
    field "status" (·.status) (fun a s => { s with status := some a }) string,
    field "message" (·.message) (fun a s => { s with message := some a }) string,
    field "reason" (·.reason) (fun a s => { s with reason := some a }) string,
    field "code" (·.code) (fun a s => { s with code := some a }) (bounded 65535 "u16")]
  finish s :=
    match s.status, s.code with
    | none, _ => .error "status"
    | _, none => .error "code"
    | some _, some code => .ok (.refused code (s.reason.getD "") (s.message.getD ""))

/-- The reason of a refusal: the Status in the body, or else the body itself. -/
def refusal (answer : ApiAnswer) : ApiFault :=
  match Decode.text statusRecord.decode answer.body with
  | .ok fault => fault
  | .error _ => .refused answer.status "Failed to parse error data" (quoted answer.body)

/-- The object that an answer holds. -/
def objectOf {α : Type} (decode : Decoder α) (answer : ApiAnswer) : Except ApiFault α :=
  if 400 ≤ answer.status ∧ answer.status < 600 then .error (refusal answer)
  else
    match Decode.text decode answer.body with
    | .ok a => .ok a
    | .error _ => .error .undecodable

/-- A refusal with the code 404 says that the object is not there. -/
def absentOr (kind name : String) : ApiFault → StoreError
  | .refused 404 _ _ => .notFound kind name
  | fault => .api fault

end Api

end CleanupCourier
