import CleanupCourier.Json.Basic
import CleanupCourier.Text.Utf8
import CleanupCourier.Url.Basic

/-!
Requests to web servers and the responses to them, as far as deliveries need them: a body is a JSON
value or a list of parts, and of the headers only those that log in are kept.
-/
namespace CleanupCourier

inductive HttpMethod where
  | get
  | post
deriving DecidableEq, Repr

def HttpMethod.name : HttpMethod → String
  | .get => "GET"
  | .post => "POST"

/-- A named part of a body; a part with a file name is a file. -/
structure BodyPart where
  name : String
  fileName : Option String := none
  mediaType : Option String := none
  content : String
deriving DecidableEq, Repr

inductive HttpBody where
  | empty
  | json (value : Json)
  | multipart (parts : List BodyPart)
deriving Repr

def HttpBody.mediaType : HttpBody → String
  | .empty => ""
  | .json _ => "application/json"
  | .multipart _ => "multipart/form-data"

/-- A request as it is sent: the address, in its normal form, has no user and no fragment. -/
structure HttpRequest where
  method : HttpMethod
  url : Url
  /-- The values of the headers that log in, the first one counting. -/
  authorization : List String := []
  body : HttpBody := .empty
deriving Repr

structure HttpResponse where
  status : Nat := 200
  body : Bytes := []
  /-- Where the server redirects to. -/
  location : Option String := none
  /-- Holds if the body breaks off before its announced end. -/
  isTruncated : Bool := false
deriving DecidableEq, Repr

namespace HttpResponse

def isSuccess (r : HttpResponse) : Bool :=
  r.status / 100 == 2

/-- Some statuses come without a body, whatever follows them. -/
def isBodiless (r : HttpResponse) : Bool :=
  r.status == 204 || r.status == 304

/-- The body, if it can be read to its end. -/
def content? (r : HttpResponse) : Option Bytes :=
  if r.isBodiless then some []
  else if r.isTruncated then none
  else some r.body

end HttpResponse

/-- What comes back after a request. -/
inductive HttpReply where
  | response (response : HttpResponse)
  | closed
deriving DecidableEq, Repr

end CleanupCourier
