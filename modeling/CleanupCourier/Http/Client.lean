import CleanupCourier.Failure
import CleanupCourier.Text.Base64
import CleanupCourier.Text.Blank
import CleanupCourier.Url.Reference
import CleanupCourier.Work

/-!
Sending a request and following redirects. What is asked for is checked first, and nothing goes out
if the address or a header cannot be written down. A user named in the address logs in before anyone
else does.

The two kinds of addresses meet here. The address of a call is read as the web reads it, which takes
almost any text. Where a response leads is a reference, which is read strictly; a response whose
reference cannot be read is taken for the last one.
-/
namespace CleanupCourier

/-- A request to be posted, not checked yet. -/
structure HttpCall where
  url : String
  authorization : Option String := none
  body : HttpBody

namespace Http

/-- Text that a header can hold. -/
def isHeaderText (s : String) : Bool :=
  s.toList.all fun c => c == '\t' || (0x20 ≤ c.toNat && c.toNat != 0x7F)

def isWebScheme (u : Url) : Bool :=
  u.scheme == "http" || u.scheme == "https"

/-- Characters of a host that no request can name. -/
def isUnsendable (c : Char) : Bool :=
  c == '"' || c == '`' || c == '\x7b' || c == '\x7d'

/-- The longest address of a request, in octets. -/
def maxUrlSize : Nat := 65534

/-- Whether the address of a web server can be written into a request. -/
def isSendable (u : Url) : Bool :=
  !u.authority.toList.any isUnsendable && u.render.utf8ByteSize ≤ maxUrlSize

/-- User and password in an address, if they are text. -/
def user? (u : Url) : Option (String × String) := do
  let text (s : String) : Option String :=
    (Utf8.decode? (Percent.decode s.toList)).map String.ofList
  let name ← text u.username
  let password := u.password.bind text
  if name.isEmpty && password.isNone then none else return (name, password.getD "")

def basicAuthorization (name password : String) : String :=
  "Basic " ++ String.ofList (Base64.encode (utf8 (name ++ ":" ++ password)))

def bearerAuthorization (token : String) : String :=
  "Bearer " ++ token

/-- The request that a call asks for. -/
def prepare (call : HttpCall) : Except TransportFault HttpRequest := do
  let some address := Url.parse? call.url | throw (.builder none)
  if address.hostText?.isNone then throw (.builder (some address.render))
  let user := user? address
  let url := if user.isSome then address.withoutUser else address
  if !call.authorization.all isHeaderText then throw (.builder none)
  if !isWebScheme url || !isSendable url then throw (.builder (some url.render))
  return {
    method := .post
    url
    authorization := (user.map fun (name, password) => basicAuthorization name password).toList ++
      call.authorization.toList
    body := call.body }

/-- Whether two addresses lead to the same server. -/
def isSameServer (a b : Url) : Bool :=
  a.host == b.host && a.portOrDefault == b.portOrDefault

/-- What a request becomes by a redirect, its address apart: a request without a body, or itself if
its body can be sent twice. -/
def repeated? (status : Nat) (request : HttpRequest) : Option HttpRequest :=
  if status = 301 ∨ status = 302 ∨ status = 303 then
    some { request with method := .get, body := .empty }
  else if status = 307 ∨ status = 308 then
    match request.body with
    | .multipart _ => none
    | _ => some request
  else none

/-- Whether a text can be the server of a request: it has one port at most, and percent signs stand
in the name of a user only. -/
def isServer (s : List Char) : Bool :=
  let parts := s.splitOnP fun c => c == '@' || c == ']'
  let last := parts.getLastD []
  !s.isEmpty && s.getLast? != some '@' && !last.contains '%' && last.count ':' ≤ 1 &&
    parts.all (·.count ':' ≤ 8)

/-- Whether a reference can be the address of a request. One without a server can if it looks like a
server and its port. -/
def isAddress (r : Reference) : Bool :=
  r.text.length ≤ maxUrlSize &&
    match r.authority with
    | some authority => r.scheme.all (·.length ≤ 64) && isServer authority
    | none => !r.text.any (fun c => c == '/' || c == '?' || c == '#') && isServer r.text

/-- The address that a header of a response to `url` leads to. -/
def target? (url : Url) (location : String) : Option Reference := do
  let base ← Reference.parse? url.withoutFragment.render.toList
  let reference ← Reference.parse? (trimBoth (fun c => c == ' ' || c == '\t') location.toList)
  let target := base.resolve reference
  if isAddress target then some target else none

/-- The address of a request to a place, as the web reads it. Without two slashes the web still reads
a host, but a request has none then. -/
def placed? (target : Reference) : Option Url := do
  let url ← target.url?
  return if target.authority.isNone && isWebScheme url then { url with host := none } else url

/-- Where a response leads. -/
inductive Lead where
  /-- Nowhere; it is the last one. -/
  | nowhere
  /-- To an address that the web cannot read. -/
  | astray
  | on (next : HttpRequest)

/-- Where the response to a request leads. Another server does not get to see who logs in. -/
def lead (request : HttpRequest) (response : HttpResponse) : Lead :=
  match repeated? response.status request, response.location.bind (target? request.url) with
  | some next, some target =>
    match placed? target with
    | none => .astray
    | some url =>
      let authorization := if isSameServer request.url url then next.authorization else []
      .on { next with url, authorization }
  | _, _ => .nowhere

/-- The request as it goes out. -/
def onWire (request : HttpRequest) : HttpRequest :=
  { request with url := request.url.withoutUser.withoutFragment }

/-- Sends one request and waits for the response to it. Failures are told by the address `origin`.
Without a host there is no machine to reach. -/
def transmit {σ : Type} (network : Network) (origin : Url) (request : HttpRequest) :
    Attempt σ TransportFault HttpResponse := do
  let port := request.url.portOrDefault.getD 0
  if request.url.hostText?.map (network.reach · port) ≠ some .reached then
    throw (.sending origin.render)
  modify fun w => { w with
    traffic := { w.traffic with requests := w.traffic.requests ++ [onWire request] } }
  match network.reply (← get).traffic with
  | .closed => throw (.sending origin.render)
  | .response response => return response

/-- How many redirects are followed. -/
def maxRedirects : Nat := 10

/-- Sends a request and follows as many redirects as are left. -/
def follow {σ : Type} (network : Network) (origin : Url) (left : Nat) (request : HttpRequest) :
    Attempt σ TransportFault HttpResponse := do
  let response ← transmit network origin request
  match lead request response with
  | .nowhere => return response
  | .astray => throw (.builder (some origin.render))
  | .on next =>
    match left with
    | 0 => throw (.redirect request.url.render)
    | left + 1 =>
      if isWebScheme next.url then follow network origin left next
      else throw (.builder (some next.url.render))

/-- Posts a request and gives the last response. -/
def exchange {σ : Type} (network : Network) (call : HttpCall) :
    Attempt σ TransportFault HttpResponse := do
  let request ← Attempt.ofExcept (prepare call)
  follow network request.url maxRedirects request

end Http

end CleanupCourier
