import CleanupCourier.Url.Host

/-!
Addresses as the web reads them, and the text of an address in its normal form.
-/
namespace CleanupCourier

/-- The path of an address: a text of its own, or segments with a slash before each. -/
inductive UrlPath where
  | rootless (text : String)
  | segments (segments : List String)
deriving DecidableEq, Repr

structure Url where
  scheme : String
  username : String := ""
  password : Option String := none
  host : Option Host := none
  port : Option Nat := none
  path : UrlPath
  query : Option String := none
  fragment : Option String := none
deriving DecidableEq, Repr

namespace Url

/-- The schemes that the web knows, with the port each of them has without saying. -/
def specialSchemes : List (String × Option Nat) :=
  [("http", some 80), ("https", some 443), ("ws", some 80), ("wss", some 443), ("ftp", some 21),
    ("file", none)]

def isSpecialScheme (scheme : String) : Bool :=
  specialSchemes.any (·.1 == scheme)

def defaultPort? (scheme : String) : Option Nat :=
  (specialSchemes.lookup scheme).join

/-- The host as text; an empty one counts as none. -/
def hostText? (u : Url) : Option String :=
  match u.host with
  | some (.name "") => none
  | some host => some host.render
  | none => none

def portOrDefault (u : Url) : Option Nat :=
  u.port.or (defaultPort? u.scheme)

def UrlPath.render (hasHost : Bool) : UrlPath → String
  | .rootless text => text
  | .segments segments =>
    let guard := if !hasHost && 1 < segments.length && segments.head? == some "" then "/." else ""
    guard ++ String.join (segments.map ("/" ++ ·))

def authority (u : Url) : String :=
  match u.host with
  | none => ""
  | some host =>
    let password := match u.password with
      | some password => ":" ++ password
      | none => ""
    let user :=
      if u.username.isEmpty && u.password.isNone then "" else u.username ++ password ++ "@"
    let port := match u.port with
      | some port => ":" ++ toString port
      | none => ""
    "//" ++ user ++ host.render ++ port

def render (u : Url) : String :=
  let query := match u.query with
    | some query => "?" ++ query
    | none => ""
  let fragment := match u.fragment with
    | some fragment => "#" ++ fragment
    | none => ""
  u.scheme ++ ":" ++ u.authority ++ UrlPath.render u.host.isSome u.path ++ query ++ fragment

/-- The address without the part that names a user. -/
def withoutUser (u : Url) : Url :=
  { u with username := "", password := none }

/-- The address without the part after the number sign, which is not sent. -/
def withoutFragment (u : Url) : Url :=
  { u with fragment := none }

end Url

end CleanupCourier
