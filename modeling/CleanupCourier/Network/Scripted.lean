import CleanupCourier.Network

/-!
A network that plays a script: web servers give the listed replies one after the other, and every
relay refuses at most at one stage. Two kinds of addresses lead nowhere, a name that cannot be
resolved and a port that nothing listens on.
-/
namespace CleanupCourier

/-- Where in a talk a relay may refuse. -/
inductive SmtpStage where
  | greeting
  | ehlo
  | startTls
  | auth
  | mail
  | rcpt
  | data
  | content
deriving DecidableEq, Repr

def SmtpStage.of : List SmtpCommand → SmtpStage
  | [] => .greeting
  | command :: rest =>
    match (command :: rest).getLast? with
    | none => .greeting
    | some .ehlo => .ehlo
    | some .startTls => .startTls
    | some (.auth _) => .auth
    | some (.mailFrom _) => .mail
    | some (.rcptTo _) => .rcpt
    | some .data => .data
    | some (.content _) => .content

/-- A relay that refuses at one stage, or nowhere, and may be without encryption and log-in. -/
structure SmtpScript where
  refusal : Option (SmtpStage × Nat × String) := none
  isPlain : Bool := false
deriving DecidableEq, Repr

def SmtpScript.relay (script : SmtpScript) : SmtpRelay := fun commands =>
  let stage := SmtpStage.of commands
  let refused := match script.refusal with
    | some (place, code, text) => if place = stage then some (code, text) else none
    | none => none
  match refused with
  | some (code, text) => { code, text }
  | none =>
    match stage with
    | .data => { code := 354 }
    | .auth => { code := 235 }
    | .greeting => { code := 220 }
    | _ => { code := 250, offersTls := !script.isPlain, offersAuth := !script.isPlain }

namespace Network

/-- The port that refuses connections. -/
def closedPort : Nat := 9

def reachByName (host : String) (port : Nat) : Reach :=
  if host.endsWith ".invalid" then .unknownHost
  else if port = closedPort then .refused
  else .reached

/-- The response of a server whose script has ended. -/
def lastResponse : HttpResponse :=
  { body := utf8 "\x7b\"ok\":true\x7d" }

def scripted (replies : List HttpReply) (relay : SmtpScript) : Network where
  reach := reachByName
  reply traffic := (replies[traffic.requests.length - 1]?).getD (.response lastResponse)
  relay _ := relay.relay

end Network

end CleanupCourier
