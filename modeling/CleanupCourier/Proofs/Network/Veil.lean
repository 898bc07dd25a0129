import Mathlib.Data.List.Forall2
import CleanupCourier.Http.Client
import CleanupCourier.Network.Scripted

/-!
What an onlooker sees of the traffic when a part of it is hidden from him. A network that does not
look at the hidden part answers alike whatever that part is; one that plays a script never looks at
what it is asked, only at how often and in which order.
-/
namespace CleanupCourier

/-- What is seen of requests, and of the tokens that log in at mail relays. -/
structure Veil where
  request : HttpRequest → HttpRequest := id
  token : String → String := id

namespace Veil

def command (veil : Veil) : SmtpCommand → SmtpCommand
  | .auth token => .auth (veil.token token)
  | c => c

def talk (veil : Veil) (t : SmtpTalk) : SmtpTalk :=
  { t with sent := t.sent.map fun (encryption, c) => (encryption, veil.command c) }

def traffic (veil : Veil) (t : Traffic) : Traffic where
  requests := t.requests.map veil.request
  talks := t.talks.map veil.talk

/-- The commands of a talk that is seen through a veil. -/
theorem commands_talk (veil : Veil) (t : SmtpTalk) :
    (veil.talk t).sent.map (·.2) = (t.sent.map (·.2)).map veil.command := by
  rw [talk, List.map_map, List.map_map]
  rfl

theorem stage_map (veil : Veil) (commands : List SmtpCommand) :
    SmtpStage.of (commands.map veil.command) = SmtpStage.of commands := by
  cases commands with
  | nil => rfl
  | cons command rest =>
    simp only [List.map_cons, SmtpStage.of]
    rw [← List.map_cons, List.getLast?_map]
    cases (command :: rest).getLast? with
    | none => rfl
    | some last => cases last <;> rfl

/-- The values that log in are hidden, but not how many there are. -/
def logins : Veil where
  request r := { r with authorization := r.authorization.map fun _ => "" }
  token _ := ""

end Veil

/-- The address without what tells places on one server apart. -/
def Url.entrance (u : Url) : Url :=
  { u with path := .segments [], query := none, fragment := none }

/-- Of requests to some hosts everything behind the host is hidden. -/
def Veil.entrances (hosts : List Host) : Veil where
  request r := if r.url.host.any (hosts.contains ·) then { r with url := r.url.entrance } else r

/-- Holds of a network whose answers do not depend on what is hidden. -/
structure Network.Overlooks (network : Network) (veil : Veil) : Prop where
  reply {t t' : Traffic} : veil.traffic t = veil.traffic t' → network.reply t = network.reply t'
  relay {t t' : Traffic} {commands commands' : List SmtpCommand} :
    veil.traffic t = veil.traffic t' →
    commands.map veil.command = commands'.map veil.command →
    network.relay t commands = network.relay t' commands'

theorem Network.scripted_overlooks (replies : List HttpReply) (relay : SmtpScript) (veil : Veil) :
    (scripted replies relay).Overlooks veil where
  reply := by
    intro t t' same
    have length : t.requests.length = t'.requests.length := by
      simpa [Veil.traffic] using congrArg (·.requests.length) same
    simp only [scripted, length]
  relay := by
    intro t t' commands commands' _ same
    have stage : SmtpStage.of commands = SmtpStage.of commands' := by
      rw [← veil.stage_map commands, same, veil.stage_map]
    simp only [scripted, SmtpScript.relay, stage]

/-- Holds of two requests that differ at most in the values that log in. -/
structure HttpRequest.Twins (login : String → String → Prop) (r r' : HttpRequest) : Prop where
  method : r.method = r'.method
  url : r.url = r'.url
  body : r.body = r'.body
  authorization : List.Forall₂ login r.authorization r'.authorization

theorem HttpRequest.eq_of_twins {r r' : HttpRequest} (h : r.Twins Eq r') : r = r' := by
  obtain ⟨method, url, body, authorization⟩ := h
  rw [List.forall₂_eq_eq_eq] at authorization
  cases r
  cases r'
  simp_all

theorem Veil.logins_request_eq {login : String → String → Prop} {r r' : HttpRequest}
    (h : r.Twins login r') : logins.request r = logins.request r' := by
  obtain ⟨method, url, authorization, body⟩ := r
  obtain ⟨rfl, rfl, rfl, related⟩ := h
  simp only [logins, List.map_const', related.length_eq]

end CleanupCourier
