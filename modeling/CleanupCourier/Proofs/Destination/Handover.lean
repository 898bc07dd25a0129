import CleanupCourier.Proofs.Destination.Effects

/-!
How the sending of a mail ends. Either there is no mail to send, and the reason is the result and
nobody hears of it; or it ends as the talk about the mail does, and the talk is all that is added to
the traffic.
-/
namespace CleanupCourier

namespace Mailing

variable {σ : Type} {info : SmtpInfo} {subject body : String} {isHtml : Bool}

/-- What the outcome of a talk comes to for a delivery. -/
def concluded (outcome : Smtp.Outcome) : Except DeliveryError Unit :=
  match outcome.result with
  | .ok _ => .ok ()
  | .error fault => .error (.mail fault.message)

theorem run_remark (info : SmtpInfo) (spans : List Span) (w : World σ) :
    ∃ j : Journal, (remark info).run spans w = (.ok (), w.noting j) := by
  unfold remark
  split
  · exact ⟨_, Attempt.run_log_noting _ _ _ _ _⟩
  · exact ⟨{}, by simp only [Attempt.run_pure, World.noting, List.append_nil]⟩

/-- A mail is made and handed over once what there is to say about the account has been noted. -/
theorem run_send_eq (network : Network) (info : SmtpInfo) (subject body : String) (isHtml : Bool)
    (spans : List Span) (w : World σ) :
    ∃ j : Journal, (send network info subject body isHtml).run spans w =
      (deliver network info subject body isHtml).run (spans ++ [sendSpan info]) (w.noting j) := by
  obtain ⟨j, remarked⟩ := run_remark info (spans ++ [sendSpan info]) w
  exact ⟨j, by rw [send_eq, Attempt.run_within, Attempt.run_bind, remarked]⟩

theorem run_send_error {error : DeliveryError}
    (h : compose info subject body isHtml = .error error) (network : Network) (spans : List Span)
    (w : World σ) :
    ∃ j : Journal,
      (send network info subject body isHtml).run spans w = (.error error, w.noting j) := by
  obtain ⟨j, eq⟩ := run_send_eq network info subject body isHtml spans w
  exact ⟨j, by rw [eq, deliver, h]; rfl⟩

theorem run_send_ok {draft : Draft} (h : compose info subject body isHtml = .ok draft)
    (network : Network) (spans : List Span) (w : World σ) :
    let outcome := outcome network info draft w.traffic
    let ended := (send network info subject body isHtml).run spans w
    ended.1 = concluded outcome ∧ ended.2.traffic = (w.talked outcome.talk.toList).traffic := by
  intro outcome ended
  obtain ⟨j, eq⟩ := run_send_eq network info subject body isHtml spans w
  have handed := run_handOver network info draft (spans ++ [sendSpan info]) (w.noting j)
  change ended = _ at eq
  rw [deliver, h, Attempt.run_bind, Attempt.run_ofExcept] at eq
  dsimp only at eq
  rw [Attempt.run_bind, handed] at eq
  rw [eq]
  change _ = concluded (Mailing.outcome network info draft (w.noting j).traffic) ∧ _ =
    (w.talked (Mailing.outcome network info draft (w.noting j).traffic).talk.toList).traffic
  rw [concluded]
  cases (Mailing.outcome network info draft (w.noting j).traffic).result with
  | error fault => exact ⟨rfl, rfl⟩
  | ok code => exact ⟨rfl, rfl⟩

end Mailing

end CleanupCourier
