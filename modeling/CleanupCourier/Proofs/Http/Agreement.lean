import CleanupCourier.Proofs.Credentials.Tolerance
import CleanupCourier.Proofs.Http.Exchange

/-!
Exchanges side by side whose calls differ in the value that logs in. The same is checked, asked for
and answered, and the same redirects are followed, so that the exchanges end with the same response
or the same fault.
-/
namespace CleanupCourier

namespace Http

variable {σ : Type} {T : Tolerance} {network : Network} {objects : σ → σ → Prop}
  {r r' : HttpRequest}

theorem twins_onWire (h : r.Twins T.login r') : (onWire r).Twins T.login (onWire r') where
  method := h.method
  url := by rw [onWire, onWire, h.url]
  body := h.body
  authorization := h.authorization

theorem repeated?_rel (h : r.Twins T.login r') (status : Nat) :
    Option.Rel (HttpRequest.Twins T.login) (repeated? status r) (repeated? status r') := by
  unfold repeated?
  split
  · exact .some ⟨rfl, h.url, rfl, h.authorization⟩
  · split
    · rw [h.body]
      split
      · exact .none
      · exact .some h
    · exact .none

/-- Holds of responses that lead to the same place. -/
inductive Lead.Twins (T : Tolerance) : Lead → Lead → Prop
  | nowhere : Twins T .nowhere .nowhere
  | astray : Twins T .astray .astray
  | on {next next' : HttpRequest} : next.Twins T.login next' → Twins T (.on next) (.on next')

theorem twins_lead (h : r.Twins T.login r') (response : HttpResponse) :
    Lead.Twins T (lead r response) (lead r' response) := by
  have again := repeated?_rel h response.status
  unfold lead
  rw [h.url]
  generalize repeated? response.status r = next at again ⊢
  generalize repeated? response.status r' = next' at again ⊢
  cases again with
  | none => exact .nowhere
  | @some next next' same =>
    cases response.location.bind (target? r'.url) with
    | none => exact .nowhere
    | some target =>
      dsimp only
      cases placed? target with
      | none => exact .astray
      | some url =>
        refine .on ⟨same.method, rfl, same.body, ?_⟩
        dsimp only
        split
        · exact same.authorization
        · exact .nil

theorem isReached_iff (h : r.Twins T.login r') (network : Network) :
    isReached network r ↔ isReached network r' := by
  rw [isReached, isReached, h.url]

section Follow

variable (overlooks : network.Overlooks T.veil)

include overlooks

theorem agree_transmit (h : r.Twins T.login r') (origin : Url) :
    Attempt.Agree ⟨objects, T.veil⟩ Eq (transmit network origin r)
      (transmit network origin r') := by
  intro spans w v holds
  by_cases reached : isReached network r
  · have after := holds.requested (T.request_eq (twins_onWire h))
    rw [run_transmit_reached reached,
      run_transmit_reached ((isReached_iff h network).mp reached), overlooks.reply after.traffic]
    exact ⟨.refl _, after⟩
  · rw [run_transmit_unreached reached,
      run_transmit_unreached (mt (isReached_iff h network).mpr reached)]
    exact ⟨.error _, holds⟩

/-- By induction on the redirects that are left: the same answers lead to the same places. -/
theorem agree_follow (h : r.Twins T.login r') (origin : Url) (left : Nat) :
    Attempt.Agree ⟨objects, T.veil⟩ Eq (follow network origin left r)
      (follow network origin left r') := by
  induction left using Nat.strongRecOn generalizing r r' with
  | _ left ih =>
    rw [follow_eq, follow_eq]
    refine Attempt.agree_bind_eq (agree_transmit overlooks h origin) fun response => ?_
    have led := twins_lead h response
    unfold proceed
    generalize lead r response = l at led ⊢
    generalize lead r' response = l' at led ⊢
    cases led with
    | nowhere => exact Attempt.agree_pure rfl
    | astray => exact Attempt.agree_throw _
    | @on next next' same =>
      cases left with
      | zero =>
        rw [h.url]
        exact Attempt.agree_throw _
      | succ fewer =>
        dsimp only
        rw [same.url]
        split
        · exact ih fewer fewer.lt_succ_self same
        · exact Attempt.agree_throw _

end Follow

theorem matches_prepare (call : HttpCall) {authorization : Option String}
    (h : Option.Rel T.login call.authorization authorization) :
    Matches (HttpRequest.Twins T.login) (prepare call) (prepare { call with authorization }) := by
  have header : call.authorization.all isHeaderText = authorization.all isHeaderText := by
    generalize call.authorization = value at h
    cases h with
    | none => rfl
    | some same => exact T.isHeaderText_eq same
  have logins (user : List String) :
      List.Forall₂ T.login (user ++ call.authorization.toList) (user ++ authorization.toList) := by
    refine List.rel_append (List.forall₂_same.mpr fun s _ => T.login_refl s) ?_
    generalize call.authorization = value at h
    cases h with
    | none => exact .nil
    | some same => exact .cons same .nil
  unfold prepare
  rw [header]
  cases Url.parse? call.url with
  | none => exact .error _
  | some address => exact .guard (.guard (.guard (.ok ⟨rfl, rfl, rfl, logins _⟩)))

theorem agree_exchange (overlooks : network.Overlooks T.veil) (call : HttpCall)
    {authorization : Option String} (h : Option.Rel T.login call.authorization authorization) :
    Attempt.Agree (σ := σ) ⟨objects, T.veil⟩ Eq (exchange network call)
      (exchange network { call with authorization }) := by
  refine Attempt.agree_bind (Attempt.agree_ofExcept (matches_prepare call h)) fun r r' same => ?_
  rw [same.url]
  exact agree_follow overlooks same _ _

end Http

end CleanupCourier
