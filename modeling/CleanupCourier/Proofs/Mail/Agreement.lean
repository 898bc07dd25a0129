import CleanupCourier.Proofs.Mail.Talk
import CleanupCourier.Proofs.Work.Agreement

/-!
Talks with a mail relay side by side, about one mail, with log-ins that look alike through a veil.
A relay that does not see through it either answers the same, so the talks come equally far, say the
same but for the log-in, and end with the same result.
-/
namespace CleanupCourier

namespace Smtp

variable {α β α' β' : Type} {V : α → β → Prop} {V' : α' → β' → Prop} {veil : Veil}

theorem run_bind_onward (talk : Talk α) (next : α → Talk β) (t : SmtpTalk) :
    (talk >>= next).run.run t = onward (fun a t => (next a).run.run t) (talk.run.run t) := by
  rw [run_bind]
  obtain ⟨_ | _, _⟩ := talk.run.run t <;> rfl

/-- Holds of talks that look alike. -/
def Veiled (veil : Veil) (t t' : SmtpTalk) : Prop :=
  veil.talk t = veil.talk t'

theorem Veiled.encryption {t t' : SmtpTalk} (h : Veiled veil t t') :
    t.encryption = t'.encryption :=
  (SmtpTalk.mk.inj h).2.1

theorem Veiled.commands {t t' : SmtpTalk} (h : Veiled veil t t') :
    (t.sent.map (·.2)).map veil.command = (t'.sent.map (·.2)).map veil.command := by
  rw [← veil.commands_talk, ← veil.commands_talk, h]

theorem Veiled.said {t t' : SmtpTalk} (h : Veiled veil t t') {c c' : SmtpCommand}
    (seen : veil.command c = veil.command c') : Veiled veil (said t c) (said t' c') := by
  obtain ⟨port, encryption, sent⟩ := SmtpTalk.mk.inj h
  simp only [Veiled, Veil.talk, Smtp.said, List.map_append, List.map_cons, List.map_nil, port,
    encryption, sent, seen]

theorem Veiled.upgraded {t t' : SmtpTalk} (h : Veiled veil t t') :
    Veiled veil { t with encryption := .upgraded } { t' with encryption := .upgraded } := by
  obtain ⟨port, -, sent⟩ := SmtpTalk.mk.inj h
  simp only [Veiled, Veil.talk, port, sent]

def Agree (veil : Veil) (V : α → β → Prop) (talk : Talk α) (talk' : Talk β) : Prop :=
  ∀ t t', Veiled veil t t' → Alike (Veiled veil) V (talk.run.run t) (talk'.run.run t')

theorem agree_pure {a : α} {b : β} (h : V a b) : Agree veil V (pure a) (pure b) :=
  fun _ _ same => ⟨.ok h, same⟩

theorem agree_throw (fault : MailFault) :
    Agree veil V (throw fault : Talk α) (throw fault : Talk β) :=
  fun _ _ same => ⟨.error fault, same⟩

theorem agree_get : Agree veil (Veiled veil) (get : Talk SmtpTalk) (get : Talk SmtpTalk) :=
  fun _ _ same => ⟨.ok same, same⟩

theorem agree_bind {talk : Talk α} {talk' : Talk β} {next : α → Talk α'} {next' : β → Talk β'}
    (first : Agree veil V talk talk') (rest : ∀ a b, V a b → Agree veil V' (next a) (next' b)) :
    Agree veil V' (talk >>= next) (talk' >>= next') := by
  intro t t' same
  rw [run_bind_onward, run_bind_onward]
  exact (first t t' same).onward fun a b u u' related holds => rest a b related u u' holds

theorem agree_bind_eq {talk talk' : Talk α} {next : α → Talk α'} {next' : α → Talk β'}
    (first : Agree veil Eq talk talk') (rest : ∀ a, Agree veil V' (next a) (next' a)) :
    Agree veil V' (talk >>= next) (talk' >>= next') :=
  agree_bind first fun a _ same => same ▸ rest a

theorem agree_guard {c : Prop} [Decidable c] {γ : Type} {fault : MailFault} {next : γ → Talk α}
    {next' : γ → Talk β} {rest : Talk α} {rest' : Talk β} (h : Agree veil V rest rest') :
    Agree veil V (if c then throw fault >>= next else rest)
      (if c then throw fault >>= next' else rest') := by
  by_cases holds : c
  · rw [if_pos holds, if_pos holds]
    exact fun _ _ same => ⟨.error fault, same⟩
  · rw [if_neg holds, if_neg holds]
    exact h

theorem agree_accept (reply : SmtpReply) : Agree veil Eq (accept reply) (accept reply) := by
  unfold accept
  split
  · exact agree_pure rfl
  · split <;> exact agree_throw _

theorem agree_forIn {γ : Type} {body body' : γ → α → Talk (ForInStep α)}
    (h : ∀ c a, Agree veil Eq (body c a) (body' c a)) (items : List γ) (a : α) :
    Agree veil Eq (forIn items a body) (forIn items a body') := by
  induction items generalizing a with
  | nil => exact agree_pure rfl
  | cons c rest ih =>
    rw [List.forIn_cons, List.forIn_cons]
    refine agree_bind_eq (h c a) fun step => ?_
    cases step with
    | done a => exact agree_pure rfl
    | yield a => exact ih a

section Deliver

variable {relay relay' : SmtpRelay}
  (answers : ∀ commands commands', commands.map veil.command = commands'.map veil.command →
    relay commands = relay' commands')

include answers

theorem agree_send {c c' : SmtpCommand} (seen : veil.command c = veil.command c') :
    Agree veil Eq (send relay c) (send relay' c') := by
  intro t t' same
  have after := same.said seen
  change Alike _ _ ((accept (relay ((said t c).sent.map (·.2)))).run.run (said t c))
    ((accept (relay' ((said t' c').sent.map (·.2)))).run.run (said t' c'))
  rw [answers _ _ after.commands]
  exact agree_accept _ _ _ after

theorem agree_upgrade (nameFits : Bool) (offer : SmtpReply) :
    Agree veil Eq (upgrade relay nameFits offer) (upgrade relay' nameFits offer) := by
  refine agree_guard (agree_bind_eq (agree_send answers rfl) fun _ => agree_guard ?_)
  refine agree_bind_eq (fun t t' same => ⟨.ok rfl, same.upgraded⟩) fun _ => ?_
  exact agree_send answers rfl

theorem agree_secure (nameFits : Bool) (offer : SmtpReply) :
    Agree veil Eq (secure relay nameFits offer) (secure relay' nameFits offer) := by
  refine agree_bind agree_get fun t t' same => ?_
  rw [same.encryption]
  split
  · exact agree_pure rfl
  · exact agree_upgrade answers nameFits offer

theorem agree_logIn (offer : SmtpReply) {account account' : Option SmtpAccount}
    (seen : Option.Rel (fun a a' => veil.token a.token = veil.token a'.token) account account') :
    Agree veil Eq (logIn relay offer account) (logIn relay' offer account') := by
  cases seen with
  | none => exact agree_pure rfl
  | some same =>
    refine agree_guard (agree_bind_eq (agree_send answers ?_) fun reply => ?_)
    · exact congrArg SmtpCommand.auth same
    · split
      · exact agree_throw _
      · exact agree_pure rfl

theorem agree_transfer (envelope : Envelope) (message : MailMessage) :
    Agree veil Eq (transfer relay envelope message) (transfer relay' envelope message) := by
  refine agree_bind_eq (agree_send answers rfl) fun _ => ?_
  refine agree_bind_eq (agree_forIn (fun recipient _ => ?_) _ _) fun _ => ?_
  · exact agree_bind_eq (agree_send answers rfl) fun _ => agree_pure rfl
  refine agree_bind_eq (agree_send answers rfl) fun _ => ?_
  exact agree_bind_eq (agree_send answers rfl) fun reply => agree_pure rfl

theorem agree_deliver (nameFits : Bool) {account account' : Option SmtpAccount}
    (seen : Option.Rel (fun a a' => veil.token a.token = veil.token a'.token) account account')
    (envelope : Envelope) (message : MailMessage) :
    Agree veil Eq (deliver relay nameFits account envelope message)
      (deliver relay' nameFits account' envelope message) := by
  have greeted : Agree veil Eq (greet relay) (greet relay') := by
    unfold greet
    rw [answers [] [] rfl]
    exact agree_bind_eq (agree_accept _) fun _ => agree_pure rfl
  refine agree_bind_eq greeted fun _ => ?_
  refine agree_bind_eq (agree_send answers rfl) fun offer => ?_
  refine agree_bind_eq (agree_secure answers nameFits offer) fun offer => ?_
  refine agree_bind_eq (agree_logIn answers offer seen) fun _ => ?_
  exact agree_transfer answers envelope message

/-- Mails that are submitted with log-ins that look alike have the same result, and talks about them
that look alike. -/
theorem submit_veiled (reach : Reach) (host : String) (port : Nat) (isImplicit : Bool)
    {account account' : Option SmtpAccount}
    (seen : Option.Rel (fun a a' => veil.token a.token = veil.token a'.token) account account')
    (envelope : Envelope) (message : MailMessage) :
    let outcome := submit relay reach host port isImplicit account envelope message
    let outcome' := submit relay' reach host port isImplicit account' envelope message
    outcome.result = outcome'.result ∧
      outcome.talk.map veil.talk = outcome'.talk.map veil.talk := by
  cases reach with
  | unknownHost => exact ⟨rfl, rfl⟩
  | refused => exact ⟨rfl, rfl⟩
  | reached =>
    simp only [submit]
    split
    · exact ⟨rfl, rfl⟩
    · obtain ⟨result, state⟩ := agree_deliver answers (fitsCertificate host) seen envelope message
        { port, encryption := if isImplicit then .implicit else .none } _ rfl
      exact ⟨result.eq, congrArg some state⟩

end Deliver

end Smtp

end CleanupCourier
