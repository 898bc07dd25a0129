import Mathlib.Tactic.Common
import CleanupCourier.Mail.Relay

/-!
What a talk with a mail relay does, whatever the relay says. What holds of a talk and is kept by
each of its steps holds of every talk, however far it comes; so the only mail that a talk hands over
is the one that it is about. A talk that comes to a good end has handed it over.
-/
namespace CleanupCourier

namespace Smtp

variable {α β : Type} {P : SmtpTalk → Prop}

theorem run_bind (talk : Talk α) (next : α → Talk β) (t : SmtpTalk) :
    (talk >>= next).run.run t =
      match talk.run.run t with
      | (.ok a, t) => (next a).run.run t
      | (.error fault, t) => (.error fault, t) := by
  change (ExceptT.run (talk >>= next)).run t = _
  rw [ExceptT.run_bind, StateT.run_bind]
  change (match talk.run.run t with | (result, t) => _) = _
  obtain ⟨_ | _, _⟩ := talk.run.run t <;> rfl

theorem run_eq_ok_of_bind {talk : Talk α} {next : α → Talk β} {t t' : SmtpTalk} {b : β}
    (h : (talk >>= next).run.run t = (.ok b, t')) :
    ∃ a u, talk.run.run t = (.ok a, u) ∧ (next a).run.run u = (.ok b, t') := by
  rw [run_bind] at h
  generalize talk.run.run t = middle at h ⊢
  obtain ⟨fault | a, u⟩ := middle
  · exact nomatch h
  · exact ⟨a, u, rfl, h⟩

def Preserves (P : SmtpTalk → Prop) (talk : Talk α) : Prop :=
  ∀ t, P t → P (talk.run.run t).2

theorem preserves_pure (a : α) : Preserves P (pure a) :=
  fun _ h => h

theorem preserves_throw (fault : MailFault) : Preserves P (throw fault : Talk α) :=
  fun _ h => h

theorem preserves_bind {talk : Talk α} {next : α → Talk β} (first : Preserves P talk)
    (rest : ∀ a, Preserves P (next a)) : Preserves P (talk >>= next) := by
  intro t h
  have middle := first t h
  rw [run_bind]
  generalize talk.run.run t = state at middle ⊢
  obtain ⟨fault | a, t'⟩ := state
  · exact middle
  · exact rest a t' middle

theorem preserves_guard {c : Prop} [Decidable c] {fault : MailFault} {next : β → Talk α}
    {rest : Talk α} (h : Preserves P rest) :
    Preserves P (if c then throw fault >>= next else rest) := by
  by_cases holds : c
  · rw [if_pos holds]
    exact fun t h => by rw [run_bind]; exact h
  · rw [if_neg holds]
    exact h

theorem preserves_get : Preserves P (get : Talk SmtpTalk) :=
  fun _ h => h

theorem preserves_modify {f : SmtpTalk → SmtpTalk} (h : ∀ t, P t → P (f t)) :
    Preserves P (modify f : Talk PUnit) :=
  h

theorem preserves_accept (reply : SmtpReply) : Preserves P (accept reply) := by
  unfold accept
  split
  · exact preserves_pure _
  · split <;> exact preserves_throw _

theorem preserves_forIn {γ : Type} {body : γ → β → Talk (ForInStep β)}
    (h : ∀ c b, Preserves P (body c b)) (items : List γ) (b : β) :
    Preserves P (forIn items b body) := by
  induction items generalizing b with
  | nil => exact preserves_pure b
  | cons c rest ih =>
    rw [List.forIn_cons]
    refine preserves_bind (h c b) fun step => ?_
    cases step with
    | done b => exact preserves_pure b
    | yield b => exact ih b

/-- The talk after one more command. -/
def said (t : SmtpTalk) (command : SmtpCommand) : SmtpTalk :=
  { t with sent := t.sent ++ [(t.encryption, command)] }

theorem preserves_send {command : SmtpCommand} (h : ∀ t, P t → P (said t command))
    (relay : SmtpRelay) : Preserves P (send relay command) := by
  refine preserves_bind (preserves_modify h) fun _ => ?_
  exact preserves_bind preserves_get fun t => preserves_accept _

/-- What a property has to be kept by to hold of every talk about a mail. -/
structure Stable (P : SmtpTalk → Prop) (message : MailMessage) : Prop where
  command (t : SmtpTalk) (command : SmtpCommand) :
    (∀ m, command = .content m → m = message) → P t → P (said t command)
  upgraded (t : SmtpTalk) : P t → P { t with encryption := .upgraded }

section Deliver

variable {message : MailMessage} (stable : Stable P message) (relay : SmtpRelay)

include stable

theorem preserves_command {command : SmtpCommand} (h : ∀ m, command ≠ .content m) :
    Preserves P (send relay command) :=
  preserves_send (fun t => stable.command t command fun m eq => absurd eq (h m)) relay

theorem preserves_upgrade (nameFits : Bool) (offer : SmtpReply) :
    Preserves P (upgrade relay nameFits offer) := by
  refine preserves_guard (preserves_bind ?_ fun _ => preserves_guard ?_)
  · exact preserves_command stable relay fun _ => nofun
  refine preserves_bind (preserves_modify stable.upgraded) fun _ => ?_
  exact preserves_command stable relay fun _ => nofun

theorem preserves_secure (nameFits : Bool) (offer : SmtpReply) :
    Preserves P (secure relay nameFits offer) := by
  refine preserves_bind preserves_get fun t => ?_
  split
  · exact preserves_pure _
  · exact preserves_upgrade stable relay nameFits offer

theorem preserves_logIn (offer : SmtpReply) (account : Option SmtpAccount) :
    Preserves P (logIn relay offer account) := by
  cases account with
  | none => exact preserves_pure _
  | some account =>
    refine preserves_guard (preserves_bind ?_ fun reply => ?_)
    · exact preserves_command stable relay fun _ => nofun
    · split
      · exact preserves_throw _
      · exact preserves_pure _

theorem preserves_transfer (envelope : Envelope) :
    Preserves P (transfer relay envelope message) := by
  refine preserves_bind (preserves_command stable relay fun _ => nofun) fun _ => ?_
  refine preserves_bind (preserves_forIn (fun recipient _ => ?_) _ _) fun _ => ?_
  · exact preserves_bind (preserves_command stable relay fun _ => nofun) fun _ => preserves_pure _
  refine preserves_bind (preserves_command stable relay fun _ => nofun) fun _ => ?_
  refine preserves_bind (preserves_send (fun t => stable.command t _ ?_) relay) fun reply => ?_
  · exact fun m eq => (SmtpCommand.content.inj eq).symm
  · exact preserves_pure _

theorem preserves_deliver (nameFits : Bool) (account : Option SmtpAccount) (envelope : Envelope) :
    Preserves P (deliver relay nameFits account envelope message) := by
  have greeted : Preserves P (greet relay) :=
    preserves_bind (preserves_accept _) fun _ => preserves_pure _
  refine preserves_bind greeted fun _ => ?_
  refine preserves_bind (preserves_command stable relay fun _ => nofun) fun offer => ?_
  refine preserves_bind (preserves_secure stable relay nameFits offer) fun offer => ?_
  refine preserves_bind (preserves_logIn stable relay offer account) fun _ => ?_
  exact preserves_transfer stable relay envelope

end Deliver

/-- What holds when a connection is made holds however far the talk comes. -/
theorem submit_talk {message : MailMessage} (stable : Stable P message) {relay : SmtpRelay}
    {reach : Reach} {host : String} {port : Nat} {isImplicit : Bool}
    {account : Option SmtpAccount} {envelope : Envelope} {talk : SmtpTalk}
    (start : P { port, encryption := if isImplicit then .implicit else .none })
    (h : (submit relay reach host port isImplicit account envelope message).talk = some talk) :
    P talk := by
  unfold submit at h
  cases reach with
  | unknownHost => exact nomatch h
  | refused => exact nomatch h
  | reached =>
    dsimp only at h
    split at h
    · exact nomatch h
    · rw [← Option.some.inj h]
      exact preserves_deliver stable relay (fitsCertificate host) account envelope _ start

/-- Holds of a talk that hands over no mail but one. -/
def HandsOver (message : MailMessage) (t : SmtpTalk) : Prop :=
  ∀ m, .content m ∈ t.sent.map (·.2) → m = message

theorem stable_handsOver (message : MailMessage) : Stable (HandsOver message) message where
  command t command fits h := by
    intro m mem
    rw [said, List.map_append, List.mem_append] at mem
    obtain before | last := mem
    · exact h m before
    · exact fits m (List.mem_singleton.mp last).symm
  upgraded _ h := h

theorem said_of_run_send {relay : SmtpRelay} {command : SmtpCommand} {t t' : SmtpTalk}
    {reply : SmtpReply} (h : (send relay command).run.run t = (.ok reply, t')) :
    t' = said t command := by
  have same : Preserves (· = said t command) (accept (relay ((said t command).sent.map (·.2)))) :=
    preserves_accept _
  have answered := same (said t command) rfl
  change (accept (relay ((said t command).sent.map (·.2)))).run.run (said t command) = _ at h
  rw [h] at answered
  exact answered

/-- The mail is the last thing that is said. -/
theorem mem_sent_of_run_transfer {relay : SmtpRelay} {envelope : Envelope} {message : MailMessage}
    {t t' : SmtpTalk} {code : Nat}
    (h : (transfer relay envelope message).run.run t = (.ok code, t')) :
    .content message ∈ t'.sent.map (·.2) := by
  unfold transfer at h
  obtain ⟨_, _, -, h⟩ := run_eq_ok_of_bind h
  obtain ⟨_, _, -, h⟩ := run_eq_ok_of_bind h
  obtain ⟨_, _, -, h⟩ := run_eq_ok_of_bind h
  obtain ⟨reply, last, handed, h⟩ := run_eq_ok_of_bind h
  cases h
  rw [said_of_run_send handed, said, List.map_append]
  exact List.mem_append_right _ List.mem_cons_self

theorem mem_sent_of_run_deliver {relay : SmtpRelay} {nameFits : Bool}
    {account : Option SmtpAccount} {envelope : Envelope} {message : MailMessage} {t t' : SmtpTalk}
    {code : Nat}
    (h : (deliver relay nameFits account envelope message).run.run t = (.ok code, t')) :
    .content message ∈ t'.sent.map (·.2) := by
  unfold deliver at h
  obtain ⟨_, _, -, h⟩ := run_eq_ok_of_bind h
  obtain ⟨_, _, -, h⟩ := run_eq_ok_of_bind h
  obtain ⟨_, _, -, h⟩ := run_eq_ok_of_bind h
  obtain ⟨_, _, -, h⟩ := run_eq_ok_of_bind h
  exact mem_sent_of_run_transfer h

/-- A talk that comes to a good end is written down, and its mail was handed over. -/
theorem submit_hands {relay : SmtpRelay} {reach : Reach} {host : String} {port : Nat}
    {isImplicit : Bool} {account : Option SmtpAccount} {envelope : Envelope}
    {message : MailMessage} {code : Nat}
    (h : (submit relay reach host port isImplicit account envelope message).result = .ok code) :
    ∃ talk, (submit relay reach host port isImplicit account envelope message).talk = some talk ∧
      .content message ∈ talk.sent.map (·.2) := by
  unfold submit at h ⊢
  cases reach with
  | unknownHost => exact nomatch h
  | refused => exact nomatch h
  | reached =>
    dsimp only at h ⊢
    split at h
    · exact nomatch h
    · rename_i fits
      rw [if_neg fits]
      exact ⟨_, rfl, mem_sent_of_run_deliver (Prod.ext h rfl)⟩

end Smtp

end CleanupCourier
