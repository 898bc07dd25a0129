import CleanupCourier.Proofs.Mail.Talk

/-!
The order of a talk with a mail relay. Whatever the relay answers, what is said to it is a beginning
of one script, and nothing of it is said before the relay has granted all that comes earlier. The
script sees to an encrypted connection first, logs in next if there is an account, and only then
tells about the mail. A part of a talk is told by its plan, and plans are joined as the parts are.
-/
namespace CleanupCourier

def SmtpTalk.commands (t : SmtpTalk) : List SmtpCommand :=
  t.sent.map (·.2)

namespace Smtp

/-- Holds of an answer that lets a talk go on. -/
def Positive (reply : SmtpReply) : Prop :=
  reply.code / 100 = 2 ∨ reply.code / 100 = 3

/-- Holds if the relay grants the last of some commands. A log-in is not granted by asking for
more. -/
structure Granted (relay : SmtpRelay) (commands : List SmtpCommand) : Prop where
  positive : Positive (relay commands)
  final (token : String) :
    commands.getLast? = some (.auth token) → (relay commands).code ≠ challengeCode

/-- Holds of a talk in which nothing was said before all that comes earlier was granted, the
connection itself included. -/
def Heard (relay : SmtpRelay) (t : SmtpTalk) : Prop :=
  ∀ n < t.sent.length, Granted relay (t.commands.take n)

variable {α β : Type} {relay : SmtpRelay} {t : SmtpTalk}

theorem commands_said (t : SmtpTalk) (command : SmtpCommand) :
    (said t command).commands = t.commands ++ [command] := by
  simp only [SmtpTalk.commands, said, List.map_append, List.map_cons, List.map_nil]

theorem Heard.said (h : Heard relay t) (granted : Granted relay t.commands)
    (command : SmtpCommand) : Heard relay (said t command) := by
  have length : t.commands.length = t.sent.length := List.length_map _
  intro n before
  have before : n < t.sent.length + 1 := by simpa [Smtp.said] using before
  rw [commands_said, List.take_append_of_le_length (by omega)]
  by_cases here : n < t.sent.length
  · exact h n here
  · rw [List.take_of_length_le (by omega)]
    exact granted

theorem accept_cases (reply : SmtpReply) (t : SmtpTalk) :
    (Positive reply ∧ (accept reply).run.run t = (.ok reply, t)) ∨
      (¬ Positive reply ∧ ∃ fault, (accept reply).run.run t = (.error fault, t)) := by
  unfold accept Positive
  by_cases positive : reply.code / 100 = 2 ∨ reply.code / 100 = 3
  · rw [if_pos positive]
    exact .inl ⟨positive, rfl⟩
  · rw [if_neg positive]
    refine .inr ⟨positive, ?_⟩
    split
    · exact ⟨_, rfl⟩
    · exact ⟨_, rfl⟩

/-- A command is said, and then the talk goes on with the answer to it or ends. -/
theorem send_cases (relay : SmtpRelay) (command : SmtpCommand) (t : SmtpTalk) :
    let reply := relay (said t command).commands
    (Positive reply ∧ (send relay command).run.run t = (.ok reply, said t command)) ∨
      (¬ Positive reply ∧
        ∃ fault, (send relay command).run.run t = (.error fault, said t command)) :=
  accept_cases (relay (said t command).commands) (said t command)

/-- What a part of a talk comes to that follows a plan: it has said a beginning of the plan, and the
whole of it if it succeeds. -/
structure Follows (relay : SmtpRelay) (plan : List (Encryption × SmtpCommand)) (after : Encryption)
    (t : SmtpTalk) (ended : Except MailFault α × SmtpTalk) : Prop where
  sent : ∃ said, said <+: plan ∧ ended.2.sent = t.sent ++ said
  heard : Heard relay ended.2
  done (a : α) : ended.1 = .ok a →
    ended.2.sent = t.sent ++ plan ∧ Granted relay ended.2.commands ∧ ended.2.encryption = after

/-- A part of a talk that fails has no more to do than to keep to the beginning of the plan. -/
theorem follows_error {plan : List (Encryption × SmtpCommand)} {after : Encryption}
    {fault : MailFault} {u : SmtpTalk} (sent : ∃ said, said <+: plan ∧ u.sent = t.sent ++ said)
    (heard : Heard relay u) :
    Follows relay plan after t ((.error fault, u) : Except MailFault α × SmtpTalk) :=
  ⟨sent, heard, fun _ h => nomatch h⟩

/-- Holds of a part of a talk that follows a plan if all that comes before it was granted. -/
def Plans (relay : SmtpRelay) (before : Encryption) (plan : List (Encryption × SmtpCommand))
    (after : Encryption) (talk : Talk α) : Prop :=
  ∀ t : SmtpTalk, t.encryption = before → Heard relay t → Granted relay t.commands →
    Follows relay plan after t (talk.run.run t)

section Plans

variable {before middle after : Encryption} {plan plan' : List (Encryption × SmtpCommand)}

theorem plans_pure (a : α) : Plans relay before [] before (pure a : Talk α) := by
  intro t eq heard granted
  exact ⟨⟨[], List.prefix_refl _, (List.append_nil _).symm⟩, heard,
    fun _ _ => ⟨(List.append_nil _).symm, granted, eq⟩⟩

theorem plans_throw (fault : MailFault) : Plans relay before plan after (throw fault : Talk α) := by
  intro t _ heard _
  exact follows_error ⟨[], List.nil_prefix, (List.append_nil _).symm⟩ heard

theorem plans_bind {talk : Talk α} {next : α → Talk β} (first : Plans relay before plan middle talk)
    (rest : ∀ a, Plans relay middle plan' after (next a)) :
    Plans relay before (plan ++ plan') after (talk >>= next) := by
  intro t eq heard granted
  obtain ⟨⟨said, short, sent⟩, heard, done⟩ := first t eq heard granted
  rw [run_bind]
  generalize talk.run.run t = ended at sent heard done ⊢
  obtain ⟨fault | a, u⟩ := ended
  · exact follows_error ⟨said, short.trans (List.prefix_append _ _), sent⟩ heard
  · obtain ⟨whole, granted, eq⟩ := done a rfl
    obtain ⟨⟨said, short, sent⟩, heard, done⟩ := rest a u eq heard granted
    refine ⟨⟨plan ++ said, (List.prefix_append_right_inj _).mpr short, ?_⟩, heard, ?_⟩
    · rw [sent, whole, List.append_assoc]
    · intro b ok
      obtain ⟨sent, rest⟩ := done b ok
      exact ⟨by rw [sent, whole, List.append_assoc], rest⟩

theorem plans_guard {γ : Type} {c : Prop} [Decidable c] {fault : MailFault} {next : γ → Talk α}
    {rest : Talk α} (h : Plans relay before plan after rest) :
    Plans relay before plan after (if c then throw fault >>= next else rest) := by
  by_cases holds : c
  · rw [if_pos holds]
    exact plans_throw (α := α) fault
  · rw [if_neg holds]
    exact h

theorem plans_send {command : SmtpCommand} (h : ∀ token, command ≠ .auth token) :
    Plans relay before [(before, command)] before (send relay command) := by
  intro t eq heard granted
  have sent : (said t command).sent = t.sent ++ [(before, command)] := by rw [said, eq]
  have heard := heard.said granted command
  obtain ⟨positive, ran⟩ | ⟨-, fault, ran⟩ := send_cases relay command t
  · rw [ran]
    refine ⟨⟨_, List.prefix_refl _, sent⟩, heard, fun _ _ => ⟨sent, ⟨positive, ?_⟩, eq⟩⟩
    intro token last
    rw [commands_said, List.getLast?_concat] at last
    exact absurd (Option.some.inj last) (h token)
  · rw [ran]
    exact follows_error ⟨_, List.prefix_refl _, sent⟩ heard

theorem plans_upgraded : Plans relay .none [] .upgraded
    (modify fun t => { t with encryption := .upgraded } : Talk PUnit) := by
  intro t _ heard granted
  exact ⟨⟨[], List.prefix_refl _, (List.append_nil _).symm⟩, heard,
    fun _ _ => ⟨(List.append_nil _).symm, granted, rfl⟩⟩

theorem plans_upgrade (nameFits : Bool) (offer : SmtpReply) :
    Plans relay .none [(.none, .startTls), (.upgraded, .ehlo)] .upgraded
      (upgrade relay nameFits offer) := by
  refine plans_guard (plans_bind (plans_send ?_) fun _ => plans_guard ?_)
  · exact fun _ => nofun
  · exact plans_bind plans_upgraded fun _ => plans_send fun _ => nofun

/-- By induction on the recipients: one command for each. -/
theorem plans_recipients (recipients : List MailAddress) :
    Plans relay before (recipients.map fun recipient => (before, .rcptTo recipient.text)) before
      (forIn recipients PUnit.unit fun recipient _ => do
        let _ ← send relay (.rcptTo recipient.text)
        pure (.yield PUnit.unit)) := by
  induction recipients with
  | nil => exact plans_pure _
  | cons recipient rest ih =>
    rw [List.forIn_cons, List.map_cons, bind_assoc]
    refine plans_bind (plans_send ?_) fun _ => ih
    exact fun _ => nofun

end Plans

/-- What is said to make sure that the connection is an encrypted one. -/
def opening (isImplicit : Bool) : List (Encryption × SmtpCommand) :=
  if isImplicit then [(.implicit, .ehlo)]
  else [(.none, .ehlo), (.none, .startTls), (.upgraded, .ehlo)]

/-- How the connection is encrypted after the opening. -/
def secured (isImplicit : Bool) : Encryption :=
  if isImplicit then .implicit else .upgraded

def logInCommands (account : Option SmtpAccount) : List SmtpCommand :=
  account.toList.map (.auth ·.token)

def mailCommands (envelope : Envelope) (message : MailMessage) : List SmtpCommand :=
  .mailFrom envelope.sender.text ::
    (envelope.recipients.map (.rcptTo ·.text) ++ [.data, .content message])

/-- All that there is to say. -/
def script (isImplicit : Bool) (account : Option SmtpAccount) (envelope : Envelope)
    (message : MailMessage) : List (Encryption × SmtpCommand) :=
  opening isImplicit ++ (logInCommands account).map (secured isImplicit, ·) ++
    (mailCommands envelope message).map (secured isImplicit, ·)

section Deliver

variable (relay) (isImplicit : Bool)

theorem plans_secure (nameFits : Bool) (offer : SmtpReply) :
    Plans relay (if isImplicit then .implicit else .none) (opening isImplicit).tail
      (secured isImplicit) (secure relay nameFits offer) := by
  intro t eq heard granted
  change Follows _ _ _ t ((if t.encryption = .implicit then pure offer
    else upgrade relay nameFits offer : Talk SmtpReply).run.run t)
  cases isImplicit with
  | true =>
    have encrypted : t.encryption = .implicit := eq
    rw [if_pos encrypted]
    exact plans_pure offer t encrypted heard granted
  | false =>
    have plain : t.encryption = .none := eq
    rw [if_neg (by rw [plain]; decide)]
    exact plans_upgrade nameFits offer t plain heard granted

theorem plans_logIn (before : Encryption) (offer : SmtpReply) (account : Option SmtpAccount) :
    Plans relay before ((logInCommands account).map (before, ·)) before
      (logIn relay offer account) := by
  cases account with
  | none => exact plans_pure ()
  | some account =>
    refine plans_guard fun t eq heard granted => ?_
    have sent : (said t (.auth account.token)).sent =
        t.sent ++ [(before, .auth account.token)] := by
      rw [said, eq]
    have heard := heard.said granted (.auth account.token)
    rw [run_bind]
    obtain ⟨positive, ran⟩ | ⟨-, fault, ran⟩ := send_cases relay (.auth account.token) t
    · rw [ran]
      dsimp only
      split
      · exact follows_error ⟨_, List.prefix_refl _, sent⟩ heard
      · rename_i final
        exact ⟨⟨_, List.prefix_refl _, sent⟩, heard,
          fun _ _ => ⟨sent, ⟨positive, fun _ _ => final⟩, eq⟩⟩
    · rw [ran]
      exact follows_error ⟨_, List.prefix_refl _, sent⟩ heard

theorem plans_transfer (before : Encryption) (envelope : Envelope) (message : MailMessage) :
    Plans relay before ((mailCommands envelope message).map (before, ·)) before
      (transfer relay envelope message) := by
  have plan : (mailCommands envelope message).map (before, ·) =
      [(before, .mailFrom envelope.sender.text)] ++
        (envelope.recipients.map (fun recipient => (before, .rcptTo recipient.text)) ++
          ([(before, .data)] ++ ([(before, .content message)] ++ []))) := by
    simp [mailCommands]
  rw [plan]
  refine plans_bind (plans_send fun _ => nofun) fun _ => ?_
  refine plans_bind (plans_recipients envelope.recipients) fun _ => ?_
  refine plans_bind (plans_send fun _ => nofun) fun _ => ?_
  exact plans_bind (plans_send fun _ => nofun) fun reply => plans_pure reply.code

/-- A talk follows its script from the moment that the relay has greeted. -/
theorem follows_deliver (port : Nat) (nameFits : Bool) (account : Option SmtpAccount)
    (envelope : Envelope) (message : MailMessage) :
    let start : SmtpTalk := { port, encryption := if isImplicit then .implicit else .none }
    Follows relay (script isImplicit account envelope message) (secured isImplicit) start
      ((deliver relay nameFits account envelope message).run.run start) := by
  intro start
  have unheard : Heard relay start := fun n before => absurd before n.not_lt_zero
  have rest : Plans relay (if isImplicit then .implicit else .none)
      (script isImplicit account envelope message) (secured isImplicit) (do
        let offer ← send relay .ehlo
        let offer ← secure relay nameFits offer
        logIn relay offer account
        transfer relay envelope message) := by
    have plan : script isImplicit account envelope message =
        [(if isImplicit then .implicit else .none, .ehlo)] ++ ((opening isImplicit).tail ++
          ((logInCommands account).map (secured isImplicit, ·) ++
            (mailCommands envelope message).map (secured isImplicit, ·))) := by
      cases isImplicit <;> simp [script, opening]
    rw [plan]
    refine plans_bind (plans_send fun _ => nofun) fun offer => ?_
    refine plans_bind (plans_secure relay isImplicit nameFits offer) fun offer => ?_
    refine plans_bind (plans_logIn relay _ offer account) fun _ => ?_
    exact plans_transfer relay _ envelope message
  rw [deliver, greet, bind_assoc, run_bind]
  obtain ⟨positive, ran⟩ | ⟨-, fault, ran⟩ := accept_cases (relay []) start
  · rw [ran]
    exact rest start rfl unheard ⟨positive, fun _ last => nomatch last⟩
  · rw [ran]
    exact follows_error ⟨[], List.nil_prefix, rfl⟩ unheard

end Deliver

/-! What a talk that keeps to its script has behind it at each command. -/

section Course

variable {plan rest before after : List (Encryption × SmtpCommand)}
  {command : Encryption × SmtpCommand}

/-- What does not belong to the first part of a script comes after the whole of that part. -/
theorem prefix_of_notMem (h : before ++ command :: after <+: plan ++ rest) (new : command ∉ plan) :
    plan <+: before := by
  have upTo : before ++ [command] <+: plan ++ rest :=
    List.IsPrefix.trans ⟨after, by simp⟩ h
  obtain within | beyond := List.prefix_or_prefix_of_prefix upTo (List.prefix_append plan rest)
  · exact absurd (within.subset (by simp)) new
  · obtain whole | short := List.prefix_concat_iff.mp beyond
    · exact absurd (whole ▸ by simp) new
    · exact short

/-- A first part that lies behind a command was granted. -/
theorem Heard.granted (h : Heard relay t) (split : t.sent = before ++ command :: after)
    (behind : plan <+: before) : Granted relay (plan.map (·.2)) := by
  have shorter := behind.length_le
  have here : plan.length < t.sent.length := by rw [split]; simp; omega
  have taken : t.sent.take plan.length = plan := by
    rw [split, List.take_append_of_le_length shorter]
    exact (List.prefix_iff_eq_take.mp behind).symm
  have granted := h plan.length here
  rwa [SmtpTalk.commands, ← List.map_take, taken] at granted

end Course

/-- Why there is no talk at all with a relay, if there is none. -/
def barrier? (reach : Reach) (host : String) (isImplicit : Bool) : Option MailFault :=
  match reach with
  | .unknownHost =>
    some (.connection "failed to lookup address information: Name or service not known")
  | .refused => some (.connection "Connection refused (os error 111)")
  | .reached => if isImplicit && !fitsCertificate host then some badName else none

theorem submit_eq (relay : SmtpRelay) (reach : Reach) (host : String) (port : Nat)
    (isImplicit : Bool) (account : Option SmtpAccount) (envelope : Envelope)
    (message : MailMessage) :
    submit relay reach host port isImplicit account envelope message =
      match barrier? reach host isImplicit with
      | some fault => ⟨.error fault, none⟩
      | none =>
        let ended := (deliver relay (fitsCertificate host) account envelope message).run.run
          { port, encryption := if isImplicit then .implicit else .none }
        ⟨ended.1, some ended.2⟩ := by
  unfold submit barrier?
  cases reach with
  | unknownHost => rfl
  | refused => rfl
  | reached =>
    by_cases barred : (isImplicit && !fitsCertificate host) = true
    · simp only [if_pos barred]
    · simp only [if_neg barred]
      rfl

/-- A relay without encryption hears one greeting on a plain connection, and no more. -/
theorem deliver_without_tls (plain : (relay [.ehlo]).offersTls = false) (port : Nat)
    (nameFits : Bool) (account : Option SmtpAccount) (envelope : Envelope)
    (message : MailMessage) :
    ∃ fault u, (deliver relay nameFits account envelope message).run.run
        { port, encryption := .none } = (.error fault, u) ∧ u.sent <+: [(.none, .ehlo)] := by
  let start : SmtpTalk := { port, encryption := .none }
  change ∃ fault u, (deliver relay nameFits account envelope message).run.run start =
    (.error fault, u) ∧ _
  rw [deliver, greet, bind_assoc, run_bind]
  obtain ⟨-, ran⟩ | ⟨-, fault, ran⟩ := accept_cases (relay []) start
  · rw [ran]
    change ∃ fault u, (send relay .ehlo >>= _).run.run start = (.error fault, u) ∧ _
    rw [run_bind]
    obtain ⟨-, ran⟩ | ⟨-, fault, ran⟩ := send_cases relay .ehlo start
    · rw [ran]
      have offer : (relay (said start .ehlo).commands).offersTls = false := plain
      generalize relay (said start .ehlo).commands = reply at offer ⊢
      refine ⟨.client "STARTTLS is not supported on this server", said start .ehlo, ?_,
        List.prefix_refl _⟩
      have stops : (secure relay nameFits reply).run.run (said start .ehlo) =
          (.error (.client "STARTTLS is not supported on this server"), said start .ehlo) := by
        change (upgrade relay nameFits reply).run.run (said start .ehlo) = _
        rw [upgrade, offer]
        rfl
      dsimp only
      rw [run_bind, stops]
    · rw [ran]
      exact ⟨fault, _, rfl, List.prefix_refl _⟩
  · rw [ran]
    exact ⟨fault, start, rfl, List.nil_prefix⟩

theorem run_send {command : SmtpCommand} (h : Positive (relay (said t command).commands)) :
    (send relay command).run.run t = (.ok (relay (said t command).commands), said t command) := by
  obtain ⟨-, ran⟩ | ⟨refused, -⟩ := send_cases relay command t
  · exact ran
  · exact absurd h refused

/-- Holds of a relay that greets, grants the opening, and offers encryption and log-in. -/
structure Forthcoming (relay : SmtpRelay) (isImplicit : Bool) : Prop where
  grants (n : Nat) : n ≤ (opening isImplicit).length →
    Positive (relay (((opening isImplicit).map (·.2)).take n))
  tls : isImplicit = false → (relay [.ehlo]).offersTls = true
  logIn : (relay ((opening isImplicit).map (·.2))).offersAuth = true

theorem run_opening {isImplicit : Bool} (h : Forthcoming relay isImplicit) (port : Nat) :
    ∃ u, u.sent = opening isImplicit ∧
      (do
        greet relay
        let offer ← send relay .ehlo
        secure relay true offer : Talk SmtpReply).run.run
          { port, encryption := if isImplicit then .implicit else .none } =
        (.ok (relay ((opening isImplicit).map (·.2))), u) := by
  let start : SmtpTalk := { port, encryption := if isImplicit then .implicit else .none }
  have greeted : (accept (relay [])).run.run start = (.ok (relay []), start) := by
    obtain ⟨-, ran⟩ | ⟨refused, -⟩ := accept_cases (relay []) start
    · exact ran
    · exact absurd (h.grants 0 (Nat.zero_le _)) refused
  rw [greet, bind_assoc, run_bind, greeted]
  change ∃ u, _ ∧ (send relay .ehlo >>= secure relay true).run.run start = _
  have offered : Positive (relay (said start .ehlo).commands) := by
    have positive := h.grants 1 (by cases isImplicit <;> decide)
    cases isImplicit <;> exact positive
  rw [run_bind, run_send offered]
  cases isImplicit with
  | true => exact ⟨said start .ehlo, rfl, rfl⟩
  | false =>
    have asked : Positive (relay (said (said start .ehlo) .startTls).commands) :=
      h.grants 2 (by decide)
    let upgraded : SmtpTalk := { said (said start .ehlo) .startTls with encryption := .upgraded }
    have again : Positive (relay (said upgraded .ehlo).commands) := h.grants 3 (by decide)
    refine ⟨said upgraded .ehlo, rfl, ?_⟩
    change (upgrade relay true (relay [.ehlo])).run.run (said start .ehlo) = _
    rw [upgrade, h.tls rfl]
    change (send relay .startTls >>= _).run.run (said start .ehlo) = _
    rw [run_bind, run_send asked]
    change (send relay .ehlo).run.run upgraded = _
    exact run_send again

/-- With an account a forthcoming relay gets the log-in. -/
theorem mem_commands_deliver {isImplicit : Bool} (h : Forthcoming relay isImplicit) (port : Nat)
    (account : SmtpAccount) (envelope : Envelope) (message : MailMessage) :
    .auth account.token ∈ ((deliver relay true (some account) envelope message).run.run
      { port, encryption := if isImplicit then .implicit else .none }).2.commands := by
  obtain ⟨u, -, ran⟩ := run_opening h port
  have split : deliver relay true (some account) envelope message =
      (do
        greet relay
        let offer ← send relay .ehlo
        secure relay true offer) >>= fun offer =>
          logIn relay offer (some account) >>= fun _ => transfer relay envelope message := by
    simp only [deliver, bind_assoc]
  rw [split, run_bind, ran]
  have kept : Stable (fun t : SmtpTalk => .auth account.token ∈ t.commands) message := by
    refine ⟨fun t command _ mem => ?_, fun t mem => mem⟩
    rw [commands_said]
    exact List.mem_append_left _ mem
  have after : .auth account.token ∈ (said u (.auth account.token)).commands := by
    rw [commands_said]
    exact List.mem_append_right _ List.mem_cons_self
  simp only [logIn, h.logIn, Bool.not_true, Bool.false_eq_true, if_false, bind_assoc]
  obtain ⟨-, sent⟩ | ⟨-, fault, sent⟩ := send_cases relay (.auth account.token) u
  · rw [run_bind, sent]
    dsimp only
    split
    · exact after
    · exact preserves_transfer kept relay envelope _ after
  · rw [run_bind, sent]
    exact after

end Smtp

end CleanupCourier
