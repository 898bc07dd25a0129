import CleanupCourier.Proofs.Destination.Handover
import CleanupCourier.Proofs.Mail.Order

/-!
What a relay hears of a mail, and when. On the port for implicit encryption all is said on an
encrypted connection. On every other port a relay has to grant an upgrade first, and until then it
hears nothing of the mail and of the account. With a password the mail is told only to a relay that
has granted the log-in; without one there is no log-in.
-/
namespace CleanupCourier

namespace SmtpCommand

def isLogIn : SmtpCommand → Bool
  | .auth _ => true
  | _ => false

/-- Holds of a command that tells something of the mail. -/
def isAboutMail : SmtpCommand → Bool
  | .mailFrom _ | .rcptTo _ | .data | .content _ => true
  | .ehlo | .startTls | .auth _ => false

/-- Holds of a command that gives away something of the mail or of the account. -/
def isConfidential (command : SmtpCommand) : Bool :=
  command.isLogIn || command.isAboutMail

end SmtpCommand

namespace Smtp

variable {relay : SmtpRelay} {isImplicit : Bool} {account : Option SmtpAccount}
  {envelope : Envelope} {message : MailMessage} {said : Encryption × SmtpCommand}

theorem isAboutMail_of_mem {command : SmtpCommand} (h : command ∈ mailCommands envelope message) :
    command.isAboutMail := by
  simp only [mailCommands, List.mem_cons, List.mem_append, List.mem_map, List.not_mem_nil,
    or_false] at h
  obtain rfl | ⟨recipient, -, rfl⟩ | rfl | rfl := h <;> rfl

theorem not_isConfidential_of_mem (h : said ∈ opening isImplicit) :
    said.2.isConfidential = false := by
  have all : ∀ said ∈ opening isImplicit, said.2.isConfidential = false := by
    cases isImplicit <;> decide
  exact all said h

theorem secured_ne_none (isImplicit : Bool) : secured isImplicit ≠ .none := by
  cases isImplicit <;> decide

/-- What is said after the opening is said on an encrypted connection. -/
theorem encryption_of_mem_script (h : said ∈ script isImplicit account envelope message) :
    said ∈ opening isImplicit ∨ said.1 = secured isImplicit := by
  rw [script, List.append_assoc, ← List.map_append] at h
  obtain opens | later := List.mem_append.mp h
  · exact .inl opens
  · obtain ⟨command, -, rfl⟩ := List.mem_map.mp later
    exact .inr rfl

theorem not_isLogIn_of_mem_script (h : said ∈ script isImplicit none envelope message) :
    ¬ said.2.isLogIn := by
  rw [script, logInCommands, Option.toList_none, List.map_nil, List.map_nil, List.append_nil] at h
  obtain opens | later := List.mem_append.mp h
  · intro logIn
    have open' := not_isConfidential_of_mem opens
    rw [SmtpCommand.isConfidential, logIn, Bool.true_or] at open'
    cases open'
  · obtain ⟨command, mem, rfl⟩ := List.mem_map.mp later
    have about := isAboutMail_of_mem mem
    cases command <;> simp_all [SmtpCommand.isLogIn, SmtpCommand.isAboutMail]

end Smtp

namespace Mailing

/-- Whether the connection to the relay is encrypted from its start. -/
def isImplicit (info : SmtpInfo) : Bool :=
  info.port == SmtpInfo.implicitTlsPort

/-- How an account with a password logs in. -/
def logInOf (info : SmtpInfo) : SmtpCommand :=
  .auth (SmtpAccount.token ⟨info.sender, info.password⟩)

/-- Holds of a talk about a mail that keeps to its order: what is confidential is said on an
encrypted connection only, and the mail is told only where the sender is let in. -/
structure Guarded (info : SmtpInfo) (draft : Draft) (relay : SmtpRelay) (talk : SmtpTalk) :
    Prop where
  order : talk.sent <+: Smtp.script (isImplicit info) (account? info) draft.envelope draft.message
  implicit : info.port = SmtpInfo.implicitTlsPort → ∀ said ∈ talk.sent, said.1 = .implicit
  /-- What is not said in the opening on a plain connection is said after a granted upgrade. -/
  upgraded : info.port ≠ SmtpInfo.implicitTlsPort → ∀ before said after,
    talk.sent = before ++ said :: after → said ≠ (.none, .ehlo) → said ≠ (.none, .startTls) →
      said.1 = .upgraded ∧ [(.none, .ehlo), (.none, .startTls)] <+: before ∧
        Smtp.Granted relay [.ehlo, .startTls]
  confidential : ∀ said ∈ talk.sent, said.2.isConfidential → said.1 ≠ .none
  /-- A log-in is what comes first after the opening, if and only if there is a password. -/
  logIn : ∀ said after, talk.sent = Smtp.opening (isImplicit info) ++ said :: after →
    (said.2.isLogIn ↔ info.password ≠ "")
  anonymous : info.password = "" → ∀ said ∈ talk.sent, ¬ said.2.isLogIn
  /-- With a password the mail is told after a granted log-in. -/
  letIn : info.password ≠ "" → ∀ before said after, talk.sent = before ++ said :: after →
    said.2.isAboutMail →
      (Smtp.opening (isImplicit info)).map (·.2) ++ [logInOf info] <+: before.map (·.2) ∧
        Smtp.Granted relay ((Smtp.opening (isImplicit info)).map (·.2) ++ [logInOf info])

theorem account?_of_empty {info : SmtpInfo} (h : info.password = "") : account? info = none := by
  rw [account?, h]
  rfl

theorem account?_of_ne {info : SmtpInfo} (h : info.password ≠ "") :
    account? info = some ⟨info.sender, info.password⟩ := by
  have full : info.password.isEmpty = false := by simpa using h
  rw [account?, full]
  rfl

section

variable {info : SmtpInfo} {draft : Draft} {relay : SmtpRelay} {talk : SmtpTalk}

/-- With a password the log-in stands between the opening and the mail. -/
theorem script_of_ne (h : info.password ≠ "") :
    Smtp.script (isImplicit info) (account? info) draft.envelope draft.message =
      (Smtp.opening (isImplicit info) ++ [(Smtp.secured (isImplicit info), logInOf info)]) ++
        (Smtp.mailCommands draft.envelope draft.message).map
          (Smtp.secured (isImplicit info), ·) := by
  rw [Smtp.script, account?_of_ne h]
  rfl

theorem script_of_empty (h : info.password = "") :
    Smtp.script (isImplicit info) (account? info) draft.envelope draft.message =
      Smtp.opening (isImplicit info) ++
        (Smtp.mailCommands draft.envelope draft.message).map
          (Smtp.secured (isImplicit info), ·) := by
  rw [Smtp.script, account?_of_empty h]
  simp [Smtp.logInCommands]

/-- What follows the opening in a talk follows it in the script. -/
theorem head_of_order {said : Encryption × SmtpCommand} {after rest}
    (order : talk.sent <+: Smtp.opening (isImplicit info) ++ rest)
    (split : talk.sent = Smtp.opening (isImplicit info) ++ said :: after) :
    rest.head? = some said := by
  rw [split, List.prefix_append_right_inj] at order
  obtain ⟨more, rfl⟩ := order
  rfl

/-- A talk that keeps to the script, and waits for each answer, is guarded. -/
theorem guarded_of_order
    (order : talk.sent <+:
      Smtp.script (isImplicit info) (account? info) draft.envelope draft.message)
    (heard : Smtp.Heard relay talk) : Guarded info draft relay talk where
  order := order
  implicit port said mem := by
    have implicit : isImplicit info = true := beq_iff_eq.mpr port
    rw [implicit] at order
    obtain opens | eq := Smtp.encryption_of_mem_script (order.subset mem)
    · rw [List.mem_singleton.mp opens]
    · exact eq
  upgraded port before said after split notEhlo notStartTls := by
    have plain : isImplicit info = false := beq_false_of_ne port
    rw [plain] at order
    have new : said ∉ [(Encryption.none, SmtpCommand.ehlo), (.none, .startTls)] := by
      simp [notEhlo, notStartTls]
    have behind : [(Encryption.none, SmtpCommand.ehlo), (.none, .startTls)] <+: before :=
      Smtp.prefix_of_notMem (split ▸ order) new
    refine ⟨?_, behind, heard.granted split behind⟩
    have mem : said ∈ talk.sent := by
      rw [split]
      exact List.mem_append_right _ List.mem_cons_self
    obtain opens | eq := Smtp.encryption_of_mem_script (order.subset mem)
    · obtain rfl | rfl | rfl : said = _ ∨ said = _ ∨ said = _ := by simpa [Smtp.opening] using opens
      · exact absurd rfl notEhlo
      · exact absurd rfl notStartTls
      · rfl
    · exact eq
  confidential said mem confidential := by
    obtain opens | eq := Smtp.encryption_of_mem_script (order.subset mem)
    · rw [Smtp.not_isConfidential_of_mem opens] at confidential
      cases confidential
    · rw [eq]
      exact Smtp.secured_ne_none _
  logIn said after split := by
    by_cases password : info.password = ""
    · rw [script_of_empty password] at order
      have head := head_of_order order split
      cases head
      simp [password, SmtpCommand.isLogIn]
    · rw [script_of_ne password, List.append_assoc] at order
      have head := head_of_order order split
      cases head
      simp [password, logInOf, SmtpCommand.isLogIn]
  anonymous password said mem := by
    rw [account?_of_empty password] at order
    exact Smtp.not_isLogIn_of_mem_script (order.subset mem)
  letIn password before said after split about := by
    rw [script_of_ne password] at order
    have new : said ∉ Smtp.opening (isImplicit info) ++
        [(Smtp.secured (isImplicit info), logInOf info)] := by
      intro mem
      obtain opens | logIn := List.mem_append.mp mem
      · have open' := Smtp.not_isConfidential_of_mem opens
        rw [SmtpCommand.isConfidential, about, Bool.or_true] at open'
        cases open'
      · rw [List.mem_singleton.mp logIn] at about
        cases about
    have behind := Smtp.prefix_of_notMem (split ▸ order) new
    have granted := heard.granted split behind
    rw [List.map_append] at granted
    refine ⟨?_, granted⟩
    have behind := behind.map (·.2)
    rwa [List.map_append] at behind

end

/-- What becomes of a mail that was made: how the attempt to send it ends, and the talk about it if
there is one. -/
structure Handled (info : SmtpInfo) (draft : Draft) (reach : Reach) (relay : SmtpRelay)
    (talk? : Option SmtpTalk) (result : Except DeliveryError Unit) : Prop where
  guarded : ∀ talk ∈ talk?, Guarded info draft relay talk
  fault : result = .ok () ∨ ∃ reason, result = .error (.mail reason)
  whole : result = .ok () → ∃ talk ∈ talk?,
    talk.sent = Smtp.script (isImplicit info) (account? info) draft.envelope draft.message
  /-- A relay that cannot encrypt the connection gets nothing. -/
  withoutTls : info.port ≠ SmtpInfo.implicitTlsPort → (relay [.ehlo]).offersTls = false →
    (∃ reason, result = .error (.mail reason)) ∧ ∀ talk ∈ talk?, talk.sent <+: [(.none, .ehlo)]
  /-- The log-in is made wherever it can be made. -/
  logsIn : info.password ≠ "" → reach = .reached → Smtp.fitsCertificate info.host →
    Smtp.Forthcoming relay (isImplicit info) → ∃ talk ∈ talk?, logInOf info ∈ talk.commands

section

variable (info : SmtpInfo) (draft : Draft) (reach : Reach) (relay : SmtpRelay)

/-- Without a talk there is a reason for it, which is no fault of a relay that can be talked to. -/
theorem handled_of_barrier {fault : MailFault}
    (h : Smtp.barrier? reach info.host (isImplicit info) = some fault) :
    Handled info draft reach relay none (.error (.mail fault.message)) where
  guarded := nofun
  fault := .inr ⟨_, rfl⟩
  whole := nofun
  withoutTls _ _ := ⟨⟨_, rfl⟩, nofun⟩
  logsIn _ reached fits _ := by
    rw [reached, Smtp.barrier?, fits, Bool.not_true, Bool.and_false] at h
    exact nomatch h

theorem handled_of_talk :
    let ended := (Smtp.deliver relay (Smtp.fitsCertificate info.host) (account? info)
      draft.envelope draft.message).run.run
        { port := info.port, encryption := if isImplicit info then .implicit else .none }
    Handled info draft reach relay (some ended.2) (concluded ⟨ended.1, some ended.2⟩) := by
  intro ended
  have follows : Smtp.Follows relay _ _ _ ended := Smtp.follows_deliver relay (isImplicit info)
    info.port (Smtp.fitsCertificate info.host) (account? info) draft.envelope draft.message
  obtain ⟨said, short, sent⟩ := follows.sent
  rw [List.nil_append] at sent
  refine ⟨?_, ?_, ?_, ?_, ?_⟩
  · intro talk mem
    obtain rfl := Option.some.inj mem
    exact guarded_of_order (sent ▸ short) follows.heard
  · rw [concluded]
    cases ended.1 with
    | ok code => exact .inl rfl
    | error fault => exact .inr ⟨_, rfl⟩
  · intro ok
    refine ⟨ended.2, rfl, ?_⟩
    cases result : ended.1 with
    | ok code => exact (follows.done code result).1.trans (List.nil_append _)
    | error fault =>
      rw [concluded, result] at ok
      cases ok
  · intro port plain
    have notImplicit : isImplicit info = false := beq_false_of_ne port
    obtain ⟨fault, talk, ran, short⟩ := Smtp.deliver_without_tls plain info.port
      (Smtp.fitsCertificate info.host) (account? info) draft.envelope draft.message
    have eq : ended = (.error fault, talk) := by
      rw [← ran]
      simp only [ended, notImplicit]
      rfl
    rw [eq]
    refine ⟨⟨_, rfl⟩, fun talk' mem => ?_⟩
    obtain rfl := Option.some.inj mem
    exact short
  · intro password _ fits forthcoming
    refine ⟨ended.2, rfl, ?_⟩
    simp only [ended, fits, account?_of_ne password]
    exact Smtp.mem_commands_deliver forthcoming info.port _ draft.envelope draft.message

theorem handled_submit :
    let submitted := Smtp.submit relay reach info.host info.port (isImplicit info) (account? info)
      draft.envelope draft.message
    Handled info draft reach relay submitted.talk (concluded submitted) := by
  rw [Smtp.submit_eq]
  cases barred : Smtp.barrier? reach info.host (isImplicit info) with
  | some fault => exact handled_of_barrier info draft reach relay barred
  | none => exact handled_of_talk info draft reach relay

end

/-- Whatever a relay says, nothing of the mail and of the account goes out on a connection that is
not encrypted, and with a password nothing of the mail goes out before the relay has granted the
log-in. -/
theorem send_guarded {σ : Type} (network : Network) (info : SmtpInfo) (subject body : String)
    (isHtml : Bool) (spans : List Span) (w : World σ) :
    let ended := (send network info subject body isHtml).run spans w
    (∀ error, compose info subject body isHtml = .error error →
      ended.1 = .error error ∧ ended.2.traffic = w.traffic) ∧
    (∀ draft, compose info subject body isHtml = .ok draft → ∃ talk? : Option SmtpTalk,
      ended.2.traffic = { w.traffic with talks := w.traffic.talks ++ talk?.toList } ∧
      Handled info draft (network.reach info.host info.port) (network.relay w.traffic) talk?
        ended.1) := by
  refine ⟨fun error failed => ?_, fun draft made => ?_⟩
  · obtain ⟨j, eq⟩ := run_send_error failed network spans w
    rw [eq]
    exact ⟨rfl, rfl⟩
  · obtain ⟨result, traffic⟩ := run_send_ok made network spans w
    refine ⟨_, traffic, ?_⟩
    rw [result]
    exact handled_submit info draft _ _

end Mailing

end CleanupCourier
