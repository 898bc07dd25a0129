import CleanupCourier.Proofs.Destination.Envelope

/-!
Who logs in at a relay. The log-in names the field for the sender as it stands, while the envelope
names the address that the header for the sender is read as: without the blanks around the field,
without a name in front of the address, and without the quotes of a user. So the one who logs in is
the sender of the mail if and only if the field is that address, which is bare then.
-/
namespace CleanupCourier

namespace SmtpAccount

/-- The user that a log-in names: what stands after a first NUL and before a second one. -/
def userOf? (token : String) : Option String :=
  match token.toList with
  | '\x00' :: rest => some (String.ofList (rest.takeWhile (· != '\x00')))
  | _ => none

theorem userOf?_token {user : String} (clean : '\x00' ∉ user.toList) (password : String) :
    userOf? (token ⟨user, password⟩) = some user := by
  have spelled : (token ⟨user, password⟩).toList =
      '\x00' :: (user.toList ++ '\x00' :: password.toList) := by
    simp [token]
  simp only [userOf?, spelled]
  rw [takeWhile_ne_append clean, List.takeWhile_cons_of_neg (by decide), List.append_nil,
    String.ofList_toList]

end SmtpAccount

namespace Mailing

/-- Holds of a talk in which the one who logs in is the sender of the mail. -/
def LogsInAsSender (talk : SmtpTalk) : Prop :=
  ∀ token address, .auth token ∈ talk.commands → .mailFrom address ∈ talk.commands →
    SmtpAccount.userOf? token = some address

section Field

variable {field : String} {mailbox : Mailbox}

/-- The text between the blanks around a field. -/
theorem exists_eq_append_trimBlanks (field : String) :
    ∃ front back, field.toList = front ++ ((trimBlanks field).toList ++ back) ∧
      '\x00' ∉ front ∧ '\x00' ∉ back := by
  obtain ⟨front, back, split, before, after⟩ := exists_eq_append_trimBoth isBlank field.toList
  refine ⟨front, back, ?_, fun nul => ?_, fun nul => ?_⟩
  · rwa [trimBlanks, String.toList_ofList]
  · exact absurd (before _ nul) (by decide)
  · exact absurd (after _ nul) (by decide)

theorem Reads.clean (h : Reads field mailbox) : '\x00' ∉ field.toList := by
  obtain ⟨front, back, split, before, after⟩ := exists_eq_append_trimBlanks field
  rw [split, List.mem_append, List.mem_append]
  exact not_or.mpr ⟨before, not_or.mpr ⟨(Mailbox.holds_of_parse h).1, after⟩⟩

/-- A field that is no longer than its address is the address. It has no blanks around it and no
name in it. -/
theorem Reads.bare (h : Reads field mailbox)
    (short : field.length ≤ mailbox.address.text.length) :
    field = mailbox.address.text ∧ trimBlanks field = field ∧ mailbox.name = none := by
  obtain ⟨-, within, brackets⟩ := Mailbox.holds_of_parse h
  obtain ⟨front, back, split, -, -⟩ := exists_eq_append_trimBlanks field
  have shorter := within.length_le
  have length := congrArg List.length split
  simp only [List.length_append, String.length_toList] at shorter length
  have first : front = [] := List.length_eq_zero_iff.mp (by omega)
  have last : back = [] := List.length_eq_zero_iff.mp (by omega)
  rw [first, last, List.nil_append, List.append_nil] at split
  have trimmed : trimBlanks field = field := (String.toList_inj.mp split).symm
  have whole : mailbox.address.text.toList = (trimBlanks field).toList :=
    within.eq_of_length (by simp only [String.length_toList]; omega)
  refine ⟨(String.toList_inj.mp (whole.trans split.symm)).symm, trimmed, ?_⟩
  by_contra named
  have longer := brackets named
  omega

/-- A field that is the address that the header is read as is the bare address, and that has no user
in quotes. -/
theorem Reads.bare_of_source {source : Mailbox} (h : Reads field mailbox)
    (read : Mailbox.readBack [mailbox] = some [source]) (same : field = source.address.text) :
    trimBlanks field = field ∧ mailbox.name = none ∧ ¬ mailbox.address.IsQuoted := by
  obtain ⟨_, single, -, domain, short, iff⟩ :=
    Mailbox.readBack_singleton (Mailbox.legible_of_parse h) read
  cases single
  have long : field.length ≤ mailbox.address.text.length := by
    rw [same]
    simp only [MailAddress.text, String.length_append, domain]
    omega
  obtain ⟨bare, trimmed, nameless⟩ := h.bare long
  have text := congrArg String.toList (same.symm.trans bare)
  rw [Mailbox.address_text, Mailbox.address_text, domain] at text
  have user := String.toList_inj.mp (List.append_cancel_right text)
  exact ⟨trimmed, nameless, iff.mp (congrArg₂ MailAddress.mk user domain)⟩

end Field

section Said

variable {info : SmtpInfo} {sender : Mailbox} {draft : Draft} {relay : SmtpRelay}
  {talk : SmtpTalk}

theorem Guarded.mem_script {command : SmtpCommand} (h : Guarded info draft relay talk)
    (said : command ∈ talk.commands) :
    command ∈ (Smtp.script (isImplicit info) (account? info) draft.envelope draft.message).map
      (·.2) :=
  (h.order.map (·.2)).subset said

/-- The only user who logs in is the one that the field names. -/
theorem Guarded.eq_of_auth {token : String} (h : Guarded info draft relay talk)
    (password : info.password ≠ "") (said : .auth token ∈ talk.commands) :
    token = SmtpAccount.token ⟨info.sender, info.password⟩ := by
  have mem := h.mem_script said
  rw [script_of_ne password] at mem
  generalize isImplicit info = implicit at mem
  cases implicit <;> simpa [Smtp.opening, Smtp.mailCommands, logInOf] using mem

theorem Guarded.eq_of_mailFrom {address : String} (h : Guarded info draft relay talk)
    (said : .mailFrom address ∈ talk.commands) : address = draft.envelope.sender.text := by
  have about : .mailFrom address ∈
      ((Smtp.script (isImplicit info) (account? info) draft.envelope draft.message).map
        (·.2)).filter (·.isAboutMail) :=
    List.mem_filter.mpr ⟨h.mem_script said, rfl⟩
  rw [Smtp.filter_script] at about
  simpa [Smtp.mailCommands] using about

/-- With a password nothing is told of a mail without a log-in before it. -/
theorem Guarded.auth_of_mailFrom {address : String} (h : Guarded info draft relay talk)
    (password : info.password ≠ "") (said : .mailFrom address ∈ talk.commands) :
    logInOf info ∈ talk.commands := by
  obtain ⟨⟨encryption, command⟩, mem, rfl⟩ := List.mem_map.mp said
  obtain ⟨before, after, split⟩ := List.append_of_mem mem
  have behind := (h.letIn password before _ after split rfl).1
  rw [SmtpTalk.commands, split, List.map_append]
  exact List.mem_append_left _ (behind.subset (List.mem_append_right _ List.mem_cons_self))

/-- Where both are told, the one who logs in is the sender if the field is the bare address. -/
theorem Guarded.logsInAsSender_iff {address : String} (h : Guarded info draft relay talk)
    (password : info.password ≠ "") (read : Reads info.sender sender)
    (said : .mailFrom address ∈ talk.commands) :
    LogsInAsSender talk ↔ info.sender = address := by
  constructor
  · intro same
    have user := same _ _ (h.auth_of_mailFrom password said) said
    rw [SmtpAccount.userOf?_token read.clean] at user
    exact Option.some.inj user
  · intro bare token address' login said'
    rw [h.eq_of_auth password login, SmtpAccount.userOf?_token read.clean, bare,
      h.eq_of_mailFrom said, h.eq_of_mailFrom said']

/-- A talk that comes to its end has both in it. -/
theorem said_of_whole (password : info.password ≠ "") (whole : talk.sent =
    Smtp.script (isImplicit info) (account? info) draft.envelope draft.message) :
    logInOf info ∈ talk.commands ∧ .mailFrom draft.envelope.sender.text ∈ talk.commands := by
  rw [SmtpTalk.commands, whole, script_of_ne password]
  simp [Smtp.mailCommands]

end Said

/-- The log-in and the sender are both told of a mail that is taken. -/
theorem exists_talk_of_concluded {σ : Type} {info : SmtpInfo} {subject body : String}
    {isHtml : Bool} {draft : Draft} (password : info.password ≠ "")
    (made : compose info subject body isHtml = .ok draft) (network : Network) (spans : List Span)
    (w : World σ) (taken : concluded (outcome network info draft w.traffic) = .ok ()) :
    ((send network info subject body isHtml).run spans w).1 = .ok () ∧
      ∃ talk, ((send network info subject body isHtml).run spans w).2.traffic =
          { w.traffic with talks := w.traffic.talks ++ [talk] } ∧
        logInOf info ∈ talk.commands ∧
        .mailFrom draft.envelope.sender.text ∈ talk.commands := by
  have result := (run_send_ok made network spans w).1.trans taken
  obtain ⟨talk?, traffic, handled⟩ :=
    (send_guarded network info subject body isHtml spans w).2 draft made
  obtain ⟨talk, rfl, whole⟩ := handled.whole result
  exact ⟨result, talk, traffic, said_of_whole password whole⟩

/-! A mail to one at a machine by its number, through a relay that grants everything. -/

section Lone

def obligingNetwork : Network :=
  ⟨fun _ _ => .reached, fun _ => .closed, fun _ _ => { code := 250, offersAuth := true }⟩

def loneData (field : String) : SecretData :=
  ((((KeyMap.empty.insert "SMTP_HOST" (utf8 "10.0.0.1")).insert "SMTP_PASSWORD"
    (utf8 "hunter2")).insert "SMTP_PORT" (utf8 "465")).insert "SMTP_RECIPIENTS"
      (utf8 "dev@10.0.0.1")).insert "SMTP_SENDER" (utf8 field)

def loneInfo (field : String) : SmtpInfo :=
  ⟨"dev@10.0.0.1", "", "", field, "hunter2", "10.0.0.1", 465⟩

def loneDraft : Draft :=
  draftOf ⟨(here "ops").address, [(here "dev").address]⟩ (here "ops") [here "dev"] "nightly"
    "\x7b\x7d" false

def newWorld : World MemoryStore :=
  { objects := .empty }

/-- How the sending ends. -/
def loneEnd (field : String) : Except DeliveryError Unit × World MemoryStore :=
  (send obligingNetwork (loneInfo field) "nightly" "\x7b\x7d" false).run [] newWorld

variable {field : String}

theorem compose_lone (read : Reads field (here "ops")) :
    compose (loneInfo field) "nightly" "\x7b\x7d" false = .ok loneDraft := by
  have shown : (loneInfo field).recipientList = ["dev@10.0.0.1"] := by
    change commaItems "dev@10.0.0.1" = _
    decide +kernel
  have blind : (loneInfo field).bccList = [] := by
    change commaItems "" = _
    decide +kernel
  have addressed : Addressed (loneInfo field) (here "ops") [here "dev"] [] := by
    refine ⟨read, shown ▸ .cons ?_ .nil, blind ▸ .nil, by simp⟩
    exact reads_atMachine (by decide +kernel) (by decide +kernel) (by decide +kernel)
  have sealed := addressed.envelopeOf_eq_iff.mpr
    ⟨by decide +kernel, by decide +kernel, by decide +kernel⟩
  rw [addressed.compose_eq, sealed]
  rfl

end Lone

/-- The envelope of a mail that is made is from what the header for the sender is read as. -/
theorem exists_source_of_compose {info : SmtpInfo} {subject body : String} {isHtml : Bool}
    {draft : Draft} (h : compose info subject body isHtml = .ok draft) :
    ∃ sender source, Reads info.sender sender ∧ Mailbox.readBack [sender] = some [source] ∧
      draft.envelope.sender = source.address := by
  obtain ⟨sender, recipients, hidden, read, -, -, sealed, -⟩ := compose_eq_ok h
  have read := readAddress_eq_ok_iff.mp read
  obtain ⟨-, eq⟩ | ⟨source, again, ⟨-, eq⟩ | ⟨-, eq⟩⟩ :=
    Envelope.ofHeaders_cases recipients hidden (Mailbox.legible_of_parse read)
  · exact nomatch sealed.symm.trans eq
  · exact nomatch sealed.symm.trans eq
  · refine ⟨sender, source, read, again, ?_⟩
    rw [← Except.ok.inj (eq.symm.trans sealed)]

/-- Who logs in, whatever the relay says. With a password every log-in names the field for the
sender as it stands, and every mail is from the address that the header for the sender is read as;
so the two are the same if and only if the field is that address. A field with blanks around it, or
with a name in it, or with a user in quotes, is none. -/
theorem send_logsInAsSender_iff {σ : Type} (info : SmtpInfo) (password : info.password ≠ "")
    (subject body : String) (isHtml : Bool) (network : Network) (spans : List Span)
    (w : World σ) :
    let ended := (send network info subject body isHtml).run spans w
    ∃ talk? : Option SmtpTalk,
      ended.2.traffic = { w.traffic with talks := w.traffic.talks ++ talk?.toList } ∧
      (ended.1 = .ok () → ∃ talk ∈ talk?, ∃ address, .mailFrom address ∈ talk.commands) ∧
      ∀ talk ∈ talk?, ∃ sender source, Reads info.sender sender ∧
        Mailbox.readBack [sender] = some [source] ∧
        (source.address = sender.address ↔ ¬ sender.address.IsQuoted) ∧
        (∀ token, .auth token ∈ talk.commands →
          SmtpAccount.userOf? token = some info.sender) ∧
        ∀ address, .mailFrom address ∈ talk.commands →
          address = source.address.text ∧ logInOf info ∈ talk.commands ∧
          (LogsInAsSender talk ↔ info.sender = address) ∧
          (LogsInAsSender talk → trimBlanks info.sender = info.sender ∧ sender.name = none ∧
            ¬ sender.address.IsQuoted) := by
  intro ended
  cases made : compose info subject body isHtml with
  | error error =>
    obtain ⟨failed, traffic⟩ := run_send_not_made subject body isHtml network spans w made
    exact ⟨none, by simpa using traffic, fun ok => absurd (failed.symm.trans ok) nofun, nofun⟩
  | ok draft =>
    obtain ⟨talk?, traffic, handled⟩ :=
      (send_guarded network info subject body isHtml spans w).2 draft made
    obtain ⟨sender, source, read, again, sealed⟩ := exists_source_of_compose made
    refine ⟨talk?, traffic, fun ok => ?_, fun talk mem => ?_⟩
    · obtain ⟨talk, mem, whole⟩ := handled.whole ok
      exact ⟨talk, mem, _, (said_of_whole password whole).2⟩
    · have guarded := handled.guarded talk mem
      obtain ⟨_, single, -, -, -, kept⟩ :=
        Mailbox.readBack_singleton (Mailbox.legible_of_parse read) again
      cases single
      refine ⟨sender, source, read, again, kept, fun token said => ?_, fun address said => ?_⟩
      · rw [guarded.eq_of_auth password said, SmtpAccount.userOf?_token read.clean]
      · have envelope : address = source.address.text := by
          rw [guarded.eq_of_mailFrom said, sealed]
        have iff := guarded.logsInAsSender_iff password read said
        exact ⟨envelope, guarded.auth_of_mailFrom password said, iff, fun same =>
          read.bare_of_source again ((iff.mp same).trans envelope)⟩

/-- The bare address logs in as the sender of its mail. -/
theorem send_logsInAsSender_bare :
    (loneInfo "ops@10.0.0.1").password ≠ "" ∧
      ∃ talk, (loneEnd "ops@10.0.0.1").1 = .ok () ∧
        (loneEnd "ops@10.0.0.1").2.traffic.talks = [talk] ∧
        .mailFrom "ops@10.0.0.1" ∈ talk.commands ∧ LogsInAsSender talk := by
  have password : (loneInfo "ops@10.0.0.1").password ≠ "" := by decide
  have read : Reads "ops@10.0.0.1" (here "ops") :=
    reads_atMachine (by decide +kernel) (by decide +kernel) (by decide +kernel)
  obtain ⟨result, -⟩ := exists_talk_of_concluded password (compose_lone read) obligingNetwork []
    newWorld (by decide +kernel)
  obtain ⟨talk?, traffic, taken, said⟩ := send_logsInAsSender_iff (loneInfo "ops@10.0.0.1")
    password "nightly" "\x7b\x7d" false obligingNetwork [] newWorld
  obtain ⟨talk, rfl, address, told⟩ := taken result
  obtain ⟨sender, source, again, -, kept, -, mail⟩ := said talk rfl
  obtain ⟨named, -, iff, -⟩ := mail address told
  obtain rfl := Except.ok.inj (read.symm.trans again)
  have bare : address = "ops@10.0.0.1" := by
    rw [named, kept.mpr (by decide +kernel)]
    decide +kernel
  rw [bare] at told iff
  exact ⟨password, talk, result, congrArg Traffic.talks traffic, told, iff.mpr rfl⟩

/-- Blanks around the address of the sender are part of the log-in, and not of the envelope. -/
theorem not_logsInAsSender_spaced :
    SmtpInfo.ofSecret (loneData " ops@10.0.0.1 ") = .ok (loneInfo " ops@10.0.0.1 ") ∧
      ∃ talk, (loneEnd " ops@10.0.0.1 ").1 = .ok () ∧
        (loneEnd " ops@10.0.0.1 ").2.traffic.talks = [talk] ∧
        .auth "\x00 ops@10.0.0.1 \x00hunter2" ∈ talk.commands ∧
        .mailFrom "ops@10.0.0.1" ∈ talk.commands ∧ ¬ LogsInAsSender talk := by
  have read : Reads " ops@10.0.0.1 " (here "ops") :=
    reads_atMachine (by decide +kernel) (by decide +kernel) (by decide +kernel)
  obtain ⟨result, talk, traffic, login, told⟩ := exists_talk_of_concluded (by decide)
    (compose_lone read) obligingNetwork [] newWorld (by decide +kernel)
  have spelled : logInOf (loneInfo " ops@10.0.0.1 ") =
      .auth "\x00 ops@10.0.0.1 \x00hunter2" := by
    decide +kernel
  have address : loneDraft.envelope.sender.text = "ops@10.0.0.1" := by decide +kernel
  rw [spelled] at login
  rw [address] at told
  have other : ¬ LogsInAsSender talk := fun same =>
    absurd (same _ _ login told) (by decide +kernel)
  exact ⟨by decide +kernel, talk, result, congrArg Traffic.talks traffic, login, told, other⟩

end Mailing

end CleanupCourier
