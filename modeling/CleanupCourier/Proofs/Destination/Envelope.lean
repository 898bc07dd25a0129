import CleanupCourier.Proofs.Destination.Secrecy
import CleanupCourier.Proofs.Mail.Header

/-!
Whom a mail is from and for. Every address is read before a relay is talked to: the sender first,
then the recipients from left to right, then the blind copies. The first one that is none ends the
attempt, and so does the want of any. After that a relay hears of the envelope. It is of the sender
and of every address of both lists, each as often as it stands there and in that order, if and only
if the headers give them all back; a user in quotes is lost there or is another one. The mail that a
relay is given has nothing of the blind copies.
-/
namespace CleanupCourier

namespace Smtp

variable {isImplicit : Bool} {account : Option SmtpAccount} {envelope : Envelope}
  {message m : MailMessage}

theorem filter_eq_mailCommands :
    (mailCommands envelope message).filter (·.isAboutMail) = mailCommands envelope message :=
  List.filter_eq_self.mpr fun _ => isAboutMail_of_mem

/-- Neither the opening nor a log-in is about the mail. -/
theorem filter_script :
    ((script isImplicit account envelope message).map (·.2)).filter (·.isAboutMail) =
      mailCommands envelope message := by
  have opens : ((opening isImplicit).map (·.2)).filter (·.isAboutMail) = [] := by
    cases isImplicit <;> rfl
  have logsIn : (logInCommands account).filter (·.isAboutMail) = [] := by
    cases account <;> rfl
  have same (commands : List SmtpCommand) :
      (commands.map (secured isImplicit, ·)).map (·.2) = commands := by
    rw [List.map_map]
    exact List.map_id _
  rw [script, List.map_append, List.map_append, same, same, List.filter_append,
    List.filter_append, opens, logsIn, filter_eq_mailCommands, List.nil_append, List.nil_append]

theorem eq_of_content_mem (h : .content m ∈ mailCommands envelope message) : m = message := by
  simpa [mailCommands] using h

/-- The mail comes last, so that all the rest has been said before it. -/
theorem eq_mailCommands_of_content_mem {told : List SmtpCommand}
    (begins : told <+: mailCommands envelope message) (given : .content m ∈ told) :
    told = mailCommands envelope message := by
  let before : List SmtpCommand := .mailFrom envelope.sender.text ::
    (envelope.recipients.map (.rcptTo ·.text) ++ [.data])
  have last : mailCommands envelope message = before ++ [.content message] := by
    simp [mailCommands, before]
  rw [last] at begins ⊢
  obtain whole | short := List.prefix_concat_iff.mp begins
  · exact whole
  · have early : SmtpCommand.content m ∈ before := short.subset given
    simp [before] at early

end Smtp

namespace Mailing

/-- Holds of a text and the mailbox that it is. -/
def Reads (address : String) (mailbox : Mailbox) : Prop :=
  Mailbox.parse (trimBlanks address) = .ok mailbox

/-- Holds of the first text in a field that is no mailbox, and of the error for it. -/
inductive Stumbles (field : String) : List String → DeliveryError → Prop
  | here {address : String} {fault : AddressFault} {rest : List String}
    (unread : Mailbox.parse (trimBlanks address) = .error fault) :
    Stumbles field (address :: rest) (.invalidField field
      (quoted address ++ " is not a valid address: " ++ fault.message))
  | later {address : String} {mailbox : Mailbox} {rest : List String} {error : DeliveryError}
    (read : Reads address mailbox) (stumbles : Stumbles field rest error) :
    Stumbles field (address :: rest) error

/-- Holds of settings whose addresses are all mailboxes, of which some are to write to. -/
structure Addressed (info : SmtpInfo) (sender : Mailbox) (recipients hidden : List Mailbox) :
    Prop where
  first : Reads info.sender sender
  second : List.Forall₂ Reads info.recipientList recipients
  third : List.Forall₂ Reads info.bccList hidden
  someone : recipients ++ hidden ≠ []

/-- Holds of the first problem of settings with their addresses. -/
inductive Problem (info : SmtpInfo) : DeliveryError → Prop
  | sender {error : DeliveryError} (stumbles : Stumbles "SMTP_SENDER" [info.sender] error) :
    Problem info error
  | recipients {sender : Mailbox} {error : DeliveryError} (first : Reads info.sender sender)
    (stumbles : Stumbles "SMTP_RECIPIENTS" info.recipientList error) : Problem info error
  | hidden {sender : Mailbox} {recipients : List Mailbox} {error : DeliveryError}
    (first : Reads info.sender sender) (second : List.Forall₂ Reads info.recipientList recipients)
    (stumbles : Stumbles "SMTP_BCC" info.bccList error) : Problem info error
  | nobody {sender : Mailbox} {fault : MailFault} (first : Reads info.sender sender)
    (noRecipients : info.recipientList = []) (noHidden : info.bccList = [])
    (lacks : Envelope.ofHeaders [sender] [] [] = .error fault) : Problem info (.mail fault.message)

theorem readAddress_eq_ok_iff {field address : String} {mailbox : Mailbox} :
    readAddress field address = .ok mailbox ↔ Reads address mailbox := by
  unfold readAddress Reads
  cases Mailbox.parse (trimBlanks address) <;> simp

/-- A text that is no mailbox is a matter of the settings. -/
theorem Stumbles.isConfiguration {field : String} {texts : List String} {error : DeliveryError}
    (h : Stumbles field texts error) : error.isConfiguration := by
  induction h with
  | here _ => rfl
  | later _ _ ih => exact ih

theorem readAddress_of_error {field address : String} {fault : AddressFault}
    (unread : Mailbox.parse (trimBlanks address) = .error fault) :
    readAddress field address = .error (.invalidField field
      (quoted address ++ " is not a valid address: " ++ fault.message)) := by
  unfold readAddress
  rw [unread]

/-- By induction on the texts. -/
theorem mapM_readAddress_eq_ok_iff {field : String} {texts : List String}
    {mailboxes : List Mailbox} :
    texts.mapM (readAddress field) = .ok mailboxes ↔ List.Forall₂ Reads texts mailboxes := by
  induction texts generalizing mailboxes with
  | nil =>
    rw [List.forall₂_nil_left_iff]
    constructor
    · rintro ⟨⟩
      rfl
    · rintro rfl
      rfl
  | cons address rest ih =>
    rw [List.mapM_cons, List.forall₂_cons_left_iff]
    constructor
    · intro h
      obtain ⟨mailbox, read, h⟩ := Attempt.eq_ok_of_bind h
      obtain ⟨more, others, h⟩ := Attempt.eq_ok_of_bind h
      cases h
      exact ⟨mailbox, more, readAddress_eq_ok_iff.mp read, ih.mp others, rfl⟩
    · rintro ⟨mailbox, more, read, others, rfl⟩
      rw [readAddress_eq_ok_iff.mpr read, ih.mpr others]
      rfl

/-- By induction on the texts. -/
theorem mapM_readAddress_eq_error_iff {field : String} {texts : List String}
    {error : DeliveryError} :
    texts.mapM (readAddress field) = .error error ↔ Stumbles field texts error := by
  induction texts with
  | nil => exact iff_of_false nofun nofun
  | cons address rest ih =>
    rw [List.mapM_cons]
    cases parsed : Mailbox.parse (trimBlanks address) with
    | error fault =>
      rw [readAddress_of_error parsed]
      constructor
      · rintro ⟨⟩
        exact .here parsed
      · rintro (unread | ⟨read, -⟩)
        · cases parsed.symm.trans unread
          rfl
        · exact nomatch parsed.symm.trans read
    | ok mailbox =>
      rw [readAddress_eq_ok_iff.mpr parsed]
      constructor
      · intro h
        obtain failed | ⟨more, read, h⟩ := Attempt.eq_error_of_bind h
        · exact nomatch failed
        obtain failed | ⟨others, -, h⟩ := Attempt.eq_error_of_bind h
        · cases read
          exact .later parsed (ih.mp failed)
        · exact nomatch h
      · rintro (unread | ⟨-, stumbles⟩)
        · exact nomatch parsed.symm.trans unread
        · rw [ih.mpr stumbles]
          rfl

/-- An address at a machine by its number, which needs no table of characters to be read. -/
theorem reads_atMachine {text user : String}
    (plain : Mailbox.named? ((trimBlanks text).toList.dropWhile isBlank) = none)
    (parts : Mailbox.address? ((trimBlanks text).toList.dropWhile isBlank) =
      some ((user.toList, "10.0.0.1".toList), []))
    (good : MailAddress.isUser user.toList = true) :
    Reads text ⟨none, ⟨user, "10.0.0.1"⟩⟩ := by
  have machine : MailAddress.isMachine "10.0.0.1".toList = true := by decide +kernel
  have domain : MailAddress.isDomain "10.0.0.1".toList = true := by
    simp only [MailAddress.isDomain, MailAddress.isPlainDomain, machine, Bool.or_true,
      Bool.true_or]
  simp only [Reads, Mailbox.parse, Mailbox.front?, plain, parts, Option.none_or, Option.map_some,
    List.dropWhile_nil, List.isEmpty_nil, if_true, Mailbox.make, MailAddress.make, good, domain]
  simp [bind, Except.bind, pure, Except.pure]

variable {σ : Type} {info : SmtpInfo} {subject body : String} {isHtml : Bool}

/-- A mail to mailboxes, with what a relay is told of it. -/
def draftOf (envelope : Envelope) (sender : Mailbox) (recipients : List Mailbox)
    (subject body : String) (isHtml : Bool) : Draft where
  envelope
  message := { sender, recipients := Mailbox.hold recipients, subject, isHtml, body }

/-- The envelope of a mail to mailboxes. -/
def envelopeOf (sender : Mailbox) (recipients hidden : List Mailbox) : Except MailFault Envelope :=
  Envelope.ofHeaders [sender] (Mailbox.hold recipients) (Mailbox.hold hidden)

/-- Once all addresses are read, the mail is made if its headers give an envelope. -/
theorem compose_of_reads {sender : Mailbox} {recipients hidden : List Mailbox}
    (first : Reads info.sender sender) (second : List.Forall₂ Reads info.recipientList recipients)
    (third : List.Forall₂ Reads info.bccList hidden) :
    compose info subject body isHtml = match envelopeOf sender recipients hidden with
      | .error fault => .error (.mail fault.message)
      | .ok envelope => .ok (draftOf envelope sender recipients subject body isHtml) := by
  rw [compose, readAddress_eq_ok_iff.mpr first, mapM_readAddress_eq_ok_iff.mpr second,
    mapM_readAddress_eq_ok_iff.mpr third]
  rfl

theorem compose_of_problem {error : DeliveryError} (h : Problem info error) :
    compose info subject body isHtml = .error error := by
  cases h with
  | sender stumbles =>
    cases stumbles with
    | here unread => rw [compose, readAddress_of_error unread]; rfl
    | later _ more => cases more
  | recipients first stumbles =>
    rw [compose, readAddress_eq_ok_iff.mpr first, mapM_readAddress_eq_error_iff.mpr stumbles]
    rfl
  | hidden first second stumbles =>
    rw [compose, readAddress_eq_ok_iff.mpr first, mapM_readAddress_eq_ok_iff.mpr second,
      mapM_readAddress_eq_error_iff.mpr stumbles]
    rfl
  | @nobody sender fault first noRecipients noHidden lacks =>
    have lacks : envelopeOf sender [] [] = .error fault := lacks
    have second : List.Forall₂ Reads info.recipientList [] := noRecipients ▸ .nil
    have third : List.Forall₂ Reads info.bccList [] := noHidden ▸ .nil
    rw [compose_of_reads first second third, lacks]

/-- Without anyone to write to there is no envelope. -/
theorem exists_lacks (sender : Mailbox) :
    ∃ fault, Envelope.ofHeaders [sender] [] [] = .error fault := by
  unfold Envelope.ofHeaders
  split <;> exact ⟨_, rfl⟩

/-- There is a problem with the addresses, or they are all good. -/
theorem problem_or_addressed (info : SmtpInfo) :
    (∃ error, Problem info error) ∨
      ∃ sender recipients hidden, Addressed info sender recipients hidden := by
  cases sent : readAddress "SMTP_SENDER" info.sender with
  | error error =>
    have stumbles : [info.sender].mapM (readAddress "SMTP_SENDER") = .error error := by
      rw [List.mapM_cons, sent]
      rfl
    exact .inl ⟨error, .sender (mapM_readAddress_eq_error_iff.mp stumbles)⟩
  | ok sender =>
    have first := readAddress_eq_ok_iff.mp sent
    cases shown : info.recipientList.mapM (readAddress "SMTP_RECIPIENTS") with
    | error error => exact .inl ⟨error, .recipients first (mapM_readAddress_eq_error_iff.mp shown)⟩
    | ok recipients =>
      have second := mapM_readAddress_eq_ok_iff.mp shown
      cases blind : info.bccList.mapM (readAddress "SMTP_BCC") with
      | error error =>
        exact .inl ⟨error, .hidden first second (mapM_readAddress_eq_error_iff.mp blind)⟩
      | ok hidden =>
        have third := mapM_readAddress_eq_ok_iff.mp blind
        by_cases nobody : recipients ++ hidden = []
        · obtain ⟨rfl, rfl⟩ := List.append_eq_nil_iff.mp nobody
          obtain ⟨fault, lacks⟩ := exists_lacks sender
          exact .inl ⟨_, .nobody first (List.forall₂_nil_right_iff.mp second)
            (List.forall₂_nil_right_iff.mp third) lacks⟩
        · exact .inr ⟨sender, recipients, hidden, first, second, third, nobody⟩

theorem Addressed.compose_eq {sender : Mailbox} {recipients hidden : List Mailbox}
    (h : Addressed info sender recipients hidden) (subject body : String) (isHtml : Bool) :
    compose info subject body isHtml = match envelopeOf sender recipients hidden with
      | .error fault => .error (.mail fault.message)
      | .ok envelope => .ok (draftOf envelope sender recipients subject body isHtml) :=
  compose_of_reads h.first h.second h.third

theorem legible_of_reads {texts : List String} {mailboxes : List Mailbox}
    (h : List.Forall₂ Reads texts mailboxes) : ∀ m ∈ mailboxes, m.Legible := by
  induction h with
  | nil => exact List.forall_mem_nil _
  | cons read _ ih => exact List.forall_mem_cons.mpr ⟨Mailbox.legible_of_parse read, ih⟩

/-- The envelope of good addresses is as they are written, if and only if the headers give them
back. -/
theorem Addressed.envelopeOf_eq_iff {sender : Mailbox} {recipients hidden : List Mailbox}
    (h : Addressed info sender recipients hidden) :
    envelopeOf sender recipients hidden =
        .ok ⟨sender.address, (recipients ++ hidden).map (·.address)⟩ ↔
      ¬ sender.address.IsQuoted ∧ Mailbox.Kept recipients ∧ Mailbox.Kept hidden :=
  Envelope.ofHeaders_eq_written_iff (Mailbox.legible_of_parse h.first) (legible_of_reads h.second)
    (legible_of_reads h.third) h.someone

/-- Two lists of blind copies leave the sender and the recipients as they are. -/
theorem Addressed.eq_of_bcc {bcc : String} {sender sender' : Mailbox}
    {recipients recipients' hidden hidden' : List Mailbox}
    (h : Addressed info sender recipients hidden)
    (h' : Addressed { info with bcc } sender' recipients' hidden') :
    sender' = sender ∧ recipients' = recipients := by
  have unique : Relator.RightUnique Reads := fun _ _ _ read read' =>
    Except.ok.inj (read.symm.trans read')
  exact ⟨unique h'.first h.first, unique.forall₂ h'.second h.second⟩

/-- Holds of a talk that tells a relay of one mail, command by command, and of no other. -/
structure Tells (draft : Draft) (talk : SmtpTalk) : Prop where
  begins : talk.commands.filter (·.isAboutMail) <+: Smtp.mailCommands draft.envelope draft.message
  /-- By the time that the relay is given the mail it has been told the whole envelope. -/
  whole (m : MailMessage) : .content m ∈ talk.commands → m = draft.message ∧
    talk.commands.filter (·.isAboutMail) = Smtp.mailCommands draft.envelope draft.message

theorem tells_of_order {draft : Draft} {talk : SmtpTalk}
    (order : talk.sent <+:
      Smtp.script (isImplicit info) (account? info) draft.envelope draft.message) :
    Tells draft talk := by
  have begins := (order.map (·.2)).filter (·.isAboutMail)
  rw [Smtp.filter_script] at begins
  refine ⟨begins, fun m given => ?_⟩
  have about : .content m ∈ talk.commands.filter (·.isAboutMail) :=
    List.mem_filter.mpr ⟨given, rfl⟩
  exact ⟨Smtp.eq_of_content_mem (begins.subset about),
    Smtp.eq_mailCommands_of_content_mem begins about⟩

section Run

variable (subject body : String) (isHtml : Bool) (network : Network) (spans : List Span)
  (w : World σ)

theorem run_send_not_made {error : DeliveryError}
    (h : compose info subject body isHtml = .error error) :
    let ended := (send network info subject body isHtml).run spans w
    ended.1 = .error error ∧ ended.2.traffic = w.traffic := by
  intro ended
  obtain ⟨j, ran⟩ := run_send_error h network spans w
  rw [show ended = _ from ran]
  exact ⟨rfl, rfl⟩

/-- With a problem nothing is sent. -/
theorem run_send_problem {error : DeliveryError} (h : Problem info error) :
    let ended := (send network info subject body isHtml).run spans w
    ended.1 = .error error ∧ ended.2.traffic = w.traffic :=
  run_send_not_made subject body isHtml network spans w (compose_of_problem h)

/-- What comes of a mail that is made. -/
theorem run_send_made {draft : Draft} (h : compose info subject body isHtml = .ok draft) :
    let ended := (send network info subject body isHtml).run spans w
    ∃ talk? : Option SmtpTalk,
      ended.2.traffic = { w.traffic with talks := w.traffic.talks ++ talk?.toList } ∧
      (ended.1 = .ok () → ∃ talk ∈ talk?, .content draft.message ∈ talk.commands) ∧
      ∀ talk ∈ talk?, Tells draft talk := by
  intro ended
  obtain ⟨result, traffic⟩ := run_send_ok h network spans w
  have handled := handled_submit info draft (network.reach info.host info.port)
    (network.relay w.traffic)
  refine ⟨_, traffic, fun ok => ?_, fun talk mem => ?_⟩
  · obtain ⟨talk, mem, sent⟩ := handled.whole (result.symm.trans ok)
    refine ⟨talk, mem, ?_⟩
    rw [SmtpTalk.commands, sent, Smtp.script, List.map_append]
    refine List.mem_append_right _ (List.mem_map.mpr ⟨(_, _), List.mem_map.mpr ⟨_, ?_, rfl⟩, rfl⟩)
    simp [Smtp.mailCommands]
  · exact tells_of_order (handled.guarded talk mem).order

end Run

/-- Holds of a mail that a relay is given, somewhere and at some time. -/
def Transmits (σ : Type) (info : SmtpInfo) (subject body : String) (isHtml : Bool)
    (m : MailMessage) : Prop :=
  ∃ (network : Network) (spans : List Span) (w : World σ) (talk : SmtpTalk),
    ((send network info subject body isHtml).run spans w).2.traffic.talks =
      w.traffic.talks ++ [talk] ∧ .content m ∈ talk.commands

/-- A mail that is given to a relay is the one that its addresses make. -/
theorem exists_addressed_of_transmits {m : MailMessage}
    (h : Transmits σ info subject body isHtml m) :
    ∃ sender recipients hidden, Addressed info sender recipients hidden ∧
      m = { sender, recipients := Mailbox.hold recipients, subject, isHtml, body } := by
  obtain ⟨network, spans, w, talk, added, given⟩ := h
  have made : ¬ ∃ error, compose info subject body isHtml = .error error := by
    rintro ⟨error, failed⟩
    have traffic := (run_send_not_made subject body isHtml network spans w failed).2
    exact absurd (added.symm.trans (congrArg Traffic.talks traffic)) (by simp)
  obtain ⟨error, problem⟩ | ⟨sender, recipients, hidden, addressed⟩ := problem_or_addressed info
  · exact absurd ⟨error, compose_of_problem problem⟩ made
  · have eq := addressed.compose_eq subject body isHtml
    cases sealed : envelopeOf sender recipients hidden with
    | error fault =>
      rw [sealed] at eq
      exact absurd ⟨_, eq⟩ made
    | ok envelope =>
      rw [sealed] at eq
      obtain ⟨talk?, traffic, -, tells⟩ :=
        run_send_made subject body isHtml network spans w eq
      have grown := List.append_cancel_left (added.symm.trans (congrArg Traffic.talks traffic))
      have kept : talk ∈ talk? := Option.mem_toList.mp (grown ▸ List.mem_cons_self)
      exact ⟨sender, recipients, hidden, addressed, ((tells talk kept).whole m given).1⟩

/-- Whom a mail goes to. Either there is a first problem with the addresses, which is the result,
and nobody hears of the mail; or all of them are good, and the headers of the mail decide. If they
give no envelope, this is the result, and again nobody hears of the mail. If they give one, a relay
is told all of it before it is given the mail, and it is given the mail if the sending succeeds. The
envelope has the sender and all the others in their order, nothing lost or added, if and only if no
user is in quotes and no mailbox behind the first of its header begins with a blank. And the mail
that relays are given does not depend on the blind copies. -/
theorem send_addressed (σ : Type) (info : SmtpInfo) (subject body : String) (isHtml : Bool) :
    ((∃ error, Problem info error) ∨
      ∃ sender recipients hidden, Addressed info sender recipients hidden) ∧
    (∀ (network : Network) (spans : List Span) (w : World σ),
      let ended := (send network info subject body isHtml).run spans w
      (∀ error, Problem info error →
        ended.1 = .error error ∧ ended.2.traffic = w.traffic) ∧
      ∀ sender recipients hidden, Addressed info sender recipients hidden →
        (∀ fault, envelopeOf sender recipients hidden = .error fault →
          ended.1 = .error (.mail fault.message) ∧ ended.2.traffic = w.traffic) ∧
        ∀ envelope, envelopeOf sender recipients hidden = .ok envelope →
          let draft := draftOf envelope sender recipients subject body isHtml
          ∃ talk? : Option SmtpTalk,
            ended.2.traffic = { w.traffic with talks := w.traffic.talks ++ talk?.toList } ∧
            (ended.1 = .ok () → ∃ talk ∈ talk?, .content draft.message ∈ talk.commands) ∧
            ∀ talk ∈ talk?, Tells draft talk) ∧
    (∀ sender recipients hidden, Addressed info sender recipients hidden →
      (envelopeOf sender recipients hidden =
          .ok ⟨sender.address, (recipients ++ hidden).map (·.address)⟩ ↔
        ¬ sender.address.IsQuoted ∧ Mailbox.Kept recipients ∧ Mailbox.Kept hidden)) ∧
    ∀ bcc m m', Transmits σ info subject body isHtml m →
      Transmits σ { info with bcc } subject body isHtml m' → m' = m := by
  refine ⟨problem_or_addressed info, fun network spans w => ⟨fun error problem => ?_,
    fun sender recipients hidden addressed => ⟨fun fault lost => ?_, fun envelope sealed => ?_⟩⟩,
    fun sender recipients hidden addressed => addressed.envelopeOf_eq_iff,
    fun bcc m m' given given' => ?_⟩
  · exact run_send_problem subject body isHtml network spans w problem
  · have eq := addressed.compose_eq subject body isHtml
    rw [lost] at eq
    exact run_send_not_made subject body isHtml network spans w eq
  · have eq := addressed.compose_eq subject body isHtml
    rw [sealed] at eq
    exact run_send_made subject body isHtml network spans w eq
  · obtain ⟨sender, recipients, hidden, addressed, rfl⟩ := exists_addressed_of_transmits given
    obtain ⟨sender', recipients', hidden', addressed', rfl⟩ :=
      exists_addressed_of_transmits given'
    obtain ⟨rfl, rfl⟩ := addressed.eq_of_bcc addressed'
    rfl

/-! Mails to machines by their number, through a relay that accepts everything. -/

def obliging : Network :=
  ⟨fun _ _ => .reached, fun _ => .closed, fun _ _ => { code := 250 }⟩

def here (user : String) : Mailbox :=
  ⟨none, ⟨user, "10.0.0.1"⟩⟩

/-- A mail to two, and to a third who stands last in the envelope and not in the mail. -/
theorem send_addressed_blind :
    let info : SmtpInfo := ⟨" ops@10.0.0.1, ,dev@10.0.0.1", "audit@10.0.0.1,", "",
      "cleaner@10.0.0.1", "", "10.0.0.1", 465⟩
    let w : World MemoryStore := { objects := .empty }
    ∃ talk, ((send obliging info "nightly" "\x7b\x7d" false).run [] w).1 = .ok () ∧
      ((send obliging info "nightly" "\x7b\x7d" false).run [] w).2.traffic.talks = [talk] ∧
      talk.commands.filter (·.isAboutMail) = [.mailFrom "cleaner@10.0.0.1",
        .rcptTo "ops@10.0.0.1", .rcptTo "dev@10.0.0.1", .rcptTo "audit@10.0.0.1", .data,
        .content ⟨here "cleaner", [here "ops", here "dev"], "nightly", false, "\x7b\x7d"⟩] := by
  intro info w
  have addressed : Addressed info (here "cleaner") [here "ops", here "dev"] [here "audit"] := by
    have shown : info.recipientList = ["ops@10.0.0.1", "dev@10.0.0.1"] := by decide +kernel
    have blind : info.bccList = ["audit@10.0.0.1"] := by decide +kernel
    refine ⟨?_, shown ▸ .cons ?_ (.cons ?_ .nil), blind ▸ .cons ?_ .nil, by simp⟩
    all_goals exact reads_atMachine (by decide +kernel) (by decide +kernel) (by decide +kernel)
  have kept : Mailbox.Kept [here "ops", here "dev"] := by decide +kernel
  have held : Mailbox.hold [here "ops", here "dev"] = [here "ops", here "dev"] :=
    Mailbox.hold_of_bare (legible_of_reads addressed.second) kept (by decide)
  obtain ⟨-, sends, written, -⟩ := send_addressed MemoryStore info "nightly" "\x7b\x7d" false
  have sealed := (written _ _ _ addressed).mpr ⟨by decide +kernel, kept, by decide +kernel⟩
  let envelope : Envelope := ⟨(here "cleaner").address,
    ([here "ops", here "dev"] ++ [here "audit"]).map (·.address)⟩
  let draft :=
    draftOf envelope (here "cleaner") [here "ops", here "dev"] "nightly" "\x7b\x7d" false
  have made : compose info "nightly" "\x7b\x7d" false = .ok draft := by
    rw [addressed.compose_eq, sealed]
  have handed : concluded (outcome obliging info draft w.traffic) = .ok () := by
    simp only [draft, draftOf, held]
    decide +kernel
  have sent := (run_send_ok made obliging [] w).1.trans handed
  obtain ⟨talk?, traffic, given, tells⟩ := ((sends obliging [] w).2 _ _ _ addressed).2 _ sealed
  obtain ⟨talk, rfl, mem⟩ := given sent
  have spelled : Smtp.mailCommands draft.envelope draft.message = [.mailFrom "cleaner@10.0.0.1",
      .rcptTo "ops@10.0.0.1", .rcptTo "dev@10.0.0.1", .rcptTo "audit@10.0.0.1", .data,
      .content draft.message] := by
    simp only [draft, draftOf, held]
    decide +kernel
  have message : draft.message =
      ⟨here "cleaner", [here "ops", here "dev"], "nightly", false, "\x7b\x7d"⟩ := by
    simp only [draft, draftOf, held]
  rw [← message]
  exact ⟨talk, sent, congrArg Traffic.talks traffic, ((tells talk rfl).whole _ mem).2.trans spelled⟩

/-- A recipient in quotes is lost when the next one is added. The mail is sent with success, and
nobody hears of the one who is lost. -/
theorem not_addressed_quoted :
    let info : SmtpInfo := ⟨"\"\\\"john doe\\\"\"@10.0.0.1, dev@10.0.0.1", "", "",
      "cleaner@10.0.0.1", "", "10.0.0.1", 465⟩
    let w : World MemoryStore := { objects := .empty }
    Addressed info (here "cleaner") [here "\"john doe\"", here "dev"] [] ∧
      ∃ talk, ((send obliging info "nightly" "\x7b\x7d" false).run [] w).1 = .ok () ∧
        ((send obliging info "nightly" "\x7b\x7d" false).run [] w).2.traffic.talks = [talk] ∧
        talk.commands.filter (·.isAboutMail) = [.mailFrom "cleaner@10.0.0.1",
          .rcptTo "dev@10.0.0.1", .data,
          .content ⟨here "cleaner", [here "dev"], "nightly", false, "\x7b\x7d"⟩] := by
  intro info w
  have second : Reads "dev@10.0.0.1" (here "dev") :=
    reads_atMachine (by decide +kernel) (by decide +kernel) (by decide +kernel)
  have addressed :
      Addressed info (here "cleaner") [here "\"john doe\"", here "dev"] [] := by
    have shown :
        info.recipientList = ["\"\\\"john doe\\\"\"@10.0.0.1", "dev@10.0.0.1"] := by
      decide +kernel
    have blind : info.bccList = [] := by decide +kernel
    refine ⟨?_, shown ▸ .cons ?_ (.cons second .nil), blind ▸ .nil, by simp⟩
    all_goals exact reads_atMachine (by decide +kernel) (by decide +kernel) (by decide +kernel)
  have bare {m : Mailbox} {text : String} (read : Reads text m) (plain : ¬ m.address.IsQuoted)
      (name : m.name = none) : Mailbox.readBack [m] = some [m] :=
    Mailbox.readBack_of_bare (List.forall_mem_singleton.mpr (Mailbox.legible_of_parse read))
      ((Mailbox.kept_singleton m).mpr plain) (List.forall_mem_singleton.mpr name)
  have source := bare addressed.first (by decide +kernel) rfl
  have dev := bare second (by decide +kernel) rfl
  have lost : Mailbox.readBack [here "\"john doe\""] = none := by decide +kernel
  have held : Mailbox.hold [here "\"john doe\"", here "dev"] = [here "dev"] := by
    have added := Mailbox.hold_concat [here "\"john doe\""] (here "dev")
    rwa [Mailbox.heard, Mailbox.hold_singleton, lost] at added
  let envelope : Envelope := ⟨(here "cleaner").address, [(here "dev").address]⟩
  have sealed : envelopeOf (here "cleaner") [here "\"john doe\"", here "dev"] [] =
      .ok envelope := by
    rw [envelopeOf, Envelope.ofHeaders, source, held, dev]
    rfl
  let draft := draftOf envelope (here "cleaner") [here "\"john doe\"", here "dev"] "nightly"
    "\x7b\x7d" false
  have made : compose info "nightly" "\x7b\x7d" false = .ok draft := by
    rw [addressed.compose_eq, sealed]
  have handed : concluded (outcome obliging info draft w.traffic) = .ok () := by
    simp only [draft, draftOf, held]
    decide +kernel
  have sent := (run_send_ok made obliging [] w).1.trans handed
  obtain ⟨talk?, traffic, given, tells⟩ := run_send_made _ _ _ obliging [] w made
  obtain ⟨talk, rfl, mem⟩ := given sent
  have spelled : Smtp.mailCommands draft.envelope draft.message = [.mailFrom "cleaner@10.0.0.1",
      .rcptTo "dev@10.0.0.1", .data, .content draft.message] := by
    simp only [draft, draftOf, held]
    decide +kernel
  have message : draft.message =
      ⟨here "cleaner", [here "dev"], "nightly", false, "\x7b\x7d"⟩ := by
    simp only [draft, draftOf, held]
  rw [← message]
  exact ⟨addressed, talk, sent, congrArg Traffic.talks traffic,
    ((tells talk rfl).whole _ mem).2.trans spelled⟩

end Mailing

end CleanupCourier
