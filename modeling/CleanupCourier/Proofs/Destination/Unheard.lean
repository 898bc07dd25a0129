import CleanupCourier.Proofs.Destination.Course
import CleanupCourier.Proofs.Destination.Envelope
import CleanupCourier.Proofs.Work.Agreement
import CleanupCourier.Proofs.Text.CommaList

/-!
Mails that no relay hears of. What a Secret has to say about a mail is read before anything else is
done, and what is wrong with it is an error of configuration, with one exception: that there is no
envelope is only found out when the mail is made, and is told as a fault of the mail. There is none
if the lists are without any address, or if the headers do not give back an address in quotes.
-/
namespace CleanupCourier

variable {σ : Type}

theorem bind_eq_of_ok {ε α β : Type} {result : Except ε α} {a : α} (h : result = .ok a)
    (next : α → Except ε β) : result >>= next = next a := by
  rw [h]
  rfl

/-- Holds of a reading that blames the configuration whenever it fails. -/
def BlamesConfiguration {α : Type} (result : Except DeliveryError α) : Prop :=
  ∀ error, result = .error error → error.isConfiguration

namespace BlamesConfiguration

variable {α β : Type}

theorem ok (a : α) : BlamesConfiguration (.ok a) :=
  fun _ h => nomatch h

theorem bind {result : Except DeliveryError α} {next : α → Except DeliveryError β}
    (first : BlamesConfiguration result) (rest : ∀ a, BlamesConfiguration (next a)) :
    BlamesConfiguration (result >>= next) := by
  intro error failed
  obtain failed | ⟨a, -, failed⟩ := Attempt.eq_error_of_bind failed
  · exact first error failed
  · exact rest a error failed

theorem credentials (secret : Secret) (ref : NotificationRef) :
    BlamesConfiguration (secret.credentials ref) := by
  intro error failed
  unfold Secret.credentials at failed
  split at failed
  · split at failed
    · cases failed
      rfl
    · exact nomatch failed
  · cases failed
    rfl

theorem required (data : SecretData) (destination field : String) :
    BlamesConfiguration (Credentials.required data destination field) := by
  intro error failed
  unfold Credentials.required at failed
  split at failed
  · exact nomatch failed
  · cases failed
    rfl

theorem portOf (raw : String) : BlamesConfiguration (SmtpInfo.portOf raw) := by
  intro error failed
  unfold SmtpInfo.portOf at failed
  split at failed
  · exact nomatch failed
  · cases failed
    rfl

theorem smtpInfo (data : SecretData) : BlamesConfiguration (SmtpInfo.ofSecret data) := by
  have rest (port : Nat) := (required data "smtp" "SMTP_RECIPIENTS").bind fun recipients =>
    (required data "smtp" "SMTP_SENDER").bind fun sender =>
      (required data "smtp" "SMTP_HOST").bind fun host => ok (α := SmtpInfo) {
        recipients
        bcc := (Credentials.optional data "SMTP_BCC").getD ""
        identity := (Credentials.optional data "SMTP_IDENTITY").getD ""
        sender
        password := (Credentials.optional data "SMTP_PASSWORD").getD ""
        host
        port }
  unfold SmtpInfo.ofSecret
  cases Credentials.optional data "SMTP_PORT" with
  | none => exact rest _
  | some raw => exact (portOf raw).bind rest

end BlamesConfiguration

namespace Mailing

/-- Holds of settings whose addresses can all be read, and that yet make no envelope. -/
def Unsealed (info : SmtpInfo) (fault : MailFault) : Prop :=
  ∃ sender recipients hidden, Reads info.sender sender ∧
    List.Forall₂ Reads info.recipientList recipients ∧ List.Forall₂ Reads info.bccList hidden ∧
    envelopeOf sender recipients hidden = .error fault

/-- Holds of settings that name a sender but nobody to write to. -/
structure Unaddressed (info : SmtpInfo) : Prop where
  sender : ∃ mailbox, Reads info.sender mailbox
  recipients : ∀ c ∈ info.recipients.toList, c = ',' ∨ isBlank c
  bcc : ∀ c ∈ info.bcc.toList, c = ',' ∨ isBlank c

/-- Holds of settings whose addresses all come back from the headers of a mail. -/
structure Plain (info : SmtpInfo) : Prop where
  sender : ∀ mailbox, Reads info.sender mailbox → ¬ mailbox.address.IsQuoted
  recipients : ∀ l, List.Forall₂ Reads info.recipientList l → Mailbox.Kept l
  bcc : ∀ l, List.Forall₂ Reads info.bccList l → Mailbox.Kept l

variable {info : SmtpInfo} {subject body : String} {isHtml : Bool} {fault : MailFault}

theorem compose_of_unsealed (h : Unsealed info fault) :
    compose info subject body isHtml = .error (.mail fault.message) := by
  obtain ⟨sender, recipients, hidden, first, second, third, lacks⟩ := h
  rw [compose_of_reads first second third, lacks]

/-- A mail is not made for want of a good address or for want of an envelope. -/
theorem compose_error_cases {error : DeliveryError}
    (h : compose info subject body isHtml = .error error) :
    error.isConfiguration ∨ ∃ fault, Unsealed info fault ∧ error = .mail fault.message := by
  obtain ⟨first, problem⟩ | ⟨sender, recipients, hidden, addressed⟩ := problem_or_addressed info
  · cases h.symm.trans (compose_of_problem problem)
    cases problem with
    | sender stumbles | recipients _ stumbles | hidden _ _ stumbles =>
      exact .inl stumbles.isConfiguration
    | @nobody sender fault first noRecipients noHidden lacks =>
      exact .inr ⟨fault, ⟨sender, [], [], first, noRecipients ▸ .nil, noHidden ▸ .nil, lacks⟩, rfl⟩
  · rw [addressed.compose_eq] at h
    cases sealed : envelopeOf sender recipients hidden with
    | error fault =>
      rw [sealed] at h
      cases h
      exact .inr ⟨fault, ⟨sender, recipients, hidden, addressed.first, addressed.second,
        addressed.third, sealed⟩, rfl⟩
    | ok envelope =>
      rw [sealed] at h
      exact nomatch h

theorem exists_unsealed_of_unaddressed (h : Unaddressed info) : ∃ fault, Unsealed info fault := by
  obtain ⟨sender, read⟩ := h.sender
  obtain ⟨fault, lacks⟩ := exists_lacks sender
  have noRecipients : info.recipientList = [] := (commaItems_eq_nil_iff _).mpr h.recipients
  have noHidden : info.bccList = [] := (commaItems_eq_nil_iff _).mpr h.bcc
  exact ⟨fault, sender, [], [], read, noRecipients ▸ .nil, noHidden ▸ .nil, lacks⟩

/-- Where all addresses come back from the headers, only the want of any keeps a mail from having
an envelope. -/
theorem Plain.unsealed_iff (plain : Plain info) :
    Unsealed info fault ↔ Unaddressed info ∧ fault = .noDestination := by
  -- A sender in no quotes is read again, so that it is not the one who lacks.
  have nobody (sender : Mailbox) (read : Reads info.sender sender) :
      envelopeOf sender [] [] = .error .noDestination := by
    have legible := Mailbox.legible_of_parse read
    obtain ⟨lost, -⟩ | ⟨-, -, ⟨-, eq⟩ | ⟨contra, -⟩⟩ :=
      Envelope.ofHeaders_cases [] [] legible
    · obtain ⟨_, again, -⟩ := Mailbox.readBack_of_kept (List.forall_mem_singleton.mpr legible)
        ((Mailbox.kept_singleton sender).mpr (plain.sender sender read))
      exact nomatch lost.symm.trans again
    · exact eq
    · exact absurd rfl contra
  constructor
  · rintro ⟨sender, recipients, hidden, first, second, third, lacks⟩
    by_cases someone : recipients ++ hidden = []
    · obtain ⟨rfl, rfl⟩ := List.append_eq_nil_iff.mp someone
      have noRecipients := List.forall₂_nil_right_iff.mp second
      have noHidden := List.forall₂_nil_right_iff.mp third
      refine ⟨⟨⟨sender, first⟩, (commaItems_eq_nil_iff _).mp noRecipients,
        (commaItems_eq_nil_iff _).mp noHidden⟩, ?_⟩
      exact Except.error.inj (lacks.symm.trans (nobody sender first))
    · have addressed : Addressed info sender recipients hidden := ⟨first, second, third, someone⟩
      have sealed := addressed.envelopeOf_eq_iff.mpr
        ⟨plain.sender sender first, plain.recipients _ second, plain.bcc _ third⟩
      exact nomatch lacks.symm.trans sealed
  · rintro ⟨⟨⟨sender, read⟩, recipients, bcc⟩, rfl⟩
    have noRecipients : info.recipientList = [] := (commaItems_eq_nil_iff _).mpr recipients
    have noHidden : info.bccList = [] := (commaItems_eq_nil_iff _).mpr bcc
    exact ⟨sender, [], [], read, noRecipients ▸ .nil, noHidden ▸ .nil, nobody sender read⟩

/-- What there is to say about a mail once the Secret has been read: the settings and the mail. -/
def make (ref : NotificationRef) (secret : Secret) (d : Delivery) :
    Except DeliveryError (SmtpInfo × Draft) := do
  let data ← secret.credentials ref
  let info ← SmtpInfo.ofSecret data
  let draft ← compose info d.message d.payload false
  return (info, draft)

/-- Holds of a Secret whose settings can be read and satisfy `P`. -/
def Holds (P : SmtpInfo → Prop) (ref : NotificationRef) (secret : Secret) : Prop :=
  ∃ data info, secret.credentials ref = .ok data ∧ SmtpInfo.ofSecret data = .ok info ∧ P info

variable {ref : NotificationRef} {secret : Secret} {d : Delivery}

theorem make_of_unsealed (h : Holds (Unsealed · fault) ref secret) :
    make ref secret d = .error (.mail fault.message) := by
  obtain ⟨data, info, found, read, lacks⟩ := h
  rw [make, bind_eq_of_ok found, bind_eq_of_ok read, compose_of_unsealed lacks]
  rfl

/-- The one error of a Secret that is none of configuration. -/
theorem isConfiguration_of_make {error : DeliveryError} (h : make ref secret d = .error error) :
    error.isConfiguration = false ↔ ∃ fault, Holds (Unsealed · fault) ref secret := by
  have cases : error.isConfiguration ∨ ∃ fault, Holds (Unsealed · fault) ref secret := by
    obtain failed | ⟨data, found, h⟩ := Attempt.eq_error_of_bind h
    · exact .inl (BlamesConfiguration.credentials secret ref error failed)
    obtain failed | ⟨info, read, h⟩ := Attempt.eq_error_of_bind h
    · exact .inl (BlamesConfiguration.smtpInfo data error failed)
    obtain failed | ⟨draft, -, h⟩ := Attempt.eq_error_of_bind h
    · obtain blamed | ⟨fault, lacks, -⟩ := compose_error_cases failed
      · exact .inl blamed
      · exact .inr ⟨fault, data, info, found, read, lacks⟩
    · exact nomatch h
  constructor
  · intro other
    exact cases.resolve_left (by simp [other])
  · rintro ⟨fault, lacks⟩
    cases h.symm.trans (make_of_unsealed lacks)
    rfl

end Mailing

/-- Holds of a store that gives a Secret for a reference, whatever is in the journal. -/
def ObjectStore.Gives (store : ObjectStore σ) (w : World σ) (ref : NotificationRef)
    (secret : Secret) : Prop :=
  ∀ spans v, v.objects = w.objects → v.traffic = w.traffic →
    ∃ u, (store.getSecret ref.namespaceName ref.name).run spans v = (.ok secret, u) ∧
      u.traffic = w.traffic

theorem ObjectStore.memory_gives {w : World MemoryStore} {ref : NotificationRef} {secret : Secret}
    (h : w.objects.secret? ref.namespaceName ref.name = some secret) :
    memory.Gives w ref secret := by
  intro spans v objects traffic
  refine ⟨v, ?_, traffic⟩
  change (v.objects.getSecret ref.namespaceName ref.name, v) = _
  rw [objects, MemoryStore.getSecret, h]

/-- Holds of work that fails with an error without a talk. -/
def Attempt.FailsUnheard {α : Type} (attempt : Attempt σ DeliveryError α) (spans : List Span)
    (w : World σ) (error : DeliveryError) : Prop :=
  let ended := attempt.run spans w
  ended.1 = .error error ∧ ended.2.traffic.talks = w.traffic.talks

namespace Sink

variable {store : ObjectStore σ} {n : Notification} {ref : NotificationRef} {secret : Secret}
  {w : World σ}

/-- Nothing but the reading of the Secret decides what is known of a relay. -/
theorem run_known (refers : n.secretRef = .ok ref) (gives : store.Gives w ref secret) {ι : Type}
    (info : SecretData → Except DeliveryError ι) (spans : List Span) {v : World σ}
    (objects : v.objects = w.objects) (traffic : v.traffic = w.traffic) :
    ∃ u, (known store info n).run spans v = (secret.credentials ref >>= info, u) ∧
      u.traffic = w.traffic := by
  let noted := v.noting { events := [⟨.debug, Credentials.target, spans,
    "reading credentials from secret " ++ ref.path⟩] }
  obtain ⟨u, ran, same⟩ := gives spans noted objects traffic
  refine ⟨u, ?_, same⟩
  rw [known, Notification.credentials, refers]
  simp only [Attempt.run_bind, Attempt.run_ofExcept, Attempt.run_log_noting, Attempt.run_mapError]
  rw [show (store.getSecret ref.namespaceName ref.name).run spans _ = _ from ran]
  dsimp only [Except.mapError]
  cases secret.credentials ref <;> rfl

/-- A sink for mail fails as the mail does that it makes, or ends as the sending of it does. -/
theorem run_smtp (refers : n.secretRef = .ok ref) (gives : store.Gives w ref secret)
    (network : Network) (d : Delivery) (spans : List Span) :
    let ended := (smtp store network d n).run spans w
    (∀ error, Mailing.make ref secret d = .error error →
      ended.1 = .error error ∧ ended.2.traffic.talks = w.traffic.talks) ∧
    (∀ info draft, Mailing.make ref secret d = .ok (info, draft) →
      let outcome := Mailing.outcome network info draft w.traffic
      ended.1 = Mailing.concluded outcome ∧
        ended.2.traffic.talks = w.traffic.talks ++ outcome.talk.toList) := by
  intro ended
  obtain ⟨span, split⟩ : ∃ span, smtp store network d n = Attempt.within span (do
      Attempt.log .info Mailing.target "send smtp message"
      let info ← known store SmtpInfo.ofSecret n
      Mailing.send network info d.message d.payload false) := by
    simp only [smtp, known, bind_assoc]
    exact ⟨_, rfl⟩
  obtain ⟨u, ran, same⟩ := run_known refers gives SmtpInfo.ofSecret (spans ++ [span])
    (v := w.noting { events := [⟨.info, Mailing.target, spans ++ [span], "send smtp message"⟩] })
    rfl rfl
  have eq : ended = onward
      (fun info => (Mailing.send network info d.message d.payload false).run (spans ++ [span]))
      (secret.credentials ref >>= SmtpInfo.ofSecret, u) := by
    change (smtp store network d n).run spans w = _
    rw [split, Attempt.run_within, Attempt.run_bind, Attempt.run_log_noting, ← ran]
    exact Attempt.run_bind_onward _ _ _ _
  have made : Mailing.make ref secret d = (do
      let info ← secret.credentials ref >>= SmtpInfo.ofSecret
      let draft ← Mailing.compose info d.message d.payload false
      return (info, draft)) := by
    rw [Mailing.make, bind_assoc]
  rw [made]
  generalize secret.credentials ref >>= SmtpInfo.ofSecret = read at eq ⊢
  refine ⟨fun error failed => ?_, fun info draft done => ?_⟩
  · obtain rfl | ⟨info, rfl, failed'⟩ := Attempt.eq_error_of_bind failed
    · rw [eq]
      exact ⟨rfl, congrArg _ same⟩
    · obtain composed | ⟨draft, -, done⟩ := Attempt.eq_error_of_bind failed'
      · obtain ⟨j, sent⟩ := Mailing.run_send_error composed network (spans ++ [span]) u
        rw [eq, onward, sent]
        exact ⟨rfl, congrArg _ same⟩
      · cases done
  · obtain ⟨info', rfl, done'⟩ := Attempt.eq_ok_of_bind done
    obtain ⟨draft', composed, done'⟩ := Attempt.eq_ok_of_bind done'
    cases done'
    obtain ⟨result, traffic⟩ := Mailing.run_send_ok composed network (spans ++ [span]) u
    rw [same] at result traffic
    refine ⟨?_, ?_⟩
    · rw [eq]
      exact result
    · rw [eq, onward, traffic, World.talked, same]

section FailsUnheard

variable (refers : n.secretRef = .ok ref) (gives : store.Gives w ref secret)

include refers gives

theorem failsUnheard_of_not_made {network : Network} {d : Delivery} {failure : DeliveryError}
    (made : Mailing.make ref secret d = .error failure) (spans : List Span)
    (error : DeliveryError) :
    (smtp store network d n).FailsUnheard spans w error ↔ failure = error := by
  obtain ⟨result, talks⟩ := (run_smtp refers gives network d spans).1 failure made
  rw [Attempt.FailsUnheard, result, talks, Except.error.injEq]
  exact and_iff_left rfl

/-- A mail that was made fails without a talk for the reason that there is none. -/
theorem failsUnheard_of_made {network : Network} {d : Delivery} {info : SmtpInfo}
    {draft : Mailing.Draft} (made : Mailing.make ref secret d = .ok (info, draft))
    (spans : List Span) (error : DeliveryError) :
    (smtp store network d n).FailsUnheard spans w error ↔
      ∃ fault, Smtp.barrier? (network.reach info.host info.port) info.host
        (Mailing.isImplicit info) = some fault ∧ error = .mail fault.message := by
  obtain ⟨result, talks⟩ := (run_smtp refers gives network d spans).2 info draft made
  have submitted : Mailing.outcome network info draft w.traffic = _ := Smtp.submit_eq
    (network.relay w.traffic) (network.reach info.host info.port) info.host info.port
    (Mailing.isImplicit info) (Mailing.account? info) draft.envelope draft.message
  rw [Attempt.FailsUnheard, result, talks, submitted]
  cases Smtp.barrier? (network.reach info.host info.port) info.host (Mailing.isImplicit info) with
  | some fault => simp [Mailing.concluded, eq_comm]
  | none => simp

/-- When a delivery by mail fails in one way without a talk, whatever a relay would say: its Secret
is at fault, or the relay cannot be connected to in the first place. If it fails in one way wherever
the connection to a relay leads, then its Secret is at fault; and this is told as an error of
configuration unless all addresses of the Secret can be read and there is no envelope for them. So
it is if there is a sender but nobody to write to; and only so where the addresses all come back from
the headers of a mail. -/
theorem failsUnheard_smtp_iff (d : Delivery) (spans : List Span) (error : DeliveryError) :
    let fails (network : Network) := (smtp store network d n).FailsUnheard spans w error
    let made := Mailing.make ref secret d
    let Unsealed (fault : MailFault) := Mailing.Holds (Mailing.Unsealed · fault) ref secret
    (∀ reach, (∀ network : Network, network.reach = reach → fails network) ↔
      made = .error error ∨ ∃ info draft fault, made = .ok (info, draft) ∧
        Smtp.barrier? (reach info.host info.port) info.host (Mailing.isImplicit info) =
          some fault ∧ error = .mail fault.message) ∧
    ((∀ network, fails network) ↔ made = .error error) ∧
    (made = .error error → (error.isConfiguration = false ↔ ∃ fault, Unsealed fault)) ∧
    (∀ fault, Unsealed fault → made = .error (.mail fault.message)) ∧
    (Mailing.Holds Mailing.Unaddressed ref secret → ∃ fault, Unsealed fault) ∧
    (Mailing.Holds Mailing.Plain ref secret → ∀ fault,
      Unsealed fault ↔ Mailing.Holds Mailing.Unaddressed ref secret ∧ fault = .noDestination) := by
  intro fails made Unsealed
  let lost (reach : String → Nat → Reach) : Network :=
    ⟨reach, fun _ => .closed, fun _ _ => { code := 250 }⟩
  refine ⟨fun reach => ?_, ?_, fun failed => Mailing.isConfiguration_of_make failed,
    fun fault => Mailing.make_of_unsealed, ?_, ?_⟩
  · cases result : made with
    | error failure =>
      have same (network : Network) : fails network ↔ failure = error :=
        failsUnheard_of_not_made refers gives result spans error
      simp only [same, reduceCtorEq, false_and, exists_false, or_false, Except.error.injEq]
      exact ⟨fun all => all (lost reach) rfl, fun eq _ _ => eq⟩
    | ok known =>
      obtain ⟨info, draft⟩ := known
      have barred (network : Network) : fails network ↔ _ :=
        failsUnheard_of_made refers gives result spans error
      constructor
      · intro all
        obtain ⟨fault, barrier, eq⟩ := (barred (lost reach)).mp (all _ rfl)
        exact .inr ⟨info, draft, fault, rfl, barrier, eq⟩
      · rintro (failed | ⟨_, _, fault, same, barrier, eq⟩) network rfl
        · exact nomatch failed
        · cases same
          exact (barred network).mpr ⟨fault, barrier, eq⟩
  · cases result : made with
    | error failure =>
      have same (network : Network) : fails network ↔ failure = error :=
        failsUnheard_of_not_made refers gives result spans error
      simp only [same, Except.error.injEq]
      exact ⟨fun all => all (lost fun _ _ => .refused), fun eq _ => eq⟩
    | ok known =>
      have barred (network : Network) : fails network ↔ _ :=
        failsUnheard_of_made refers gives result spans error
      refine iff_of_false (fun all => ?_) nofun
      -- Two networks on which the relay is not there tell different reasons.
      obtain ⟨_, unknown, rfl⟩ := (barred (lost fun _ _ => .unknownHost)).mp (all _)
      obtain ⟨_, refused, eq⟩ := (barred (lost fun _ _ => .refused)).mp (all _)
      cases unknown
      cases refused
      exact absurd eq (by decide)
  · rintro ⟨data, info, found, read, nobody⟩
    obtain ⟨fault, lacks⟩ := Mailing.exists_unsealed_of_unaddressed nobody
    exact ⟨fault, data, info, found, read, lacks⟩
  · rintro ⟨data, info, found, read, plain⟩ fault
    constructor
    · rintro ⟨_, _, found', read', lacks⟩
      cases found.symm.trans found'
      cases read.symm.trans read'
      obtain ⟨nobody, which⟩ := plain.unsealed_iff.mp lacks
      exact ⟨⟨data, info, found, read, nobody⟩, which⟩
    · rintro ⟨⟨_, _, found', read', nobody⟩, which⟩
      cases found.symm.trans found'
      cases read.symm.trans read'
      exact ⟨data, info, found, read, plain.unsealed_iff.mpr ⟨nobody, which⟩⟩

end FailsUnheard

/-- A reference to the Secret `ops/smtp`. -/
def mailRef : NotificationRef :=
  ⟨"Secret", "ops", "smtp", "v1"⟩

def mailNotification : Notification :=
  ⟨"mail", .smtp, some mailRef⟩

/-- The Secret, with the data that it holds. -/
def mailSecret (data : Option SecretData) : Secret where
  metadata := { namespaceName := some "ops", name := some "smtp" }
  data

/-- A world with the Secret and nothing else. -/
def mailWorld (data : Option SecretData) : World MemoryStore where
  objects := MemoryStore.empty.insertSecret (mailSecret data)

theorem memory_gives_mailSecret (data : Option SecretData) :
    ObjectStore.memory.Gives (mailWorld data) mailRef (mailSecret data) :=
  ObjectStore.memory_gives (MemoryStore.secret?_insertSecret_self _ (mailSecret data))

/-- A Secret without data fails a mail in the same way and unheard on every network. -/
theorem failsUnheard_smtp_iff_empty :
    let w := mailWorld none
    let error : DeliveryError := .emptyCredentials "ops" "smtp"
    mailNotification.secretRef = .ok mailRef ∧
      ObjectStore.memory.Gives w mailRef (mailSecret none) ∧ error.isConfiguration ∧
      ∀ network,
        (smtp .memory network ⟨"", "nightly"⟩ mailNotification).FailsUnheard [] w error := by
  intro w error
  have refers : mailNotification.secretRef = .ok mailRef := by decide +kernel
  have gives : ObjectStore.memory.Gives w mailRef (mailSecret none) := memory_gives_mailSecret none
  have made : Mailing.make mailRef (mailSecret none) ⟨"", "nightly"⟩ = .error error := rfl
  exact ⟨refers, gives, rfl,
    (failsUnheard_smtp_iff refers gives ⟨"", "nightly"⟩ [] error).2.1.mpr made⟩

/-- Data in which the list of recipients holds nothing but separators. -/
def separatorsData : SecretData :=
  ((KeyMap.empty.insert "SMTP_HOST" (utf8 "smtp.example.com")).insert
    "SMTP_RECIPIENTS" (utf8 " , ,")).insert "SMTP_SENDER" (utf8 "ops@10.0.0.1")

/-- Recipients that are only separators fail a mail in the same way and unheard on every network,
and yet this is told as a fault of the mail and not of the configuration. -/
theorem failsUnheard_separators :
    let w := mailWorld (some separatorsData)
    let error : DeliveryError := .mail "missing destination address, invalid envelope"
    mailNotification.secretRef = .ok mailRef ∧
      ObjectStore.memory.Gives w mailRef (mailSecret (some separatorsData)) ∧
      error.isConfiguration = false ∧
      ∀ network,
        (smtp .memory network ⟨"", "nightly"⟩ mailNotification).FailsUnheard [] w error := by
  intro w error
  let info : SmtpInfo := ⟨" , ,", "", "", "ops@10.0.0.1", "", "smtp.example.com", 587⟩
  have read : Mailing.Reads "ops@10.0.0.1" (Mailing.here "ops") :=
    Mailing.reads_atMachine (by decide +kernel) (by decide +kernel) (by decide +kernel)
  have noRecipients : info.recipientList = [] := by decide +kernel
  have noHidden : info.bccList = [] := by decide +kernel
  have source : Mailbox.readBack [Mailing.here "ops"] = some [Mailing.here "ops"] :=
    Mailbox.readBack_of_bare (List.forall_mem_singleton.mpr (Mailbox.legible_of_parse read))
      (by decide +kernel) (by decide)
  have lacks : Mailing.Unsealed info .noDestination := by
    refine ⟨Mailing.here "ops", [], [], read, noRecipients ▸ .nil, noHidden ▸ .nil, ?_⟩
    rw [Mailing.envelopeOf, Envelope.ofHeaders, source]
    rfl
  have refers : mailNotification.secretRef = .ok mailRef := by decide +kernel
  have gives := memory_gives_mailSecret (some separatorsData)
  have made : Mailing.make mailRef (mailSecret (some separatorsData)) ⟨"", "nightly"⟩ =
      .error error :=
    Mailing.make_of_unsealed ⟨separatorsData, info, rfl, by decide +kernel, lacks⟩
  exact ⟨refers, gives, rfl, fun network =>
    (failsUnheard_of_not_made refers gives made [] error).mpr rfl⟩

end Sink

end CleanupCourier
