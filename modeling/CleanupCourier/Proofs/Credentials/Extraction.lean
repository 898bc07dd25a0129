import Mathlib.Tactic.Common
import CleanupCourier.Credentials.Basic
import CleanupCourier.Proofs.Text.Decimal
import CleanupCourier.Proofs.Text.Utf8
import CleanupCourier.Work

/-!
What a destination takes out of a Secret. It goes by its own keys alone, so a Secret may serve
several destinations: each of its keys has to be there, the first that is not is the error, and what
is taken is the text under each key. A relay for mail has keys besides that may be missing, and a
port that is looked at before all else.
-/
namespace CleanupCourier

namespace Credentials

/-- Holds of a reading that comes to the same for data that are the same under some keys. -/
def GoesBy {α : Type} (keys : List String) (read : SecretData → α) : Prop :=
  ∀ m m' : SecretData, (∀ key ∈ keys, m.find? key = m'.find? key) → read m = read m'

/-- The first of some keys that data do not have. -/
def firstMissing? (data : SecretData) (keys : List String) : Option String :=
  keys.find? fun key => (data.find? key).isNone

/-- The texts under some keys. -/
def textsUnder (data : SecretData) (keys : List String) : List (Option String) :=
  keys.map fun key => (data.find? key).map textOf

/-- Holds of a reading for a destination that asks for some keys, and for each of them. -/
structure AsksFor {ι : Type} (destination : String) (keys : List String)
    (fields : ι → List String) (read : SecretData → Except DeliveryError ι) : Prop where
  goesBy : GoesBy keys read
  succeeds_iff (data : SecretData) :
    (∃ i, read data = .ok i) ↔ ∀ key ∈ keys, (data.find? key).isSome
  ok_iff (data : SecretData) (i : ι) :
    read data = .ok i ↔ textsUnder data keys = (fields i).map some
  error_iff (data : SecretData) (error : DeliveryError) :
    read data = .error error ↔
      ∃ key, firstMissing? data keys = some key ∧ error = .missingField destination key

variable {data : SecretData} {destination : String}

/-- The texts under several keys, all of which have to be there. -/
def requiredAll (data : SecretData) (destination : String) (keys : List String) :
    Except DeliveryError (List String) :=
  keys.mapM (required data destination)

theorem required_eq (data : SecretData) (destination key : String) :
    required data destination key =
      match data.find? key with
      | some bytes => .ok (textOf bytes)
      | none => .error (.missingField destination key) := by
  rw [required, optional]
  cases data.find? key <;> rfl

theorem requiredAll_of_missing {key : String} (h : data.find? key = none) (keys : List String) :
    requiredAll data destination (key :: keys) = .error (.missingField destination key) := by
  rw [requiredAll, List.mapM_cons, required_eq, h]
  rfl

theorem requiredAll_of_found {key : String} {bytes : Bytes} (h : data.find? key = some bytes)
    (keys : List String) :
    requiredAll data destination (key :: keys) =
      (requiredAll data destination keys).map (textOf bytes :: ·) := by
  rw [requiredAll, List.mapM_cons, required_eq, h, requiredAll]
  cases keys.mapM (required data destination) <;> rfl

/-- By induction on the keys. -/
theorem requiredAll_eq_ok_iff {keys texts : List String} :
    requiredAll data destination keys = .ok texts ↔ textsUnder data keys = texts.map some := by
  induction keys generalizing texts with
  | nil => cases texts <;> simp [requiredAll, textsUnder, pure, Except.pure]
  | cons key keys ih =>
    have cons : textsUnder data (key :: keys) =
      (data.find? key).map textOf :: textsUnder data keys := rfl
    rw [cons]
    cases found : data.find? key with
    | none =>
      rw [requiredAll_of_missing found]
      cases texts <;> simp
    | some bytes =>
      rw [requiredAll_of_found found]
      cases rest : requiredAll data destination keys with
      | error error =>
        have none (more : List String) : ¬ textsUnder data keys = more.map some := by
          rw [← ih, rest]
          exact nofun
        cases texts <;> simp [Except.map, none]
      | ok more =>
        have same : textsUnder data keys = more.map some := ih.mp rest
        cases texts <;> simp [Except.map, same, List.map_inj_right]

/-- By induction on the keys. -/
theorem requiredAll_eq_error_iff {keys : List String} {error : DeliveryError} :
    requiredAll data destination keys = .error error ↔
      ∃ key, firstMissing? data keys = some key ∧ error = .missingField destination key := by
  induction keys with
  | nil => exact iff_of_false nofun fun ⟨_, missing, _⟩ => nomatch missing
  | cons key keys ih =>
    cases found : data.find? key with
    | none =>
      rw [requiredAll_of_missing found, firstMissing?, List.find?_cons_of_pos (by simp [found])]
      simp [eq_comm]
    | some bytes =>
      rw [requiredAll_of_found found, firstMissing?, List.find?_cons_of_neg (by simp [found])]
      rw [← firstMissing?, ← ih]
      cases requiredAll data destination keys <;> simp [Except.map]

theorem exists_requiredAll_iff {keys : List String} :
    (∃ texts, requiredAll data destination keys = .ok texts) ↔
      ∀ key ∈ keys, (data.find? key).isSome := by
  have none_missing : firstMissing? data keys = none ↔ ∀ key ∈ keys, (data.find? key).isSome := by
    simp [firstMissing?, Option.isSome_iff_ne_none]
  rw [← none_missing]
  cases result : requiredAll data destination keys with
  | error error =>
    obtain ⟨key, missing, -⟩ := requiredAll_eq_error_iff.mp result
    simp [missing]
  | ok texts =>
    refine iff_of_true ⟨texts, rfl⟩ (Option.eq_none_iff_forall_ne_some.mpr fun key missing => ?_)
    have failed : requiredAll data destination keys = .error (.missingField destination key) :=
      requiredAll_eq_error_iff.mpr ⟨key, missing, rfl⟩
    exact nomatch result.symm.trans failed

/-- By induction on the keys. -/
theorem goesBy_requiredAll (destination : String) (keys : List String) :
    GoesBy keys (requiredAll · destination keys) := by
  intro m m' same
  beta_reduce
  induction keys with
  | nil => rfl
  | cons key keys ih =>
    have here := same key List.mem_cons_self
    have rest := ih fun other mem => same other (List.mem_cons_of_mem _ mem)
    cases found : m.find? key with
    | none => rw [requiredAll_of_missing found, requiredAll_of_missing (here ▸ found)]
    | some bytes => rw [requiredAll_of_found found, requiredAll_of_found (here ▸ found), rest]

/-- A reading asks for the keys whose texts are its fields. -/
theorem asksFor_of_fields {ι : Type} {keys : List String} {fields : ι → List String}
    {read : SecretData → Except DeliveryError ι} (distinct : Function.Injective fields)
    (h : ∀ data, (read data).map fields = requiredAll data destination keys) :
    AsksFor destination keys fields read where
  goesBy m m' same := by
    have alike : (read m).map fields = (read m').map fields := by
      rw [h, h]
      exact goesBy_requiredAll destination keys m m' same
    generalize read m = result at alike ⊢
    generalize read m' = result' at alike ⊢
    cases result <;> cases result' <;> simp_all [Except.map, distinct.eq_iff]
  succeeds_iff data := by
    rw [← @exists_requiredAll_iff data destination, ← h]
    cases read data <;> simp [Except.map]
  ok_iff data i := by
    rw [← @requiredAll_eq_ok_iff data destination, ← h]
    cases read data <;> simp [Except.map, distinct.eq_iff]
  error_iff data error := by
    rw [← requiredAll_eq_error_iff, ← h]
    cases read data <;> simp [Except.map]

/-- What is made of the texts under two keys. -/
theorem asksFor_two {ι : Type} {make : String → String → ι} {fields : ι → List String}
    (fields_make : ∀ a b, fields (make a b) = [a, b]) (made : ∀ i, ∃ a b, i = make a b)
    (destination key key' : String) :
    AsksFor destination [key, key'] fields fun data => do
      let a ← required data destination key
      let b ← required data destination key'
      return make a b := by
  refine asksFor_of_fields (fun i j same => ?_) fun data => ?_
  · obtain ⟨a, b, rfl⟩ := made i
    obtain ⟨a', b', rfl⟩ := made j
    rw [fields_make, fields_make] at same
    cases same
    rfl
  · rw [requiredAll, List.mapM_cons, List.mapM_cons, List.mapM_nil]
    cases required data destination key with
    | error error => rfl
    | ok a =>
      cases required data destination key' with
      | error error => rfl
      | ok b => exact congrArg Except.ok (fields_make a b)

end Credentials

open Credentials

theorem SlackInfo.asksFor_ofSecret : AsksFor "slack" ["SLACK_TOKEN", "SLACK_CHANNEL_ID"]
    (fun i : SlackInfo => [i.token, i.channel]) ofSecret :=
  asksFor_two (fun _ _ => rfl) (fun i => ⟨i.token, i.channel, rfl⟩) _ _ _

theorem TeamsInfo.asksFor_ofSecret : AsksFor "teams" ["TEAMS_WEBHOOK_URL"]
    (fun i : TeamsInfo => [i.webhookUrl]) ofSecret := by
  refine asksFor_of_fields (fun i j same => ?_) fun data => ?_
  · cases i
    cases j
    simpa using same
  · rw [requiredAll, List.mapM_cons, List.mapM_nil, ofSecret]
    cases required data "teams" "TEAMS_WEBHOOK_URL" <;> rfl

theorem DiscordInfo.asksFor_ofSecret : AsksFor "discord" ["DISCORD_TOKEN", "DISCORD_CHANNEL_ID"]
    (fun i : DiscordInfo => [i.token, i.channel]) ofSecret :=
  asksFor_two (fun _ _ => rfl) (fun i => ⟨i.token, i.channel, rfl⟩) _ _ _

theorem WebexInfo.asksFor_ofSecret : AsksFor "webex" ["WEBEX_TOKEN", "WEBEX_ROOM_ID"]
    (fun i : WebexInfo => [i.token, i.room]) ofSecret :=
  asksFor_two (fun _ _ => rfl) (fun i => ⟨i.token, i.room, rfl⟩) _ _ _

namespace SmtpInfo

/-- The keys that a Secret for mail has to have. -/
def requiredKeys : List String :=
  ["SMTP_RECIPIENTS", "SMTP_SENDER", "SMTP_HOST"]

def keys : List String :=
  "SMTP_PORT" :: "SMTP_BCC" :: "SMTP_IDENTITY" :: "SMTP_PASSWORD" :: requiredKeys

/-- The text under a key that may be missing. -/
def textOrEmpty (data : SecretData) (key : String) : String :=
  ((data.find? key).map textOf).getD ""

/-- The port that data name: a number of sixteen bits between blanks, or 587 if they name none. -/
def Port (data : SecretData) (port : Nat) : Prop :=
  (data.find? "SMTP_PORT" = none ∧ port = 587) ∨
    ∃ bytes, data.find? "SMTP_PORT" = some bytes ∧
      Writes (trimBoth isBlank (textOf bytes).toList) port ∧ port ≤ 65535

/-- Holds of settings that data name under the keys for mail. -/
structure Names (data : SecretData) (info : SmtpInfo) : Prop where
  required : textsUnder data requiredKeys = [some info.recipients, some info.sender, some info.host]
  bcc : info.bcc = textOrEmpty data "SMTP_BCC"
  identity : info.identity = textOrEmpty data "SMTP_IDENTITY"
  password : info.password = textOrEmpty data "SMTP_PASSWORD"
  port : Port data info.port

/-- Holds of a reading of settings for mail that asks for some keys besides a port, which is looked
at first. -/
structure AsksForMail (read : SecretData → Except DeliveryError SmtpInfo) : Prop where
  goesBy : GoesBy keys read
  succeeds_iff (data : SecretData) : (∃ info, read data = .ok info) ↔
    (∀ key ∈ requiredKeys, (data.find? key).isSome) ∧ ∃ port, Port data port
  ok_iff (data : SecretData) (info : SmtpInfo) : read data = .ok info ↔ Names data info
  badPort (data : SecretData) : (¬ ∃ port, Port data port) → ∃ bytes fault,
    data.find? "SMTP_PORT" = some bytes ∧ read data = .error (.invalidField "SMTP_PORT"
      (quoted (textOf bytes) ++ " is not a valid port: " ++ NumberFault.message fault))
  missing (data : SecretData) : (∃ port, Port data port) → ∀ error, read data = .error error ↔
    ∃ key, firstMissing? data requiredKeys = some key ∧ error = .missingField "smtp" key

variable {data : SecretData}

/-- The port of data, or what is wrong with it. -/
def portIn (data : SecretData) : Except DeliveryError Nat :=
  match optional data "SMTP_PORT" with
  | some raw => portOf raw
  | none => .ok defaultPort

theorem portOf_eq_ok_iff {raw : String} {port : Nat} :
    portOf raw = .ok port ↔ Writes (trimBoth isBlank raw.toList) port ∧ port ≤ 65535 := by
  have read : boundedNumber 65535 (trimBoth isBlank raw.toList) = .ok port ↔
      Writes (trimBoth isBlank raw.toList) port ∧ port ≤ 65535 := boundedNumber_eq_ok_iff
  rw [← read, portOf, show maxPort = 65535 from rfl]
  cases boundedNumber 65535 (trimBoth isBlank raw.toList) <;> simp

example : portOf "\u2003+00465\n" = .ok 465 := by decide +kernel

theorem portIn_eq_ok_iff {port : Nat} : portIn data = .ok port ↔ Port data port := by
  unfold portIn Port Credentials.optional
  cases data.find? "SMTP_PORT" with
  | none => simp [defaultPort, eq_comm]
  | some bytes => simp [portOf_eq_ok_iff]

/-- What is said about a text that is no port. -/
theorem portIn_of_no_port (h : ¬ ∃ port, Port data port) :
    ∃ bytes fault, data.find? "SMTP_PORT" = some bytes ∧
      portIn data = .error (.invalidField "SMTP_PORT"
        (quoted (textOf bytes) ++ " is not a valid port: " ++ NumberFault.message fault)) := by
  cases found : data.find? "SMTP_PORT" with
  | none => exact absurd ⟨587, .inl ⟨found, rfl⟩⟩ h
  | some bytes =>
    have text : portIn data = portOf (textOf bytes) := by
      rw [portIn, Credentials.optional, found]
      rfl
    cases read : boundedNumber maxPort (trimBoth isBlank (textOf bytes).toList) with
    | error fault =>
      refine ⟨bytes, fault, rfl, ?_⟩
      rw [text, portOf, read]
    | ok port =>
      have named : portIn data = .ok port := by rw [text, portOf, read]
      exact absurd ⟨port, portIn_eq_ok_iff.mp named⟩ h

/-- The settings with a port that is known. -/
def withPort (data : SecretData) (port : Nat) : Except DeliveryError SmtpInfo := do
  let recipients ← required data "smtp" "SMTP_RECIPIENTS"
  let sender ← required data "smtp" "SMTP_SENDER"
  let host ← required data "smtp" "SMTP_HOST"
  return {
    recipients
    bcc := textOrEmpty data "SMTP_BCC"
    identity := textOrEmpty data "SMTP_IDENTITY"
    sender
    password := textOrEmpty data "SMTP_PASSWORD"
    host
    port }

theorem ofSecret_eq (data : SecretData) : ofSecret data = portIn data >>= withPort data := by
  unfold ofSecret portIn
  cases Credentials.optional data "SMTP_PORT" <;> rfl

/-- What is asked for besides the port. -/
theorem withPort_fields (data : SecretData) (port : Nat) :
    (withPort data port).map (fun i => [i.recipients, i.sender, i.host]) =
      requiredAll data "smtp" requiredKeys := by
  rw [requiredAll, requiredKeys, List.mapM_cons, List.mapM_cons, List.mapM_cons, List.mapM_nil,
    withPort]
  cases required data "smtp" "SMTP_RECIPIENTS" with
  | error error => rfl
  | ok recipients =>
    cases required data "smtp" "SMTP_SENDER" with
    | error error => rfl
    | ok sender => cases required data "smtp" "SMTP_HOST" <;> rfl

theorem withPort_eq_ok_iff {port : Nat} {info : SmtpInfo} :
    withPort data port = .ok info ↔
      textsUnder data requiredKeys = [some info.recipients, some info.sender, some info.host] ∧
        info.bcc = textOrEmpty data "SMTP_BCC" ∧ info.identity = textOrEmpty data "SMTP_IDENTITY" ∧
        info.password = textOrEmpty data "SMTP_PASSWORD" ∧ info.port = port := by
  constructor
  · intro read
    have fields := withPort_fields data port
    rw [read] at fields
    refine ⟨requiredAll_eq_ok_iff.mp fields.symm, ?_⟩
    obtain ⟨recipients, -, read⟩ := Attempt.eq_ok_of_bind read
    obtain ⟨sender, -, read⟩ := Attempt.eq_ok_of_bind read
    obtain ⟨host, -, read⟩ := Attempt.eq_ok_of_bind read
    cases read
    exact ⟨rfl, rfl, rfl, rfl⟩
  · rintro ⟨texts, bcc, identity, password, rfl⟩
    have found (key : String) (text : String) (h : (data.find? key).map textOf = some text) :
        required data "smtp" key = .ok text := by
      rw [required, Credentials.optional, h]
    simp only [textsUnder, requiredKeys, List.map_cons, List.map_nil, List.cons.injEq] at texts
    obtain ⟨recipients, sender, host, -⟩ := texts
    rw [withPort, found _ _ recipients, found _ _ sender, found _ _ host, ← bcc, ← identity,
      ← password]
    rfl

theorem asksForMail_ofSecret : AsksForMail ofSecret where
  goesBy m m' same := by
    have texts {key : String} (h : key ∈ keys) :
        Credentials.optional m key = Credentials.optional m' key := by
      rw [Credentials.optional, Credentials.optional, same key h]
    have needed {key : String} (h : key ∈ keys) :
        required m "smtp" key = required m' "smtp" key := by
      rw [required, required, texts h]
    unfold ofSecret
    rw [texts (by decide : "SMTP_PORT" ∈ keys), texts (by decide : "SMTP_BCC" ∈ keys),
      texts (by decide : "SMTP_IDENTITY" ∈ keys), texts (by decide : "SMTP_PASSWORD" ∈ keys),
      needed (by decide : "SMTP_RECIPIENTS" ∈ keys), needed (by decide : "SMTP_SENDER" ∈ keys),
      needed (by decide : "SMTP_HOST" ∈ keys)]
  succeeds_iff data := by
    rw [ofSecret_eq]
    constructor
    · rintro ⟨info, read⟩
      obtain ⟨port, named, read⟩ := Attempt.eq_ok_of_bind read
      have fields := withPort_fields data port
      rw [read] at fields
      exact ⟨exists_requiredAll_iff.mp ⟨_, fields.symm⟩, port, portIn_eq_ok_iff.mp named⟩
    · rintro ⟨there, port, named⟩
      obtain ⟨texts, all⟩ := exists_requiredAll_iff.mpr there
      rw [portIn_eq_ok_iff.mpr named]
      rw [← withPort_fields data port] at all
      cases read : withPort data port with
      | error error =>
        rw [read] at all
        exact nomatch all
      | ok info => exact ⟨info, read⟩
  ok_iff data info := by
    rw [ofSecret_eq]
    constructor
    · intro read
      obtain ⟨port, named, read⟩ := Attempt.eq_ok_of_bind read
      obtain ⟨required, bcc, identity, password, rfl⟩ := withPort_eq_ok_iff.mp read
      exact ⟨required, bcc, identity, password, portIn_eq_ok_iff.mp named⟩
    · intro names
      rw [portIn_eq_ok_iff.mpr names.port]
      exact withPort_eq_ok_iff.mpr
        ⟨names.required, names.bcc, names.identity, names.password, rfl⟩
  badPort data none := by
    obtain ⟨bytes, fault, found, failed⟩ := portIn_of_no_port none
    refine ⟨bytes, fault, found, ?_⟩
    rw [ofSecret_eq, failed]
    rfl
  missing data some error := by
    obtain ⟨port, named⟩ := some
    rw [ofSecret_eq, portIn_eq_ok_iff.mpr named, ← requiredAll_eq_error_iff,
      ← withPort_fields data port]
    change withPort data port = _ ↔ _
    cases withPort data port <;> simp [Except.map]

end SmtpInfo

/-- Each destination takes its credentials out of a Secret by its own keys alone, and fails only for
the first key that is missing, but that the port of a relay is looked at before. What it takes are
the texts under the keys, and octets that are a text are taken as this text, up to where they stop
to be one. -/
theorem Credentials.secrets_extracted :
    AsksFor "slack" ["SLACK_TOKEN", "SLACK_CHANNEL_ID"]
      (fun i => [i.token, i.channel]) SlackInfo.ofSecret ∧
    AsksFor "teams" ["TEAMS_WEBHOOK_URL"] (fun i => [i.webhookUrl]) TeamsInfo.ofSecret ∧
    AsksFor "discord" ["DISCORD_TOKEN", "DISCORD_CHANNEL_ID"]
      (fun i => [i.token, i.channel]) DiscordInfo.ofSecret ∧
    AsksFor "webex" ["WEBEX_TOKEN", "WEBEX_ROOM_ID"]
      (fun i => [i.token, i.room]) WebexInfo.ofSecret ∧
    SmtpInfo.AsksForMail SmtpInfo.ofSecret ∧
    (∀ text, textOf (utf8 text) = text) ∧
    ∀ text bytes, textOf (utf8 text ++ bytes) = text ++ textOf bytes :=
  ⟨SlackInfo.asksFor_ofSecret, TeamsInfo.asksFor_ofSecret, DiscordInfo.asksFor_ofSecret,
    WebexInfo.asksFor_ofSecret, SmtpInfo.asksForMail_ofSecret, textOf_utf8, textOf_utf8_append⟩

end CleanupCourier
