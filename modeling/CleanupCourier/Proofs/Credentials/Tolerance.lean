import CleanupCourier.Credentials.Basic
import CleanupCourier.Credentials.Reference
import CleanupCourier.Mail.Relay
import CleanupCourier.Proofs.Work.Agreement

/-!
Secrets that differ from each other in what is secret in them. A tolerance says how: which values of
a token, a password or a webhook address may stand for each other, and what an onlooker must not see
for that. Reading two such Secrets fails alike, or gives credentials that differ in the same way and
in nothing else.
-/
namespace CleanupCourier

namespace Credentials

/-- The keys of the tokens that log in at web services. -/
def tokenKeys : List String := ["SLACK_TOKEN", "DISCORD_TOKEN", "WEBEX_TOKEN"]

/-- All keys whose values are secret. -/
def secretKeys : List String := "TEAMS_WEBHOOK_URL" :: "SMTP_PASSWORD" :: tokenKeys

end Credentials

open Credentials

structure Tolerance where
  veil : Veil
  /-- Relates values of headers that log in. -/
  login : String → String → Prop
  /-- Relates values under a key of a Secret. -/
  value : String → Bytes → Bytes → Prop
  login_refl (s : String) : login s s
  isHeaderText_eq {s s' : String} : login s s' → Http.isHeaderText s = Http.isHeaderText s'
  request_eq {r r' : HttpRequest} : r.Twins login r' → veil.request r = veil.request r'
  token {key : String} {a a' : Bytes} : key ∈ tokenKeys → value key a a' →
    ∀ before, login (before ++ textOf a) (before ++ textOf a')
  password {a a' : Bytes} : value "SMTP_PASSWORD" a a' →
    (textOf a).isEmpty = (textOf a').isEmpty ∧
      ∀ user, veil.token (SmtpAccount.token ⟨user, textOf a⟩) =
        veil.token (SmtpAccount.token ⟨user, textOf a'⟩)
  open_eq {key : String} {a a' : Bytes} : key ∉ secretKeys → value key a a' → a = a'

namespace Tolerance

variable (T : Tolerance)

def Data (m m' : SecretData) : Prop :=
  ∀ key, Option.Rel (T.value key) (m.find? key) (m'.find? key)

def Secret (s s' : CleanupCourier.Secret) : Prop :=
  Option.Rel T.Data s.data s'.data

/-- Holds of tokens that log in alike, whatever word they come with. -/
def Tokens (s s' : String) : Prop :=
  ∀ before, T.login (before ++ s) (before ++ s')

/-- Holds of passwords that ask for a log-in alike. -/
def Passwords (p p' : String) : Prop :=
  p.isEmpty = p'.isEmpty ∧
    ∀ user, T.veil.token (SmtpAccount.token ⟨user, p⟩) = T.veil.token (SmtpAccount.token ⟨user, p'⟩)

/-- Holds of texts under a key that come from related values. -/
def Texts (key s s' : String) : Prop :=
  ∃ a a', T.value key a a' ∧ textOf a = s ∧ textOf a' = s'

end Tolerance

theorem KeyMap.isEmpty_iff {α : Type} (m : KeyMap α) : m.isEmpty ↔ ∀ key, m.find? key = none := by
  constructor
  · intro none key
    rw [isEmpty, List.isEmpty_iff] at none
    rw [find?, none]
    rfl
  · intro none
    rw [isEmpty, List.isEmpty_iff]
    refine List.eq_nil_iff_forall_not_mem.mpr fun entry mem => ?_
    have missing := none entry.1
    rw [find?, Option.map_eq_none_iff] at missing
    exact absurd (beq_self_eq_true entry.1) (List.find?_eq_none.mp missing entry mem)

namespace Tolerance

variable {T : Tolerance} {m m' : SecretData}

theorem Data.isEmpty_eq (data : T.Data m m') : m.isEmpty = m'.isEmpty := by
  have missing (key : String) : m.find? key = none ↔ m'.find? key = none := by
    have related := data key
    generalize m.find? key = value at related ⊢
    generalize m'.find? key = value' at related ⊢
    cases related <;> simp
  rw [Bool.eq_iff_iff, KeyMap.isEmpty_iff, KeyMap.isEmpty_iff]
  exact forall_congr' missing

theorem Data.optional_rel (data : T.Data m m') (key : String) :
    Option.Rel (T.Texts key) (optional m key) (optional m' key) := by
  have related := data key
  unfold Credentials.optional
  generalize m.find? key = value at related ⊢
  generalize m'.find? key = value' at related ⊢
  cases related with
  | some holds => exact .some ⟨_, _, holds, rfl, rfl⟩
  | none => exact .none

theorem Data.optional_eq (data : T.Data m m') {key : String} (h : key ∉ secretKeys) :
    optional m key = optional m' key := by
  have related := data.optional_rel key
  generalize optional m key = value at related ⊢
  generalize optional m' key = value' at related ⊢
  cases related with
  | some holds =>
    obtain ⟨a, a', same, rfl, rfl⟩ := holds
    rw [T.open_eq h same]
  | none => rfl

theorem Data.required_rel (data : T.Data m m') (destination key : String) :
    Matches (T.Texts key) (required m destination key) (required m' destination key) := by
  have related := data.optional_rel key
  unfold required
  generalize optional m key = value at related ⊢
  generalize optional m' key = value' at related ⊢
  cases related with
  | some holds => exact .ok holds
  | none => exact .error _

theorem Data.required_eq (data : T.Data m m') {key : String} (h : key ∉ secretKeys)
    (destination : String) : required m destination key = required m' destination key := by
  rw [required, required, data.optional_eq h]

theorem data_empty (T : Tolerance) : T.Data .empty .empty :=
  fun _ => .none

theorem Data.insert (data : T.Data m m') {key : String} {a a' : Bytes} (h : T.value key a a') :
    T.Data (m.insert key a) (m'.insert key a') := by
  intro other
  by_cases same : other = key
  · subst same
    rw [KeyMap.find?_insert_self, KeyMap.find?_insert_self]
    exact .some h
  · rw [KeyMap.find?_insert_of_ne _ _ same, KeyMap.find?_insert_of_ne _ _ same]
    exact data other

theorem Texts.tokens {key s s' : String} (h : key ∈ tokenKeys) (texts : T.Texts key s s') :
    T.Tokens s s' := by
  obtain ⟨a, a', related, rfl, rfl⟩ := texts
  exact T.token h related

/-- Credentials made of a token and a place differ at most in the token. -/
theorem Data.matches_token {ι : Type} (data : T.Data m m') (make : String → String → ι)
    (destination : String) {tokenKey placeKey : String} (secret : tokenKey ∈ tokenKeys)
    (shown : placeKey ∉ secretKeys) :
    Matches
      (fun i i' => ∃ token token' place, T.Tokens token token' ∧
        i = make token place ∧ i' = make token' place)
      (do
        let token ← required m destination tokenKey
        let place ← required m destination placeKey
        return make token place)
      (do
        let token ← required m' destination tokenKey
        let place ← required m' destination placeKey
        return make token place) := by
  rw [data.required_eq shown]
  refine (data.required_rel destination tokenKey).bind fun token token' texts => ?_
  refine .bind_same _ fun place => ?_
  exact .ok ⟨token, token', place, texts.tokens secret, rfl, rfl⟩

theorem Data.matches_smtp (data : T.Data m m') :
    Matches (fun i i' => ∃ password, T.Passwords i.password password ∧ i' = { i with password })
      (SmtpInfo.ofSecret m) (SmtpInfo.ofSecret m') := by
  have passwords : T.Passwords ((optional m "SMTP_PASSWORD").getD "")
      ((optional m' "SMTP_PASSWORD").getD "") := by
    have related := data.optional_rel "SMTP_PASSWORD"
    generalize optional m "SMTP_PASSWORD" = value at related ⊢
    generalize optional m' "SMTP_PASSWORD" = value' at related ⊢
    cases related with
    | some holds =>
      obtain ⟨a, a', same, rfl, rfl⟩ := holds
      exact T.password same
    | none => exact ⟨rfl, fun _ => rfl⟩
  have shown {key : String} (h : key ∉ secretKeys) : optional m' key = optional m key :=
    (data.optional_eq h).symm
  have given {key : String} (h : key ∉ secretKeys) (destination : String) :
      required m' destination key = required m destination key :=
    (data.required_eq h destination).symm
  unfold SmtpInfo.ofSecret
  rw [shown (by decide : "SMTP_PORT" ∉ secretKeys), shown (by decide : "SMTP_BCC" ∉ secretKeys),
    shown (by decide : "SMTP_IDENTITY" ∉ secretKeys),
    given (by decide : "SMTP_RECIPIENTS" ∉ secretKeys),
    given (by decide : "SMTP_SENDER" ∉ secretKeys), given (by decide : "SMTP_HOST" ∉ secretKeys)]
  cases Credentials.optional m "SMTP_PORT"
  all_goals
    refine .bind_same _ fun port => .bind_same _ fun recipients => ?_
    refine .bind_same _ fun sender => .bind_same _ fun host => ?_
    exact .ok ⟨_, passwords, rfl⟩

theorem Secret.matches_credentials {s s' : CleanupCourier.Secret} (h : T.Secret s s')
    (ref : NotificationRef) : Matches T.Data (s.credentials ref) (s'.credentials ref) := by
  unfold CleanupCourier.Secret.credentials
  unfold Tolerance.Secret at h
  generalize s.data = data at h ⊢
  generalize s'.data = data' at h ⊢
  cases h with
  | none => exact .error _
  | some related =>
    dsimp only
    rw [related.isEmpty_eq]
    split
    · exact .error _
    · exact .ok related

/-- Secrets that a notification refers to are read alike. -/
theorem agree_credentials {σ : Type} {bond : Bond σ} {store store' : ObjectStore σ}
    (reads : ∀ namespaceName name, Attempt.Agree bond T.Secret
      (store.getSecret namespaceName name) (store'.getSecret namespaceName name))
    (n : Notification) :
    Attempt.Agree bond T.Data (n.credentials store) (n.credentials store') := by
  unfold Notification.credentials
  refine Attempt.agree_bind_eq (Attempt.agree_ofExcept (.refl _)) fun ref => ?_
  refine Attempt.agree_bind_eq (Attempt.agree_log _ _ _) fun _ => ?_
  refine Attempt.agree_bind (Attempt.agree_mapError (reads _ _) _) fun secret secret' related => ?_
  exact Attempt.agree_ofExcept (related.matches_credentials ref)

end Tolerance

end CleanupCourier
