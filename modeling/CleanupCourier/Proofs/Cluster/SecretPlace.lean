import CleanupCourier.Credentials.Reference
import CleanupCourier.Proofs.Store.Cluster
import CleanupCourier.Proofs.Text.CommaList
import CleanupCourier.Proofs.Text.Trimming

/-!
Which object is read for a reference to a Secret. The target of the request is joined from the
namespace and the name as they stand. So the request is at the place of that Secret if and only if
neither of them has a character in it that ends a segment of a path; with one of those it is at
another place, and yet it is made.
-/
namespace CleanupCourier

namespace ApiRequest

/-- What the target is before its query. -/
def path (r : ApiRequest) : List Char :=
  r.target.toList.takeWhile (· != '?')

/-- The parts of the path, each of which follows a slash. -/
def segments (r : ApiRequest) : List (List Char) :=
  (r.path.drop 1).splitOn '/'

/-- Holds of a request without a query, at the place of these segments. -/
structure IsAt (r : ApiRequest) (segments : List String) : Prop where
  place : r.segments = segments.map (·.toList)
  noQuery : '?' ∉ r.target.toList

end ApiRequest

namespace Api

/-- Characters that end a segment of a path. -/
def isDelimiter (c : Char) : Bool :=
  c == '/' || c == '?' || c == '#'

/-- The place of a Secret. -/
def secretSegments (namespaceName name : String) : List String :=
  ["api", "v1", "namespaces", namespaceName, "secrets", name]

theorem forall_mem_splitOn_slash_iff (s : List Char) :
    (∀ piece ∈ s.splitOn '/', ∀ c ∈ piece, ¬ isDelimiter c) ↔ '?' ∉ s ∧ '#' ∉ s := by
  have pieces := forall_mem_splitOnP (p := (· == '/')) (Q := fun c => ¬ isDelimiter c) s
  rw [show s.splitOn '/' = s.splitOnP (· == '/') from rfl, pieces]
  constructor
  · intro allowed
    exact ⟨fun mem => absurd (allowed _ mem) (by decide), fun mem =>
      absurd (allowed _ mem) (by decide)⟩
  · rintro ⟨noQuery, noHash⟩ c mem
    by_cases slash : c = '/'
    · exact .inl (beq_iff_eq.mpr slash)
    · have first : c ≠ '?' := fun eq => noQuery (eq ▸ mem)
      have second : c ≠ '#' := fun eq => noHash (eq ▸ mem)
      exact .inr (by simp [isDelimiter, slash, first, second])

/-- Pieces with slashes between them are read back as they were, from a target that is cut at a
number sign and at a question mark, if and only if no piece has a delimiter in it. -/
theorem splitOn_cut_iff {pieces : List (List Char)} {kept : List Char} (nonempty : pieces ≠ [])
    (cut : kept = (['/'].intercalate pieces).takeWhile (· != '#')) :
    ((kept.takeWhile (· != '?')).splitOn '/' = pieces ∧ '?' ∉ kept) ↔
      ∀ piece ∈ pieces, ∀ c ∈ piece, ¬ isDelimiter c := by
  constructor
  · rintro ⟨place, noQuery⟩
    rw [takeWhile_ne_eq_self noQuery] at place
    have noHash : '#' ∉ kept := fun mem => by
      rw [cut] at mem
      exact absurd (List.mem_takeWhile_imp mem) (by decide)
    rw [← place]
    exact (forall_mem_splitOn_slash_iff kept).mpr ⟨noQuery, noHash⟩
  · intro clean
    have split : (['/'].intercalate pieces).splitOn '/' = pieces := by
      refine List.splitOn_intercalate '/' (fun piece mem slash => ?_) nonempty
      exact clean piece mem '/' slash rfl
    have marks := (forall_mem_splitOn_slash_iff _).mp (split ▸ clean)
    rw [cut, takeWhile_ne_eq_self marks.2, takeWhile_ne_eq_self marks.1]
    exact ⟨split, marks.1⟩

theorem toList_secretsPath (namespaceName name : String) :
    (secretsPath namespaceName ++ "/" ++ name).toList =
      '/' :: ['/'].intercalate ((secretSegments namespaceName name).map (·.toList)) := by
  have front : "/api/v1/namespaces/".toList = '/' :: ("api".toList ++ '/' :: ("v1".toList ++
      '/' :: ("namespaces".toList ++ ['/']))) := by
    decide +kernel
  have back : "/secrets".toList = '/' :: "secrets".toList := by decide +kernel
  have slash : "/".toList = ['/'] := by decide +kernel
  unfold secretsPath secretSegments
  simp only [String.toList_append, front, back, slash, List.map_cons, List.map_nil,
    List.intercalate, List.intersperse, List.flatten_cons, List.flatten_nil, List.append_assoc,
    List.cons_append, List.nil_append, List.append_nil]

/-- What is fixed of the place of a Secret has no delimiter in it. -/
theorem undelimited_secretSegments_iff (namespaceName name : String) :
    (∀ piece ∈ (secretSegments namespaceName name).map (·.toList), ∀ c ∈ piece,
        ¬ isDelimiter c) ↔
      ∀ c ∈ namespaceName.toList ++ name.toList, ¬ isDelimiter c := by
  -- As a search, since a statement about every character would be decided one by one.
  have fixed : ∀ s ∈ ["api", "v1", "namespaces", "secrets"],
      s.toList.any isDelimiter = false := by
    decide +kernel
  simp only [List.forall_mem_cons, List.any_eq_false] at fixed
  obtain ⟨api, v1, namespaces, secrets, -⟩ := fixed
  simp only [secretSegments, List.map_cons, List.map_nil, List.forall_mem_cons,
    List.forall_mem_append]
  constructor
  · rintro ⟨-, -, -, first, -, last, -⟩
    exact ⟨first, last⟩
  · rintro ⟨first, last⟩
    exact ⟨api, v1, namespaces, first, secrets, last, List.forall_mem_nil _⟩

theorem toList_of_target? {text target : String} (h : target? text = some target) :
    target.toList = text.toList.takeWhile (· != '#') := by
  unfold target? at h
  dsimp only at h
  split at h
  · cases h
    exact String.toList_ofList
  · exact nomatch h

variable {namespaceName name : String} {request : ApiRequest}

/-- A look-up only reads. Its target is joined from the place, up to a number sign. -/
theorem eq_of_getSecret? (h : getSecret? namespaceName name = some request) :
    request.method = "GET" ∧ request.body = none ∧ request.target.toList =
      '/' :: (['/'].intercalate ((secretSegments namespaceName name).map (·.toList))).takeWhile
        (· != '#') := by
  unfold getSecret? named? at h
  split at h
  · exact nomatch h
  · obtain ⟨target, kept, rfl⟩ := Option.map_eq_some_iff.mp h
    refine ⟨rfl, rfl, (toList_of_target? kept).trans ?_⟩
    rw [String.append_empty, toList_secretsPath, List.takeWhile_cons_of_pos (by decide)]

theorem isAt_secretSegments_iff (h : getSecret? namespaceName name = some request) :
    request.IsAt (secretSegments namespaceName name) ↔
      ∀ c ∈ namespaceName.toList ++ name.toList, ¬ isDelimiter c := by
  let pieces := (secretSegments namespaceName name).map (·.toList)
  let kept := (['/'].intercalate pieces).takeWhile (· != '#')
  have target : request.target.toList = '/' :: kept := (eq_of_getSecret? h).2.2
  have segments : request.segments = (kept.takeWhile (· != '?')).splitOn '/' := by
    rw [ApiRequest.segments, ApiRequest.path, target, List.takeWhile_cons_of_pos (by decide)]
    rfl
  have query : '?' ∈ request.target.toList ↔ '?' ∈ kept := by simp [target]
  calc request.IsAt (secretSegments namespaceName name)
    _ ↔ (kept.takeWhile (· != '?')).splitOn '/' = pieces ∧ '?' ∉ kept := by
      rw [← segments, ← query]
      exact ⟨fun here => ⟨here.place, here.noQuery⟩, fun here => ⟨here.1, here.2⟩⟩
    _ ↔ ∀ piece ∈ pieces, ∀ c ∈ piece, ¬ isDelimiter c :=
      splitOn_cut_iff (List.cons_ne_nil _ _) rfl
    _ ↔ ∀ c ∈ namespaceName.toList ++ name.toList, ¬ isDelimiter c :=
      undelimited_secretSegments_iff namespaceName name

end Api

namespace Notification

section Lookup

variable {n : Notification} {ref : NotificationRef} (server : ApiServer) (spans : List Span)
  (w : World (List ApiRequest))

/-- Nothing is sent for a reference that cannot be written down. -/
theorem run_credentials_of_none (refers : n.secretRef = .ok ref)
    (h : Api.getSecret? ref.namespaceName ref.name = none) :
    let ended := (n.credentials (.cluster server)).run spans w
    ended.2.objects = w.objects ∧ ended.1 = .error (.store (.api .unsendable)) := by
  intro ended
  have ran : ended = (.error (.store (.api .unsendable)), w.noting
      { events := [⟨.debug, Credentials.target, spans,
        "reading credentials from secret " ++ ref.path⟩] }) := by
    simp only [ended, Notification.credentials, refers, ObjectStore.cluster, h,
      Attempt.run_bind, Attempt.run_ofExcept, Attempt.run_log_noting, Attempt.run_mapError]
    rfl
  rw [ran]
  exact ⟨rfl, rfl⟩

theorem objects_credentials_of_some {request : ApiRequest} (refers : n.secretRef = .ok ref)
    (h : Api.getSecret? ref.namespaceName ref.name = some request) :
    ((n.credentials (.cluster server)).run spans w).2.objects = w.objects ++ [request] := by
  simp only [Notification.credentials, refers, ObjectStore.cluster, h,
    Attempt.run_bind, Attempt.run_ofExcept, Attempt.run_log_noting, Attempt.run_mapError,
    Api.run_perform]
  generalize Api.objectOf _ _ = answer
  cases answer <;> rfl

end Lookup

/-- A reference to the Secret `slack` in a namespace. -/
def slackRef (namespaceName : String) : NotificationRef :=
  ⟨"Secret", namespaceName, "slack", "v1"⟩

def slackIn (namespaceName : String) : Notification :=
  ⟨"alerts", .slack, some (slackRef namespaceName)⟩

def newWorld : World (List ApiRequest) :=
  { objects := [] }

/-- What a server that has nothing is asked for such a reference. -/
def askedOf (namespaceName : String) : List ApiRequest :=
  (((slackIn namespaceName).credentials (.cluster (.scripted []))).run [] newWorld).2.objects

/-- Where a Secret is read. For a reference that is good, either nothing is sent and the reading
fails, or there is one request, which only reads. It is at the place of the Secret that the
reference names if and only if there is no delimiter in the reference. -/
theorem credentials_isAt_iff (server : ApiServer) (n : Notification) (ref : NotificationRef)
    (refers : n.secretRef = .ok ref) (spans : List Span) (w : World (List ApiRequest)) :
    let ended := (n.credentials (.cluster server)).run spans w
    (ended.2.objects = w.objects ∧ ended.1 = .error (.store (.api .unsendable))) ∨
      ∃ request, ended.2.objects = w.objects ++ [request] ∧ request.method = "GET" ∧
        request.body = none ∧
        (request.IsAt (Api.secretSegments ref.namespaceName ref.name) ↔
          ∀ c ∈ ref.namespaceName.toList ++ ref.name.toList, ¬ Api.isDelimiter c) := by
  intro ended
  cases h : Api.getSecret? ref.namespaceName ref.name with
  | none => exact .inl (run_credentials_of_none server spans w refers h)
  | some request =>
    obtain ⟨reads, plain, -⟩ := Api.eq_of_getSecret? h
    exact .inr ⟨request, objects_credentials_of_some server spans w refers h, reads, plain,
      Api.isAt_secretSegments_iff h⟩

/-- The Secret of a plain reference is read at its place. -/
theorem credentials_isAt_plain :
    (slackIn "ops").secretRef = .ok (slackRef "ops") ∧
      ∃ request, askedOf "ops" = [request] ∧
        request.IsAt ["api", "v1", "namespaces", "ops", "secrets", "slack"] := by
  have refers : (slackIn "ops").secretRef = .ok (slackRef "ops") := by decide +kernel
  have found : Api.getSecret? "ops" "slack" = some (Api.secretInquiry "ops" "slack") :=
    Api.getSecret?_of_name (by decide +kernel) (by decide +kernel)
  have asked := objects_credentials_of_some (.scripted []) [] newWorld refers found
  obtain ⟨unsent, -⟩ | ⟨request, sent, -, -, place⟩ :=
    credentials_isAt_iff (.scripted []) (slackIn "ops") (slackRef "ops") refers [] newWorld
  · exact absurd (asked.symm.trans unsent) (by simp [newWorld])
  · exact ⟨refers, request, sent, place.mpr (List.any_eq_false.mp (by decide +kernel))⟩

/-- A question mark in the namespace makes the request one for a ConfigMap. -/
theorem not_credentials_isAt_configMap :
    (slackIn "ops/configmaps/settings?").secretRef = .ok (slackRef "ops/configmaps/settings?") ∧
      ∃ request, askedOf "ops/configmaps/settings?" = [request] ∧ request.method = "GET" ∧
        request.segments =
          ["api", "v1", "namespaces", "ops", "configmaps", "settings"].map (·.toList) ∧
        ¬ request.IsAt (Api.secretSegments "ops/configmaps/settings?" "slack") := by
  have refers : (slackIn "ops/configmaps/settings?").secretRef =
      .ok (slackRef "ops/configmaps/settings?") := by
    decide +kernel
  let request : ApiRequest :=
    ⟨"GET", "/api/v1/namespaces/ops/configmaps/settings?/secrets/slack", none⟩
  have named : "slack".isEmpty = false := by decide +kernel
  have kept : Api.target? (Api.secretsPath "ops/configmaps/settings?" ++ "/" ++ "slack" ++ "") =
      some request.target := by
    decide +kernel
  have found : Api.getSecret? "ops/configmaps/settings?" "slack" = some request := by
    rw [Api.getSecret?, Api.named?, named, kept]
    rfl
  have asked := objects_credentials_of_some (.scripted []) [] newWorld refers found
  refine ⟨refers, request, asked, rfl, by decide +kernel, fun place => ?_⟩
  exact absurd (List.any_eq_false.mpr ((Api.isAt_secretSegments_iff found).mp place))
    (by decide +kernel)

end Notification

end CleanupCourier
