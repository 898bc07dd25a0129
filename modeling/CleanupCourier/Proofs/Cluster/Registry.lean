import Mathlib.Data.List.TakeWhile
import CleanupCourier.Proofs.Cluster.ObjectName
import CleanupCourier.Proofs.Cluster.Objects
import CleanupCourier.Proofs.Store.Cluster

/-!
An API server that keeps Reports by name and Secrets by namespace and name, each as the JSON that it
was given. It finds out from the target of a request what the request is about. How it words its
answers is left open, as long as a JSON value is read back from them.
-/
namespace CleanupCourier

/-- What the path of a target leads to. -/
inductive Place where
  | reports
  | report (name : String)
  | secret (namespaceName name : String)
deriving DecidableEq

namespace Place

/-- The parts of the path between its slashes. -/
def segments (target : String) : List String :=
  ((target.toList.takeWhile (· != '?')).splitOn '/').map String.ofList

def ofTarget? (target : String) : Option Place :=
  match segments target with
  | ["", "apis", group, version, "reports"] =>
    if group = apiGroup ∧ version = apiVersion then some .reports else none
  | ["", "apis", group, version, "reports", name] =>
    if group = apiGroup ∧ version = apiVersion then some (.report name) else none
  | ["", "api", "v1", "namespaces", namespaceName, "secrets", name] =>
    some (.secret namespaceName name)
  | _ => none

/-- The parts between the slashes of a path. -/
structure IsRoute (path : String) (parts : List String) : Prop where
  ne : parts ≠ []
  eq : path.toList = ['/'].intercalate (parts.map String.toList)
  whole : ∀ part ∈ parts, '/' ∉ part.toList

theorem intercalate_snoc {parts : List (List Char)} (ne : parts ≠ []) (part : List Char) :
    ['/'].intercalate (parts ++ [part]) = ['/'].intercalate parts ++ '/' :: part := by
  induction parts with
  | nil => exact absurd rfl ne
  | cons first rest ih =>
    cases rest with
    | nil => simp [List.intercalate_cons_cons, List.intercalate_singleton]
    | cons second rest =>
      have more := ih (List.cons_ne_nil _ _)
      simp only [List.cons_append, List.intercalate_cons_cons, List.append_assoc] at more ⊢
      rw [more]

theorem IsRoute.snoc {path part : String} {parts : List String} (h : IsRoute path parts)
    (whole : '/' ∉ part.toList) : IsRoute (path ++ "/" ++ part) (parts ++ [part]) where
  ne := by simp
  eq := by
    have ne : parts.map String.toList ≠ [] := by simpa using h.ne
    rw [List.map_append, List.map_singleton, intercalate_snoc ne, ← h.eq, String.toList_append,
      String.toList_append, List.append_assoc]
    rfl
  whole := by
    simp only [List.forall_mem_append, List.forall_mem_singleton]
    exact ⟨h.whole, whole⟩

theorem segments_of_route {bound : Nat} {path ending : String} {parts : List String}
    (route : IsRoute path parts) (chars : Api.IsPath bound path)
    (h : ending = "" ∨ ending = "?") : segments (path ++ ending) = parts := by
  have noQuery : ∀ c ∈ path.toList, (c != '?') = true :=
    fun c mem => Api.ne_of_isPathChar (chars.chars c mem) (.inl rfl)
  have kept : (path ++ ending).toList.takeWhile (· != '?') = path.toList := by
    rw [String.toList_append, List.takeWhile_append_of_pos noQuery]
    obtain rfl | rfl := h <;> simp
  have whole : ∀ part ∈ parts.map String.toList, '/' ∉ part := by simpa using route.whole
  have ne : parts.map String.toList ≠ [] := by simpa using route.ne
  rw [segments, kept, route.eq, List.splitOn_intercalate '/' whole ne, List.map_map]
  simp [Function.comp_def]

theorem not_slash_of_name {name : String} (named : IsObjectName name) : '/' ∉ name.toList :=
  fun mem => absurd (named.chars '/' mem) (by decide)

theorem isRoute_reports :
    IsRoute Api.reportsPath ["", "apis", apiGroup, apiVersion, "reports"] where
  ne := by simp
  eq := by decide +kernel
  whole := by decide +kernel

/-- The slashes at the ends of two texts as texts of their own. -/
theorem append_slashes {front back first last middle slash : String} (h : front = first ++ slash)
    (h' : back = slash ++ last) :
    front ++ middle ++ back = first ++ slash ++ middle ++ slash ++ last := by
  rw [h, h', ← String.append_assoc]

theorem isRoute_secrets {namespaceName : String} (inside : IsObjectName namespaceName) :
    IsRoute (Api.secretsPath namespaceName)
      ["", "api", "v1", "namespaces", namespaceName, "secrets"] := by
  have first : IsRoute "/api/v1/namespaces" ["", "api", "v1", "namespaces"] :=
    ⟨by simp, by decide +kernel, by decide +kernel⟩
  have front : "/api/v1/namespaces/" = "/api/v1/namespaces" ++ "/" := by decide +kernel
  have back : "/secrets" = "/" ++ "secrets" := by decide +kernel
  have path : Api.secretsPath namespaceName = _ := append_slashes front back
  rw [path]
  exact (first.snoc (not_slash_of_name inside)).snoc (by decide)

/-! The requests of a client lead where they should. -/

section Requests

variable {name : String}

theorem ofTarget?_report {ending : String} (named : IsObjectName name)
    (h : ending = "" ∨ ending = "?") :
    ofTarget? (Api.reportsPath ++ "/" ++ name ++ ending) = some (.report name) := by
  have parts := segments_of_route (isRoute_reports.snoc (not_slash_of_name named))
    ((Api.isPath_reportsPath.append Api.isPath_slash).append (Api.isPath_name named)) h
  rw [ofTarget?, parts]
  simp

theorem ofTarget?_inquiry (named : IsObjectName name) :
    ofTarget? (Api.inquiry name).target = some (.report name) := by
  have report := ofTarget?_report named (.inl rfl)
  rwa [String.append_empty] at report

theorem ofTarget?_secretInquiry {namespaceName : String} (inside : IsObjectName namespaceName)
    (named : IsObjectName name) :
    ofTarget? (Api.secretInquiry namespaceName name).target =
      some (.secret namespaceName name) := by
  have parts := segments_of_route ((isRoute_secrets inside).snoc (not_slash_of_name named))
    (((Api.isPath_secretsPath inside).append Api.isPath_slash).append (Api.isPath_name named))
    (.inl rfl)
  rw [String.append_empty] at parts
  rw [ofTarget?, Api.secretInquiry, parts]
  simp

theorem ofTarget?_creation (report : Report) :
    ofTarget? (Api.creation report).target = some .reports := by
  rw [ofTarget?, Api.creation, segments_of_route isRoute_reports Api.isPath_reportsPath (.inr rfl)]
  simp

theorem ofTarget?_replacement {report : Report} (named : IsObjectName report.anyName) :
    ofTarget? (Api.replacement report).target = some (.report report.anyName) :=
  ofTarget?_report named (.inr rfl)

end Requests

end Place

/-- What a server does about a request: it gives a document, or refuses with a code. -/
inductive Reply where
  | document (status : Nat) (j : Json)
  | refusal (code : Nat)

namespace Reply

/-- What is kept under a name, if anything is. -/
def ofKept : Option Json → Reply
  | some j => .document 200 j
  | none => .refusal 404

end Reply

structure Registry where
  reports : KeyMap Json
  secrets : KeyMap (KeyMap Json)

namespace Registry

def secret? (r : Registry) (namespaceName name : String) : Option Json :=
  (r.secrets.find? namespaceName).bind (·.find? name)

def put (r : Registry) (name : String) (j : Json) : Registry :=
  { r with reports := r.reports.insert name j }

/-- The name that a document has in its metadata. -/
def nameOf? : Json → Option String
  | .object members =>
    match Json.lookup? "metadata" members with
    | some (.object metadata) =>
      match Json.lookup? "name" metadata with
      | some (.string name) => some name
      | _ => none
    | _ => none
  | _ => none

/-- Adds a document under the name that it has, if that is free. -/
def add (r : Registry) (j : Json) : Reply × Registry :=
  match nameOf? j with
  | none => (.refusal 422, r)
  | some name =>
    if r.reports.contains name then (.refusal 409, r) else (.document 201 j, r.put name j)

/-- Puts a document in the place of one that is there. -/
def replace (r : Registry) (name : String) (j : Json) : Reply × Registry :=
  if r.reports.contains name then (.document 200 j, r.put name j) else (.refusal 404, r)

def serve (r : Registry) (request : ApiRequest) : Reply × Registry :=
  match request.method, Place.ofTarget? request.target, request.body with
  | "GET", some (.report name), none => (.ofKept (r.reports.find? name), r)
  | "GET", some (.secret namespaceName name), none => (.ofKept (r.secret? namespaceName name), r)
  | "POST", some .reports, some j => r.add j
  | "PUT", some (.report name), some j => r.replace name j
  | _, _, _ => (.refusal 400, r)

theorem serve_inquiry (r : Registry) {name : String} (named : IsObjectName name) :
    r.serve (Api.inquiry name) = (.ofKept (r.reports.find? name), r) := by
  have method : (Api.inquiry name).method = "GET" := rfl
  have body : (Api.inquiry name).body = none := rfl
  simp only [serve, Place.ofTarget?_inquiry named, method, body]

theorem serve_secretInquiry (r : Registry) {namespaceName name : String}
    (inside : IsObjectName namespaceName) (named : IsObjectName name) :
    r.serve (Api.secretInquiry namespaceName name) =
      (.ofKept (r.secret? namespaceName name), r) := by
  have method : (Api.secretInquiry namespaceName name).method = "GET" := rfl
  have body : (Api.secretInquiry namespaceName name).body = none := rfl
  simp only [serve, Place.ofTarget?_secretInquiry inside named, method, body]

theorem serve_creation (r : Registry) (report : Report) :
    r.serve (Api.creation report) = r.add report.encode := by
  have method : (Api.creation report).method = "POST" := rfl
  have body : (Api.creation report).body = some report.encode := rfl
  simp only [serve, Place.ofTarget?_creation, method, body]

theorem serve_replacement (r : Registry) {report : Report} (named : IsObjectName report.anyName) :
    r.serve (Api.replacement report) = r.replace report.anyName report.encode := by
  have method : (Api.replacement report).method = "PUT" := rfl
  have body : (Api.replacement report).body = some report.encode := rfl
  simp only [serve, Place.ofTarget?_replacement named, method, body]

theorem lookup?_append (key : String) (front back : List (String × Json)) :
    Json.lookup? key (front ++ back) = (Json.lookup? key back).or (Json.lookup? key front) := by
  simp [Json.lookup?, List.find?_append, Option.map_or]

theorem lookup?_member? {α : Type} (key name : String) (encode : α → Json) (a : Option α) :
    Json.lookup? key (Json.member? name encode a) =
      if name = key then a.map encode else none := by
  cases a <;> by_cases same : name = key <;> simp [Json.lookup?, Json.member?, same]

/-- The name that an object is sent with is found in it. -/
theorem nameOf?_encodeObject (kind : String) (metadata : Metadata) (spec : Json) :
    nameOf? (encodeObject kind metadata spec) = metadata.name := by
  have place : Json.lookup? "metadata" [("apiVersion", .string apiGroupVersion),
      ("kind", .string kind), ("metadata", metadata.encode), ("spec", spec)] =
      some metadata.encode := rfl
  rw [encodeObject, nameOf?, place, Metadata.encode]
  simp only [lookup?_append, lookup?_member?]
  cases metadata.name <;> simp

/-- How a server puts its replies. Whatever it makes of a value is read as that value. -/
structure Manner where
  print : Json → String
  faithful : ∀ j, j.Writable → Json.read (print j).toList = ⟨j, false⟩
  reason : Nat → String
  message : ApiRequest → String

namespace Manner

/-- Documents without blanks, and refusals that name the target. -/
def plain : Manner where
  print := Json.render
  faithful _ written := Json.read_render written
  reason code := toString code
  message request := request.target

def answer (m : Manner) (request : ApiRequest) : Reply → ApiAnswer
  | .document status j => ⟨status, m.print j⟩
  | .refusal code => ⟨code, m.print (Api.statusJson code (m.reason code) (m.message request))⟩

theorem objectOf_document {α : Type} {decode : Decoder α} {encode : α → Json} {a : α}
    (m : Manner) (request : ApiRequest) (back : decode.Recovers encode a)
    (written : (encode a).Writable) {status : Nat} (accepts : status < 400) :
    Api.objectOf decode (m.answer request (.document status (encode a))) = .ok a := by
  have holds : (m.answer request (.document status (encode a))).Holds decode a :=
    ⟨fun refuses => Nat.not_le.mpr accepts refuses.1,
      Decode.text_of_read back (m.faithful _ written)⟩
  exact Api.objectOf_eq_ok_iff.mpr holds

theorem objectOf_refusal {α : Type} (decode : Decoder α) (m : Manner) (request : ApiRequest)
    {code : Nat} (refuses : 400 ≤ code ∧ code < 600) :
    Api.objectOf decode (m.answer request (.refusal code)) =
      .error (.refused code (m.reason code) (m.message request)) := by
  have stated : Api.refusal (m.answer request (.refusal code)) =
      .refused code (m.reason code) (m.message request) :=
    Api.refusal_of_read (by omega) (m.faithful _ (Api.writable_statusJson _ _ _))
  exact Api.objectOf_eq_error_iff.mpr (.inl ⟨refuses, stated⟩)

end Manner

/-- What is kept after requests. -/
def after (start : Registry) (requests : List ApiRequest) : Registry :=
  requests.foldl (fun r request => (r.serve request).2) start

/-- The server that starts out with a registry. -/
def server (start : Registry) (m : Manner) : ApiServer := fun requests =>
  match requests.getLast? with
  | some request => m.answer request ((start.after requests.dropLast).serve request).1
  | none => ApiServer.gone

theorem after_snoc (start : Registry) (requests : List ApiRequest) (request : ApiRequest) :
    start.after (requests ++ [request]) = ((start.after requests).serve request).2 := by
  simp [after]

theorem server_snoc (start : Registry) (m : Manner) (requests : List ApiRequest)
    (request : ApiRequest) :
    start.server m (requests ++ [request]) =
      m.answer request ((start.after requests).serve request).1 := by
  simp [server]

end Registry

end CleanupCourier
