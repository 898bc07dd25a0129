import Mathlib.Data.String.Basic
import Mathlib.Tactic.Common
import CleanupCourier.Cluster.Api

/-!
Names of objects, and the requests for objects with such names. None of their characters has a
meaning in a target and they are short, so every request for such an object can be written down, and
its target is the place of the object followed by the name as it is.
-/
namespace CleanupCourier

/-- Lower-case letters, digits, hyphens and dots. -/
def isNameChar (c : Char) : Bool :=
  c.isLower || c.isDigit || c == '-' || c == '.'

/-- What an object may be called. Where dots and hyphens may stand is left open, so this holds of
more than the names that a cluster takes. -/
structure IsObjectName (name : String) : Prop where
  nonempty : name ≠ ""
  short : name.length ≤ 253
  chars : ∀ c ∈ name.toList, isNameChar c

instance (name : String) : Decidable (IsObjectName name) :=
  decidable_of_iff (name ≠ "" ∧ name.length ≤ 253 ∧ name.toList.all isNameChar)
    ⟨fun h => ⟨h.1, h.2.1, List.all_eq_true.mp h.2.2⟩,
      fun h => ⟨h.nonempty, h.short, List.all_eq_true.mpr h.chars⟩⟩

theorem toNat_of_isNameChar {c : Char} (h : isNameChar c) :
    c.toNat = 45 ∨ c.toNat = 46 ∨ 48 ≤ c.toNat ∧ c.toNat ≤ 57 ∨ 97 ≤ c.toNat ∧ c.toNat ≤ 122 := by
  have lower : c.isLower = (decide (97 ≤ c.toNat) && decide (c.toNat ≤ 122)) := rfl
  have digit : c.isDigit = (decide (48 ≤ c.toNat) && decide (c.toNat ≤ 57)) := rfl
  simp only [isNameChar, lower, digit, Bool.or_eq_true, Bool.and_eq_true, decide_eq_true_eq,
    beq_iff_eq] at h
  obtain ((lower | digit) | rfl) | rfl := h
  · exact .inr (.inr (.inr lower))
  · exact .inr (.inr (.inl digit))
  · exact .inl rfl
  · exact .inr (.inl rfl)

namespace Api

theorem isPathChar_of_isNameChar {c : Char} (h : isNameChar c) : isPathChar c := by
  have code := toNat_of_isNameChar h
  simp only [isPathChar, Bool.or_eq_true, Bool.and_eq_true, decide_eq_true_eq, beq_iff_eq]
  omega

/-- What ends a path in a target does not stand in one. -/
theorem ne_of_isPathChar {c mark : Char} (h : isPathChar c) (ends : mark = '?' ∨ mark = '#') :
    (c != mark) = true := by
  rw [bne_iff_ne]
  intro eq
  obtain rfl | rfl := ends
  all_goals
    subst eq
    exact absurd h (by decide)

/-- A text of at most `bound` characters, all of which can stand in the path of a target. -/
structure IsPath (bound : Nat) (text : String) : Prop where
  short : text.length ≤ bound
  chars : ∀ c ∈ text.toList, isPathChar c

theorem IsPath.append {m n : Nat} {a b : String} (ha : IsPath m a) (hb : IsPath n b) :
    IsPath (m + n) (a ++ b) where
  short := by
    rw [String.length_append]
    exact Nat.add_le_add ha.short hb.short
  chars := by
    rw [String.toList_append, List.forall_mem_append]
    exact ⟨ha.chars, hb.chars⟩

theorem isPath_name {name : String} (named : IsObjectName name) : IsPath 253 name where
  short := named.short
  chars c mem := isPathChar_of_isNameChar (named.chars c mem)

theorem isPath_of_all {bound : Nat} {text : String}
    (h : text.length ≤ bound ∧ text.toList.all isPathChar) : IsPath bound text :=
  ⟨h.1, List.all_eq_true.mp h.2⟩

theorem isPath_slash : IsPath 1 "/" :=
  isPath_of_all (by decide +kernel)

theorem isPath_reportsPath : IsPath 45 reportsPath :=
  isPath_of_all (by decide +kernel)

theorem isPath_secretsPath {namespaceName : String} (named : IsObjectName namespaceName) :
    IsPath 280 (secretsPath namespaceName) := by
  have front : IsPath 19 "/api/v1/namespaces/" := isPath_of_all (by decide +kernel)
  have back : IsPath 8 "/secrets" := isPath_of_all (by decide +kernel)
  exact (front.append (isPath_name named)).append back

theorem utf8ByteSize_le (text : String) : text.utf8ByteSize ≤ 4 * text.length := by
  obtain ⟨cs, rfl⟩ : ∃ cs, text = String.ofList cs := ⟨text.toList, by simp⟩
  rw [String.utf8ByteSize_ofList, String.length_ofList]
  induction cs with
  | nil => simp
  | cons c cs ih =>
    have size := c.utf8Size_le_four
    simp only [String.utf8Len_cons, List.length_cons]
    omega

/-- A path is sent as it is, also with the question mark that opens an empty query. -/
theorem target?_append {bound : Nat} {text ending : String} (path : IsPath bound text)
    (short : bound ≤ 10000) (h : ending = "" ∨ ending = "?") :
    target? (text ++ ending) = some (text ++ ending) := by
  have noQuery : ∀ c ∈ text.toList, (c != '?') = true :=
    fun c mem => ne_of_isPathChar (path.chars c mem) (.inl rfl)
  have noHash : ∀ c ∈ text.toList, (c != '#') = true :=
    fun c mem => ne_of_isPathChar (path.chars c mem) (.inr rfl)
  have size : (text ++ ending).utf8ByteSize ≤ maxTargetSize := by
    have bytes := utf8ByteSize_le (text ++ ending)
    have mark : ending.length ≤ 1 := by obtain rfl | rfl := h <;> decide
    have length := path.short
    simp only [String.length_append] at bytes
    simp only [maxTargetSize]
    omega
  have kept : (text ++ ending).toList.takeWhile (· != '#') = text.toList ++ ending.toList := by
    rw [String.toList_append, List.takeWhile_append_of_pos noHash]
    obtain rfl | rfl := h <;> rfl
  have before : (text.toList ++ ending.toList).takeWhile (· != '?') = text.toList := by
    rw [List.takeWhile_append_of_pos noQuery]
    obtain rfl | rfl := h <;> simp
  have after : ((text.toList ++ ending.toList).dropWhile (· != '?')).drop 1 = [] := by
    rw [List.dropWhile_append_of_pos noQuery]
    obtain rfl | rfl := h <;> simp
  have chars : text.toList.all isPathChar = true := List.all_eq_true.mpr path.chars
  simp only [target?, kept, before, after, chars, size]
  simp [String.ofList_append]

/-- A request for an object with a valid name can be written down. -/
theorem named?_of_name {bound : Nat} {method place name ending : String} {body : Option Json}
    (path : IsPath bound place) (short : bound ≤ 1000) (named : IsObjectName name)
    (h : ending = "" ∨ ending = "?") :
    named? method place name ending body =
      some ⟨method, place ++ "/" ++ name ++ ending, body⟩ := by
  have nonempty : name.isEmpty = false := by simpa using named.nonempty
  have target := target?_append ((path.append isPath_slash).append (isPath_name named)) (by omega) h
  rw [named?, nonempty, target]
  rfl

/-- Asks for the Report under a name. -/
def inquiry (name : String) : ApiRequest :=
  ⟨"GET", reportsPath ++ "/" ++ name, none⟩

/-- Asks for the Secret under a namespace and a name. -/
def secretInquiry (namespaceName name : String) : ApiRequest :=
  ⟨"GET", secretsPath namespaceName ++ "/" ++ name, none⟩

/-- Asks to add a Report. -/
def creation (report : Report) : ApiRequest :=
  ⟨"POST", reportsPath ++ "?", some report.encode⟩

/-- Asks to put a Report in the place of the one with its name. -/
def replacement (report : Report) : ApiRequest :=
  ⟨"PUT", reportsPath ++ "/" ++ report.anyName ++ "?", some report.encode⟩

theorem getReport?_of_name {name : String} (named : IsObjectName name) :
    getReport? name = some (inquiry name) := by
  rw [getReport?, named?_of_name isPath_reportsPath (by decide) named (.inl rfl),
    String.append_empty, inquiry]

theorem getSecret?_of_name {namespaceName name : String} (inside : IsObjectName namespaceName)
    (named : IsObjectName name) :
    getSecret? namespaceName name = some (secretInquiry namespaceName name) := by
  rw [getSecret?, named?_of_name (isPath_secretsPath inside) (by decide) named (.inl rfl),
    String.append_empty, secretInquiry]

/-- A creation goes to the place of all Reports, whatever the Report is called. -/
theorem createReport?_eq (report : Report) : createReport? report = some (creation report) := by
  rw [createReport?, target?_append isPath_reportsPath (by decide) (.inr rfl)]
  rfl

theorem replaceReport?_of_name {report : Report} (named : IsObjectName report.anyName) :
    replaceReport? report = some (replacement report) :=
  named?_of_name isPath_reportsPath (by decide) named (.inr rfl)

end Api

end CleanupCourier
