import Mathlib.Data.List.Count
import Mathlib.Data.List.Induction
import Mathlib.Tactic.Common
import CleanupCourier.Metrics.Sample

/-!
What the metrics count. An observation raises counters by one, and two counters never share a line
of the exposed text, whatever their labels are: a label can be read back from its escaped form, and
the names of the families differ early on. So the number in a line is that of the observations that
raise its counter.
-/
namespace CleanupCourier

namespace Sample

/-- Reads a label back. -/
def unescape : List Char → List Char
  | '\\' :: 'n' :: rest => '\n' :: unescape rest
  | '\\' :: c :: rest => c :: unescape rest
  | c :: rest => c :: unescape rest
  | [] => []

theorem unescape_escapeLabel (s : String) : unescape (escapeLabel s).toList = s.toList := by
  rw [escapeLabel, String.toList_ofList]
  induction s.toList with
  | nil => rfl
  | cons c rest ih =>
    rw [List.flatMap_cons]
    split
    · exact congrArg _ ih
    · exact congrArg _ ih
    · exact congrArg _ ih
    · rename_i noBackslash _ _
      rw [List.singleton_append, unescape, ih]
      · exact fun _ eq _ => noBackslash eq
      · exact fun _ _ eq _ => noBackslash eq

theorem escapeLabel_injective : Function.Injective escapeLabel := by
  intro s s' h
  apply String.toList_injective
  rw [← unescape_escapeLabel s, h, unescape_escapeLabel s']

/-- A line begins with the name of its family. -/
theorem take_key (s : Sample) {n : Nat} (h : n ≤ s.family.name.toList.length) :
    s.key.toList.take n = s.family.name.toList.take n := by
  rw [key, String.toList_append, String.toList_append, List.append_assoc,
    List.take_append_of_le_length h]

/-- Samples of different families stand in different lines. -/
theorem family_eq_of_key {s s' : Sample} (known : s.family ∈ Metrics.families)
    (known' : s'.family ∈ Metrics.families) (h : s.key = s'.key) : s.family = s'.family := by
  have long : ∀ f ∈ Metrics.families, 23 ≤ f.name.toList.length := by decide
  have apart : ∀ f ∈ Metrics.families, ∀ f' ∈ Metrics.families,
      f.name.toList.take 23 = f'.name.toList.take 23 → f = f' := by decide
  apply apart _ known _ known'
  rw [← s.take_key (long _ known), ← s'.take_key (long _ known'), h]

end Sample

/-- What is counted. -/
inductive Counter where
  /-- Attempts at notifications of a type, by how they ended. -/
  | attempts (label : String) (isSuccess : Bool)
  /-- Durations of such attempts that were measured. -/
  | durations (label : String)
  /-- Reports that were created, or updated. -/
  | writes (operation : WriteOperation)
  /-- Runs that a failure ended. -/
  | aborts
deriving DecidableEq

namespace Counter

/-- The line of a counter. -/
def sample : Counter → Sample
  | .attempts label isSuccess =>
    { family := Metrics.notifications
      labels := [("outcome", Metrics.outcome isSuccess), ("type", label)] }
  | .durations label =>
    { family := Metrics.durations, ending := "_count", labels := [("type", label)] }
  | .writes operation =>
    { family := Metrics.reportsWritten, labels := [("operation", operation.name)] }
  | .aborts => { family := Metrics.dispatchesAborted }

/-- Where the family of a counter stands among all families. -/
def place : Counter → Nat
  | .aborts => 0
  | .durations _ => 1
  | .attempts _ _ => 2
  | .writes _ => 3

theorem getElem?_families (c : Counter) : Metrics.families[c.place]? = some c.sample.family := by
  cases c <;> rfl

theorem family_mem (c : Counter) : c.sample.family ∈ Metrics.families :=
  List.mem_of_getElem? c.getElem?_families

theorem place_eq_of_key {c c' : Counter} (h : c.sample.key = c'.sample.key) :
    c.place = c'.place := by
  have family := Sample.family_eq_of_key c.family_mem c'.family_mem h
  have distinct : Metrics.families.Nodup := by decide
  have within : c.place < Metrics.families.length :=
    (List.getElem?_eq_some_iff.mp c.getElem?_families).1
  refine (List.getElem?_inj within distinct).mp ?_
  rw [c.getElem?_families, c'.getElem?_families, family]

/-- How an attempt ended is told in as many characters, whichever way it was. -/
theorem key_attempts (label : String) (isSuccess : Bool) :
    (attempts label isSuccess).sample.key = Metrics.notifications.name ++ "\x7boutcome=\"" ++
      Metrics.outcome isSuccess ++ "\",type=\"" ++ Sample.escapeLabel label ++ "\"\x7d" := by
  cases isSuccess <;>
    exact String.toList_injective
      (by simp [sample, Sample.key, Metrics.outcome, Sample.escapeLabel])

theorem key_durations (label : String) :
    (durations label).sample.key = Metrics.durations.name ++ "_count\x7btype=\"" ++
      Sample.escapeLabel label ++ "\"\x7d" :=
  String.toList_injective (by simp [sample, Sample.key])

theorem key_injective : Function.Injective fun c : Counter => c.sample.key := by
  intro c c' h
  replace h : c.sample.key = c'.sample.key := h
  have place := place_eq_of_key h
  cases c with
  | attempts label isSuccess =>
    cases c' with
    | attempts label' isSuccess' =>
      rw [key_attempts, key_attempts] at h
      obtain rfl : isSuccess = isSuccess' := by
        have chars := congrArg String.toList h
        cases isSuccess <;> cases isSuccess' <;> simp [Metrics.outcome] at chars ⊢
      have same : Sample.escapeLabel label = Sample.escapeLabel label' := by simpa using h
      rw [Sample.escapeLabel_injective same]
    | _ => exact nomatch place
  | durations label =>
    cases c' with
    | durations label' =>
      rw [key_durations, key_durations] at h
      have same : Sample.escapeLabel label = Sample.escapeLabel label' := by simpa using h
      rw [Sample.escapeLabel_injective same]
    | _ => exact nomatch place
  | writes operation =>
    cases c' with
    | writes operation' =>
      cases operation <;> cases operation' <;> first | rfl | exact absurd h (by decide)
    | _ => exact nomatch place
  | aborts =>
    cases c' with
    | aborts => rfl
    | _ => exact nomatch place

end Counter

/-- The counters that an observation raises. -/
def Observation.counters : Observation → List Counter
  | .attempted label isSuccess => [.attempts label isSuccess, .durations label]
  | .reportWritten operation => [.writes operation]
  | .aborted => [.aborts]

theorem Observation.samples_eq (o : Observation) : o.samples = o.counters.map Counter.sample := by
  cases o <;> rfl

namespace Metrics

/-- The number in a line is that of the samples whose line it is. -/
theorem find?_increases (samples : List Sample) (key : String) :
    ((increases samples).find? key).getD 0 = (samples.map Sample.key).count key := by
  induction samples using List.reverseRecOn with
  | nil => rfl
  | append_singleton samples s ih =>
    have step : increases (samples ++ [s]) = (increases samples).insert s.key
        (((increases samples).find? s.key).getD 0 + 1) := by
      rw [increases, List.foldl_append]
      rfl
    rw [step, List.map_append, List.count_append]
    by_cases here : s.key = key
    · subst here
      rw [KeyMap.find?_insert_self, Option.getD_some, ih, List.map_singleton,
        List.count_singleton_self]
    · rw [KeyMap.find?_insert_of_ne _ _ (Ne.symm here), ih, List.map_singleton,
        List.count_singleton, if_neg (by simpa using here), Nat.add_zero]

/-- How much some observations raise a counter, as its line tells. -/
def raised (observations : List Observation) (c : Counter) : Nat :=
  ((increases (observations.flatMap Observation.samples)).find? c.sample.key).getD 0

/-- Nothing is counted but what raises the counter. -/
theorem raised_eq_count (observations : List Observation) (c : Counter) :
    raised observations c = (observations.flatMap Observation.counters).count c := by
  have lines : (observations.flatMap Observation.samples).map Sample.key =
      (observations.flatMap Observation.counters).map fun c => c.sample.key := by
    simp only [List.map_flatMap, Observation.samples_eq, List.map_map]
    rfl
  rw [raised, find?_increases, lines]
  exact List.count_map_of_injective _ _ Counter.key_injective c

theorem raised_append (before more : List Observation) (c : Counter) :
    raised (before ++ more) c = raised before c + raised more c := by
  rw [raised_eq_count, List.flatMap_append, List.count_append, ← raised_eq_count,
    ← raised_eq_count]

/-- How much some observations raise several counters together. -/
def raisedTogether (observations : List Observation) : List Counter → Nat
  | [] => 0
  | c :: rest => raised observations c + raisedTogether observations rest

theorem raisedTogether_append (before more : List Observation) (counters : List Counter) :
    raisedTogether (before ++ more) counters =
      raisedTogether before counters + raisedTogether more counters := by
  induction counters with
  | nil => rfl
  | cons c rest ih =>
    rw [raisedTogether, raisedTogether, raisedTogether, raised_append, ih]
    omega

theorem raisedTogether_eq_zero {observations : List Observation} {counters : List Counter}
    (none : ∀ c ∈ counters, raised observations c = 0) :
    raisedTogether observations counters = 0 := by
  induction counters with
  | nil => rfl
  | cons c rest ih =>
    obtain ⟨first, others⟩ := List.forall_mem_cons.mp none
    rw [raisedTogether, first, ih others]

theorem raised_singleton (o : Observation) (c : Counter) :
    raised [o] c = o.counters.count c := by
  rw [raised_eq_count, List.flatMap_singleton]

end Metrics

end CleanupCourier
