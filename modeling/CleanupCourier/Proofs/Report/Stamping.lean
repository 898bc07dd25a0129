import Mathlib.Data.List.Forall2
import CleanupCourier.Proofs.Time.Stamp
import CleanupCourier.Proofs.Time.Succession
import CleanupCourier.Report.Generation

/-!
What can be read back from the entries of a report. Every message has the same stamp behind it, and
no stamp has the mark in it that sets it off: so a message is what stands before the last mark, even
if it has marks of its own, and the stamp behind it tells the second in which the report was made.
-/
namespace CleanupCourier

/-- Holds of the parts of a text before and behind the last place where a mark stands in it. -/
structure IsLastCut (mark text front back : String) : Prop where
  parts : text = front ++ mark ++ back
  last (front' back' : String) : text = front' ++ mark ++ back' → front'.length ≤ front.length

namespace IsLastCut

variable {mark text front back front' back' : String}

/-- A text can be cut in one way. -/
theorem unique (h : IsLastCut mark text front back) (h' : IsLastCut mark text front' back') :
    front = front' ∧ back = back' := by
  have parts : front.toList ++ (mark.toList ++ back.toList) =
      front'.toList ++ (mark.toList ++ back'.toList) := by
    simpa using congrArg String.toList (h.parts.symm.trans h'.parts)
  have length : front.toList.length = front'.toList.length :=
    Nat.le_antisymm (h'.last front back h.parts) (h.last front' back' h'.parts)
  obtain ⟨fronts, rest⟩ := List.append_inj parts length
  exact ⟨String.toList_injective fronts, String.toList_injective (List.append_cancel_left rest)⟩

/-- A mark whose first character comes neither later in it nor behind it stands there for the last
time: a later one would begin with that character. -/
theorem of_notMem {c : Char} {rest : List Char} (starts : mark.toList = c :: rest) (hr : c ∉ rest)
    (hb : c ∉ back.toList) (front : String) :
    IsLastCut mark (front ++ mark ++ back) front back where
  parts := rfl
  last front' back' parts := by
    have lists : front.toList ++ (c :: (rest ++ back.toList)) =
        front'.toList ++ (c :: (rest ++ back'.toList)) := by
      simpa [starts] using congrArg String.toList parts
    obtain ⟨more, longer, behind⟩ | ⟨more, shorter, -⟩ := List.append_eq_append_iff.mp lists
    · cases more with
      | nil =>
        rw [List.append_nil] at longer
        exact Nat.le_of_eq (congrArg List.length longer)
      | cons d more =>
        obtain ⟨-, behind⟩ := List.cons.inj behind
        have later : c ∈ rest ++ back.toList := by simp [behind]
        exact ((List.mem_append.mp later).elim hr hb).elim
    · have longest : front'.toList.length ≤ front.toList.length := by simp [shorter]
      exact longest

end IsLastCut

theorem dot_notMem_paddedDigits (width n : Nat) : '.' ∉ paddedDigits width n :=
  fun mem => absurd (isDigit_paddedDigits mem) (by decide)

theorem dot_notMem_yearChars (y : Int) : '.' ∉ yearChars y := by
  unfold yearChars
  split
  · exact dot_notMem_paddedDigits _ _
  · have sign : '.' ≠ if y < 0 then '-' else '+' := by split <;> decide
    simp [sign, dot_notMem_paddedDigits]

/-- The mark before a stamp begins with a character that no stamp has. -/
theorem Instant.dot_notMem_stamp (t : Instant) : '.' ∉ t.stamp.toList := by
  simp [stamp, stampChars, dot_notMem_paddedDigits, dot_notMem_yearChars]

/-- From the entries of a report its results are read back. There is one entry for each result in
order, about the same resource; the message of the result is what stands in that of the entry before
the last mark, whatever marks it has of its own, and the stamp behind it is the same for all. It is
the time stamp of the second in which the report was made, with the date that is reached from
1 January 1970 by counting the days. -/
theorem ReportSpec.generate_readable {t : Instant} (h : t.isInRange) (results : List ResourceResult)
    (action : Action) :
    let report := generate results action t
    report.action = action ∧
    List.Forall₂ (fun r info => info.resource = r.resource ∧
      info.message = r.message ++ ". time: " ++ t.stamp ∧
      ∀ front back, IsLastCut ". time: " info.message front back ↔
        front = r.message ∧ back = t.stamp) results report.resources ∧
    ¬ ". time: ".toList <:+: t.stamp.toList ∧
    Stamp.read t.stamp.toList = .ok t.truncated ∧ t.date.IsDay (t.seconds / 86400) := by
  intro report
  have cut (message : String) :
      IsLastCut ". time: " (message ++ ". time: " ++ t.stamp) message t.stamp :=
    .of_notMem rfl (by decide) t.dot_notMem_stamp message
  refine ⟨rfl, ?_, fun inside => ?_, ?_, Date.isDay_ofDayNumber _⟩
  · refine List.forall₂_map_right_iff.mpr (List.forall₂_same.mpr fun r _ => ?_)
    refine ⟨rfl, rfl, fun front back => ⟨fun other => ?_, ?_⟩⟩
    · exact other.unique (cut r.message)
    · rintro ⟨rfl, rfl⟩
      exact cut _
  · exact t.dot_notMem_stamp (inside.subset (by decide))
  · rw [Instant.stamp, String.toList_ofList]
    exact Stamp.read_stampChars h

/-- A report made in the last leap second that there may be, about a message with a mark of its
own. -/
theorem ReportSpec.generate_readable_last :
    let t : Instant := ⟨Instant.lastSecond, 1500000000⟩
    let result : ResourceResult := ⟨⟨"ops", "a", "Pod", "v1"⟩, "late. time: "⟩
    let message := "late. time: . time: +262142-12-31T23:59:60Z"
    t.isInRange ∧ (generate [result] .scan t).resources = [⟨result.resource, message⟩] ∧
      IsLastCut ". time: " message "late. time: " "+262142-12-31T23:59:60Z" ∧
      Stamp.read "+262142-12-31T23:59:60Z".toList = .ok ⟨Instant.lastSecond, 1000000000⟩ := by
  intro t result message
  have inRange : t.isInRange := by decide
  have stamp : t.stamp = "+262142-12-31T23:59:60Z" := by decide +kernel
  have entries : (generate [result] .scan t).resources = [⟨result.resource, message⟩] := by
    decide +kernel
  obtain ⟨-, cuts, -, read, -⟩ := generate_readable inRange [result] .scan
  rw [entries, List.forall₂_cons] at cuts
  obtain ⟨⟨-, -, cut⟩, -⟩ := cuts
  have second : t.truncated = ⟨Instant.lastSecond, 1000000000⟩ := by decide
  rw [stamp, second] at read
  exact ⟨inRange, entries, (cut _ _).mpr ⟨rfl, stamp.symm⟩, read⟩

end CleanupCourier
