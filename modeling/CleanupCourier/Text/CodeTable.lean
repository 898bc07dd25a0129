import CleanupCourier.Text.CodeRanges

/-!
Tables from code points to short lists of numbers. Written down, an entry is the step from the key
before it, how many numbers it has, and the numbers.
-/
namespace CleanupCourier

structure CodeTable where
  keys : Array Nat
  values : Array (List Nat)

namespace CodeTable

def find? (t : CodeTable) (n : Nat) : Option (List Nat) :=
  let i := rank t.keys n
  if 0 < i ∧ t.keys.getD (i - 1) 0 = n then t.values[i - 1]? else none

/-- The entries after the key `last`, put behind those found so far. -/
def readEntries (last : Nat) (t : CodeTable) : List Nat → CodeTable
  | step :: count :: rest =>
    readEntries (last + step) ⟨t.keys.push (last + step), t.values.push (rest.take count)⟩
      (rest.drop count)
  | _ => t
termination_by numbers => numbers.length
decreasing_by simp only [List.length_drop, List.length_cons]; omega

def ofSteps (text : String) : CodeTable :=
  readEntries 0 ⟨#[], #[]⟩ (blankSeparatedNumbers text)

end CodeTable

end CleanupCourier
