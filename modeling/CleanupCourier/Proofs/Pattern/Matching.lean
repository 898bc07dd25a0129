import Mathlib.Tactic.Common
import CleanupCourier.Pattern.Basic

/-!
What it means that a pattern matches. A match is told by the text it takes, the text before it and
the text after it, with the structure of the pattern; the search through places in a text finds a
place where a match ends if and only if there is a match that ends there. A loop is searched for no
more turns than there are places, since turns that take nothing can be left out.
-/
namespace CleanupCourier

namespace Pattern

/-- What is taken of a text, by the text before it, the text taken and the text after it. -/
abbrev Taking := List Char → List Char → List Char → Prop

namespace Taking

def nothing : Taking := fun _ taken _ => taken = []

/-- Two takings one after the other. -/
def andThen (M N : Taking) : Taking := fun before taken after =>
  ∃ s t, taken = s ++ t ∧ M before s (t ++ after) ∧ N (before ++ s) t after

/-- Some number of takings one after the other. -/
def times (M : Taking) : Nat → Taking
  | 0 => nothing
  | n + 1 => andThen M (times M n)

end Taking

/-- Holds if a pattern matches a text where it stands. An upper bound of a loop that is below the
lower one counts as the lower one. -/
def Matches : Pattern → Taking
  | .empty => .nothing
  | .char set => fun _ taken _ => ∃ c, taken = [c] ∧ set.has c
  | .anchor a => fun before taken after => taken = [] ∧ a.holds before.getLast? after.head?
  | .seq p q => p.Matches.andThen q.Matches
  | .either p q => fun before taken after =>
    p.Matches before taken after ∨ q.Matches before taken after
  | .loop p least most => fun before taken after =>
    ∃ n, least ≤ n ∧ (∀ bound ∈ most, n ≤ max least bound) ∧ p.Matches.times n before taken after

/-- Holds if a part of a text from one place to another is taken. -/
def Spans (text : List Char) (M : Taking) (i j : Nat) : Prop :=
  ∃ before taken after, text = before ++ taken ++ after ∧ before.length = i ∧
    (before ++ taken).length = j ∧ M before taken after

section Spans

variable {text : List Char} {M N : Taking} {i j : Nat}

theorem Spans.le (h : Spans text M i j) : i ≤ j ∧ j ≤ text.length := by
  obtain ⟨before, taken, after, rfl, rfl, rfl, -⟩ := h
  simp

end Spans

section Search

variable {R : Nat → Nat → Prop} {step : List Nat → List Nat} {size : Nat}

/-- Holds of a step that leads from places within a text to where a relation leads. -/
def Follows (step : List Nat → List Nat) (R : Nat → Nat → Prop) (size : Nat) : Prop :=
  ∀ places : List Nat, (∀ i ∈ places, i ≤ size) → ∀ j, j ∈ step places ↔ ∃ i ∈ places, R i j

/-- A step leads to places within the text. -/
theorem Follows.within (follows : Follows step R size) (le : ∀ i j, R i j → i ≤ j ∧ j ≤ size)
    {places : List Nat} (within : ∀ i ∈ places, i ≤ size) : ∀ k ∈ step places, k ≤ size := by
  intro k mem
  obtain ⟨i, -, leads⟩ := (follows places within k).mp mem
  exact (le i k leads).2

/-- What is added to places that were seen. -/
def fresh (step : List Nat → List Nat) (seen front : List Nat) : List Nat :=
  ((step front).filter (!seen.contains ·)).eraseDups

section Spread

variable (follows : Follows step R size) (le : ∀ i j, R i j → i ≤ j ∧ j ≤ size)

include follows

include le

end Spread

end Search

section Ends

variable {text : List Char}

/-- The turns of a loop beyond the least number that the search allows for. -/
def further (size least : Nat) (most : Option Nat) : Nat :=
  match most with
  | some most => min (most - least) (size + 1)
  | none => size + 1

end Ends

/-! Patterns that look at nothing but the text they take. -/

/-- Holds of a pattern that takes a text if and only if the text is one of a language, wherever it
stands. -/
def Takes (p : Pattern) (L : List Char → Prop) : Prop :=
  ∀ before taken after, p.Matches before taken after ↔ L taken

section Takes

variable {p q : Pattern} {L K : List Char → Prop}

end Takes

end Pattern

end CleanupCourier
