import CleanupCourier.Domain.CompositionTable

/-!
The composed normal form of text: every character is taken apart, marks after a character are put in
the order of their classes, and then characters and marks are combined where they can be.
-/
namespace CleanupCourier

namespace Domain

def combiningClass (c : Char) : Nat :=
  match combiningClasses.find? c.toNat with
  | some (k :: _) => k
  | _ => 0

def hangulBase : Nat := 0xAC00

/-- The letters of a Hangul syllable. -/
def hangulParts (index : Nat) : List Char :=
  let tail := index % 28
  [Char.ofNat (0x1100 + index / 588), Char.ofNat (0x1161 + index / 28 % 21)] ++
    if tail = 0 then [] else [Char.ofNat (0x11A7 + tail)]

def decompose (c : Char) : List Char :=
  let n := c.toNat
  if hangulBase ≤ n ∧ n < hangulBase + 11172 then hangulParts (n - hangulBase)
  else
    match decompositions.find? n with
    | some codes => codes.map Char.ofNat
    | none => [c]

/-- The pair that a list of numbers maps `second` to. -/
def pairedWith? (second : Nat) : List Nat → Option Nat
  | a :: b :: rest => if a = second then some b else pairedWith? second rest
  | _ => none

def compose? (a b : Char) : Option Char :=
  let x := a.toNat
  let y := b.toNat
  if 0x1100 ≤ x ∧ x < 0x1113 ∧ 0x1161 ≤ y ∧ y < 0x1176 then
    some (Char.ofNat (hangulBase + ((x - 0x1100) * 21 + (y - 0x1161)) * 28))
  else if hangulBase ≤ x ∧ x < hangulBase + 11172 ∧ (x - hangulBase) % 28 = 0 ∧
      0x11A8 ≤ y ∧ y < 0x11C3 then
    some (Char.ofNat (x + (y - 0x11A7)))
  else
    ((compositions.find? x).bind (pairedWith? y)).map Char.ofNat

/-- Puts a character after those of a lower or the same class; a class of zero stays in place. -/
def insertMark (c : Char) (k : Nat) : List (Char × Nat) → List (Char × Nat)
  | [] => [(c, k)]
  | (d, m) :: rest =>
    if k = 0 ∨ m = 0 ∨ m ≤ k then (c, k) :: (d, m) :: rest else (d, m) :: insertMark c k rest

/-- Orders marks by their classes; takes and gives the text backwards. -/
def orderMarks (s : List Char) : List (Char × Nat) :=
  s.foldl (fun done c => insertMark c (combiningClass c) done) []

/-- What has been composed so far: finished text backwards, the character that takes marks, the
marks after it that stay, backwards, and the class of the last of them. -/
structure Composing where
  finished : List Char
  base : Option Char
  kept : List Char
  lastClass : Nat

def Composing.flush (s : Composing) : List Char :=
  match s.base with
  | some b => s.kept ++ b :: s.finished
  | none => s.kept ++ s.finished

def Composing.add (s : Composing) (c : Char) (k : Nat) : Composing :=
  let blocked := !s.kept.isEmpty && (s.lastClass == 0 || k ≤ s.lastClass)
  let combined? := if blocked then none else s.base.bind (compose? · c)
  match combined? with
  | some d => { s with base := some d }
  | none =>
    if k = 0 then ⟨s.flush, some c, [], 0⟩ else { s with kept := c :: s.kept, lastClass := k }

def composed (s : List Char) : List Char :=
  let ordered := (orderMarks (s.flatMap decompose)).reverse
  let start : Composing := ⟨[], none, [], 0⟩
  (ordered.foldl (fun state (c, k) => state.add c k) start).flush.reverse

end Domain

end CleanupCourier
