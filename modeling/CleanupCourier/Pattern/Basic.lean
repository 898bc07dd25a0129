import CleanupCourier.Pattern.Folding

/-!
Patterns over text and where they match. A pattern leads from places in a text to places: `ends`
gives all places at which a match can end that starts at one of the given places. Which of several
matches a search would take plays no part, since only whether there is one is asked.
-/
namespace CleanupCourier

/-- A set of characters. -/
inductive CharSet where
  | range (low high : Char)
  | table (set : CodeRanges)
  | union (a b : CharSet)
  | meet (a b : CharSet)
  | minus (a b : CharSet)
  | either (a b : CharSet)
  | negated (a : CharSet)
  /-- Holds of all variants of a character that differ in case only, if of one. -/
  | caseless (a : CharSet)

namespace CharSet

def variants (c : Char) : List Char :=
  c :: ((Pattern.caseVariants.find? c.toNat).getD []).map Char.ofNat

def has : CharSet → Char → Bool
  | .range low high, c => low ≤ c && c ≤ high
  | .table set, c => set.has c
  | .union a b, c => a.has c || b.has c
  | .meet a b, c => a.has c && b.has c
  | .minus a b, c => a.has c && !b.has c
  | .either a b, c => a.has c != b.has c
  | .negated a, c => !a.has c
  | .caseless a, c => (variants c).any a.has

/-- The set of no characters. -/
def none : CharSet :=
  .meet (.range 'a' 'a') (.range 'b' 'b')

def one (c : Char) : CharSet :=
  .range c c

def unionAll (sets : List CharSet) : CharSet :=
  match sets with
  | [] => none
  | s :: rest => rest.foldl .union s

/-- How many ranges the set is written with. -/
def size : CharSet → Nat
  | .range _ _ => 1
  | .table set => set.bounds.size / 2
  | .union a b | .meet a b | .minus a b | .either a b => a.size + b.size
  | .negated a => a.size + 1
  | .caseless a => 2 * a.size

end CharSet

/-- A condition on a place between two characters. -/
inductive Anchor where
  | textStart
  | textEnd
  | lineStart (lineEnds : CharSet)
  | lineEnd (lineEnds : CharSet)
  | wordBoundary (word : CharSet)
  | noWordBoundary (word : CharSet)
  | wordStart (word : CharSet)
  | wordEnd (word : CharSet)
  | wordStartHalf (word : CharSet)
  | wordEndHalf (word : CharSet)

def Anchor.holds (before after : Option Char) : Anchor → Bool
  | .textStart => before.isNone
  | .textEnd => after.isNone
  | .lineStart lineEnds => before.all lineEnds.has
  | .lineEnd lineEnds => after.all lineEnds.has
  | .wordBoundary word => before.any word.has != after.any word.has
  | .noWordBoundary word => before.any word.has == after.any word.has
  | .wordStart word => !before.any word.has && after.any word.has
  | .wordEnd word => before.any word.has && !after.any word.has
  | .wordStartHalf word => !before.any word.has
  | .wordEndHalf word => !after.any word.has

inductive Pattern where
  | empty
  | char (set : CharSet)
  | anchor (a : Anchor)
  | seq (p q : Pattern)
  | either (p q : Pattern)
  | loop (p : Pattern) (least : Nat) (most : Option Nat)

namespace Pattern

/-- Does a step some number of times. -/
def iterate (step : List Nat → List Nat) : Nat → List Nat → List Nat
  | 0, places => places
  | n + 1, places => if places.isEmpty then [] else iterate step n (step places)

/-- The places that any number of steps up to `n` leads to; stops where no step leads further. -/
def spread (step : List Nat → List Nat) : Nat → List Nat → List Nat → List Nat
  | 0, seen, _ => seen
  | n + 1, seen, front =>
    let new := ((step front).filter (!seen.contains ·)).eraseDups
    if new.isEmpty then seen else spread step n (seen ++ new) new

/-- The places at which a match ends that starts at one of `starts`. -/
def ends (text : Array Char) : Pattern → List Nat → List Nat
  | .empty, starts => starts
  | .char set, starts => (starts.filter fun i => text[i]?.any set.has).map (· + 1)
  | .anchor a, starts =>
    starts.filter fun i => a.holds (if i = 0 then none else text[i - 1]?) text[i]?
  | .seq p q, starts => q.ends text (p.ends text starts)
  | .either p q, starts => (p.ends text starts ++ q.ends text starts).eraseDups
  | .loop p least most, starts =>
    let first := iterate (p.ends text) least starts
    let further := match most with
      | some most => min (most - least) (text.size + 1)
      | none => text.size + 1
    spread (p.ends text) further first first

/-- Whether the pattern matches somewhere in a text. -/
def isMatch (p : Pattern) (text : String) : Bool :=
  let chars := text.toList.toArray
  !(p.ends chars (List.range (chars.size + 1))).isEmpty

def ofText (s : String) : Pattern :=
  s.toList.foldr (fun c p => .seq (.char (.one c)) p) .empty

def eitherOf (patterns : List Pattern) : Pattern :=
  match patterns with
  | [] => .char .none
  | p :: rest => rest.foldl .either p

/-- How large the pattern becomes with all its loops written out. -/
def size : Pattern → Nat
  | .empty => 1
  | .anchor _ => 1
  | .char set => 2 * set.size
  | .seq p q => p.size + q.size
  | .either p q => p.size + q.size + 1
  | .loop p least most => p.size * max 1 (max least (most.getD 0)) + 1

end Pattern

end CleanupCourier
